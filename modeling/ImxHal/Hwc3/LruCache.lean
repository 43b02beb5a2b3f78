import ImxHal.Schemes.Run
import ImxHal.Schemes.Recency
import ImxHal.Hwc3.FramebufferCache

/-! @src display/hwcomposer3/LruCache.h, display/hwcomposer3/DrmClient.cpp (partialCleanCacheBuffer) |
    name:LRU cache | scheme:run | family:refinement

    The cache is a list of nodes, the most recently used first, and a table from keys to nodes:

        m_table     k₁ ─┐      k₂ ─┐     k₃ ─┐
        m_elements  (k₁, v₁) ⇄ (k₂, v₂) ⇄ (k₃, v₃)
        recency     [(k₁, v₁), (k₂, v₂), (k₃, v₃)]

    Each operation edits both; read without the nodes, the list is the bounded recency list that the
    framebuffer cache is proved with. `partialClearCache` counts its first node off with `std::next`,
    which must not step over the end of the list. -/

namespace ImxHal.Hwc3.Lru
open ImxHal.Run ImxHal.Recency

/-- A node of the list; `it` is its address, which the iterators to it hold. -/
structure KeyValue (κ ν : Type) where
  it : ℕ
  key : κ
  value : ν
  deriving DecidableEq

/-- `std::list` and `std::unordered_map` of iterators; `nextNode` is an address not in use. -/
structure Cache (κ ν : Type) where
  m_maxSize : ℕ
  m_elements : List (KeyValue κ ν)
  m_table : AList fun _ : κ => ℕ
  nextNode : ℕ

variable {κ ν : Type} [DecidableEq κ]

def Cache.new (maxSize : ℕ) : Cache κ ν := ⟨maxSize, [], ∅, 0⟩

/-- What an iterator points to; `none` when its node is gone. -/
def Cache.deref (c : Cache κ ν) (it : ℕ) : Option (KeyValue κ ν) := c.m_elements.find? fun e => e.it = it

/-- The nodes without the one that the iterator points to. -/
def unlink (l : List (KeyValue κ ν)) (it : ℕ) : List (KeyValue κ ν) := l.filter fun e => e.it ≠ it

/-- `none` is undefined behaviour, in `get` as in the operations below. -/
def Cache.get (c : Cache κ ν) (key : κ) : Option (Option ν × Cache κ ν) :=
  match c.m_table.lookup key with
  | none => some (none, c)
  | some elementsIt =>
    match c.deref elementsIt with
    | none => none
    | some e => some (some e.value, { c with m_elements := e :: unlink c.m_elements elementsIt })

/-- `emplace_front` and `m_table[key] = m_elements.begin()`. -/
def Cache.emplaceFront (c : Cache κ ν) (key : κ) (value : ν) : Cache κ ν :=
  { c with
    m_elements := ⟨c.nextNode, key, value⟩ :: c.m_elements
    m_table := c.m_table.insert key c.nextNode
    nextNode := c.nextNode + 1 }

def Cache.getSize (c : Cache κ ν) : ℕ := c.m_table.keys.length

def Cache.set (c : Cache κ ν) (key : κ) (value : ν) : Option (Cache κ ν) :=
  match c.m_table.lookup key with
  | none =>
    if c.getSize ≥ c.m_maxSize then
      match c.m_elements.getLast? with
      | none => none
      | some kv => some ({ c with
          m_table := c.m_table.erase kv.key
          m_elements := c.m_elements.dropLast }.emplaceFront key value)
    else some (c.emplaceFront key value)
  | some elementsIt =>
    match c.deref elementsIt with
    | none => none
    | some _ => some ({ c with
        m_elements := unlink c.m_elements elementsIt }.emplaceFront key value)

def Cache.remove (c : Cache κ ν) (key : κ) : Option (Cache κ ν) :=
  match c.m_table.lookup key with
  | none => some c
  | some elementsIt =>
    match c.deref elementsIt with
    | none => none
    | some _ => some { c with
        m_elements := unlink c.m_elements elementsIt
        m_table := c.m_table.erase key }

def Cache.clear (c : Cache κ ν) : Cache κ ν := { c with m_elements := [], m_table := ∅ }

/-- The loop over the nodes cut off: a key found in the table is erased. -/
def eraseFound (t : AList fun _ : κ => ℕ) (e : KeyValue κ ν) : AList fun _ : κ => ℕ :=
  match t.lookup e.key with
  | none => t
  | some _ => t.erase e.key

/-- `std::next` may go as far as the end of the list, and not further. -/
def Cache.partialClearCache (c : Cache κ ν) (reserved_buffer_count : ℕ) : Option (Cache κ ν) :=
  if reserved_buffer_count > c.m_elements.length then none
  else some { c with
    m_elements := c.m_elements.take reserved_buffer_count
    m_table := (c.m_elements.drop reserved_buffer_count).foldl eraseFound c.m_table }

/-! ### The recency list -/

/-- The list without its nodes. -/
def Cache.contents (c : Cache κ ν) : List (κ × ν) := c.m_elements.map fun e => (e.key, e.value)

inductive Call (κ ν : Type) where
  | get (key : κ)
  | set (key : κ) (value : ν)
  | remove (key : κ)
  | clear
  | partialClearCache (reserved_buffer_count : ℕ)

/-- What a call means for the recency list. -/
def after (r : BufferCache.LruCache κ ν) : Call κ ν → BufferCache.LruCache κ ν
  | .get key =>
    match r.get key with
    | none => r
    | some (_, r) => r
  | .set key value => r.set key value
  | .remove key => r.keep (r.others key) List.filter_sublist
  | .clear => r.clear
  | .partialClearCache n => r.keep (r.m_elements.take n) (List.take_sublist _ _)

/-- The cache (`none` once its behaviour is undefined) with what it should be: the recency list, a clock
    with the time of the last use of every key, and the value every key was set to last. `got` is the
    answer of the last `get`. -/
structure Sys (κ ν : Type) where
  cache : Option (Cache κ ν)
  got : Option ν
  spec : BufferCache.LruCache κ ν
  clock : ℕ
  used : κ → ℕ
  stored : κ → Option ν

def empty (maxSize : ℕ) (h : 1 ≤ maxSize) : BufferCache.LruCache κ ν :=
  ⟨maxSize, [], h, List.nodup_nil, Nat.zero_le _⟩

def init (maxSize : ℕ) (h : 1 ≤ maxSize) : Sys κ ν :=
  ⟨some (Cache.new maxSize), none, empty maxSize h, 0, fun _ => 0, fun _ => none⟩

/-- The key that a call uses: a `set` uses its key, a `get` uses one that is there. -/
def usedKey (r : BufferCache.LruCache κ ν) : Call κ ν → Option κ
  | .get key => if key ∈ r.m_elements.map Prod.fst then some key else none
  | .set key _ => some key
  | _ => none

def Cache.call (c : Cache κ ν) : Call κ ν → Option (Option ν × Cache κ ν)
  | .get key => c.get key
  | .set key value => (c.set key value).map fun c => (none, c)
  | .remove key => (c.remove key).map fun c => (none, c)
  | .clear => some (none, c.clear)
  | .partialClearCache n => (c.partialClearCache n).map fun c => (none, c)

def call (s : Sys κ ν) (a : Call κ ν) : Sys κ ν where
  cache := (s.cache.bind fun c => c.call a).map Prod.snd
  got := (s.cache.bind fun c => c.call a).bind Prod.fst
  spec := after s.spec a
  clock := s.clock + 1
  used :=
    match usedKey s.spec a with
    | none => s.used
    | some key => Function.update s.used key s.clock
  stored :=
    match a with
    | .set key value => Function.update s.stored key (some value)
    | _ => s.stored

/-- Table and list are in bijection, with unique keys and unique nodes. -/
structure Bijection (c : Cache κ ν) : Prop where
  keys : (c.m_elements.map KeyValue.key).Nodup
  nodes : (c.m_elements.map KeyValue.it).Nodup
  table : ∀ key it, c.m_table.lookup key = some it ↔ ∃ e ∈ c.m_elements, e.key = key ∧ e.it = it

/-- What a call leaves in a cache that refines its recency list. -/
structure Good (s : Sys κ ν) (a : Call κ ν) (t : Sys κ ν) (c : Cache κ ν) : Prop where
  bijection : Bijection c
  size : c.getSize = c.m_elements.length ∧ c.getSize ≤ c.m_maxSize
  refines : c.contents = t.spec.m_elements
  /-- The elements stand in the order of their last use, and hold the value set last. -/
  order : ByUse t.used t.clock (c.contents.map Prod.fst)
  values : ∀ e ∈ c.contents, t.stored e.1 = some e.2
  get : ∀ key, a = .get key →
    (key ∈ s.spec.m_elements.map Prod.fst → t.got = s.stored key ∧ t.got.isSome) ∧
      (key ∉ s.spec.m_elements.map Prod.fst → t.got = none)
  /-- A new key in a full cache evicts one element, used before all that stay. -/
  evicts : ∀ key value, a = .set key value → key ∉ s.spec.m_elements.map Prod.fst →
    s.spec.m_elements.length = s.spec.m_maxSize →
      ∃ rest e, s.spec.m_elements = rest ++ [e] ∧ c.contents = (key, value) :: rest ∧
        ∀ x ∈ rest, s.used e.1 < s.used x.1
  /-- Otherwise a `set` keeps all other keys. -/
  sets : ∀ key value, a = .set key value →
    (key ∈ s.spec.m_elements.map Prod.fst ∨ s.spec.m_elements.length < s.spec.m_maxSize) →
      c.contents = (key, value) :: s.spec.m_elements.filter fun e => e.1 ≠ key
  clears : ∀ n, a = .partialClearCache n →
    c.contents = s.spec.m_elements.take n ∧ c.contents.length = min n s.spec.m_elements.length

/-- The cache is defined and good after the call. -/
def Refines (s : Sys κ ν) (a : Call κ ν) (t : Sys κ ν) : Prop := ∃ c, t.cache = some c ∧ Good s a t c

/-- `partialClearCache` is asked to keep no more elements than there are. -/
def Within (s : Sys κ ν) : Call κ ν → Prop
  | .partialClearCache n => n ≤ s.spec.m_elements.length
  | _ => True

instance (s : Sys κ ν) : ∀ a, Decidable (Within s a)
  | .get _ | .set _ _ | .remove _ | .clear => inferInstanceAs (Decidable True)
  | .partialClearCache n => inferInstanceAs (Decidable (n ≤ s.spec.m_elements.length))

/-! ### Nodes and table stay linked -/

/-- The nodes are distinct and in use, and the table points from every key to its node. -/
structure Linked (l : List (KeyValue κ ν)) (t : AList fun _ : κ => ℕ) (next : ℕ) : Prop where
  keys : (l.map KeyValue.key).Nodup
  nodes : (l.map KeyValue.it).Nodup
  fresh : ∀ e ∈ l, e.it < next
  size : t.keys.length = l.length
  table : ∀ key it, t.lookup key = some it ↔ ∃ e ∈ l, e.key = key ∧ e.it = it

/-- Splicing a node to another place of the list keeps it linked. -/
theorem Linked.perm {l l' : List (KeyValue κ ν)} {t : AList fun _ : κ => ℕ} {next : ℕ}
    (h : Linked l t next) (hp : l.Perm l') : Linked l' t next where
  keys := (hp.map _).nodup_iff.mp h.keys
  nodes := (hp.map _).nodup_iff.mp h.nodes
  fresh := fun e he => h.fresh e (hp.mem_iff.mpr he)
  size := h.size.trans hp.length_eq
  table := fun key it => (h.table key it).trans
    (exists_congr fun _ => and_congr_left fun _ => hp.mem_iff)

theorem Linked.mem_table {l : List (KeyValue κ ν)} {t : AList fun _ : κ => ℕ} {next : ℕ}
    (h : Linked l t next) (key : κ) : key ∈ t.keys ↔ key ∈ l.map KeyValue.key := by
  rw [← AList.mem_keys, ← AList.lookup_isSome, Option.isSome_iff_exists, List.mem_map]
  constructor
  · rintro ⟨it, hit⟩
    obtain ⟨e, he, hk, -⟩ := (h.table key it).mp hit
    exact ⟨e, he, hk⟩
  · rintro ⟨e, he, hk⟩
    exact ⟨e.it, (h.table key e.it).mpr ⟨e, he, hk, rfl⟩⟩

/-- A node leaves the list and its key the table. -/
theorem Linked.tail {e : KeyValue κ ν} {l : List (KeyValue κ ν)} {t : AList fun _ : κ => ℕ} {next : ℕ}
    (h : Linked (e :: l) t next) : Linked l (t.erase e.key) next where
  keys := (List.nodup_cons.mp h.keys).2
  nodes := (List.nodup_cons.mp h.nodes).2
  fresh := fun e' he' => h.fresh e' (List.mem_cons_of_mem e he')
  size := by
    have hin : e.key ∈ t.keys := (h.mem_table e.key).mpr List.mem_cons_self
    rw [AList.keys_erase, List.length_erase_of_mem hin, h.size]
    rfl
  table := by
    intro key it
    have hother : ∀ e' ∈ l, e'.key ≠ e.key := fun e' he' heq =>
      (List.nodup_cons.mp h.keys).1 (heq ▸ List.mem_map_of_mem he')
    by_cases hk : key = e.key
    · subst hk
      rw [AList.lookup_erase]
      constructor
      · intro hnone
        cases hnone
      · rintro ⟨e', he', heq, -⟩
        exact absurd heq (hother e' he')
    · rw [AList.lookup_erase_ne hk, h.table]
      constructor
      · rintro ⟨e', he', hk', hit⟩
        rcases List.mem_cons.mp he' with rfl | he'
        · exact absurd hk'.symm hk
        · exact ⟨e', he', hk', hit⟩
      · rintro ⟨e', he', hk'⟩
        exact ⟨e', List.mem_cons_of_mem e he', hk'⟩

/-- A new node comes to the front. -/
theorem Linked.cons {l : List (KeyValue κ ν)} {t : AList fun _ : κ => ℕ} {next : ℕ} (h : Linked l t next)
    {key : κ} (value : ν) (hk : key ∉ l.map KeyValue.key) :
    Linked (⟨next, key, value⟩ :: l) (t.insert key next) (next + 1) where
  keys := List.nodup_cons.mpr ⟨hk, h.keys⟩
  nodes := by
    refine List.nodup_cons.mpr ⟨fun hm => ?_, h.nodes⟩
    obtain ⟨e, he, heq⟩ := List.mem_map.mp hm
    exact absurd (h.fresh e he) (by rw [heq]; exact lt_irrefl next)
  fresh := by
    intro e he
    rcases List.mem_cons.mp he with rfl | he
    · exact Nat.lt_succ_self next
    · exact Nat.lt_succ_of_lt (h.fresh e he)
  size := by
    have hout : key ∉ t.keys := fun hin => hk ((h.mem_table key).mp hin)
    rw [AList.keys_insert, List.erase_of_not_mem hout, List.length_cons, h.size, List.length_cons]
  table := by
    intro key' it
    by_cases hkey : key' = key
    · subst hkey
      rw [AList.lookup_insert]
      constructor
      · intro heq
        exact ⟨_, List.mem_cons_self, rfl, Option.some.inj heq⟩
      · rintro ⟨e, he, hk', hit⟩
        rcases List.mem_cons.mp he with rfl | he
        · exact congrArg some hit
        · exact absurd (List.mem_map.mpr ⟨e, he, hk'⟩) hk
    · rw [AList.lookup_insert_ne hkey, h.table]
      constructor
      · rintro ⟨e, he, hk'⟩
        exact ⟨e, List.mem_cons_of_mem _ he, hk'⟩
      · rintro ⟨e, he, hk', hit⟩
        rcases List.mem_cons.mp he with rfl | he
        · exact absurd hk'.symm hkey
        · exact ⟨e, he, hk', hit⟩

/-- Writing the place of a key does not see what it held before. -/
theorem insert_erase (t : AList fun _ : κ => ℕ) (key : κ) (it : ℕ) :
    (t.erase key).insert key it = t.insert key it := by
  refine AList.ext ?_
  rw [AList.entries_insert, AList.entries_insert]
  refine congrArg _ (List.kerase_of_notMem_keys ?_)
  exact fun hin => (AList.mem_erase.mp (AList.mem_keys.mpr hin)).1 rfl

/-- What differs from an element in a key that is unique is the rest of the list. -/
theorem filter_split {α β : Type} [DecidableEq β] {f : α → β} {a b : List α} {e : α}
    (h : ((a ++ e :: b).map f).Nodup) : ((a ++ e :: b).filter fun x => f x ≠ f e) = a ++ b := by
  have hne : ∀ x ∈ a ++ b, f x ≠ f e := by
    have hp : ((e :: (a ++ b)).map f).Nodup := (List.perm_middle.map f).nodup_iff.mp h
    exact fun x hx heq => (List.nodup_cons.mp hp).1 (heq ▸ List.mem_map_of_mem hx)
  rw [List.filter_append, List.filter_cons_of_neg (by simp),
    List.filter_eq_self.mpr fun x hx => by simpa using hne x (List.mem_append_left b hx),
    List.filter_eq_self.mpr fun x hx => by simpa using hne x (List.mem_append_right a hx)]

/-- The iterator of a key leads to its node. -/
theorem Linked.find {c : Cache κ ν} (h : Linked c.m_elements c.m_table c.nextNode) {key : κ} {it : ℕ}
    (hit : c.m_table.lookup key = some it) : ∃ a e b, c.m_elements = a ++ e :: b ∧ e.key = key ∧
      c.deref it = some e ∧ unlink c.m_elements it = a ++ b := by
  obtain ⟨e, he, hk, rfl⟩ := (h.table key it).mp hit
  obtain ⟨a, b, hab⟩ := List.append_of_mem he
  have hsplit : unlink c.m_elements e.it = a ++ b := by
    have hnodes := h.nodes
    rw [hab] at hnodes
    rw [unlink, hab]
    exact filter_split hnodes
  refine ⟨a, e, b, hab, hk, ?_, hsplit⟩
  rcases hd : c.deref e.it with _ | e'
  · have := List.find?_eq_none.mp hd e he
    simp at this
  · have hit' : e'.it = e.it := by simpa using List.find?_some hd
    have := List.inj_on_of_nodup_map h.nodes (List.mem_of_find?_eq_some hd) he hit'
    rw [this]

/-! ### The recency list call by call -/

theorem get_of_mem {r : BufferCache.LruCache κ ν} {key : κ} {value : ν}
    (h : (key, value) ∈ r.m_elements) : ∃ r', r.get key = some (value, r') ∧
      r'.m_elements = (key, value) :: r.others key ∧ r'.m_maxSize = r.m_maxSize := by
  rw [BufferCache.LruCache.get]
  split
  · next hnone =>
    have := List.find?_eq_none.mp hnone _ h
    simp at this
  · next e he =>
    have hk : e.1 = key := by simpa using List.find?_some he
    have heq := List.inj_on_of_nodup_map r.keys_nodup (List.mem_of_find?_eq_some he) h hk
    subst heq
    exact ⟨_, rfl, rfl, rfl⟩

theorem get_of_not_mem {r : BufferCache.LruCache κ ν} {key : κ}
    (h : key ∉ r.m_elements.map Prod.fst) : r.get key = none := by
  rw [BufferCache.LruCache.get]
  split
  · rfl
  · next e he => exact absurd (BufferCache.LruCache.find_key he) h

theorem set_of_mem {r : BufferCache.LruCache κ ν} {key : κ} (value : ν)
    (h : key ∈ r.m_elements.map Prod.fst) : (r.set key value).m_elements = (key, value) :: r.others key ∧
      (r.set key value).m_maxSize = r.m_maxSize := by
  rw [BufferCache.LruCache.set, dif_pos h]
  exact ⟨rfl, rfl⟩

theorem set_of_room {r : BufferCache.LruCache κ ν} {key : κ} (value : ν)
    (h : key ∉ r.m_elements.map Prod.fst) (hs : r.m_elements.length < r.m_maxSize) :
    (r.set key value).m_elements = (key, value) :: r.m_elements ∧
      (r.set key value).m_maxSize = r.m_maxSize := by
  rw [BufferCache.LruCache.set, dif_neg h]
  simp [BufferCache.LruCache.add, BufferCache.LruCache.evict, not_le.mpr hs]

theorem set_of_full {r : BufferCache.LruCache κ ν} {key : κ} (value : ν)
    (h : key ∉ r.m_elements.map Prod.fst) (hs : r.m_maxSize ≤ r.m_elements.length) :
    (r.set key value).m_elements = (key, value) :: r.m_elements.dropLast ∧
      (r.set key value).m_maxSize = r.m_maxSize := by
  rw [BufferCache.LruCache.set, dif_neg h]
  simp [BufferCache.LruCache.add, BufferCache.LruCache.evict, BufferCache.LruCache.keep, hs]

/-- A call brings the key it uses to the front of a part of the list, or leaves a part of it. -/
inductive Moved (r : BufferCache.LruCache κ ν) : Call κ ν → List (κ × ν) → Prop
  | part {a : Call κ ν} {l : List (κ × ν)} (hu : usedKey r a = none) (hs : l.Sublist r.m_elements) :
      Moved r a l
  | got {key : κ} {value : ν} {l : List (κ × ν)} (hm : (key, value) ∈ r.m_elements)
      (hs : l.Sublist r.m_elements) : Moved r (.get key) ((key, value) :: l)
  | set {key : κ} {value : ν} {l : List (κ × ν)} (hs : l.Sublist r.m_elements) :
      Moved r (.set key value) ((key, value) :: l)

theorem after_moved (r : BufferCache.LruCache κ ν) (a : Call κ ν) : Moved r a (after r a).m_elements := by
  cases a with
  | get key =>
    by_cases hk : key ∈ r.m_elements.map Prod.fst
    · obtain ⟨⟨k, value⟩, hm, rfl⟩ := List.mem_map.mp hk
      obtain ⟨r', hget, hel, -⟩ := get_of_mem hm
      simp only [after, hget, hel]
      exact .got hm List.filter_sublist
    · simp only [after, get_of_not_mem hk]
      exact .part (by simp [usedKey, hk]) (List.Sublist.refl _)
  | set key value =>
    simp only [after]
    by_cases hk : key ∈ r.m_elements.map Prod.fst
    · rw [(set_of_mem value hk).1]
      exact .set List.filter_sublist
    · by_cases hs : r.m_elements.length < r.m_maxSize
      · rw [(set_of_room value hk hs).1]
        exact .set (List.Sublist.refl _)
      · rw [(set_of_full value hk (not_lt.mp hs)).1]
        exact .set (List.dropLast_sublist _)
  | remove key => exact .part rfl List.filter_sublist
  | clear => exact .part rfl (List.nil_sublist _)
  | partialClearCache n => exact .part rfl (List.take_sublist _ _)

/-! ### The cache refines the recency list -/

/-- The cache reads as the recency list. -/
structure Reads (c : Cache κ ν) (r : BufferCache.LruCache κ ν) : Prop where
  linked : Linked c.m_elements c.m_table c.nextNode
  contents : c.contents = r.m_elements
  maxSize : c.m_maxSize = r.m_maxSize

omit [DecidableEq κ] in
theorem contents_keys (c : Cache κ ν) : c.contents.map Prod.fst = c.m_elements.map KeyValue.key := by
  simp [Cache.contents]

theorem Reads.mem_keys {c : Cache κ ν} {r : BufferCache.LruCache κ ν} (h : Reads c r) (key : κ) :
    key ∈ r.m_elements.map Prod.fst ↔ ∃ it, c.m_table.lookup key = some it := by
  rw [← h.contents, contents_keys, ← h.linked.mem_table, ← AList.mem_keys, ← AList.lookup_isSome,
    Option.isSome_iff_exists]

/-- A key in the table: its node, and the list with and without it. -/
theorem Reads.split {c : Cache κ ν} {r : BufferCache.LruCache κ ν} (h : Reads c r) {key : κ} {it : ℕ}
    (hit : c.m_table.lookup key = some it) : ∃ a e b, c.m_elements = a ++ e :: b ∧ e.key = key ∧
      c.deref it = some e ∧ unlink c.m_elements it = a ++ b ∧ (key, e.value) ∈ r.m_elements ∧
      (a ++ b).map (fun e => (e.key, e.value)) = r.others key := by
  obtain ⟨a, e, b, hab, hk, hd, hu⟩ := h.linked.find hit
  have hr : r.m_elements
      = a.map (fun e => (e.key, e.value)) ++ (key, e.value) :: b.map fun e => (e.key, e.value) := by
    rw [← h.contents, Cache.contents, hab, ← hk]
    simp
  refine ⟨a, e, b, hab, hk, hd, hu, by simp [hr], ?_⟩
  have hkeys := r.keys_nodup
  rw [hr] at hkeys
  rw [BufferCache.LruCache.others, hr, filter_split hkeys, List.map_append]

theorem get_reads {c : Cache κ ν} {r : BufferCache.LruCache κ ν} (h : Reads c r) (key : κ) :
    ∃ got c', c.get key = some (got, c') ∧ Reads c' (after r (.get key)) ∧
      (key ∉ r.m_elements.map Prod.fst → got = none) ∧
      (key ∈ r.m_elements.map Prod.fst → ∃ value, got = some value ∧ (key, value) ∈ r.m_elements) := by
  rcases hit : c.m_table.lookup key with _ | it
  · have hk : key ∉ r.m_elements.map Prod.fst := by
      rw [h.mem_keys, hit]
      simp
    refine ⟨none, c, by simp [Cache.get, hit], ?_, fun _ => rfl, fun hin => absurd hin hk⟩
    simp only [after, get_of_not_mem hk]
    exact h
  · obtain ⟨a, e, b, hab, rfl, hd, hu, hm, ho⟩ := h.split hit
    obtain ⟨r', hget, hel, hmax⟩ := get_of_mem hm
    refine ⟨some e.value, { c with m_elements := e :: (a ++ b) }, by simp [Cache.get, hit, hd, hu], ?_,
      fun hout => ?_, fun _ => ⟨_, rfl, hm⟩⟩
    · simp only [after, hget]
      refine ⟨h.linked.perm ?_, ?_, h.maxSize.trans hmax.symm⟩
      · rw [hab]
        exact List.perm_middle
      · rw [hel, ← ho]
        rfl
    · exact absurd ((h.mem_keys e.key).mpr ⟨it, hit⟩) hout

/-- The end of `set`, when all other places of the list and the table are linked. -/
theorem emplaceFront_reads {c : Cache κ ν} {r : BufferCache.LruCache κ ν} {t : AList fun _ : κ => ℕ}
    {key : κ} {value : ν} (hl : Linked c.m_elements t c.nextNode)
    (ht : c.m_table.insert key c.nextNode = t.insert key c.nextNode)
    (hr : r.m_elements = (key, value) :: c.contents) (hm : c.m_maxSize = r.m_maxSize) :
    Reads (c.emplaceFront key value) r where
  linked := by
    simp only [Cache.emplaceFront, ht]
    refine hl.cons value ?_
    have hkeys := r.keys_nodup
    rw [hr, List.map_cons, List.nodup_cons, contents_keys] at hkeys
    exact hkeys.1
  contents := hr.symm
  maxSize := hm

theorem Reads.getSize {c : Cache κ ν} {r : BufferCache.LruCache κ ν} (h : Reads c r) :
    c.getSize = r.m_elements.length := by
  rw [Cache.getSize, h.linked.size, ← h.contents, Cache.contents, List.length_map]

theorem set_reads {c : Cache κ ν} {r : BufferCache.LruCache κ ν} (h : Reads c r) (key : κ) (value : ν) :
    ∃ c', c.set key value = some c' ∧ Reads c' (after r (.set key value)) := by
  rcases hit : c.m_table.lookup key with _ | it
  · have hk : key ∉ r.m_elements.map Prod.fst := by
      rw [h.mem_keys, hit]
      simp
    by_cases hfull : c.getSize ≥ c.m_maxSize
    · have hr : r.m_maxSize ≤ r.m_elements.length := by rwa [h.getSize, h.maxSize] at hfull
      obtain ⟨hel, hmax⟩ := set_of_full value hk hr
      obtain ⟨l, kv, hlast⟩ : ∃ l kv, c.m_elements = l ++ [kv] := by
        refine ⟨_, _, (List.dropLast_append_getLast (l := c.m_elements) fun hnil => ?_).symm⟩
        have hlen := h.linked.size
        rw [hnil, List.length_nil] at hlen
        have := r.maxSize_pos
        have := h.maxSize
        unfold Cache.getSize at hfull
        omega
      have hlinked : Linked (kv :: l) c.m_table c.nextNode := by
        refine h.linked.perm ?_
        rw [hlast]
        exact List.perm_append_comm
      have hset : c.set key value = some ({ c with
          m_table := c.m_table.erase kv.key, m_elements := l }.emplaceFront key value) := by
        simp only [Cache.set, hit, if_pos hfull, hlast, List.getLast?_concat, List.dropLast_concat]
      refine ⟨_, hset, emplaceFront_reads hlinked.tail rfl ?_ (h.maxSize.trans hmax.symm)⟩
      simp only [after]
      rw [hel, ← h.contents, Cache.contents, Cache.contents, ← List.map_dropLast, hlast,
        List.dropLast_concat]
    · have hroom : r.m_elements.length < r.m_maxSize := by
        rw [h.getSize, h.maxSize] at hfull
        exact not_le.mp hfull
      obtain ⟨hel, hmax⟩ := set_of_room value hk hroom
      have hset : c.set key value = some (c.emplaceFront key value) := by
        simp only [Cache.set, hit, if_neg hfull]
      refine ⟨_, hset, emplaceFront_reads h.linked rfl ?_ (h.maxSize.trans hmax.symm)⟩
      exact hel.trans (by rw [h.contents])
  · obtain ⟨a, e, b, hab, rfl, hd, hu, hm, ho⟩ := h.split hit
    obtain ⟨hel, hmax⟩ := set_of_mem value ((h.mem_keys e.key).mpr ⟨it, hit⟩)
    have hlinked : Linked (e :: (a ++ b)) c.m_table c.nextNode := by
      refine h.linked.perm ?_
      rw [hab]
      exact List.perm_middle
    have hset : c.set e.key value
        = some ({ c with m_elements := a ++ b }.emplaceFront e.key value) := by
      simp only [Cache.set, hit, hd, hu]
    refine ⟨_, hset, emplaceFront_reads hlinked.tail (insert_erase _ _ _).symm ?_
      (h.maxSize.trans hmax.symm)⟩
    simp only [after]
    rw [hel, ← ho]
    rfl

theorem remove_reads {c : Cache κ ν} {r : BufferCache.LruCache κ ν} (h : Reads c r) (key : κ) :
    ∃ c', c.remove key = some c' ∧ Reads c' (after r (.remove key)) := by
  rcases hit : c.m_table.lookup key with _ | it
  · have hk : key ∉ r.m_elements.map Prod.fst := by
      rw [h.mem_keys, hit]
      simp
    refine ⟨c, by simp [Cache.remove, hit], h.linked, ?_, h.maxSize⟩
    refine h.contents.trans (List.filter_eq_self.mpr fun e he => ?_).symm
    have hne : e.1 ≠ key := fun heq => hk (heq ▸ List.mem_map_of_mem he)
    simpa using hne
  · obtain ⟨a, e, b, hab, rfl, hd, hu, hm, ho⟩ := h.split hit
    have hlinked : Linked (e :: (a ++ b)) c.m_table c.nextNode := by
      refine h.linked.perm ?_
      rw [hab]
      exact List.perm_middle
    have hremove : c.remove e.key
        = some { c with m_elements := a ++ b, m_table := c.m_table.erase e.key } := by
      simp only [Cache.remove, hit, hd, hu]
    exact ⟨_, hremove, hlinked.tail, ho, h.maxSize⟩

theorem linked_nil (next : ℕ) : Linked ([] : List (KeyValue κ ν)) ∅ next where
  keys := List.nodup_nil
  nodes := List.nodup_nil
  fresh := fun e he => by cases he
  size := rfl
  table := fun key it => by simp

theorem clear_reads {c : Cache κ ν} {r : BufferCache.LruCache κ ν} (h : Reads c r) :
    Reads c.clear (after r .clear) :=
  ⟨linked_nil _, rfl, h.maxSize⟩

/-- The loop of `partialClearCache` erases the key of every node it was given. -/
theorem foldl_eraseFound {kept : List (KeyValue κ ν)} {next : ℕ} (clean : List (KeyValue κ ν))
    (t : AList fun _ : κ => ℕ) (h : Linked (clean ++ kept) t next) :
    Linked kept (clean.foldl eraseFound t) next := by
  induction clean generalizing t with
  | nil => exact h
  | cons e clean ih =>
    refine ih _ ?_
    have hit : t.lookup e.key = some e.it := (h.table _ _).mpr ⟨e, List.mem_cons_self, rfl, rfl⟩
    simp only [eraseFound, hit]
    exact h.tail

theorem partialClearCache_reads {c : Cache κ ν} {r : BufferCache.LruCache κ ν} (h : Reads c r) (n : ℕ)
    (hn : n ≤ r.m_elements.length) :
    ∃ c', c.partialClearCache n = some c' ∧ Reads c' (after r (.partialClearCache n)) := by
  have hlen : ¬ n > c.m_elements.length := by
    rw [← h.contents, Cache.contents, List.length_map] at hn
    exact not_lt.mpr hn
  have hpartial : c.partialClearCache n = some { c with
      m_elements := c.m_elements.take n
      m_table := (c.m_elements.drop n).foldl eraseFound c.m_table } := by
    simp only [Cache.partialClearCache, if_neg hlen]
  refine ⟨_, hpartial, ?_, ?_, h.maxSize⟩
  · refine foldl_eraseFound _ _ (h.linked.perm ?_)
    have hsplit := List.Perm.of_eq (List.take_append_drop n c.m_elements)
    exact (List.perm_append_comm.trans hsplit).symm
  · simp only [after, BufferCache.LruCache.keep, ← h.contents, Cache.contents, List.map_take]

/-- Every call on a cache that reads as a recency list, but one that keeps more than there is. -/
theorem call_reads {c : Cache κ ν} {r : BufferCache.LruCache κ ν} (h : Reads c r) (a : Call κ ν)
    (hn : ∀ n, a = .partialClearCache n → n ≤ r.m_elements.length) :
    ∃ got c', c.call a = some (got, c') ∧ Reads c' (after r a) ∧ ∀ key, a = .get key →
      (key ∉ r.m_elements.map Prod.fst → got = none) ∧
        (key ∈ r.m_elements.map Prod.fst → ∃ value, got = some value ∧ (key, value) ∈ r.m_elements) := by
  cases a with
  | get key =>
    obtain ⟨got, c', hget, hc', hout, hin⟩ := get_reads h key
    refine ⟨got, c', hget, hc', fun key' heq => ?_⟩
    cases heq
    exact ⟨hout, hin⟩
  | set key value =>
    obtain ⟨c', hset, hc'⟩ := set_reads h key value
    exact ⟨none, c', by simp [Cache.call, hset], hc', fun key' heq => by cases heq⟩
  | remove key =>
    obtain ⟨c', hremove, hc'⟩ := remove_reads h key
    exact ⟨none, c', by simp [Cache.call, hremove], hc', fun key' heq => by cases heq⟩
  | clear => exact ⟨none, c.clear, rfl, clear_reads h, fun key' heq => by cases heq⟩
  | partialClearCache n =>
    obtain ⟨c', hpartial, hc'⟩ := partialClearCache_reads h n (hn n rfl)
    exact ⟨none, c', by simp [Cache.call, hpartial], hc', fun key' heq => by cases heq⟩

/-! ### Runs -/

/-- The cache reads as its recency list, in the order of use and with the values set last. -/
structure Inv (s : Sys κ ν) : Prop where
  cache : ∃ c, s.cache = some c ∧ Reads c s.spec
  order : ByUse s.used s.clock (s.spec.m_elements.map Prod.fst)
  values : ∀ e ∈ s.spec.m_elements, s.stored e.1 = some e.2

theorem call_order {s : Sys κ ν} (a : Call κ ν) (h : Inv s) :
    ByUse (call s a).used (call s a).clock ((call s a).spec.m_elements.map Prod.fst) := by
  have hkeys := (after s.spec a).keys_nodup
  have hm := after_moved s.spec a
  simp only [call]
  generalize (after s.spec a).m_elements = l at hkeys hm
  rcases hm with ⟨hu, hs⟩ | @⟨key, value, l, hin, hs⟩ | @⟨key, value, l, hs⟩
  · rw [hu]
    exact byUse_tick (byUse_sublist h.order (hs.map _))
  · have hk : key ∈ s.spec.m_elements.map Prod.fst := List.mem_map.mpr ⟨_, hin, rfl⟩
    simp only [usedKey, if_pos hk]
    exact byUse_use h.order (hs.map _) (List.nodup_cons.mp hkeys).1
  · exact byUse_use h.order (hs.map _) (List.nodup_cons.mp hkeys).1

theorem call_values {s : Sys κ ν} (a : Call κ ν) (h : Inv s) :
    ∀ e ∈ (call s a).spec.m_elements, (call s a).stored e.1 = some e.2 := by
  have hkeys := (after s.spec a).keys_nodup
  have hm := after_moved s.spec a
  simp only [call]
  generalize (after s.spec a).m_elements = l at hkeys hm
  rcases hm with ⟨hu, hs⟩ | @⟨key, value, l, hin, hs⟩ | @⟨key, value, l, hs⟩ <;> intro e he
  · cases a with
    | set key value => cases hu
    | _ => exact h.values e (hs.subset he)
  · rcases List.mem_cons.mp he with rfl | he
    · exact h.values _ hin
    · exact h.values e (hs.subset he)
  · rcases List.mem_cons.mp he with rfl | he
    · exact Function.update_self _ _ _
    · have hne : e.1 ≠ key := fun heq =>
        (List.nodup_cons.mp hkeys).1 (List.mem_map.mpr ⟨e, he, heq⟩)
      exact (Function.update_of_ne hne _ _).trans (h.values e (hs.subset he))

/-- A full list without the key: the last element goes, used before all that stay. -/
theorem evicts_last {s : Sys κ ν} (h : Inv s) {key : κ} (value : ν)
    (hk : key ∉ s.spec.m_elements.map Prod.fst) (hfull : s.spec.m_elements.length = s.spec.m_maxSize) :
    ∃ rest e, s.spec.m_elements = rest ++ [e] ∧
      (after s.spec (.set key value)).m_elements = (key, value) :: rest ∧
        ∀ x ∈ rest, s.used e.1 < s.used x.1 := by
  obtain ⟨rest, e, hlast⟩ : ∃ rest e, s.spec.m_elements = rest ++ [e] := by
    refine ⟨_, _, (List.dropLast_append_getLast (l := s.spec.m_elements) fun hnil => ?_).symm⟩
    have := s.spec.maxSize_pos
    rw [hnil, List.length_nil] at hfull
    omega
  refine ⟨rest, e, hlast, ?_, fun x hx => ?_⟩
  · simp only [after]
    rw [(set_of_full value hk (le_of_eq hfull.symm)).1, hlast, List.dropLast_concat]
  · have horder := h.order
    rw [hlast, List.map_append, List.map_singleton] at horder
    exact byUse_last horder x.1 (List.mem_map_of_mem hx)

theorem set_keeps {r : BufferCache.LruCache κ ν} {key : κ} (value : ν)
    (h : key ∈ r.m_elements.map Prod.fst ∨ r.m_elements.length < r.m_maxSize) :
    (after r (.set key value)).m_elements
      = (key, value) :: r.m_elements.filter fun e => e.1 ≠ key := by
  simp only [after]
  by_cases hk : key ∈ r.m_elements.map Prod.fst
  · exact (set_of_mem value hk).1
  · rw [(set_of_room value hk (h.resolve_left hk)).1]
    congr 1
    refine (List.filter_eq_self.mpr fun e he => ?_).symm
    have hne : e.1 ≠ key := fun heq => hk (heq ▸ List.mem_map_of_mem he)
    simpa using hne

/-- A call within the size of the cache keeps the invariant and is good. -/
theorem call_refines (s : Sys κ ν) (a : Call κ ν) (h : Inv s) (hw : Within s a) :
    Inv (call s a) ∧ Refines s a (call s a) := by
  obtain ⟨c, hc, hreads⟩ := h.cache
  have hn : ∀ n, a = .partialClearCache n → n ≤ s.spec.m_elements.length := by
    rintro n rfl
    exact hw
  obtain ⟨got, c', hcall, hreads', hget⟩ := call_reads hreads a hn
  have hcache : (call s a).cache = some c' := by simp [call, hc, hcall]
  have hgot : (call s a).got = got := by simp [call, hc, hcall]
  have hcontents : c'.contents = (after s.spec a).m_elements := hreads'.contents
  have hnext : Inv (call s a) := ⟨⟨c', hcache, hreads'⟩, call_order a h, call_values a h⟩
  refine ⟨hnext, c', hcache, ?_⟩
  have hsize : c'.getSize = c'.m_elements.length := hreads'.linked.size
  refine ⟨⟨hreads'.linked.keys, hreads'.linked.nodes, hreads'.linked.table⟩, ⟨hsize, ?_⟩, hcontents,
    hcontents ▸ hnext.order, hcontents ▸ hnext.values, ?_, ?_, ?_, ?_⟩
  · rw [hreads'.getSize, hreads'.maxSize]
    exact (after s.spec a).size_le
  · intro key heq
    obtain ⟨hout, hin⟩ := hget key heq
    refine ⟨fun hk => ?_, fun hk => hgot.trans (hout hk)⟩
    obtain ⟨value, hval, hm⟩ := hin hk
    rw [hgot, hval]
    exact ⟨(h.values _ hm).symm, rfl⟩
  · rintro key value rfl hk hfull
    rw [hcontents]
    exact evicts_last h value hk hfull
  · rintro key value rfl hroom
    exact hcontents.trans (set_keeps value hroom)
  · rintro n rfl
    refine ⟨hcontents, ?_⟩
    rw [hcontents]
    exact List.length_take

/-- A call beyond the size of the cache is undefined. -/
theorem within_of_refines (s : Sys κ ν) (a : Call κ ν) (h : Inv s) (hr : Refines s a (call s a)) :
    Within s a := by
  cases a with
  | partialClearCache n =>
    obtain ⟨c, hc, hreads⟩ := h.cache
    obtain ⟨c', hc', -⟩ := hr
    by_contra hlt
    have hlen : n > c.m_elements.length := by
      have heq : c.m_elements.length = s.spec.m_elements.length := by
        rw [← hreads.contents, Cache.contents, List.length_map]
      rw [heq]
      exact not_le.mp hlt
    simp [call, hc, Cache.call, Cache.partialClearCache, hlen] at hc'
  | _ => trivial

theorem init_inv (maxSize : ℕ) (h : 1 ≤ maxSize) : Inv (init maxSize h : Sys κ ν) where
  cache := ⟨_, rfl, linked_nil _, rfl, rfl⟩
  order := ⟨List.Pairwise.nil, fun k hk => by cases hk⟩
  values := fun e he => by cases he

/-- CORRECT: over every sequence of calls the cache refines the bounded recency list, exactly if no
    `partialClearCache` is asked to keep more elements than the cache holds. -/
theorem refines_recency_iff (maxSize : ℕ) (h : 1 ≤ maxSize) (as : List (Call κ ν)) :
    Always call Refines (init maxSize h) as ↔ Meets call Within (init maxSize h) as :=
  always_iff_meets (fun s a hs hw => call_refines s a hs hw)
    (fun s a hs hr => within_of_refines s a hs hr) as _ (init_inv maxSize h)

/-- Two places, three keys: the key that was read stays. -/
theorem refines_recency_two :
    Always call Refines (init 2 (by decide) : Sys ℕ ℕ)
      [.set 1 10, .set 2 20, .get 1, .set 3 30, .partialClearCache 1] :=
  (refines_recency_iff 2 (by decide) _).mpr (by decide)

/-- One element, and six that are to be kept. -/
theorem partial_clear_undefined :
    ¬ ∀ (maxSize : ℕ) (h : 1 ≤ maxSize) (as : List (Call ℕ ℕ)),
      Always call Refines (init maxSize h) as := by
  intro h
  obtain ⟨-, ⟨c, hc, -⟩, -⟩ := h 4 (by decide) [.set 1 10, .partialClearCache 6]
  have hnone : (call (call (init 4 (by decide)) (.set 1 10)) (.partialClearCache 6) : Sys ℕ ℕ).cache
      = none := by decide
  rw [hnone] at hc
  cases hc

/-! ### The framebuffers of the overlays -/

/-- The members of `DrmClient` around its cache; times in nanoseconds. -/
structure DrmClient (κ ν : Type) where
  mPlaneBufferCache : Cache κ ν
  mLastOverlayCount : ℕ
  mCheckOverlayTime : ℕ

def DrmClient.partialCleanCacheBuffer (d : DrmClient κ ν) (now overlayNum : ℕ) :
    Option (DrmClient κ ν) :=
  if d.mPlaneBufferCache.getSize > 0 then
    if d.mLastOverlayCount > overlayNum then
      if now > d.mCheckOverlayTime + 500000000 then
        let reservedBufferCount := overlayNum * 6 % 2 ^ 32
        (d.mPlaneBufferCache.partialClearCache reservedBufferCount).map fun c =>
          { d with mLastOverlayCount := overlayNum, mPlaneBufferCache := c }
      else some d
    else some { d with mCheckOverlayTime := now, mLastOverlayCount := overlayNum }
  else some d

/-- The client steps over the end of the list as soon as fewer than six buffers for each overlay that is
    left are cached, half a second after the overlays became fewer. -/
theorem partialClean_undefined_iff {d : DrmClient κ ν} {r : BufferCache.LruCache κ ν}
    (h : Reads d.mPlaneBufferCache r) (now overlayNum : ℕ) :
    d.partialCleanCacheBuffer now overlayNum = none ↔
      0 < r.m_elements.length ∧ overlayNum < d.mLastOverlayCount ∧
        d.mCheckOverlayTime + 500000000 < now ∧ r.m_elements.length < overlayNum * 6 % 2 ^ 32 := by
  have hlen : d.mPlaneBufferCache.m_elements.length = r.m_elements.length := by
    rw [← h.contents, Cache.contents, List.length_map]
  rw [DrmClient.partialCleanCacheBuffer, h.getSize]
  by_cases hsize : 0 < r.m_elements.length <;> by_cases hfewer : overlayNum < d.mLastOverlayCount <;>
    by_cases htime : d.mCheckOverlayTime + 500000000 < now <;>
      simp [hsize, hfewer, htime, Cache.partialClearCache, hlen]

end ImxHal.Hwc3.Lru
