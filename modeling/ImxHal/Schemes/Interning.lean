import Mathlib.Data.List.Basic
import Mathlib.Tactic

/-! @scheme interning | family:hash tables

    Every element of a list gets the value of an earlier one that the predicate of a hash table takes
    for it, or else a new value and a node of its own. The table looks at the nodes of one bucket:

        key ──hash──▶ bucket   n₃  n₁  n₇        same n₃ key, same n₁ key, …   the first hit decides
                                                 no hit: a new node, value `num size`

    A predicate that never holds between related keys can only give a wrong value: the values tell the
    related keys apart from the others exactly when no key hits a node and the new values do so. -/

namespace ImxHal.Interning

variable {κ γ η : Type} {hash : κ → η}

/-- The buckets of a table: `bucket nodes k` are the nodes that a lookup of `k` may meet, in their order,
    when the table holds `nodes`. Nodes with the hash of `k` are among them. -/
structure Buckets (κ γ : Type) {η : Type} (hash : κ → η) where
  bucket : List (κ × γ) → κ → List (κ × γ)
  subset : ∀ nodes k, bucket nodes k ⊆ nodes
  same_hash : ∀ nodes k, ∀ e ∈ nodes, hash e.1 = hash k → e ∈ bucket nodes k

/-- The table that compares the hashes of all its nodes. -/
def Buckets.byHash (κ γ : Type) [DecidableEq η] (hash : κ → η) : Buckets κ γ hash where
  bucket nodes k := nodes.filter fun e => hash e.1 = hash k
  subset _ _ := List.filter_subset_self _
  same_hash _ _ _ he hk := List.mem_filter.mpr ⟨he, by simpa using hk⟩

/-- The lookup with the predicate `same`, which takes the key of the node first. -/
def find (t : Buckets κ γ hash) (same : κ → κ → Bool) (nodes : List (κ × γ)) (k : κ) :
    Option (κ × γ) :=
  (t.bucket nodes k).find? fun e => same e.1 k

/-- The keys with their values; the table starts with `nodes`. -/
def intern (t : Buckets κ γ hash) (same : κ → κ → Bool) (num : ℕ → γ) :
    List (κ × γ) → List κ → List (κ × γ)
  | _, [] => []
  | nodes, k :: keys =>
    match find t same nodes k with
    | some e => (k, e.2) :: intern t same num nodes keys
    | none => (k, num nodes.length) :: intern t same num (nodes ++ [(k, num nodes.length)]) keys

/-- The keys with new values from `n` on. -/
def numbered (num : ℕ → γ) : ℕ → List κ → List (κ × γ)
  | _, [] => []
  | n, k :: keys => (k, num n) :: numbered num (n + 1) keys

/-- No key hits a node: each one gets a node of its own. -/
def Unmatched (t : Buckets κ γ hash) (same : κ → κ → Bool) (num : ℕ → γ) :
    List (κ × γ) → List κ → Prop
  | _, [] => True
  | nodes, k :: keys =>
    find t same nodes k = none ∧ Unmatched t same num (nodes ++ [(k, num nodes.length)]) keys

/-- Equal values mean related keys, and conversely. -/
def Tells (R : κ → κ → Prop) (l : List (κ × γ)) : Prop :=
  l.Pairwise fun a b => a.2 = b.2 ↔ R a.1 b.1

variable {t : Buckets κ γ hash} {same : κ → κ → Bool} {num : ℕ → γ} {R : κ → κ → Prop}

theorem find_eq_none_iff {nodes : List (κ × γ)} {k : κ} :
    find t same nodes k = none ↔ ∀ e ∈ t.bucket nodes k, same e.1 k = false := by
  simp only [find, List.find?_eq_none, Bool.not_eq_true]

theorem of_find {nodes : List (κ × γ)} {k : κ} {e : κ × γ} (h : find t same nodes k = some e) :
    e ∈ nodes ∧ same e.1 k = true :=
  ⟨t.subset _ _ (List.mem_of_find?_eq_some h), by simpa using List.find?_some h⟩

/-- A hit on the node of an unrelated key gives its value away. -/
theorem not_tells_of_find (hsame : ∀ a b, same a b = true → ¬ R a b) {nodes : List (κ × γ)} {k : κ}
    {e : κ × γ} (h : find t same nodes k = some e) (rest : List (κ × γ)) :
    ¬ Tells R (nodes ++ (k, e.2) :: rest) := by
  intro hp
  obtain ⟨he, hk⟩ := of_find h
  have hpair := (List.pairwise_append.mp hp).2.2 e he (k, e.2) List.mem_cons_self
  exact hsame _ _ hk (hpair.mp rfl)

/-- While no key has hit a node, the table holds the keys so far with their values. -/
theorem tells_intern_iff (hsame : ∀ a b, same a b = true → ¬ R a b) (keys : List κ)
    (nodes : List (κ × γ)) :
    Tells R (nodes ++ intern t same num nodes keys) ↔
      Unmatched t same num nodes keys ∧ Tells R (nodes ++ numbered num nodes.length keys) := by
  induction keys generalizing nodes with
  | nil => simp [intern, Unmatched, numbered]
  | cons k keys ih =>
    cases hf : find t same nodes k with
    | some e =>
      rw [intern, Unmatched, hf]
      exact ⟨fun h => absurd h (not_tells_of_find hsame hf _), fun h => nomatch h.1.1⟩
    | none =>
      have hstep := ih (nodes ++ [(k, num nodes.length)])
      rw [List.append_assoc, List.singleton_append, List.append_assoc, List.singleton_append,
        List.length_append, List.length_singleton] at hstep
      rw [intern, Unmatched, numbered, hf]
      simpa using hstep

theorem getElem?_numbered (n : ℕ) (keys : List κ) (i : ℕ) :
    (numbered num n keys)[i]? = keys[i]?.map fun k => (k, num (n + i)) := by
  induction keys generalizing n i with
  | nil => rfl
  | cons k keys ih =>
    cases i with
    | zero => rfl
    | succ i =>
      have hn : n + 1 + i = n + (i + 1) := by omega
      rw [numbered, List.getElem?_cons_succ, List.getElem?_cons_succ, ih, hn]

/-- The nodes a key meets are those of the keys before it. -/
theorem unmatched_iff (keys : List κ) (nodes : List (κ × γ)) :
    Unmatched t same num nodes keys ↔ ∀ j k, keys[j]? = some k →
      find t same (nodes ++ numbered num nodes.length (keys.take j)) k = none := by
  induction keys generalizing nodes with
  | nil => simp [Unmatched]
  | cons k keys ih =>
    have hstep := ih (nodes ++ [(k, num nodes.length)])
    rw [List.length_append, List.length_singleton] at hstep
    rw [Unmatched, hstep]
    constructor
    · rintro ⟨hk, hkeys⟩ j b hb
      cases j with
      | zero =>
        obtain rfl : k = b := by simpa using hb
        simpa [numbered] using hk
      | succ j => simpa [numbered] using hkeys j b (by simpa using hb)
    · intro h
      refine ⟨by simpa [numbered] using h 0 k rfl, fun j b hb => ?_⟩
      simpa [numbered] using h (j + 1) b (by simpa using hb)

/-- New values tell the keys apart when they agree exactly on the related ones. -/
theorem tells_numbered_iff (keys : List κ) :
    Tells R (numbered num 0 keys) ↔ ∀ i j a b, i < j → keys[i]? = some a → keys[j]? = some b →
      (num i = num j ↔ R a b) := by
  rw [Tells, List.pairwise_iff_getElem]
  have hget : ∀ i, (numbered num 0 keys)[i]? = keys[i]?.map fun k => (k, num i) := fun i => by
    rw [getElem?_numbered, Nat.zero_add]
  constructor
  · intro h i j a b hij ha hb
    obtain ⟨hi, hi'⟩ := List.getElem?_eq_some_iff.mp ((hget i).trans (by rw [ha]; rfl))
    obtain ⟨hj, hj'⟩ := List.getElem?_eq_some_iff.mp ((hget j).trans (by rw [hb]; rfl))
    simpa only [hi', hj'] using h i j hi hj hij
  · intro h i j hi hj hij
    obtain ⟨a, ha, hi'⟩ := Option.map_eq_some_iff.mp ((hget i).symm.trans (List.getElem?_eq_getElem hi))
    obtain ⟨b, hb, hj'⟩ := Option.map_eq_some_iff.mp ((hget j).symm.trans (List.getElem?_eq_getElem hj))
    simpa only [← hi', ← hj'] using h i j a b hij ha hb

/-- The values are right for all keys exactly when they are for every two of them: the later one does
    not hit the node of the earlier one, and new values tell the two apart. -/
theorem tells_iff (hsame : ∀ a b, same a b = true → ¬ R a b) (keys : List κ) :
    Tells R (intern t same num [] keys) ↔
      ∀ i j a b, i < j → keys[i]? = some a → keys[j]? = some b →
        (num i = num j ↔ R a b) ∧
          ((a, num i) ∈ t.bucket (numbered num 0 (keys.take j)) b → same a b = false) := by
  have h : Tells R ([] ++ intern t same num [] keys) ↔ _ := tells_intern_iff hsame keys []
  rw [List.nil_append, List.nil_append, List.length_nil, unmatched_iff, tells_numbered_iff] at h
  rw [h]
  constructor
  · rintro ⟨hmiss, hnum⟩ i j a b hij ha hb
    refine ⟨hnum i j a b hij ha hb, fun hmem => ?_⟩
    exact find_eq_none_iff.mp (hmiss j b hb) _ hmem
  · intro hall
    refine ⟨fun j b hb => find_eq_none_iff.mpr fun e he => ?_,
      fun i j a b hij ha hb => (hall i j a b hij ha hb).1⟩
    obtain ⟨i, hi⟩ := List.mem_iff_getElem?.mp (t.subset _ _ he)
    rw [List.nil_append, List.length_nil, getElem?_numbered, Nat.zero_add] at hi
    obtain ⟨a, ha, rfl⟩ := Option.map_eq_some_iff.mp hi
    rw [List.getElem?_take] at ha
    split at ha
    next hij => exact (hall i j a b hij ha hb).2 he
    · cases ha

end ImxHal.Interning
