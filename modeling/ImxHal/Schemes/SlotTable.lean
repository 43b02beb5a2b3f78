import Mathlib.Data.List.Basic
import Mathlib.Tactic

/-! @scheme slot table | family:data structures

    A fixed number of entries point into a vector of slots; an entry without a slot holds `-1`, a slot
    without a holder is null. The two are in step when distinct entries point to distinct slots, an entry
    never points to a null slot, and every slot in use has an entry:

        table:   0   -1    2   -1
                 │          ╲
        slots:   a   null    c -/

namespace ImxHal.SlotTable

variable {α : Type}

/-- `std::vector::at`: outside the vector it throws. -/
def vectorAt (slots : List α) (i : ℤ) : Option α := if i < 0 then none else slots[i.toNat]?

/-- The number of entries that point to a slot. -/
def entries (table : List ℤ) : ℕ := table.countP (· ≠ -1)

/-- The number of slots in use. -/
def inUse (slots : List (Option α)) : ℕ := slots.countP (·.isSome)

structure InStep (table : List ℤ) (slots : List (Option α)) : Prop where
  injective : ∀ (i j : ℕ) (k : ℤ), table[i]? = some k → table[j]? = some k → k ≠ -1 → i = j
  held : ∀ k ∈ table, k ≠ -1 → ∃ a, vectorAt slots k = some (some a)
  used : ∀ (k : ℕ) a, slots[k]? = some (some a) → (k : ℤ) ∈ table
  balance : entries table = inUse slots

theorem vectorAt_cast (slots : List α) (k : ℕ) : vectorAt slots (k : ℤ) = slots[k]? := by
  rw [vectorAt, if_neg (by omega), Int.toNat_natCast]

theorem exists_cast_of_vectorAt {slots : List α} {i : ℤ} {a : α} (h : vectorAt slots i = some a) :
    ∃ k : ℕ, i = k ∧ slots[k]? = some a := by
  rw [vectorAt] at h
  split_ifs at h with hneg
  exact ⟨i.toNat, by omega, h⟩

theorem entries_set {table : List ℤ} {i : ℕ} {k : ℤ} (hi : table[i]? = some k) (k' : ℤ) :
    entries (table.set i k') + (if k ≠ -1 then 1 else 0) = entries table + if k' ≠ -1 then 1 else 0 := by
  obtain ⟨hlt, rfl⟩ := List.getElem?_eq_some_iff.mp hi
  have hpos : table[i] ≠ -1 → 0 < entries table := fun hne =>
    List.countP_pos_iff.mpr ⟨_, List.getElem_mem hlt, by simpa using hne⟩
  have hset : entries (table.set i k') = entries table - (if table[i] ≠ -1 then 1 else 0) +
      if k' ≠ -1 then 1 else 0 := by
    have hcount := List.countP_set (p := fun k : ℤ => decide (k ≠ -1)) (a := k') hlt
    simp only [decide_eq_true_eq] at hcount
    exact hcount
  rw [hset]
  rcases eq_or_ne table[i] (-1) with heq | hne
  · rw [if_neg (not_not.mpr heq)]
    omega
  · have := hpos hne
    rw [if_pos hne]
    omega

theorem inUse_set_none {slots : List (Option α)} {k : ℕ} {a : α} (hk : slots[k]? = some (some a)) :
    inUse (slots.set k none) + 1 = inUse slots := by
  obtain ⟨hlt, hget⟩ := List.getElem?_eq_some_iff.mp hk
  have hpos : 0 < inUse slots :=
    List.countP_pos_iff.mpr ⟨_, List.getElem_mem hlt, by rw [hget]; rfl⟩
  have hset := List.countP_set (p := fun s : Option α => s.isSome) (a := none) hlt
  rw [hget] at hset
  simp only [Option.isSome_some, Option.isSome_none, if_true, Bool.false_eq_true, if_false] at hset
  rw [inUse] at hpos
  rw [inUse, inUse, hset]
  omega

theorem inStep_free (n : ℕ) : InStep (List.replicate n (-1)) ([] : List (Option α)) := by
  have hfree : ∀ k ∈ List.replicate n (-1 : ℤ), k = -1 := fun k hk => (List.mem_replicate.mp hk).2
  refine ⟨fun i j k hi _ hne => ?_, fun k hk hne => ?_, fun k a hk => ?_, ?_⟩
  · exact absurd (hfree k (List.mem_of_getElem? hi)) hne
  · exact absurd (hfree k hk) hne
  · simp at hk
  · rw [entries, List.countP_eq_zero.mpr fun k hk => by simp [hfree k hk]]
    rfl

section Operations
variable {table : List ℤ} {slots : List (Option α)} {i : ℕ}

theorem getElem?_set_of_ne {k' : ℤ} {j : ℕ} (h : i ≠ j) : (table.set i k')[j]? = table[j]? :=
  List.getElem?_set_ne h

/-- Another entry than the one that is set stays. -/
theorem mem_set_of_ne {k k' : ℤ} (hk : k ∈ table) (hne : table[i]? ≠ some k) : k ∈ table.set i k' := by
  obtain ⟨j, hj⟩ := List.mem_iff_getElem?.mp hk
  have hji : i ≠ j := by
    rintro rfl
    exact hne hj
  exact List.mem_of_getElem? ((getElem?_set_of_ne hji).trans hj)

/-- A free entry takes a new slot at the end of the vector. -/
theorem InStep.push (h : InStep table slots) (hi : table[i]? = some (-1)) (a : α) :
    InStep (table.set i slots.length) (slots ++ [some a]) := by
  have hlt : i < table.length := (List.getElem?_eq_some_iff.mp hi).1
  have hself : (table.set i (slots.length : ℤ))[i]? = some (slots.length : ℤ) :=
    List.getElem?_set_self hlt
  have hold : ∀ j k, j ≠ i → (table.set i (slots.length : ℤ))[j]? = some k → table[j]? = some k :=
    fun j k hne hj => by rwa [getElem?_set_of_ne hne.symm] at hj
  have hbound : ∀ k ∈ table, k ≠ -1 → k < slots.length := fun k hk hne => by
    obtain ⟨b, hb⟩ := h.held k hk hne
    obtain ⟨m, rfl, hm⟩ := exists_cast_of_vectorAt hb
    have := (List.getElem?_eq_some_iff.mp hm).1
    omega
  have hnew : ∀ j k, j ≠ i → (table.set i (slots.length : ℤ))[j]? = some k → k ≠ -1 →
      k ≠ slots.length := fun j k hne hj hk =>
    (hbound k (List.mem_of_getElem? (hold j k hne hj)) hk).ne
  refine ⟨fun j j' k hj hj' hk => ?_, fun k hk hne => ?_, fun k b hb => ?_, ?_⟩
  · rcases eq_or_ne j i with rfl | hji
    · rcases eq_or_ne j' j with rfl | hj'
      · rfl
      · rw [hself] at hj
        exact absurd (Option.some.inj hj).symm (hnew j' k hj' ‹_› hk)
    · rcases eq_or_ne j' i with rfl | hji'
      · rw [hself] at hj'
        exact absurd (Option.some.inj hj').symm (hnew j k hji hj hk)
      · exact h.injective j j' k (hold j k hji hj) (hold j' k hji' hj') hk
  · rcases List.mem_or_eq_of_mem_set hk with hmem | rfl
    · obtain ⟨b, hb⟩ := h.held k hmem hne
      obtain ⟨m, rfl, hm⟩ := exists_cast_of_vectorAt hb
      refine ⟨b, ?_⟩
      rw [vectorAt_cast, List.getElem?_append_left (List.getElem?_eq_some_iff.mp hm).1, hm]
    · exact ⟨a, by rw [vectorAt_cast, List.getElem?_concat_length]⟩
  · rcases Nat.lt_or_ge k slots.length with hlt' | hge
    · rw [List.getElem?_append_left hlt'] at hb
      refine mem_set_of_ne (h.used k b hb) fun hfree => ?_
      have := Option.some.inj (hi.symm.trans hfree)
      omega
    · have hk : k < (slots ++ [some a]).length := (List.getElem?_eq_some_iff.mp hb).1
      rw [List.length_append, List.length_singleton] at hk
      have hlast : k = slots.length := by omega
      rw [hlast]
      exact List.mem_of_getElem? hself
  · have hset := entries_set hi (slots.length : ℤ)
    rw [if_neg (by simp), if_pos (by omega)] at hset
    rw [inUse, List.countP_append, ← inUse, ← h.balance]
    exact hset

/-- An entry gives its slot up. -/
theorem InStep.drop {k : ℕ} (h : InStep table slots) (hi : table[i]? = some (k : ℤ)) :
    InStep (table.set i (-1)) (slots.set k none) := by
  have hlt : i < table.length := (List.getElem?_eq_some_iff.mp hi).1
  have hself : (table.set i (-1))[i]? = some (-1) := List.getElem?_set_self hlt
  have hold : ∀ j m, (table.set i (-1))[j]? = some m → m ≠ -1 → j ≠ i ∧ table[j]? = some m := by
    intro j m hj hm
    have hne : j ≠ i := by
      rintro rfl
      rw [hself] at hj
      exact hm (Option.some.inj hj).symm
    exact ⟨hne, by rwa [getElem?_set_of_ne hne.symm] at hj⟩
  obtain ⟨a, ha⟩ := h.held k (List.mem_of_getElem? hi) (by omega)
  rw [vectorAt_cast] at ha
  refine ⟨fun j j' m hj hj' hm => ?_, fun m hm hne => ?_, fun m b hb => ?_, ?_⟩
  · exact h.injective j j' m (hold j m hj hm).2 (hold j' m hj' hm).2 hm
  · obtain ⟨j, hj⟩ := List.mem_iff_getElem?.mp hm
    obtain ⟨hji, hget⟩ := hold j m hj hne
    obtain ⟨b, hb⟩ := h.held m (List.mem_of_getElem? hget) hne
    obtain ⟨m', rfl, hm'⟩ := exists_cast_of_vectorAt hb
    have hkm : k ≠ m' := by
      rintro rfl
      exact hji (h.injective j i k hget hi (by omega))
    exact ⟨b, by rw [vectorAt_cast, List.getElem?_set_ne hkm, hm']⟩
  · have hkm : k ≠ m := by
      rintro rfl
      rw [List.getElem?_set_self (List.getElem?_eq_some_iff.mp ha).1] at hb
      simp at hb
    rw [List.getElem?_set_ne hkm] at hb
    refine mem_set_of_ne (h.used m b hb) fun hsame => ?_
    have := Option.some.inj (hi.symm.trans hsame)
    omega
  · have hset := entries_set hi (-1)
    rw [if_pos (by omega), if_neg (by simp)] at hset
    have := inUse_set_none ha
    have := h.balance
    omega

/-- Without a null slot there are as many slots as entries that point to one. -/
theorem InStep.length_eq (h : InStep table slots) (hfull : none ∉ slots) :
    slots.length = entries table := by
  rw [h.balance, inUse]
  refine (List.countP_eq_length.mpr fun s hs => ?_).symm
  rcases s with _ | a
  · exact absurd hs hfull
  · rfl

/-- Without a null slot, the first number no entry points to is the end of the vector. -/
theorem InStep.find_unused (h : InStep table slots) (hfull : none ∉ slots) :
    (List.range (entries table + 1)).find? (fun k : ℕ => (k : ℤ) ∉ table) = some slots.length := by
  rw [List.find?_range_eq_some]
  refine ⟨?_, ?_, fun k hk => ?_⟩
  · rw [decide_eq_true_eq]
    intro hmem
    obtain ⟨a, ha⟩ := h.held _ hmem (by omega)
    rw [vectorAt_cast] at ha
    exact absurd (List.getElem?_eq_some_iff.mp ha).1 (lt_irrefl _)
  · rw [← h.length_eq hfull]
    exact List.self_mem_range_succ
  · have hget : slots[k]? = some slots[k] := List.getElem?_eq_getElem hk
    rcases hslot : slots[k] with _ | a
    · exact absurd (hslot ▸ List.getElem_mem hk) hfull
    · rw [hslot] at hget
      simpa using h.used k a hget

end Operations

/-! ### The entries with a slot -/

/-- The entries that point to a slot. -/
def taken (table : List ℤ) : List ℕ := (List.range table.length).filter fun i => table[i]? ≠ some (-1)

theorem nodup_taken (table : List ℤ) : (taken table).Nodup := List.nodup_range.filter _

theorem mem_taken {table : List ℤ} {i : ℕ} : i ∈ taken table ↔ ∃ k, table[i]? = some k ∧ k ≠ -1 := by
  rw [taken, List.mem_filter, List.mem_range, decide_eq_true_eq]
  constructor
  · rintro ⟨hlt, hne⟩
    refine ⟨table[i], List.getElem?_eq_getElem hlt, fun heq => hne ?_⟩
    rw [List.getElem?_eq_getElem hlt, heq]
  · rintro ⟨k, hk, hne⟩
    refine ⟨(List.getElem?_eq_some_iff.mp hk).1, fun heq => hne ?_⟩
    exact Option.some.inj (hk.symm.trans heq)

theorem length_taken (table : List ℤ) : (taken table).length = entries table := by
  have hlist : (List.range table.length).map (fun i => table.getD i 0) = table := by
    refine List.ext_getElem (by simp) fun i h _ => ?_
    have hlt : i < table.length := by simpa using h
    simp [hlt]
  rw [taken, ← List.countP_eq_length_filter, entries]
  conv_rhs => rw [← hlist]
  rw [List.countP_map]
  refine List.countP_congr fun i hi => ?_
  have hlt : i < table.length := List.mem_range.mp hi
  simp [hlt]

/-- An entry that gets a slot joins them. -/
theorem taken_set {table : List ℤ} {i : ℕ} {k : ℤ} (hi : table[i]? = some (-1)) (hk : k ≠ -1) :
    (taken (table.set i k)).Perm (i :: taken table) := by
  have hlt : i < table.length := (List.getElem?_eq_some_iff.mp hi).1
  have hfree : i ∉ taken table := by
    rw [mem_taken]
    rintro ⟨k', hk', hne⟩
    exact hne (Option.some.inj (hk'.symm.trans hi))
  refine (List.perm_ext_iff_of_nodup (nodup_taken _) (List.nodup_cons.mpr ⟨hfree, nodup_taken _⟩)).mpr
    fun j => ?_
  rw [List.mem_cons, mem_taken, mem_taken]
  rcases eq_or_ne j i with rfl | hne
  · rw [List.getElem?_set_self hlt]
    exact iff_of_true ⟨k, rfl, hk⟩ (Or.inl rfl)
  · rw [getElem?_set_of_ne hne.symm]
    exact (or_iff_right hne).symm

/-- An entry that gives its slot up leaves them. -/
theorem taken_set_free {table : List ℤ} {i : ℕ} {k : ℤ} (hi : table[i]? = some k) (hk : k ≠ -1) :
    (taken table).Perm (i :: taken (table.set i (-1))) := by
  obtain ⟨hlt, hget⟩ := List.getElem?_eq_some_iff.mp hi
  have hback : (table.set i (-1)).set i k = table := by
    rw [List.set_set, ← hget, List.set_getElem_self]
  have hself : (table.set i (-1))[i]? = some (-1) := List.getElem?_set_self hlt
  have hperm := taken_set hself hk
  rwa [hback] at hperm

/-- With fewer entries pointing to a slot than there are entries, the search for a free one ends at a free
    one. -/
theorem findIdx_free {table : List ℤ} (h : entries table < table.length) :
    table[table.findIdx (· = -1)]? = some (-1) := by
  have hfree : ∃ k ∈ table, decide (k = -1) = true := by
    by_contra hnone
    push Not at hnone
    refine absurd (List.countP_eq_length.mpr fun k hk => ?_) h.ne
    have := hnone k hk
    simpa using this
  have hlt := List.findIdx_lt_length_of_exists hfree
  rw [List.getElem?_eq_getElem hlt]
  have := List.findIdx_getElem (w := hlt)
  simp only [decide_eq_true_eq] at this
  rw [this]

end ImxHal.SlotTable
