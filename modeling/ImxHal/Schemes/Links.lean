import Mathlib.Data.List.Count
import Mathlib.Tactic

/-! @scheme links | family:two-sided index

    One side of a many-to-many relation, kept as a map from a key to the list of its references. A
    link appends a reference, an unlink erases the first one that matches and drops the key with its
    last reference. The rules count references:

        refs k = [p, q, p] ──link k p──▶ [p, q, p, p] ──unlink k p──▶ [q, p, p]

    so that a loop over a list of keys adds, or takes away, as many references as the list has
    occurrences of the key. -/

namespace ImxHal.Links

variable {κ ν : Type} [DecidableEq κ]

abbrev Index (κ ν : Type) := κ → Option (List ν)

/-- The references of a key; a key that is not there has none. -/
def refs (ix : Index κ ν) (k : κ) : List ν := (ix k).getD []

/-- No key is mapped to an empty list. -/
def Tight (ix : Index κ ν) : Prop := ∀ k, ix k ≠ some []

def link (ix : Index κ ν) (k : κ) (p : ν) : Index κ ν :=
  Function.update ix k (some (refs ix k ++ [p]))

/-- What is found after an update is the new value at its key, or what was there at another. -/
theorem update_some_cases {β : Type} {f : κ → Option β} {k k' : κ} {v : Option β} {b : β}
    (h : Function.update f k v k' = some b) : k' = k ∧ v = some b ∨ k' ≠ k ∧ f k' = some b := by
  by_cases hk : k' = k
  · subst hk
    rw [Function.update_self] at h
    exact .inl ⟨rfl, h⟩
  · rw [Function.update_of_ne hk] at h
    exact .inr ⟨hk, h⟩

theorem tight_link {ix : Index κ ν} (h : Tight ix) (k : κ) (p : ν) : Tight (link ix k p) := by
  intro k'
  by_cases hk : k' = k
  · subst hk
    simp [link]
  · simpa [link, hk] using h k'

theorem tight_link_all {ix : Index κ ν} (h : Tight ix) (ks : List κ) (p : ν) :
    Tight (ks.foldl (fun ix k => link ix k p) ix) := by
  induction ks generalizing ix with
  | nil => exact h
  | cons k ks ih => exact ih (tight_link h k p)

/-- A loop of links appends one reference for each occurrence of the key. -/
theorem refs_link_all (ks : List κ) (ix : Index κ ν) (k : κ) (p : ν) :
    refs (ks.foldl (fun ix k => link ix k p) ix) k = refs ix k ++ List.replicate (ks.count k) p := by
  induction ks generalizing ix with
  | nil => simp
  | cons k' ks ih =>
    rw [List.foldl_cons, ih]
    by_cases hk : k' = k
    · subst hk
      simp [refs, link, List.replicate_succ]
    · simp [refs, link, hk, Ne.symm hk]

variable [DecidableEq ν]

def unlink (ix : Index κ ν) (k : κ) (p : ν) : Index κ ν :=
  match ix k with
  | none => ix
  | some ps =>
    if p ∈ ps then Function.update ix k (if ps.erase p = [] then none else some (ps.erase p)) else ix

theorem refs_unlink (ix : Index κ ν) (k k' : κ) (p : ν) :
    refs (unlink ix k p) k' = if k' = k then (refs ix k').erase p else refs ix k' := by
  unfold unlink
  split
  · rename_i hnone
    split
    · rename_i hk
      simp [refs, hk, hnone]
    · rfl
  · rename_i ps hsome
    split
    · by_cases hk : k' = k
      · subst hk
        rw [if_pos rfl]
        by_cases hnil : ps.erase p = []
        · simp [refs, hsome, hnil]
        · simp [refs, hsome, hnil]
      · simp [refs, hk]
    · rename_i hmem
      split
      · rename_i hk
        rw [hk, refs, hsome, Option.getD_some, List.erase_of_not_mem hmem]
      · rfl

theorem count_unlink (ix : Index κ ν) (k k' : κ) (p q : ν) :
    (refs (unlink ix k p) k').count q = (refs ix k').count q - if k' = k ∧ q = p then 1 else 0 := by
  rw [refs_unlink]
  by_cases hk : k' = k
  · rw [if_pos hk, List.count_erase]
    by_cases hq : q = p
    · simp [hk, hq]
    · simp [hq, Ne.symm hq]
  · simp [hk]

theorem tight_unlink {ix : Index κ ν} (h : Tight ix) (k : κ) (p : ν) : Tight (unlink ix k p) := by
  intro k'
  cases hk : ix k with
  | none => simpa [unlink, hk] using h k'
  | some ps =>
    by_cases hmem : p ∈ ps
    · simp only [unlink, hk, hmem, if_true]
      by_cases hkk : k' = k
      · subst hkk
        rw [Function.update_self]
        by_cases hnil : ps.erase p = []
        · simp [hnil]
        · simp [hnil]
      · rw [Function.update_of_ne hkk]
        exact h k'
    · simpa [unlink, hk, hmem] using h k'

/-! ### Loops over a list of keys -/

theorem filter_ne_erase (ps : List ν) (p : ν) :
    (ps.erase p).filter (· ≠ p) = ps.filter (· ≠ p) := by
  induction ps with
  | nil => rfl
  | cons q ps ih =>
    by_cases hq : q = p
    · subst hq
      simp
    · rw [List.erase_cons_tail (by simpa using hq)]
      simp only [List.filter_cons, ih]

theorem count_link_all (ks : List κ) (ix : Index κ ν) (k : κ) (p q : ν) :
    (refs (ks.foldl (fun ix k => link ix k p) ix) k).count q =
      (refs ix k).count q + if q = p then ks.count k else 0 := by
  rw [refs_link_all, List.count_append, List.count_replicate]
  simp only [beq_iff_eq, eq_comm (a := p)]

theorem count_unlink_all (ks : List κ) (ix : Index κ ν) (k : κ) (p q : ν) :
    (refs (ks.foldl (fun ix k => unlink ix k p) ix) k).count q =
      (refs ix k).count q - if q = p then ks.count k else 0 := by
  induction ks generalizing ix with
  | nil => simp
  | cons k' ks ih =>
    rw [List.foldl_cons, ih, count_unlink, List.count_cons]
    by_cases hq : q = p
    · by_cases hk : k = k'
      · simp [hq, hk]; omega
      · simp [hk, Ne.symm hk]
    · simp [hq]

/-- A loop of unlinks that has the key as often as the reference is there leaves the others. -/
theorem refs_unlink_all (ks : List κ) (ix : Index κ ν) (k : κ) (p : ν)
    (h : (refs ix k).count p ≤ ks.count k) :
    refs (ks.foldl (fun ix k => unlink ix k p) ix) k = (refs ix k).filter (· ≠ p) := by
  induction ks generalizing ix with
  | nil =>
    rw [List.count_nil, Nat.le_zero, List.count_eq_zero] at h
    rw [List.foldl_nil, List.filter_eq_self.mpr]
    intro q hq
    rw [decide_eq_true_eq]
    rintro rfl
    exact h hq
  | cons k' ks ih =>
    rw [List.foldl_cons]
    by_cases hk : k' = k
    · subst hk
      have hrefs : refs (unlink ix k' p) k' = (refs ix k').erase p := by rw [refs_unlink, if_pos rfl]
      rw [ih, hrefs, filter_ne_erase]
      rw [List.count_cons_self] at h
      rw [hrefs, List.count_erase_self]
      omega
    · have hrefs : refs (unlink ix k' p) k = refs ix k := by rw [refs_unlink, if_neg (Ne.symm hk)]
      rw [List.count_cons_of_ne hk] at h
      rw [ih _ (by rw [hrefs]; exact h), hrefs]

/-- Erasing one position takes one occurrence of its key. -/
theorem count_eraseIdx {ks : List κ} {pos : ℕ} {k : κ} (h : ks[pos]? = some k) (k' : κ) :
    (ks.eraseIdx pos).count k' = ks.count k' - [k].count k' := by
  obtain ⟨hlt, rfl⟩ := List.getElem?_eq_some_iff.mp h
  have hperm := (List.getElem_cons_eraseIdx_perm hlt).count_eq k'
  rw [List.count_cons] at hperm
  rw [← hperm, List.count_singleton]
  omega

theorem tight_unlink_all {ix : Index κ ν} (h : Tight ix) (ks : List κ) (p : ν) :
    Tight (ks.foldl (fun ix k => unlink ix k p) ix) := by
  induction ks generalizing ix with
  | nil => exact h
  | cons k ks ih => exact ih (tight_unlink h k p)

end ImxHal.Links
