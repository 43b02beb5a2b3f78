import Mathlib.Data.List.Basic
import Mathlib.Tactic

/-! @scheme fold | family:sorted containers

    A vector kept sorted by a comparator takes one element at a time. An element comparing equal to a
    stored one takes its place; any other is put between the elements the comparator says are before
    it and those it says are behind it, where it says so of two halves of the vector:

        l: cmp y x < 0   │ x │   r: 0 < cmp y x          `Splits`

    Whether nothing is lost and the result is in the order of a key depends on the comparator saying
    what the keys say, of every earlier element and every later one. -/

namespace ImxHal.SortedAdd

variable {α : Type} {cmp : α → α → ℤ} {key : α → ℤ} {add : List α → α → List α}

/-- The comparator puts `l` before `x` and `r` behind it. -/
def Splits (cmp : α → α → ℤ) (x : α) (l r : List α) : Prop :=
  (∀ y ∈ l, cmp y x < 0) ∧ ∀ y ∈ r, 0 < cmp y x

/-- What an `add` of such a vector promises. Where the comparator does not split the vector, only
    that the element is inserted somewhere. -/
structure AddsSorted (cmp : α → α → ℤ) (add : List α → α → List α) : Prop where
  replaces : ∀ v x, (∃ y ∈ v, cmp y x = 0) →
    ∃ l y r, v = l ++ y :: r ∧ cmp y x = 0 ∧ add v x = l ++ x :: r
  inserts : ∀ v x, (∀ y ∈ v, cmp y x ≠ 0) → ∃ l r, v = l ++ r ∧ add v x = l ++ x :: r ∧
    ((∃ l' r', v = l' ++ r' ∧ Splits cmp x l' r') → Splits cmp x l r)

/-- The comparator reads an earlier `y` and a later `x` as their keys do. -/
def Agrees (cmp : α → α → ℤ) (key : α → ℤ) (y x : α) : Prop :=
  (cmp y x < 0 ∧ key y < key x) ∨ (0 < cmp y x ∧ key x < key y)

/-- Sorted by the key. -/
def Sorted (key : α → ℤ) (v : List α) : Prop := v.Pairwise fun x y => key x ≤ key y

/-! ### A comparator that agrees with the key -/

/-- A sorted vector without the key of `x` falls in two halves around it. -/
theorem exists_halves {v : List α} (hs : Sorted key v) (x : α) (hne : ∀ y ∈ v, key y ≠ key x) :
    ∃ l r, v = l ++ r ∧ (∀ y ∈ l, key y < key x) ∧ ∀ y ∈ r, key x < key y := by
  induction v with
  | nil => exact ⟨[], [], rfl, by simp, by simp⟩
  | cons a v ih =>
    obtain ⟨ha, hv⟩ := List.pairwise_cons.mp hs
    rcases lt_or_gt_of_ne (hne a List.mem_cons_self) with hlt | hgt
    · obtain ⟨l, r, rfl, hl, hr⟩ := ih hv fun y hy => hne y (List.mem_cons_of_mem a hy)
      exact ⟨a :: l, r, rfl, List.forall_mem_cons.mpr ⟨hlt, hl⟩, hr⟩
    · exact ⟨[], a :: v, rfl, by simp,
        List.forall_mem_cons.mpr ⟨hgt, fun y hy => lt_of_lt_of_le hgt (ha y hy)⟩⟩

/-- One add: nothing is lost, and the order of the keys stays. -/
theorem add_sorted (ha : AddsSorted cmp add) {v : List α} {x : α} (hs : Sorted key v)
    (hag : ∀ y ∈ v, Agrees cmp key y x) : (add v x).Perm (v ++ [x]) ∧ Sorted key (add v x) := by
  have hcmp : ∀ y ∈ v, cmp y x ≠ 0 := by
    intro y hy h0
    rcases hag y hy with ⟨hlt, -⟩ | ⟨hgt, -⟩ <;> omega
  have hkey : ∀ y ∈ v, key y ≠ key x := by
    intro y hy h0
    rcases hag y hy with ⟨-, hlt⟩ | ⟨-, hgt⟩ <;> omega
  obtain ⟨l, r, hv, hadd, hplace⟩ := ha.inserts v x hcmp
  have hsplit : Splits cmp x l r := by
    obtain ⟨l', r', hv', hl', hr'⟩ := exists_halves hs x hkey
    refine hplace ⟨l', r', hv', fun y hy => ?_, fun y hy => ?_⟩
    · rcases hag y (hv' ▸ List.mem_append_left r' hy) with ⟨hlt, -⟩ | ⟨-, hgt⟩
      · exact hlt
      · exact absurd (hl' y hy) (by omega)
    · rcases hag y (hv' ▸ List.mem_append_right l' hy) with ⟨-, hlt⟩ | ⟨hgt, -⟩
      · exact absurd (hr' y hy) (by omega)
      · exact hgt
  subst hv
  rw [hadd]
  refine ⟨?_, ?_⟩
  · rw [List.append_assoc]
    exact (List.perm_append_singleton x r).symm.append_left l
  · obtain ⟨hl, hr, hlr⟩ := List.pairwise_append.mp hs
    refine List.pairwise_append.mpr ⟨hl, List.pairwise_cons.mpr ⟨fun y hy => ?_, hr⟩, fun y hy z hz => ?_⟩
    · rcases hag y (List.mem_append_right l hy) with ⟨hlt, -⟩ | ⟨-, hgt⟩
      · exact absurd (hsplit.2 y hy) (by omega)
      · exact le_of_lt hgt
    · rcases List.mem_cons.mp hz with rfl | hz
      · rcases hag y (List.mem_append_left r hy) with ⟨-, hlt⟩ | ⟨hgt, -⟩
        · exact le_of_lt hlt
        · exact absurd (hsplit.1 y hy) (by omega)
      · exact hlr y hy z hz

/-- Adding one by one: nothing is lost and the result is sorted. -/
theorem foldl_sorted (ha : AddsSorted cmp add) (xs : List α) (hag : xs.Pairwise (Agrees cmp key)) :
    (xs.foldl add []).Perm xs ∧ Sorted key (xs.foldl add []) := by
  induction xs using List.reverseRecOn with
  | nil => exact ⟨List.Perm.refl [], List.Pairwise.nil⟩
  | append_singleton xs x ih =>
    obtain ⟨hxs, -, hx⟩ := List.pairwise_append.mp hag
    obtain ⟨hperm, hsorted⟩ := ih hxs
    have hall : ∀ y ∈ xs.foldl add [], Agrees cmp key y x := fun y hy =>
      hx y (hperm.subset hy) x (List.mem_singleton_self x)
    obtain ⟨hperm', hsorted'⟩ := add_sorted ha hsorted hall
    rw [List.foldl_append, List.foldl_cons, List.foldl_nil]
    exact ⟨hperm'.trans (hperm.append_right [x]), hsorted'⟩

/-- Adding something leaves something. -/
theorem foldl_eq_nil (ha : AddsSorted cmp add) (xs : List α) : xs.foldl add [] = [] ↔ xs = [] := by
  induction xs using List.reverseRecOn with
  | nil => simp
  | append_singleton xs x _ =>
    rw [List.foldl_append, List.foldl_cons, List.foldl_nil]
    have hne : add (xs.foldl add []) x ≠ [] := by
      by_cases h : ∃ y ∈ xs.foldl add [], cmp y x = 0
      · obtain ⟨l, y, r, -, -, hadd⟩ := ha.replaces _ x h
        simp [hadd]
      · obtain ⟨l, r, -, hadd, -⟩ := ha.inserts _ x fun y hy h0 => h ⟨y, hy, h0⟩
        simp [hadd]
    simp [hne]

/-! ### A comparator that does not

    One `add` keeps the promise and puts an element that the comparator does not place where the key
    does not want it. -/

section
open Classical

/-- Replaces the first equal element; inserts at the split; without a split, in front of a smaller
    head or behind a larger one. -/
noncomputable def misplace (cmp : α → α → ℤ) (key : α → ℤ) (v : List α) (x : α) : List α :=
  if h : ∃ l y r, v = l ++ y :: r ∧ cmp y x = 0 then h.choose ++ x :: h.choose_spec.choose_spec.choose
  else if h : ∃ l r, v = l ++ r ∧ Splits cmp x l r then h.choose ++ x :: h.choose_spec.choose
  else if ∃ y, v.head? = some y ∧ key y < key x then x :: v else v ++ [x]

theorem misplace_adds (cmp : α → α → ℤ) (key : α → ℤ) : AddsSorted cmp (misplace cmp key) where
  replaces := by
    rintro v x ⟨y, hy, h0⟩
    obtain ⟨l, r, rfl⟩ := List.append_of_mem hy
    have h : ∃ l' y' r', l ++ y :: r = l' ++ y' :: r' ∧ cmp y' x = 0 := ⟨l, y, r, rfl, h0⟩
    obtain ⟨hv, h0⟩ := h.choose_spec.choose_spec.choose_spec
    exact ⟨_, _, _, hv, h0, by rw [misplace, dif_pos h]⟩
  inserts := by
    intro v x hne
    have hno : ¬ ∃ l y r, v = l ++ y :: r ∧ cmp y x = 0 := by
      rintro ⟨l, y, r, rfl, h0⟩
      exact hne y (List.mem_append_right l List.mem_cons_self) h0
    by_cases h : ∃ l r, v = l ++ r ∧ Splits cmp x l r
    · obtain ⟨hv, hsplit⟩ := h.choose_spec.choose_spec
      exact ⟨_, _, hv, by rw [misplace, dif_neg hno, dif_pos h], fun _ => hsplit⟩
    · by_cases hhead : ∃ y, v.head? = some y ∧ key y < key x
      · exact ⟨[], v, rfl, by rw [misplace, dif_neg hno, dif_neg h, if_pos hhead, List.nil_append],
          fun hs => absurd hs h⟩
      · exact ⟨v, [], (List.append_nil v).symm,
          by rw [misplace, dif_neg hno, dif_neg h, if_neg hhead], fun hs => absurd hs h⟩

end

/-- An add makes the vector at most one longer. -/
theorem length_add_le (ha : AddsSorted cmp add) (v : List α) (x : α) :
    (add v x).length ≤ v.length + 1 := by
  by_cases h : ∃ y ∈ v, cmp y x = 0
  · obtain ⟨l, y, r, rfl, -, hadd⟩ := ha.replaces v x h
    simp [hadd]
  · obtain ⟨l, r, rfl, hadd, -⟩ := ha.inserts v x fun y hy h0 => h ⟨y, hy, h0⟩
    simp only [hadd, List.length_append, List.length_cons]
    omega

theorem length_foldl_le (ha : AddsSorted cmp add) (xs : List α) :
    (xs.foldl add []).length ≤ xs.length := by
  induction xs using List.reverseRecOn with
  | nil => exact le_refl 0
  | append_singleton xs x ih =>
    rw [List.foldl_append, List.foldl_cons, List.foldl_nil, List.length_append, List.length_singleton]
    exact (length_add_le ha _ x).trans (Nat.succ_le_succ ih)

/-- An add that makes the vector longer found no equal element. -/
theorem ne_zero_of_longer (ha : AddsSorted cmp add) {v : List α} {x : α}
    (h : (add v x).length = v.length + 1) : ∀ y ∈ v, cmp y x ≠ 0 := by
  intro y hy h0
  obtain ⟨l, y', r, rfl, -, hadd⟩ := ha.replaces v x ⟨y, hy, h0⟩
  simp [hadd] at h

/-- The misplacing add leaves a vector sorted only where the comparator read the order of the keys. -/
theorem agrees_of_sorted {v : List α} {x : α} (hne : ∀ y ∈ v, cmp y x ≠ 0)
    (hkey : ∀ y ∈ v, key y ≠ key x) (hs : Sorted key (misplace cmp key v x)) :
    ∀ y ∈ v, Agrees cmp key y x := by
  by_cases hsplit : ∃ l r, v = l ++ r ∧ Splits cmp x l r
  · obtain ⟨l, r, rfl, hadd, hplace⟩ := (misplace_adds cmp key).inserts v x hne
    obtain ⟨hl, hr⟩ := hplace hsplit
    rw [hadd] at hs
    obtain ⟨-, hxr, hlx⟩ := List.pairwise_append.mp hs
    intro y hy
    rcases List.mem_append.mp hy with hyl | hyr
    · exact Or.inl ⟨hl y hyl, lt_of_le_of_ne (hlx y hyl x List.mem_cons_self) (hkey y hy)⟩
    · exact Or.inr ⟨hr y hyr,
        lt_of_le_of_ne ((List.pairwise_cons.mp hxr).1 y hyr) (hkey y hy).symm⟩
  · exfalso
    have hno : ¬ ∃ l y r, v = l ++ y :: r ∧ cmp y x = 0 := by
      rintro ⟨l, y, r, rfl, h0⟩
      exact hne y (List.mem_append_right l List.mem_cons_self) h0
    rw [misplace, dif_neg hno, dif_neg hsplit] at hs
    cases v with
    | nil => exact hsplit ⟨[], [], rfl, by simp, by simp⟩
    | cons a v =>
      have ha := hkey a List.mem_cons_self
      split at hs
      · next hhead =>
        obtain ⟨y, hy, hlt⟩ := hhead
        cases hy
        exact absurd ((List.pairwise_cons.mp hs).1 a List.mem_cons_self) (by omega)
      · next hhead =>
        have hle := (List.pairwise_append.mp hs).2.2 a List.mem_cons_self x (List.mem_singleton_self x)
        exact hhead ⟨a, rfl, lt_of_le_of_ne hle ha⟩

/-- If the misplacing add loses nothing and ends sorted, the comparator reads the order of the keys
    of every earlier element and every later one. -/
theorem pairwise_of_misplace (hzero : ∀ y x, key y = key x → cmp y x = 0) (xs : List α)
    (hperm : (xs.foldl (misplace cmp key) []).Perm xs)
    (hs : Sorted key (xs.foldl (misplace cmp key) [])) : xs.Pairwise (Agrees cmp key) := by
  have hadd := misplace_adds cmp key
  induction xs using List.reverseRecOn with
  | nil => exact List.Pairwise.nil
  | append_singleton xs x ih =>
    rw [List.foldl_append, List.foldl_cons, List.foldl_nil] at hperm hs
    have hlen : (misplace cmp key (xs.foldl (misplace cmp key) []) x).length
        = (xs.foldl (misplace cmp key) []).length + 1 := by
      have h1 := hperm.length_eq
      have h2 := length_add_le hadd (xs.foldl (misplace cmp key) []) x
      have h3 := length_foldl_le hadd xs
      rw [List.length_append, List.length_singleton] at h1
      omega
    have hne := ne_zero_of_longer hadd hlen
    have hall := agrees_of_sorted hne (fun y hy h => hne y hy (hzero y x h)) hs
    obtain ⟨l, r, hv, hins, -⟩ := hadd.inserts _ x hne
    rw [hins] at hperm hs
    have hrest : (xs.foldl (misplace cmp key) []).Perm xs := by
      rw [hv]
      have hx : (x :: (l ++ r)).Perm (x :: xs) :=
        (List.perm_middle.symm.trans hperm).trans (List.perm_append_singleton x xs)
      exact hx.cons_inv
    have hsub : (l ++ r).Sublist (l ++ x :: r) := (List.sublist_cons_self x r).append_left l
    have hsorted : Sorted key (xs.foldl (misplace cmp key) []) := hv ▸ hs.sublist hsub
    refine List.pairwise_append.mpr
      ⟨ih hrest hsorted, List.pairwise_singleton _ _, fun y hy z hz => ?_⟩
    obtain rfl := List.mem_singleton.mp hz
    exact hall y (hrest.symm.subset hy)

/-- Whatever else `add` does, nothing is lost and the result is sorted: exactly when the comparator
    reads the order of the keys. -/
theorem sorted_iff_agrees (hzero : ∀ y x, key y = key x → cmp y x = 0) (xs : List α) :
    (∀ add, AddsSorted cmp add → (xs.foldl add []).Perm xs ∧ Sorted key (xs.foldl add []))
      ↔ xs.Pairwise (Agrees cmp key) := by
  constructor
  · intro h
    obtain ⟨hperm, hs⟩ := h _ (misplace_adds cmp key)
    exact pairwise_of_misplace hzero xs hperm hs
  · intro h add ha
    exact foldl_sorted ha xs h

end ImxHal.SortedAdd
