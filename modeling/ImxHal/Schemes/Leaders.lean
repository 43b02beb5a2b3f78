import Mathlib.Data.List.DropRight
import Mathlib.Tactic

/-! @scheme leaders | family:sliding windows

    The largest of the last few elements, for every window in turn. It is enough to keep the leaders of
    the window, the elements above every later one; they fall from the front to the back, so that the
    front one is the largest:

        window    3  7  2  5  5  1         leaders   7  5  1
        + 4       3  7  2  5  5  1  4                7  5  4        the 1 is dropped from the back
        - 3, 7          2  5  5  1  4                5  4           the 7 goes when its turn comes -/

namespace ImxHal.Leaders

variable {α β : Type} [LinearOrder β] (key : α → β)

/-- The elements above every later one. -/
def leaders : List α → List α
  | [] => []
  | x :: l => if ∀ y ∈ l, key y < key x then x :: leaders l else leaders l

variable {key}

theorem leaders_cons (x : α) (l : List α) :
    leaders key (x :: l) = if ∀ y ∈ l, key y < key x then x :: leaders key l else leaders key l := rfl

theorem leaders_sublist (l : List α) : (leaders key l).Sublist l := by
  induction l with
  | nil => exact .slnil
  | cons x l ih =>
    rw [leaders_cons]
    split
    · exact ih.cons_cons x
    · exact ih.cons x

theorem rdropWhile_cons_of_not {p : α → Bool} {x : α} (h : ¬ p x) (l : List α) :
    (x :: l).rdropWhile p = x :: l.rdropWhile p := by
  rw [List.rdropWhile, List.rdropWhile, List.reverse_cons, List.dropWhile_append]
  split
  · next hnil =>
    rw [List.isEmpty_iff] at hnil
    rw [List.dropWhile_cons_of_neg h, hnil]
    rfl
  · rw [List.reverse_append]
    rfl

/-- A new element drops from the back what is not above it. -/
theorem leaders_concat (l : List α) (x : α) :
    leaders key (l ++ [x]) = (leaders key l).rdropWhile (fun y => key y ≤ key x) ++ [x] := by
  induction l with
  | nil => simp [leaders]
  | cons y l ih =>
    rw [List.cons_append, leaders_cons, leaders_cons, ih]
    by_cases hy : ∀ z ∈ l, key z < key y
    · rw [if_pos hy]
      by_cases hxy : key x < key y
      · have hall : ∀ z ∈ l ++ [x], key z < key y := by simpa [or_imp, forall_and] using ⟨hy, hxy⟩
        rw [if_pos hall, rdropWhile_cons_of_not (by simpa using hxy)]
        rfl
      · have hnot : ¬ ∀ z ∈ l ++ [x], key z < key y := fun h => hxy (h x (by simp))
        have hle := not_lt.mp hxy
        have hbelow : ∀ z ∈ leaders key l, key z ≤ key x := fun z hz =>
          ((hy z ((leaders_sublist l).subset hz)).trans_le hle).le
        have hnil : (leaders key l).rdropWhile (fun z => key z ≤ key x) = [] :=
          List.rdropWhile_eq_nil_iff.mpr fun z hz => decide_eq_true (hbelow z hz)
        have hnil' : (y :: leaders key l).rdropWhile (fun z => key z ≤ key x) = [] := by
          refine List.rdropWhile_eq_nil_iff.mpr fun z hz => decide_eq_true ?_
          rcases List.mem_cons.mp hz with rfl | hz
          · exact hle
          · exact hbelow z hz
        rw [if_neg hnot, hnil, hnil']
    · have hnot : ¬ ∀ z ∈ l ++ [x], key z < key y := fun h =>
        hy fun z hz => h z (List.mem_append_left _ hz)
      rw [if_neg hy, if_neg hnot]

/-- The front is the largest of all. -/
theorem max?_map_key (l : List α) : (l.map key).max? = (leaders key l).head?.map key := by
  induction l with
  | nil => rfl
  | cons x l ih =>
    rw [List.map_cons, List.max?_cons, ih, leaders_cons]
    split
    · next hx =>
      cases hhead : (leaders key l).head? with
      | none => rfl
      | some y =>
        have hy := hx y ((leaders_sublist l).subset (List.mem_of_head? hhead))
        simp [max_eq_left hy.le]
    · next hx =>
      cases hhead : (leaders key l).head? with
      | none =>
        have hnil := ih
        rw [hhead, Option.map_none, List.max?_eq_none_iff, List.map_eq_nil_iff] at hnil
        exact absurd (fun y hy => absurd hy (hnil ▸ List.not_mem_nil)) hx
      | some y =>
        push Not at hx
        obtain ⟨z, hz, hle⟩ := hx
        rw [hhead, Option.map_some, List.max?_eq_some_iff] at ih
        have hzy := ih.2 (key z) (List.mem_map_of_mem hz)
        simp [max_eq_right (hle.trans hzy)]

theorem head?_leaders_ne_none {l : List α} (h : l ≠ []) : (leaders key l).head? ≠ none := by
  intro hnone
  have hmax : (l.map key).max? = (leaders key l).head?.map key := max?_map_key l
  rw [hnone, Option.map_none, List.max?_eq_none_iff, List.map_eq_nil_iff] at hmax
  exact h hmax

/-- The oldest element leaves the window, and the leaders if it is in front. The leaders may be known
    by something that tells it from the others. -/
theorem map_leaders_tail {γ : Type} [DecidableEq γ] (slot : α → γ) (x : α) (l : List α)
    (h : ∀ y ∈ l, slot y ≠ slot x) :
    (leaders key l).map slot = if ((leaders key (x :: l)).map slot).head? = some (slot x)
      then ((leaders key (x :: l)).map slot).tail else (leaders key (x :: l)).map slot := by
  rw [leaders_cons]
  by_cases hx : ∀ y ∈ l, key y < key x
  · rw [if_pos hx, List.map_cons, List.head?_cons, if_pos rfl, List.tail_cons]
  · rw [if_neg hx, if_neg]
    rw [List.head?_map]
    cases hhead : (leaders key l).head? with
    | none => exact fun hnone => Option.some_ne_none _ hnone.symm
    | some y =>
      have hy := (leaders_sublist l).subset (List.mem_of_head? hhead)
      exact fun heq => h y hy (Option.some.inj heq)

theorem rdropWhile_map {γ : Type} {p : γ → Bool} {q : α → Bool} (f : α → γ) (l : List α)
    (h : ∀ x ∈ l, p (f x) = q x) : (l.map f).rdropWhile p = (l.rdropWhile q).map f := by
  induction l using List.reverseRecOn with
  | nil => rfl
  | append_singleton l x ih =>
    have hl : ∀ y ∈ l, p (f y) = q y := fun y hy => h y (List.mem_append_left _ hy)
    rw [List.map_append, List.map_singleton, List.rdropWhile_concat, List.rdropWhile_concat,
      h x (by simp), ih hl]
    split
    · rfl
    · rw [List.map_append, List.map_singleton]

/-- A new element comes in, where the values of the others are looked up by what they are known by. -/
theorem map_leaders_concat {γ : Type} (slot : α → γ) (value : γ → β) (l : List α) (x : α)
    (h : ∀ y ∈ l, value (slot y) = key y) : (leaders key (l ++ [x])).map slot
      = ((leaders key l).map slot).rdropWhile (fun i => value i ≤ key x) ++ [slot x] := by
  have hleaders : ∀ y ∈ leaders key l, decide (value (slot y) ≤ key x) = decide (key y ≤ key x) := by
    intro y hy
    rw [h y ((leaders_sublist l).subset hy)]
  rw [leaders_concat, List.map_append, List.map_singleton, rdropWhile_map slot _ hleaders]

end ImxHal.Leaders
