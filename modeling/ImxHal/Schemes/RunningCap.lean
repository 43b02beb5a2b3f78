import ImxHal.Schemes.Champion

/-! @scheme running cap | family:folds

    A range that a list of votes narrows: its floor is raised, its ceiling is lowered, and some of the
    votes also lower the ceiling to a cap that follows the floor AS IT STANDS when they are met:

        floor     0 ───▶ lo₁ ───▶ max lo₁ lo₂ ───▶ …
        ceiling   b ───▶ min b (cap lo₁) ───▶ min … (cap (max lo₁ lo₂))

    Floors and ceilings commute, the cap does not: the vote that is met first is capped by its own
    floor. The order is free if and only if no vote's own floor gives a lower cap than the last
    floor does, or that cap lies above the ceiling anyhow. -/

namespace ImxHal.RunningCap
open ImxHal.Champion

variable {α β : Type} [LinearOrder β]

/-- The floor and the ceiling of a vote, and whether it caps the range. -/
structure Vote (α β : Type) where
  lo : α → β
  hi : α → β
  capped : α → Bool
  cap : β → β

def step (v : Vote α β) (r : β × β) (x : α) : β × β :=
  let floor := max r.1 (v.lo x)
  let ceiling := min r.2 (v.hi x)
  (floor, if v.capped x then min ceiling (v.cap floor) else ceiling)

def fold (v : Vote α β) (r : β × β) (l : List α) : β × β := l.foldl (step v) r

/-- The floor after all votes, and the ceiling they leave without the caps. -/
def floor (v : Vote α β) (a : β) (l : List α) : β := l.foldl (fun a x => max a (v.lo x)) a

def ceiling (v : Vote α β) (b : β) (l : List α) : β := l.foldl (fun b x => min b (v.hi x)) b

/-- The range is the same for every order of the votes. -/
def OrderFree (v : Vote α β) (r : β × β) (l : List α) : Prop :=
  ∀ l' : List α, l'.Perm l → fold v r l' = fold v r l

variable {v : Vote α β} {a b z : β} {l l' : List α} {x : α}

theorem fold_floor (v : Vote α β) (r : β × β) (l : List α) :
    (fold v r l).1 = floor v r.1 l := by
  induction l generalizing r with
  | nil => rfl
  | cons x l ih => exact ih (step v r x)

theorem floor_le_iff : floor v a l ≤ z ↔ a ≤ z ∧ ∀ x ∈ l, v.lo x ≤ z := by
  induction l generalizing a with
  | nil => simp [floor]
  | cons x l ih =>
    have hstep : floor v a (x :: l) = floor v (max a (v.lo x)) l := rfl
    rw [hstep, ih, max_le_iff, List.forall_mem_cons, and_assoc]

theorem le_ceiling_iff : z ≤ ceiling v b l ↔ z ≤ b ∧ ∀ x ∈ l, z ≤ v.hi x := by
  induction l generalizing b with
  | nil => simp [ceiling]
  | cons x l ih =>
    have hstep : ceiling v b (x :: l) = ceiling v (min b (v.hi x)) l := rfl
    rw [hstep, ih, le_min_iff, List.forall_mem_cons, and_assoc]

theorem ceiling_le_iff : ceiling v b l ≤ z ↔ b ≤ z ∨ ∃ x ∈ l, v.hi x ≤ z := by
  induction l generalizing b with
  | nil => simp [ceiling]
  | cons x l ih =>
    have hstep : ceiling v b (x :: l) = ceiling v (min b (v.hi x)) l := rfl
    rw [hstep, ih, min_le_iff, List.exists_mem_cons_iff, or_assoc]

theorem floor_perm (h : l'.Perm l) : floor v a l' = floor v a l := by
  refine le_antisymm (floor_le_iff.mpr ?_) (floor_le_iff.mpr ?_)
  · obtain ⟨ha, hl⟩ := floor_le_iff.mp (le_refl (floor v a l))
    exact ⟨ha, fun x hx => hl x (h.mem_iff.mp hx)⟩
  · obtain ⟨ha, hl⟩ := floor_le_iff.mp (le_refl (floor v a l'))
    exact ⟨ha, fun x hx => hl x (h.mem_iff.mpr hx)⟩

/-- The last floor is the first one, or that of one of the votes. -/
theorem floor_attained (v : Vote α β) (a : β) (l : List α) :
    floor v a l = a ∨ ∃ x ∈ l, v.lo x = floor v a l := by
  induction l generalizing a with
  | nil => exact .inl rfl
  | cons x l ih =>
    have hstep : floor v a (x :: l) = floor v (max a (v.lo x)) l := rfl
    rcases ih (max a (v.lo x)) with heq | ⟨y, hy, hlo⟩
    · rcases max_cases a (v.lo x) with ⟨hmax, -⟩ | ⟨hmax, -⟩
      · exact .inl (by rw [hstep, heq, hmax])
      · exact .inr ⟨x, List.mem_cons_self, by rw [hstep, heq, hmax]⟩
    · exact .inr ⟨y, List.mem_cons_of_mem x hy, hlo⟩

/-- What one vote leaves of the ceiling. -/
theorem le_step_iff {r : β × β} :
    z ≤ (step v r x).2 ↔
      z ≤ r.2 ∧ z ≤ v.hi x ∧ (v.capped x → z ≤ v.cap (max r.1 (v.lo x))) := by
  unfold step
  by_cases hx : v.capped x
  · simp [hx, and_assoc]
  · simp [hx]

/-- The range is below every ceiling, and every cap it applied is below that of the last floor. -/
theorem le_of_le_fold (hcap : Monotone v.cap) {r : β × β} (h : z ≤ (fold v r l).2) :
    z ≤ r.2 ∧ ∀ x ∈ l, z ≤ v.hi x ∧ (v.capped x → z ≤ v.cap (floor v r.1 l)) := by
  induction l generalizing r with
  | nil => exact ⟨h, fun _ hx => by cases hx⟩
  | cons x l ih =>
    obtain ⟨hz, hrest⟩ := ih (r := step v r x) h
    obtain ⟨hrange, hhi, hcapped⟩ := le_step_iff.mp hz
    have hfloor : max r.1 (v.lo x) ≤ floor v r.1 (x :: l) :=
      (floor_le_iff.mp (le_refl (floor v (max r.1 (v.lo x)) l))).1
    refine ⟨hrange, List.forall_mem_cons.mpr ⟨⟨hhi, fun hx => ?_⟩, hrest⟩⟩
    exact (hcapped hx).trans (hcap hfloor)

/-- What is below every ceiling and below the cap of each vote's own floor is below the range. -/
theorem le_fold (hcap : Monotone v.cap) {r : β × β} (hz : z ≤ r.2)
    (h : ∀ x ∈ l, z ≤ v.hi x ∧ (v.capped x → z ≤ v.cap (max r.1 (v.lo x)))) :
    z ≤ (fold v r l).2 := by
  induction l generalizing r with
  | nil => exact hz
  | cons x l ih =>
    obtain ⟨⟨hhi, hcapped⟩, hrest⟩ := List.forall_mem_cons.mp h
    refine ih (r := step v r x) (le_step_iff.mpr ⟨hz, hhi, hcapped⟩) fun y hy => ?_
    refine ⟨(hrest y hy).1, fun hcy => ((hrest y hy).2 hcy).trans (hcap ?_)⟩
    -- the floor has only risen since
    exact max_le_max (le_max_left _ _) (le_refl _)

/-- A capped vote that comes first caps the range by its own floor. -/
theorem fold_first_le (hcap : Monotone v.cap) {r : β × β} (hx : v.capped x) :
    (fold v r (x :: l)).2 ≤ v.cap (max r.1 (v.lo x)) := by
  have hle : (fold v r (x :: l)).2 ≤ (step v r x).2 :=
    (le_of_le_fold hcap (r := step v r x) (le_refl _)).1
  exact (le_step_iff.mp hle).2.2 hx

/-- If the vote with the greatest floor comes first, only the last floor caps. -/
theorem le_fold_first (hcap : Monotone v.cap) {r : β × β}
    (hlo : v.lo x = floor v r.1 (x :: l)) :
    min (ceiling v r.2 (x :: l)) (v.cap (floor v r.1 (x :: l))) ≤
      (fold v r (x :: l)).2 := by
  obtain ⟨hrange, hhi⟩ := le_ceiling_iff.mp (le_refl (ceiling v r.2 (x :: l)))
  have hleft := min_le_left (ceiling v r.2 (x :: l)) (v.cap (floor v r.1 (x :: l)))
  have hright := min_le_right (ceiling v r.2 (x :: l)) (v.cap (floor v r.1 (x :: l)))
  have hfirst : floor v r.1 (x :: l) ≤ max r.1 (v.lo x) := hlo ▸ le_max_right _ _
  refine le_fold hcap (r := step v r x) ?_ fun y hy => ⟨?_, fun _ => ?_⟩
  · exact le_step_iff.mpr ⟨hleft.trans hrange, hleft.trans (hhi x List.mem_cons_self),
      fun _ => hright.trans (hcap hfirst)⟩
  · exact hleft.trans (hhi y (List.mem_cons_of_mem x hy))
  · exact hright.trans (hcap (hfirst.trans (le_max_left _ _)))

/-- CORRECT: the order of the votes is free if and only if the cap of each capped vote's own floor is
    not below what the last floor and the ceilings leave. -/
theorem orderFree_iff (hcap : Monotone v.cap) (r : β × β) (l : List α) :
    OrderFree v r l ↔ ∀ x ∈ l, v.capped x →
      min (ceiling v r.2 l) (v.cap (floor v r.1 l)) ≤ v.cap (max r.1 (v.lo x)) := by
  constructor
  · intro h x hx hcapped
    rcases floor_attained v r.1 l with hfirst | ⟨y, hy, hlo⟩
    · rw [hfirst]
      exact (min_le_right _ _).trans (hcap (le_max_left _ _))
    · obtain ⟨l₁, hperm₁⟩ := exists_perm_cons hx
      obtain ⟨l₂, hperm₂⟩ := exists_perm_cons hy
      have hceiling : ceiling v r.2 l ≤ ceiling v r.2 (y :: l₂) := by
        obtain ⟨hb, hhi⟩ := le_ceiling_iff.mp (le_refl (ceiling v r.2 l))
        exact le_ceiling_iff.mpr ⟨hb, fun w hw => hhi w (hperm₂.mem_iff.mp hw)⟩
      have hgreatest := le_fold_first hcap (r := r) (l := l₂) (x := y)
        (by rw [hlo, floor_perm hperm₂])
      rw [floor_perm hperm₂, h _ hperm₂] at hgreatest
      have hown := fold_first_le hcap (r := r) (l := l₁) hcapped
      rw [h _ hperm₁] at hown
      exact (min_le_min_right _ hceiling).trans (hgreatest.trans hown)
  · intro h
    -- two orders are below each other, by the condition of the one that is below
    have hle : ∀ l₁ l₂ : List α, l₁.Perm l → l₂.Perm l →
        (fold v r l₁).2 ≤ (fold v r l₂).2 := by
      intro l₁ l₂ hperm₁ hperm₂
      obtain ⟨hb, hvotes⟩ := le_of_le_fold hcap (le_refl (fold v r l₁).2)
      rw [floor_perm hperm₁] at hvotes
      have hmem : ∀ x, x ∈ l → x ∈ l₁ := fun x hx => hperm₁.mem_iff.mpr hx
      refine le_fold hcap hb fun x hx => ?_
      have hx := hperm₂.mem_iff.mp hx
      refine ⟨(hvotes x (hmem x hx)).1, fun hcapped => le_trans (le_min ?_ ?_) (h x hx hcapped)⟩
      · exact le_ceiling_iff.mpr ⟨hb, fun y hy => (hvotes y (hmem y hy)).1⟩
      · exact (hvotes x (hmem x hx)).2 hcapped
    intro l' hperm
    refine Prod.ext ?_ (le_antisymm (hle l' l hperm (.refl l)) (hle l l' (.refl l) hperm))
    rw [fold_floor, fold_floor, floor_perm hperm]

/-- A vote that is met twice in a row counts once. -/
theorem step_step (v : Vote α β) (r : β × β) (x : α) :
    step v (step v r x) x = step v r x := by
  unfold step
  by_cases hx : v.capped x
  · simp [hx]
  · simp [hx]

theorem fold_replicate (v : Vote α β) (r : β × β) (x : α) (n : ℕ) :
    fold v r (List.replicate (n + 1) x) = step v r x := by
  induction n generalizing r with
  | zero => rfl
  | succ n ih => exact (ih (step v r x)).trans (step_step v r x)

theorem fold_append (v : Vote α β) (r : β × β) (l l' : List α) :
    fold v r (l ++ l') = fold v (fold v r l) l' :=
  List.foldl_append

/-- Votes that are met several times in a row, or not at all. -/
theorem fold_flatMap_replicate (v : Vote α β) (n : α → ℕ) (r : β × β) (l : List α) :
    fold v r (l.flatMap fun x => List.replicate (n x) x) =
      fold v r (l.filter fun x => n x ≠ 0) := by
  induction l generalizing r with
  | nil => rfl
  | cons x l ih =>
    rw [List.flatMap_cons, fold_append, ih]
    cases hn : n x with
    | zero => simp [fold, hn]
    | succ k =>
      rw [fold_replicate, List.filter_cons_of_pos (by simp [hn])]
      rfl

end ImxHal.RunningCap
