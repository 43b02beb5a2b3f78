import Mathlib.Data.List.MinMax
import Mathlib.Tactic

/-! @scheme champion | family:folds

    A loop that keeps one element and replaces it by every later one that beats it. Whether the last
    champion is of the largest rank for every order of the challengers depends on how `beats` and the rank
    fit:

        x₁   x₂   x₃   x₄            beats a strict order:  nothing beats the champion
        x₁ ◀ x₂ ◀ ─── ◀ x₄           beats every lower rank: none of the largest rank is passed by -/

namespace ImxHal.Champion

variable {α β : Type} (beats : α → α → Prop) [DecidableRel beats]

/-- The champion of a list. -/
def champion (l : List α) : Option α := l.foldl (List.argAux beats) none

/-- An element of the largest rank in a list. -/
def Largest [LE β] (rank : α → β) (l : List α) (x : α) : Prop := x ∈ l ∧ ∀ y ∈ l, rank y ≤ rank x

/-- In every order the champion is of the largest rank. -/
def OrderFree [LE β] (rank : α → β) (l : List α) : Prop :=
  ∀ l' : List α, l'.Perm l → ∀ c ∈ champion beats l', Largest rank l c

variable {beats}

/-! ### Loops -/

theorem champion_concat (l : List α) (x : α) :
    champion beats (l ++ [x]) = List.argAux beats (champion beats l) x := by
  rw [champion, List.foldl_append]
  rfl

theorem argAux_some (c x : α) : List.argAux beats (some c) x = some (if beats x c then x else c) := by
  by_cases h : beats x c <;> simp [List.argAux, h]

/-- The loop that starts from an element. -/
theorem foldl_argAux_some (l : List α) (x : α) :
    l.foldl (List.argAux beats) (some x) = some (l.foldl (fun c y => if beats y c then y else c) x) := by
  induction l generalizing x with
  | nil => rfl
  | cons y l ih => rw [List.foldl_cons, argAux_some, ih, List.foldl_cons]

theorem champion_cons (x : α) (l : List α) :
    champion beats (x :: l) = some (l.foldl (fun c y => if beats y c then y else c) x) :=
  foldl_argAux_some l x

theorem exists_champion (beats : α → α → Prop) [DecidableRel beats] {l : List α} (h : l ≠ []) :
    ∃ c, champion beats l = some c := by
  cases l with
  | nil => exact absurd rfl h
  | cons x l => exact ⟨_, champion_cons x l⟩

/-- What holds of the first and is kept by every later one holds of the champion; both may be told apart
    by the elements visited so far. -/
theorem champion_inv (Inv : List α → α → Prop) (hfirst : ∀ x, Inv [x] x)
    (hwin : ∀ l c x, Inv l c → beats x c → Inv (l ++ [x]) x)
    (hlose : ∀ l c x, Inv l c → ¬ beats x c → Inv (l ++ [x]) c) (l : List α) :
    ∀ c ∈ champion beats l, Inv l c := by
  induction l using List.reverseRecOn with
  | nil => simp [champion]
  | append_singleton l x ih =>
    intro c hc
    rw [champion_concat] at hc
    rcases hl : champion beats l with _ | d
    · obtain rfl : l = [] := ((List.foldl_argAux_eq_none beats).mp hl).1
      obtain rfl : x = c := by simpa [hl, List.argAux] using hc
      exact hfirst x
    · have hd := ih d hl
      rw [hl, argAux_some, Option.mem_def, Option.some.injEq] at hc
      split_ifs at hc with hbeats
      · exact hc ▸ hwin l d x hd hbeats
      · exact hc ▸ hlose l d x hd hbeats

theorem champion_mem {l : List α} {c : α} (h : c ∈ champion beats l) : c ∈ l := by
  refine champion_inv (fun l c => c ∈ l) ?_ ?_ ?_ l c h
  · intro x
    exact List.mem_singleton_self x
  · intro l d x _ _
    exact List.mem_append_right l (List.mem_singleton_self x)
  · intro l d x hd _
    exact List.mem_append_left _ hd

/-! ### Ranks -/

section Rank
variable [LinearOrder β] {rank : α → β}

theorem exists_largest {l : List α} (h : l ≠ []) (rank : α → β) : ∃ x, Largest rank l x := by
  obtain ⟨x, hx⟩ := Option.ne_none_iff_exists'.mp fun hnone => h (List.argmax_eq_none (f := rank).mp hnone)
  exact ⟨x, List.argmax_mem hx, fun y hy => List.le_of_mem_argmax hy hx⟩

theorem Largest.rank_eq {l : List α} {x y : α} (hx : Largest rank l x) (hy : Largest rank l y) :
    rank x = rank y := le_antisymm (hy.2 x hx.1) (hx.2 y hy.1)

theorem exists_perm_cons {l : List α} {x : α} (hx : x ∈ l) : ∃ l', (x :: l').Perm l := by
  obtain ⟨s, t, rfl⟩ := List.append_of_mem hx
  exact ⟨s ++ t, List.perm_middle.symm⟩

/-- An element that comes first is the champion or beaten by it. -/
theorem champion_first [IsTrans α beats] {x c : α} {l : List α} (h : c ∈ champion beats (x :: l)) :
    c = x ∨ beats c x := by
  have hinv := champion_inv (fun l c => ∃ y ∈ l.head?, c = y ∨ beats c y) ?_ ?_ ?_
    (x :: l) c h
  · obtain ⟨y, hy, hc⟩ := hinv
    obtain rfl : x = y := Option.some.inj hy
    exact hc
  · intro y
    exact ⟨y, rfl, .inl rfl⟩
  · rintro l d y ⟨z, hz, hd⟩ hbeats
    refine ⟨z, List.mem_head?_append_of_mem_head? hz, .inr ?_⟩
    rcases hd with rfl | hd
    · exact hbeats
    · exact trans_of beats hbeats hd
  · rintro l d y ⟨z, hz, hd⟩ -
    exact ⟨z, List.mem_head?_append_of_mem_head? hz, hd⟩

/-- Where `beats` is a strict order, the champion is of the largest rank in every order exactly when
    every other element is beaten by one of the largest rank. -/
theorem orderFree_iff_of_strict [IsStrictOrder α beats] (l : List α) :
    OrderFree beats rank l ↔ ∀ x ∈ l, Largest rank l x ∨ ∃ t, Largest rank l t ∧ beats t x := by
  constructor
  · intro h x hx
    obtain ⟨l', hperm⟩ := exists_perm_cons hx
    obtain ⟨c, hc⟩ := exists_champion beats (List.cons_ne_nil x l')
    have hlargest := h _ hperm c hc
    rcases champion_first hc with rfl | hbeats
    · exact .inl hlargest
    · exact .inr ⟨c, hlargest, hbeats⟩
  · intro h l' hperm c hc
    rcases h c (hperm.mem_iff.mp (champion_mem hc)) with hlargest | ⟨t, hlargest, hbeats⟩
    · exact hlargest
    · have hmax := List.not_of_mem_foldl_argAux beats inferInstance inferInstance
        (hperm.mem_iff.mpr hlargest.1) hc
      exact absurd hbeats hmax

/-- Where every higher rank beats, an element of the largest rank wins when its turn comes. -/
theorem champion_concat_largest {l l' : List α} {t : α}
    (hrank : ∀ x ∈ l, ∀ c ∈ l, ¬ beats x c → x = c ∨ rank x < rank c) (hsub : ∀ y ∈ l', y ∈ l)
    (ht : Largest rank l t) : champion beats (l' ++ [t]) = some t := by
  rw [champion_concat]
  rcases hl : champion beats l' with _ | c
  · rfl
  · have hc := hsub c (champion_mem hl)
    rw [argAux_some]
    split_ifs with hbeats
    · rfl
    · rcases hrank t ht.1 c hc hbeats with rfl | hlt
      · rfl
      · exact absurd (ht.2 c hc) (not_le.mpr hlt)

/-- Where every higher rank beats, the champion is of the largest rank in every order exactly when no
    other element beats one of the largest rank. -/
theorem orderFree_iff_of_rank {l : List α}
    (hrank : ∀ x ∈ l, ∀ c ∈ l, ¬ beats x c → x = c ∨ rank x < rank c) :
    OrderFree beats rank l ↔ ∀ t, Largest rank l t → ∀ x ∈ l, beats x t → Largest rank l x := by
  constructor
  · intro h t ht x hx hbeats
    rcases eq_or_ne x t with rfl | hne
    · exact ht
    -- The two come last, one after the other.
    · obtain ⟨l₁, hperm₁⟩ := exists_perm_cons ht.1
      have hx₁ : x ∈ l₁ := List.mem_of_ne_of_mem hne (hperm₁.mem_iff.mpr hx)
      obtain ⟨l₂, hperm₂⟩ := exists_perm_cons hx₁
      have hperm : (l₂ ++ [t] ++ [x]).Perm l := by
        have hlast : (l₂ ++ [t] ++ [x]).Perm (t :: x :: l₂) := by
          rw [List.append_assoc]
          exact List.perm_append_comm
        exact (hlast.trans (hperm₂.cons t)).trans hperm₁
      have hsub : ∀ y ∈ l₂, y ∈ l := fun y hy =>
        hperm.mem_iff.mp (by simp [hy])
      refine h _ hperm x ?_
      rw [champion_concat, champion_concat_largest hrank hsub ht, argAux_some, if_pos hbeats]
      rfl
  · intro h l' hperm c hc
    have hinv := champion_inv (fun s c => (∀ y ∈ s, y ∈ l) →
      c ∈ l ∧ ((∃ t ∈ s, Largest rank l t) → Largest rank l c)) ?_ ?_ ?_ l' c hc
    · have hsub : ∀ y ∈ l', y ∈ l := fun y hy => hperm.mem_iff.mp hy
      have hne : l ≠ [] := List.ne_nil_of_mem (hsub c (champion_mem hc))
      obtain ⟨t, ht⟩ := exists_largest hne rank
      exact (hinv hsub).2 ⟨t, hperm.mem_iff.mpr ht.1, ht⟩
    · rintro x hsub
      refine ⟨hsub x (List.mem_singleton_self x), ?_⟩
      rintro ⟨t, ht, hlargest⟩
      exact List.mem_singleton.mp ht ▸ hlargest
    · intro s d x hd hbeats hsub
      obtain ⟨-, hlargest⟩ := hd fun y hy => hsub y (List.mem_append_left _ hy)
      have hx := hsub x (by simp)
      refine ⟨hx, ?_⟩
      rintro ⟨t, ht, htl⟩
      rcases List.mem_append.mp ht with ht | ht
      · exact h d (hlargest ⟨t, ht, htl⟩) x hx hbeats
      · exact List.mem_singleton.mp ht ▸ htl
    · intro s d x hd hbeats hsub
      obtain ⟨hdl, hlargest⟩ := hd fun y hy => hsub y (List.mem_append_left _ hy)
      refine ⟨hdl, ?_⟩
      rintro ⟨t, ht, htl⟩
      rcases List.mem_append.mp ht with ht | ht
      · exact hlargest ⟨t, ht, htl⟩
      · obtain rfl := List.mem_singleton.mp ht
        rcases hrank t htl.1 d hdl hbeats with rfl | hlt
        · exact htl
        · exact absurd (htl.2 d hdl) (not_le.mpr hlt)

end Rank

/-! ### The first of the smallest -/

section First
variable {K : Type} [LinearOrder K] {key key' : ℕ → K}

/-- The first of `n` places that has the smallest key. -/
def First (key : ℕ → K) (n i : ℕ) : Prop := i < n ∧ ∀ j < n, key i ≤ key j ∧ (j < i → key i < key j)

theorem First.unique {n i j : ℕ} (hi : First key n i) (hj : First key n j) : i = j := by
  rcases Nat.lt_trichotomy i j with hlt | heq | hlt
  · exact absurd (hi.2 j hj.1).1 (not_le.mpr ((hj.2 i hi.1).2 hlt))
  · exact heq
  · exact absurd (hj.2 i hi.1).1 (not_le.mpr ((hi.2 j hj.1).2 hlt))

theorem first_congr {n i : ℕ} (h : ∀ j < n, key j = key' j) : First key n i ↔ First key' n i := by
  constructor
  · rintro ⟨hi, hall⟩
    refine ⟨hi, fun j hj => ?_⟩
    rw [← h i hi, ← h j hj]
    exact hall j hj
  · rintro ⟨hi, hall⟩
    refine ⟨hi, fun j hj => ?_⟩
    rw [h i hi, h j hj]
    exact hall j hj

/-- One more place is taken where its key is smaller. -/
theorem First.succ {n i : ℕ} (h : First key n i) : First key (n + 1) (if key n < key i then n else i) := by
  obtain ⟨hi, hall⟩ := h
  split_ifs with hlt
  · refine ⟨Nat.lt_succ_self n, fun j hj => ?_⟩
    rcases Nat.lt_succ_iff_lt_or_eq.mp hj with hj | rfl
    · have hless : key n < key j := hlt.trans_le (hall j hj).1
      exact ⟨hless.le, fun _ => hless⟩
    · exact ⟨le_refl _, fun h => absurd h (lt_irrefl _)⟩
  · refine ⟨Nat.lt_succ_of_lt hi, fun j hj => ?_⟩
    rcases Nat.lt_succ_iff_lt_or_eq.mp hj with hj | rfl
    · exact hall j hj
    · exact ⟨not_lt.mp hlt, fun h => absurd h (not_lt.mpr hi.le)⟩

/-- The scan that keeps a place until it meets a smaller key. -/
theorem first_scan (key : ℕ → K) {n : ℕ} (hn : 0 < n) :
    First key n ((List.range n).foldl (fun c i => if key i < key c then i else c) 0) := by
  induction n with
  | zero => exact absurd hn (lt_irrefl 0)
  | succ n ih =>
    rw [List.range_succ, List.foldl_append, List.foldl_cons, List.foldl_nil]
    rcases Nat.eq_zero_or_pos n with rfl | hpos
    · rw [List.range_zero, List.foldl_nil, ite_self]
      refine ⟨Nat.one_pos, fun j hj => ?_⟩
      obtain rfl : j = 0 := by omega
      exact ⟨le_refl _, fun h => absurd h (lt_irrefl 0)⟩
    · exact (ih hpos).succ

end First

end ImxHal.Champion
