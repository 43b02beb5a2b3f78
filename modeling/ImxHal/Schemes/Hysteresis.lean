import Mathlib.Order.BoundedOrder.Basic
import Mathlib.Tactic

/-! @scheme hysteresis | family:controllers

    A controller with hysteresis stands at one of finitely many levels, `⊥` for none. A reading REACHES
    some levels and HOLDS others (a level that was entered is held a little longer than it is reached):

        r = highest level reached      prev ≤ r  ──▶  r
        h = highest level held         r < prev  ──▶  h

    Meant is: rise only to levels reached, never stay below a level reached, and leave a level only when it
    is no longer held. The last always holds. The first two fail when the bands of two levels overlap, or
    when a level is reached but not held. -/

namespace ImxHal.Hysteresis

variable {L : Type} [LinearOrder L] [OrderBot L]

/-- The levels above `⊥`, from the top down. -/
structure Levels (levels : List L) : Prop where
  descending : levels.Pairwise (· > ·)
  all : ∀ l, l ∈ levels ↔ l ≠ ⊥

/-- The highest level that satisfies `p`, `⊥` if none does. -/
def top (levels : List L) (p : L → Bool) : L := (levels.find? p).getD ⊥

/-- The level after a reading. -/
def next (levels : List L) (prev : L) (reached held : L → Bool) : L :=
  if top levels reached < prev then top levels held else top levels reached

/-- What hysteresis is meant to keep from one reading to the next. -/
structure Kept (prev cur : L) (reached held : L → Bool) : Prop where
  rises : prev < cur → reached cur = true
  covers : ∀ l ≠ ⊥, reached l = true → l ≤ cur
  drops : ∀ l, cur < l → l ≤ prev → held l = false

/-- No level from the previous one up is reached, but then none above it is held, and below a level
    reached there is no gap in what is held. -/
def Settles (prev : L) (reached held : L → Bool) : Prop :=
  prev = ⊥ ∨ (∃ l, prev ≤ l ∧ reached l = true) ∨
    (∀ l, prev < l → held l = false) ∧ ∀ l ≠ ⊥, reached l = true → ∃ m, l ≤ m ∧ held m = true

variable {levels : List L} {p : L → Bool}

theorem top_holds (h : top levels p ≠ ⊥) : p (top levels p) = true := by
  rw [top] at h ⊢
  rcases hf : levels.find? p with _ | l
  · rw [hf] at h
    exact absurd rfl h
  · exact List.find?_some hf

theorem le_top (hl : Levels levels) {l : L} (hne : l ≠ ⊥) (hp : p l = true) : l ≤ top levels p := by
  rw [top]
  rcases hf : levels.find? p with _ | m
  · exact absurd hp (by simpa using List.find?_eq_none.mp hf l ((hl.all l).mpr hne))
  · obtain ⟨-, as, bs, hsplit, hbefore⟩ := List.find?_eq_some_iff_append.mp hf
    have hmem := (hl.all l).mpr hne
    have hdesc := hl.descending
    rw [hsplit] at hmem hdesc
    rcases List.mem_append.mp hmem with hin | hin
    · exact absurd hp (by simpa using hbefore l hin)
    · rcases List.mem_cons.mp hin with rfl | hin
      · exact le_rfl
      · have htail := (List.pairwise_append.mp hdesc).2.1
        exact ((List.pairwise_cons.mp htail).1 l hin).le

/-- Nothing above the highest level satisfies the predicate. -/
theorem above_top (hl : Levels levels) {l : L} (hlt : top levels p < l) : p l = false := by
  by_contra hp
  have hle := le_top hl (bot_le.trans_lt hlt).ne' (by simpa using hp)
  exact absurd hlt (not_lt.mpr hle)

/-- The highest level as a loop finds it: from the top down, the first one is kept. -/
theorem foldl_top {ls : List L} (hne : ∀ l ∈ ls, l ≠ ⊥) (p : L → Bool) :
    ls.foldl (fun r l => if p l = true ∧ r = ⊥ then l else r) ⊥ = top ls p := by
  have hkeep : ∀ (ls : List L) (r : L), r ≠ ⊥ →
      ls.foldl (fun r l => if p l = true ∧ r = ⊥ then l else r) r = r := by
    intro ls r hr
    induction ls with
    | nil => rfl
    | cons l ls ih => rw [List.foldl_cons, if_neg fun h => hr h.2, ih]
  induction ls with
  | nil => rfl
  | cons l ls ih =>
    rw [List.foldl_cons, top, List.find?_cons]
    by_cases hp : p l = true
    · simp [hp, hkeep ls l (hne l List.mem_cons_self)]
    · simpa [hp, top] using ih fun m hm => hne m (List.mem_cons_of_mem l hm)

/-- The highest level reached is below the previous one exactly if no level from there up is reached. -/
theorem top_lt_iff (hl : Levels levels) {prev : L} (hne : prev ≠ ⊥) :
    top levels p < prev ↔ ¬ ∃ l, prev ≤ l ∧ p l = true := by
  constructor
  · rintro hlt ⟨l, hle, hp⟩
    exact absurd hp (by rw [above_top hl (hlt.trans_le hle)]; decide)
  · intro hnone
    by_contra hge
    refine hnone ⟨_, not_lt.mp hge, top_holds ?_⟩
    exact fun hbot => hne (le_bot_iff.mp (hbot ▸ not_lt.mp hge))

/-- A level that is entered is reached or held. -/
theorem next_reached_or_held {prev : L} {reached held : L → Bool}
    (hne : next levels prev reached held ≠ ⊥) :
    reached (next levels prev reached held) = true ∨ held (next levels prev reached held) = true := by
  rw [next] at hne ⊢
  split at hne
  · next hlt => rw [if_pos hlt]; exact Or.inr (top_holds hne)
  · next hge => rw [if_neg hge]; exact Or.inl (top_holds hne)

/-- A level is left only when it is no longer held. -/
theorem next_drops (hl : Levels levels) (prev : L) (reached held : L → Bool) {l : L}
    (hlt : next levels prev reached held < l) (hle : l ≤ prev) : held l = false := by
  rw [next] at hlt
  split at hlt
  · exact above_top hl hlt
  · next hge => exact absurd (hlt.trans_le hle) hge

/-- The new level is kept exactly if the reading settles. -/
theorem next_kept_iff (hl : Levels levels) (prev : L) (reached held : L → Bool) :
    Kept prev (next levels prev reached held) reached held ↔ Settles prev reached held := by
  rcases eq_or_ne prev ⊥ with rfl | hne
  · have hnext : next levels ⊥ reached held = top levels reached := if_neg not_lt_bot
    refine ⟨fun _ => Or.inl rfl, fun _ => ⟨fun h => ?_, fun l hl' hr => ?_, fun l h hle => ?_⟩⟩
    · rw [hnext] at h ⊢
      exact top_holds h.ne'
    · rw [hnext]
      exact le_top hl hl' hr
    · exact next_drops hl _ _ _ h hle
  by_cases hup : ∃ l, prev ≤ l ∧ reached l = true
  · have hge : ¬ top levels reached < prev := fun h => (top_lt_iff hl hne).mp h hup
    have hnext : next levels prev reached held = top levels reached := if_neg hge
    refine ⟨fun _ => Or.inr (Or.inl hup), fun _ => ⟨fun h => ?_, fun l hl' hr => ?_, fun l h hle => ?_⟩⟩
    · rw [hnext] at h ⊢
      exact top_holds (bot_le.trans_lt h).ne'
    · rw [hnext]
      exact le_top hl hl' hr
    · exact next_drops hl _ _ _ h hle
  have hlt := (top_lt_iff hl hne).mpr hup
  have hnext : next levels prev reached held = top levels held := if_pos hlt
  constructor
  · rintro ⟨hrises, hcovers, -⟩
    rw [hnext] at hrises hcovers
    have hnot : ¬ prev < top levels held := fun h => hup ⟨_, h.le, hrises h⟩
    refine Or.inr (Or.inr ⟨fun l h => above_top hl ((not_lt.mp hnot).trans_lt h), fun l hl' hr => ?_⟩)
    have hle := hcovers l hl' hr
    refine ⟨_, hle, top_holds fun hbot => hl' (le_bot_iff.mp (hbot ▸ hle))⟩
  · intro hs
    obtain ⟨habove, hgap⟩ := (hs.resolve_left hne).resolve_left hup
    refine ⟨fun h => ?_, fun l hl' hr => ?_, fun l h hle => next_drops hl _ _ _ h hle⟩
    · rw [hnext] at h
      have hheld := top_holds (bot_le.trans_lt h).ne'
      exact absurd hheld (by rw [habove _ h]; decide)
    · rw [hnext]
      obtain ⟨m, hle, hm⟩ := hgap l hl' hr
      exact hle.trans (le_top hl (fun hbot => hl' (le_bot_iff.mp (hbot ▸ hle))) hm)

/-- The same for a system that says in its own terms what it is to be reached (`R`) and to be left (`D`). -/
theorem next_means_iff (hl : Levels levels) (prev : L) (reached held : L → Bool) {R D : L → Prop}
    (hreached : ∀ l, reached l = true ↔ R l)
    (hleft : ∀ l, l ≠ ⊥ → l ≤ prev → held l = false → D l) :
    ((prev < next levels prev reached held → R (next levels prev reached held)) ∧
      (∀ l ≠ ⊥, R l → l ≤ next levels prev reached held) ∧
      ∀ l, next levels prev reached held < l → l ≤ prev → D l) ↔ Settles prev reached held := by
  rw [← next_kept_iff hl]
  constructor
  · rintro ⟨hrises, hcovers, -⟩
    exact ⟨fun h => (hreached _).mpr (hrises h), fun l hne hr => hcovers l hne ((hreached l).mp hr),
      fun l h hle => next_drops hl _ _ _ h hle⟩
  · rintro ⟨hrises, hcovers, hdrops⟩
    refine ⟨fun h => (hreached _).mp (hrises h), fun l hne hr => hcovers l hne ((hreached l).mpr hr), ?_⟩
    exact fun l hlt hle => hleft l (bot_le.trans_lt hlt).ne' hle (hdrops l hlt hle)

/-- Where every level reached is held and no level reaches down below the one before it, every reading
    settles. -/
theorem settles_of_apart {prev : L} {reached held : L → Bool}
    (hheld : ∀ l, reached l = true → held l = true)
    (hapart : ∀ l, prev < l → held l = true → reached prev = true) : Settles prev reached held := by
  by_cases hup : ∃ l, prev ≤ l ∧ reached l = true
  · exact Or.inr (Or.inl hup)
  · refine Or.inr (Or.inr ⟨fun l h => ?_, fun l _ hr => ⟨l, le_rfl, hheld l hr⟩⟩)
    by_contra hh
    exact hup ⟨prev, le_rfl, hapart l h (by simpa using hh)⟩

end ImxHal.Hysteresis
