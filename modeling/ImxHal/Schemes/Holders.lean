import Mathlib.Data.List.Basic
import Mathlib.Tactic

/-! @scheme exclusive holders | family:resources

    Every holder has at most one resource, and no two holders have the same one. A step that changes what one
    holder has keeps that exactly if no other holder has the new resource:

        held :  ι ──▶ Option κ          i ↦ none      has nothing
                                        i ↦ some k    has `k` -/

namespace ImxHal.Holders

variable {ι κ : Type} {held held' : ι → Option κ}

/-- No two holders have the same resource. -/
def Exclusive (held : ι → Option κ) : Prop := ∀ i j k, held i = some k → held j = some k → i = j

/-- Giving resources up keeps the others exclusive. -/
theorem Exclusive.mono (h : Exclusive held) (hle : ∀ i k, held' i = some k → held i = some k) :
    Exclusive held' := fun i j k hi hj => h i j k (hle i k hi) (hle j k hj)

/-- One holder changes its resource, the others at most give theirs up. -/
theorem exclusive_iff {i : ι} (h : Exclusive held)
    (hothers : ∀ j, j ≠ i → ∀ k, held' j = some k → held j = some k) :
    Exclusive held' ↔ ∀ j, j ≠ i → ∀ k, held' i = some k → held' j ≠ some k := by
  constructor
  · rintro h' j hne k hi hj
    exact hne (h' j i k hj hi)
  · rintro hfree j j' k hj hj'
    by_contra hne
    rcases eq_or_ne j i with rfl | hji
    · exact hfree j' (Ne.symm hne) k hj hj'
    · rcases eq_or_ne j' i with rfl | hji'
      · exact hfree j hji k hj' hj
      · exact hne (h j j' k (hothers j hji k hj) (hothers j' hji' k hj'))

/-! ### Holders in a list -/

section Lists
variable {α : Type} {key : α → Option κ} {l : List α} {i : ℕ} {f : α → α}

/-- What the holder at a position of the list has. -/
def heldAt (key : α → Option κ) (l : List α) (i : ℕ) : Option κ := l[i]?.bind key

theorem heldAt_eq_some {k : κ} : heldAt key l i = some k ↔ ∃ a, l[i]? = some a ∧ key a = some k := by
  rw [heldAt, Option.bind_eq_some_iff]

theorem heldAt_modify_ne {j : ℕ} (h : j ≠ i) : heldAt key (l.modify i f) j = heldAt key l j := by
  rw [heldAt, heldAt, List.getElem?_modify_ne f l h.symm]

theorem heldAt_modify_self : heldAt key (l.modify i f) i = l[i]?.bind fun a => key (f a) := by
  rw [heldAt, List.getElem?_modify_eq]
  cases l[i]? <;> rfl

/-- A new holder that has nothing. -/
theorem heldAt_concat {a : α} (ha : key a = none) : heldAt key (l ++ [a]) = heldAt key l := by
  funext j
  rw [heldAt, heldAt]
  rcases lt_trichotomy j l.length with hlt | rfl | hgt
  · rw [List.getElem?_append_left hlt]
  · rw [List.getElem?_concat_length, List.getElem?_eq_none le_rfl]
    exact ha
  · have hlen : (l ++ [a]).length ≤ j := by
      rw [List.length_append, List.length_singleton]
      omega
    rw [List.getElem?_eq_none hlen, List.getElem?_eq_none hgt.le]

/-- Every holder changes, but keeps its resource or gives it up. -/
theorem heldAt_map (hf : ∀ a k, key (f a) = some k → key a = some k) {j : ℕ} {k : κ}
    (h : heldAt key (l.map f) j = some k) : heldAt key l j = some k := by
  obtain ⟨b, hb, hk⟩ := heldAt_eq_some.mp h
  rw [List.getElem?_map, Option.map_eq_some_iff] at hb
  obtain ⟨a, ha, rfl⟩ := hb
  exact heldAt_eq_some.mpr ⟨a, ha, hf a k hk⟩

/-! ### The first holder that matches -/

/-- The first element that matches, with its position. -/
def locate (p : α → Bool) (l : List α) : Option (ℕ × α) :=
  (l.findIdx? p).bind fun i => l[i]?.map fun a => (i, a)

theorem locate_eq_some {p : α → Bool} {a : α} (h : locate p l = some (i, a)) :
    l[i]? = some a ∧ p a = true := by
  rw [locate, Option.bind_eq_some_iff] at h
  obtain ⟨j, hj, hget⟩ := h
  rw [Option.map_eq_some_iff] at hget
  obtain ⟨b, hb, hpair⟩ := hget
  obtain ⟨rfl, rfl⟩ := Prod.mk.inj hpair
  obtain ⟨hlt, hp, -⟩ := List.findIdx?_eq_some_iff_getElem.mp hj
  rw [List.getElem?_eq_getElem hlt] at hb
  exact ⟨(List.getElem?_eq_getElem hlt).trans hb, by rwa [← Option.some.inj hb]⟩

/-- The elements in front do not match. -/
theorem locate_eq_some_iff {p : α → Bool} {a : α} : locate p l = some (i, a) ↔
    l[i]? = some a ∧ p a = true ∧ ∀ j < i, ∀ b, l[j]? = some b → p b = false := by
  constructor
  · intro h
    obtain ⟨hget, hp⟩ := locate_eq_some h
    refine ⟨hget, hp, fun j hj b hb => ?_⟩
    rw [locate, Option.bind_eq_some_iff] at h
    obtain ⟨i', hi', hpair⟩ := h
    obtain ⟨b', -, heq⟩ := Option.map_eq_some_iff.mp hpair
    obtain ⟨rfl, -⟩ := Prod.mk.inj heq
    obtain ⟨hlt, -, hfront⟩ := List.findIdx?_eq_some_iff_getElem.mp hi'
    have hne := hfront j hj
    rw [List.getElem?_eq_getElem (hj.trans hlt)] at hb
    rw [Option.some.inj hb] at hne
    simpa using hne
  · rintro ⟨hget, hp, hfront⟩
    obtain ⟨hlt, hval⟩ := List.getElem?_eq_some_iff.mp hget
    have hfind : l.findIdx? p = some i := by
      refine List.findIdx?_eq_some_iff_getElem.mpr ⟨hlt, by rwa [hval], fun j hj => ?_⟩
      rw [hfront j hj _ (List.getElem?_eq_getElem (hj.trans hlt))]
      simp
    rw [locate, hfind, Option.bind_some, hget]
    rfl

/-- A change of the found element that still matches. -/
theorem locate_modify {p : α → Bool} {a : α} (h : locate p l = some (i, a)) (hp : p (f a) = true) :
    locate p (l.modify i f) = some (i, f a) := by
  obtain ⟨hget, -, hfront⟩ := locate_eq_some_iff.mp h
  refine locate_eq_some_iff.mpr ⟨by rw [List.getElem?_modify_eq, hget]; rfl, hp, fun j hj b hb => ?_⟩
  rw [List.getElem?_modify_ne f l (by omega)] at hb
  exact hfront j hj b hb

theorem modify_fixed {a : α} (hget : l[i]? = some a) (hf : f a = a) : l.modify i f = l := by
  refine List.ext_getElem? fun j => ?_
  rcases eq_or_ne j i with rfl | hne
  · rw [List.getElem?_modify_eq, hget]
    exact congrArg some hf
  · rw [List.getElem?_modify_ne f l hne.symm]

theorem locate_eq_none {p : α → Bool} : locate p l = none ↔ ∀ a ∈ l, p a = false := by
  rw [← List.findIdx?_eq_none_iff, locate]
  rcases hfind : l.findIdx? p with _ | i
  · simp
  · obtain ⟨hlt, -⟩ := List.findIdx?_eq_some_iff_getElem.mp hfind
    simp [hlt]

end Lists

end ImxHal.Holders
