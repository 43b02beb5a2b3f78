import Mathlib.Data.List.AList
import Mathlib.Tactic

/-! @scheme ledger | family:resource ownership

    Resources are numbered in the order they are handed out, so `next` of them exist. A ledger is
    the list of all places a resource can be in; it is balanced when every resource handed out is in
    exactly one place, once: nothing is leaked, and nothing is released twice. Places that are maps
    of resource lists are read off their entries by `flat`. -/

namespace ImxHal.Ledger

/-- Every resource handed out so far is in exactly one place, and nothing else is. -/
def Balanced (places : List ℕ) (next : ℕ) : Prop :=
  ∀ h, places.count h = if h < next then 1 else 0

theorem balanced_nil : Balanced [] 0 := fun h => by simp

/-- The resources `next .. next + n - 1`, each once. -/
theorem count_range' (next n h : ℕ) :
    (List.range' next n).count h = if next ≤ h ∧ h < next + n then 1 else 0 := by
  by_cases hm : h ∈ List.range' next n
  · rw [List.count_eq_one_of_mem List.nodup_range' hm]
    rw [List.mem_range'_1] at hm
    rw [if_pos hm]
  · rw [List.count_eq_zero_of_not_mem hm]
    rw [List.mem_range'_1] at hm
    rw [if_neg hm]

/-- Handing out `n` new resources keeps the ledger balanced. -/
theorem balanced_alloc {places : List ℕ} {next : ℕ} (n : ℕ) (hb : Balanced places next) :
    Balanced (List.range' next n ++ places) (next + n) := by
  intro h
  rw [List.count_append, count_range', hb h]
  by_cases h₁ : h < next
  · rw [if_neg (by omega), if_pos h₁, if_pos (by omega)]
  · by_cases h₂ : h < next + n
    · rw [if_pos ⟨by omega, h₂⟩, if_neg h₁, if_pos h₂]
    · rw [if_neg (by omega), if_neg h₁, if_neg h₂]

/-- Moving resources between places keeps the ledger balanced. -/
theorem balanced_congr {places places' : List ℕ} {next : ℕ} (hb : Balanced places next)
    (hc : ∀ h, places'.count h = places.count h) : Balanced places' next :=
  fun h => (hc h).trans (hb h)

/-- A ledger that has lost resources is not balanced. -/
theorem lost_eq_nil {places places' lost : List ℕ} {next : ℕ} (hb : Balanced places next)
    (hc : ∀ h, places'.count h + lost.count h = places.count h) (hb' : Balanced places' next) :
    lost = [] := by
  rw [List.eq_nil_iff_forall_not_mem]
  intro h hm
  have h₁ := List.count_pos_iff.mpr hm
  have h₂ := hc h
  rw [hb h, hb' h] at h₂
  omega

/-- In a balanced ledger no resource is in two places. -/
theorem balanced_disjoint {p q : List ℕ} {next h : ℕ} (hb : Balanced (p ++ q) next) (hp : h ∈ p) :
    h ∉ q := by
  intro hq
  have h₁ := hb h
  have h₂ := List.count_pos_iff.mpr hp
  have h₃ := List.count_pos_iff.mpr hq
  rw [List.count_append] at h₁
  split at h₁ <;> omega

section Maps

variable {κ ν : Type} [DecidableEq κ]

/-- `std::unordered_map::emplace`: an existing key is left as it is. -/
def emplace (m : AList fun _ : κ => ν) (k : κ) (v : ν) : AList fun _ : κ => ν :=
  if k ∈ m then m else m.insert k v

/-- All resources in a map of resource lists. -/
def flat (f : ν → List ℕ) (m : AList fun _ : κ => ν) : List ℕ := m.entries.flatMap fun e => f e.2

theorem flat_insert {m : AList fun _ : κ => ν} (f : ν → List ℕ) {k : κ} (v : ν)
    (h : m.lookup k = none) : flat f (m.insert k v) = f v ++ flat f m := by
  rw [flat, AList.entries_insert_of_notMem (AList.lookup_eq_none.mp h), List.flatMap_cons, flat]

theorem count_flat_insert (f : ν → List ℕ) (m : AList fun _ : κ => ν) (k : κ) (v : ν) (x : ℕ) :
    (flat f (m.insert k v)).count x = (f v).count x + (flat f (m.erase k)).count x := by
  rw [flat, AList.entries_insert, List.flatMap_cons, List.count_append]
  rfl

/-- Erasing a key takes its resources out of the map. -/
theorem flat_erase {m : AList fun _ : κ => ν} (f : ν → List ℕ) {k : κ} {v : ν}
    (h : m.lookup k = some v) (x : ℕ) :
    (flat f m).count x = (f v).count x + (flat f (m.erase k)).count x := by
  have hk : k ∈ m.entries.keys := AList.lookup_isSome.mp (by rw [h]; rfl)
  obtain ⟨b, l₁, l₂, hl₁, hl, he⟩ := List.exists_of_kerase hk
  have hb : b = v := by
    have h₂ : m.entries.dlookup k = some v := h
    rw [hl, List.dlookup_append, List.dlookup_eq_none.mpr hl₁] at h₂
    simpa using h₂
  have hm : (m.erase k).entries = l₁ ++ l₂ := he
  rw [flat, flat, hl, hm, hb]
  simp only [List.flatMap_append, List.flatMap_cons, List.count_append]
  omega

theorem lookup_emplace_of_none {m : AList fun _ : κ => ν} {k : κ} (v : ν) (h : m.lookup k = none) :
    emplace m k v = m.insert k v :=
  if_neg (AList.lookup_eq_none.mp h)

theorem emplace_of_some {m : AList fun _ : κ => ν} {k : κ} {w : ν} (v : ν)
    (h : m.lookup k = some w) : emplace m k v = m :=
  if_pos (AList.lookup_isSome.mp (by rw [h]; rfl))

end Maps

end ImxHal.Ledger
