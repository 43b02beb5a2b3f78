import Mathlib.Data.List.Pairwise
import Mathlib.Order.Basic
import Mathlib.Tactic

/-! @scheme sorted-map | family:containers

    An ordered map is the list of its entries in ascending order of their keys. A range of keys is what a
    walk meets between two lower bounds:

        (k₁, v₁)   (k₂, v₂)   (k₃, v₃)   (k₄, v₄)        k₁ < k₂ < k₃ < k₄
                   ▲                     ▲
                   lower bound of lo     lower bound of hi -/

namespace ImxHal

/-- The entries of a map, each key once and in ascending order. -/
structure SortedMap (κ ν : Type) [LinearOrder κ] where
  entries : List (κ × ν)
  ascending : entries.Pairwise fun e f => e.1 < f.1

namespace SortedMap

variable {κ ν : Type} [LinearOrder κ]

/-! ### Operations -/

def empty : SortedMap κ ν := ⟨[], List.Pairwise.nil⟩

def find? (m : SortedMap κ ν) (k : κ) : Option ν := (m.entries.find? fun e => e.1 = k).map (·.2)

/-- The entry goes in front of the first larger key, or takes the place of its own. -/
def insertEntry (k : κ) (v : ν) : List (κ × ν) → List (κ × ν)
  | [] => [(k, v)]
  | e :: es => if k < e.1 then (k, v) :: e :: es else if k = e.1 then (k, v) :: es else e :: insertEntry k v es

theorem mem_insertEntry {k : κ} {v : ν} {es : List (κ × ν)} {f : κ × ν} (h : f ∈ insertEntry k v es) :
    f = (k, v) ∨ f ∈ es := by
  induction es with
  | nil => exact Or.inl (by simpa [insertEntry] using h)
  | cons e es ih =>
    rw [insertEntry] at h
    split_ifs at h
    · exact List.mem_cons.mp h
    · exact (List.mem_cons.mp h).imp_right (List.mem_cons_of_mem e)
    · rcases List.mem_cons.mp h with rfl | h
      · exact Or.inr List.mem_cons_self
      · exact (ih h).imp_right (List.mem_cons_of_mem e)

theorem ascending_insertEntry (k : κ) (v : ν) {es : List (κ × ν)}
    (h : es.Pairwise fun e f => e.1 < f.1) : (insertEntry k v es).Pairwise fun e f => e.1 < f.1 := by
  induction es with
  | nil => exact List.pairwise_singleton _ _
  | cons e es ih =>
    obtain ⟨hlt, hes⟩ := List.pairwise_cons.mp h
    rw [insertEntry]
    split_ifs with hk heq
    · refine List.pairwise_cons.mpr ⟨fun f hf => ?_, h⟩
      rcases List.mem_cons.mp hf with rfl | hf
      · exact hk
      · exact hk.trans (hlt f hf)
    · exact List.pairwise_cons.mpr ⟨fun f hf => heq ▸ hlt f hf, hes⟩
    · refine List.pairwise_cons.mpr ⟨fun f hf => ?_, ih hes⟩
      rcases mem_insertEntry hf with rfl | hf
      · exact lt_of_le_of_ne (not_lt.mp hk) (Ne.symm heq)
      · exact hlt f hf

def put (m : SortedMap κ ν) (k : κ) (v : ν) : SortedMap κ ν :=
  ⟨insertEntry k v m.entries, ascending_insertEntry k v m.ascending⟩

def erase (m : SortedMap κ ν) (k : κ) : SortedMap κ ν :=
  ⟨m.entries.filter fun e => e.1 ≠ k, m.ascending.filter _⟩

/-- What a walk from the first key that is not below `k` meets. -/
def lowerBound (m : SortedMap κ ν) (k : κ) : List (κ × ν) := m.entries.dropWhile fun e => e.1 < k

/-- The walk from one lower bound to another. -/
def range (m : SortedMap κ ν) (lo hi : κ) : List (κ × ν) := (m.lowerBound lo).takeWhile fun e => e.1 < hi

/-- What is left in front of the range and behind it. -/
def outside (m : SortedMap κ ν) (lo hi : κ) : List (κ × ν) :=
  (m.entries.takeWhile fun e => e.1 < lo) ++ (m.lowerBound lo).dropWhile fun e => e.1 < hi

theorem outside_sublist (m : SortedMap κ ν) (lo hi : κ) : (m.outside lo hi).Sublist m.entries := by
  have hback : ((m.lowerBound lo).dropWhile fun e => e.1 < hi).Sublist (m.lowerBound lo) :=
    List.dropWhile_sublist _
  have hall : (m.entries.takeWhile fun e => e.1 < lo) ++ m.lowerBound lo = m.entries :=
    List.takeWhile_append_dropWhile
  have happend := hback.append_left (m.entries.takeWhile fun e => e.1 < lo)
  rwa [hall] at happend

def eraseRange (m : SortedMap κ ν) (lo hi : κ) : SortedMap κ ν :=
  ⟨m.outside lo hi, m.ascending.sublist (m.outside_sublist lo hi)⟩

/-! ### Lookup -/

variable {m : SortedMap κ ν}

/-- An entry is what the lookup of its key finds. -/
theorem find?_eq_some {k : κ} {v : ν} : m.find? k = some v ↔ (k, v) ∈ m.entries := by
  obtain ⟨es, hasc⟩ := m
  simp only [find?]
  induction es with
  | nil => simp
  | cons e es ih =>
    obtain ⟨hlt, hes⟩ := List.pairwise_cons.mp hasc
    by_cases hk : e.1 = k
    · rw [List.find?_cons_of_pos (by simpa using hk), Option.map_some, Option.some.injEq, List.mem_cons]
      constructor
      · rintro rfl
        exact Or.inl (by rw [← hk])
      · rintro (heq | hmem)
        · rw [← heq]
        · exact absurd (hlt _ hmem) (by rw [hk]; exact lt_irrefl k)
    · rw [List.find?_cons_of_neg (by simpa using hk), ih hes, List.mem_cons]
      refine ⟨Or.inr, fun h => h.resolve_left fun heq => hk ?_⟩
      rw [← heq]

theorem find?_eq_none {k : κ} : m.find? k = none ↔ ∀ e ∈ m.entries, e.1 ≠ k := by
  simp [find?]

@[simp] theorem find?_empty (k : κ) : (empty : SortedMap κ ν).find? k = none := rfl

@[simp] theorem find?_put (m : SortedMap κ ν) (k q : κ) (v : ν) :
    (m.put k v).find? q = if q = k then some v else m.find? q := by
  obtain ⟨es, hasc⟩ := m
  simp only [find?, put]
  clear hasc
  induction es with
  | nil =>
    by_cases hq : q = k
    · subst hq
      simp [insertEntry]
    · simp [insertEntry, hq, Ne.symm hq]
  | cons e es ih =>
    simp only [insertEntry]
    by_cases hq : q = k
    · subst hq
      rw [if_pos rfl] at ih ⊢
      split_ifs with hk heq
      · simp
      · simp
      · rw [List.find?_cons_of_neg (by simpa using Ne.symm heq), ih]
    · rw [if_neg hq] at ih ⊢
      split_ifs with hk heq
      · rw [List.find?_cons_of_neg (by simpa using Ne.symm hq)]
      · rw [List.find?_cons_of_neg (by simpa using Ne.symm hq),
          List.find?_cons_of_neg (by simpa [← heq] using Ne.symm hq)]
      · by_cases he : e.1 = q
        · simp [he]
        · rw [List.find?_cons_of_neg (by simpa using he), List.find?_cons_of_neg (by simpa using he), ih]

/-- A walk over the map in which only one key counts. -/
theorem flatMap_entries {β : Type} (f : κ × ν → List β) (k : κ) (h : ∀ e ∈ m.entries, e.1 ≠ k → f e = []) :
    m.entries.flatMap f = ((m.find? k).map fun v => f (k, v)).getD [] := by
  obtain ⟨es, hasc⟩ := m
  simp only [find?] at h ⊢
  induction es with
  | nil => rfl
  | cons e es ih =>
    obtain ⟨hlt, hes⟩ := List.pairwise_cons.mp hasc
    have hrest : ∀ e' ∈ es, e'.1 ≠ k → f e' = [] := fun e' he' => h e' (List.mem_cons_of_mem e he')
    by_cases hk : e.1 = k
    · have hnil : es.flatMap f = [] := by
        refine List.flatMap_eq_nil_iff.mpr fun e' he' => hrest e' he' ?_
        rw [← hk]
        exact (hlt e' he').ne'
      rw [List.flatMap_cons, hnil, List.append_nil, List.find?_cons_of_pos (by simpa using hk)]
      simp [← hk]
    · rw [List.flatMap_cons, h e List.mem_cons_self hk, List.nil_append,
        List.find?_cons_of_neg (by simpa using hk)]
      exact ih hes hrest

@[simp] theorem find?_erase (m : SortedMap κ ν) (k q : κ) :
    (m.erase k).find? q = if q = k then none else m.find? q := by
  ext v
  rw [find?_eq_some]
  by_cases hq : q = k
  · simp [erase, hq]
  · rw [if_neg hq, find?_eq_some]
    simp [erase, hq]

/-! ### Ranges -/

theorem takeWhile_lt {es : List (κ × ν)} (h : es.Pairwise fun e f => e.1 < f.1) (k : κ) :
    (es.takeWhile fun e => e.1 < k) = es.filter fun e => e.1 < k := by
  induction es with
  | nil => rfl
  | cons e es ih =>
    obtain ⟨hlt, hes⟩ := List.pairwise_cons.mp h
    by_cases hk : e.1 < k
    · rw [List.takeWhile_cons_of_pos (by simpa using hk), List.filter_cons_of_pos (by simpa using hk), ih hes]
    · rw [List.takeWhile_cons_of_neg (by simpa using hk), List.filter_cons_of_neg (by simpa using hk),
        List.filter_eq_nil_iff.mpr]
      intro f hf
      simpa using (not_lt.mp hk).trans (hlt f hf).le

theorem dropWhile_lt {es : List (κ × ν)} (h : es.Pairwise fun e f => e.1 < f.1) (k : κ) :
    (es.dropWhile fun e => e.1 < k) = es.filter fun e => k ≤ e.1 := by
  induction es with
  | nil => rfl
  | cons e es ih =>
    obtain ⟨hlt, hes⟩ := List.pairwise_cons.mp h
    by_cases hk : e.1 < k
    · rw [List.dropWhile_cons_of_pos (by simpa using hk), List.filter_cons_of_neg (by simpa using hk), ih hes]
    · rw [List.dropWhile_cons_of_neg (by simpa using hk), List.filter_eq_self.mpr]
      intro f hf
      rcases List.mem_cons.mp hf with rfl | hf
      · simpa using hk
      · simpa using (not_lt.mp hk).trans (hlt f hf).le

theorem lowerBound_ascending (m : SortedMap κ ν) (k : κ) :
    (m.lowerBound k).Pairwise fun e f => e.1 < f.1 := m.ascending.sublist (List.dropWhile_sublist _)

/-- A range is what lies between its bounds, in order. -/
theorem range_eq_filter (m : SortedMap κ ν) (lo hi : κ) :
    m.range lo hi = m.entries.filter fun e => lo ≤ e.1 ∧ e.1 < hi := by
  rw [range, takeWhile_lt (m.lowerBound_ascending lo), lowerBound, dropWhile_lt m.ascending,
    List.filter_filter]
  congr 1
  funext e
  rw [Bool.decide_and, Bool.and_comm]

/-- Erasing a range whose bounds are in order drops the keys between them. -/
theorem find?_eraseRange (m : SortedMap κ ν) {lo hi : κ} (h : lo ≤ hi) (q : κ) :
    (m.eraseRange lo hi).find? q = if lo ≤ q ∧ q < hi then none else m.find? q := by
  have hmem : ∀ v, (q, v) ∈ (m.eraseRange lo hi).entries ↔ (q, v) ∈ m.entries ∧ (q < lo ∨ hi ≤ q) := by
    intro v
    change (q, v) ∈ m.outside lo hi ↔ _
    rw [outside, takeWhile_lt m.ascending, dropWhile_lt (m.lowerBound_ascending lo), lowerBound,
      dropWhile_lt m.ascending]
    simp only [List.mem_append, List.mem_filter, decide_eq_true_eq]
    constructor
    · rintro (⟨hq, hlo⟩ | ⟨⟨hq, -⟩, hhi⟩)
      · exact ⟨hq, Or.inl hlo⟩
      · exact ⟨hq, Or.inr hhi⟩
    · rintro ⟨hq, hlo | hhi⟩
      · exact Or.inl ⟨hq, hlo⟩
      · exact Or.inr ⟨⟨hq, h.trans hhi⟩, hhi⟩
  ext v
  rw [find?_eq_some, hmem]
  split_ifs with hin
  · obtain ⟨hlo, hhi⟩ := hin
    simp [not_lt.mpr hlo, not_le.mpr hhi]
  · rw [find?_eq_some, and_iff_left_iff_imp]
    intro _
    by_cases hlo : q < lo
    · exact Or.inl hlo
    · exact Or.inr (not_lt.mp fun hhi => hin ⟨not_lt.mp hlo, hhi⟩)

end SortedMap

end ImxHal
