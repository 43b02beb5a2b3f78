import Mathlib.Data.List.Basic
import Mathlib.Tactic

/-! @scheme exchange | family:lists

    Two elements of a list trade places. A pass that moves the last `b` behind the last `a` this way puts an
    `a` before every `b` when there is one `b` only; an earlier `b` stays where it is:

        · b · a ·   ⟶   · a · b ·              b · b · a ·   ⟶   b · a · b ·   -/

namespace ImxHal.Exchange

variable {α : Type}

/-- Two elements trade places. -/
def exchange (l : List α) (i j : ℕ) : List α :=
  match l[i]?, l[j]? with
  | some x, some y => (l.set i y).set j x
  | _, _ => l

/-- Some `a` comes before every `b`. -/
def Before (a b : α) (l : List α) : Prop := ∃ k, a ∈ l.take k ∧ b ∉ l.take k

/-! ### Exchanged lists -/

theorem exchange_eq {l : List α} {i j : ℕ} (hi : i < l.length) (hj : j < l.length) :
    exchange l i j = (l.set i l[j]).set j l[i] := by
  simp [exchange, hi, hj]

@[simp] theorem exchange_self (l : List α) (i : ℕ) : exchange l i i = l := by
  by_cases hi : i < l.length
  · rw [exchange_eq hi hi, List.set_getElem_self hi, List.set_getElem_self hi]
  · simp [exchange, List.getElem?_eq_none (Nat.not_lt.mp hi)]

theorem exchange_perm (l : List α) (i j : ℕ) : (exchange l i j).Perm l := by
  by_cases h : i < l.length ∧ j < l.length
  · rw [exchange_eq h.1 h.2]
    exact List.set_set_perm h.1 h.2
  · rw [exchange]
    rcases not_and_or.mp h with h | h
    · simp [List.getElem?_eq_none (Nat.not_lt.mp h)]
    · cases l[i]? <;> simp [List.getElem?_eq_none (Nat.not_lt.mp h)]

@[simp] theorem length_exchange (l : List α) (i j : ℕ) : (exchange l i j).length = l.length :=
  (exchange_perm l i j).length_eq

theorem getElem?_exchange {l : List α} {i j : ℕ} (hi : i < l.length) (hj : j < l.length) (k : ℕ) :
    (exchange l i j)[k]? = l[Equiv.swap i j k]? := by
  rw [exchange_eq hi hj]
  by_cases hkj : k = j
  · subst hkj
    rw [Equiv.swap_apply_right]
    simp [hi, hj]
  · by_cases hki : k = i
    · subst hki
      rw [Equiv.swap_apply_left, List.getElem?_set_ne (Ne.symm hkj)]
      simp [hi, hj]
    · rw [Equiv.swap_apply_of_ne_of_ne hki hkj, List.getElem?_set_ne (Ne.symm hkj),
        List.getElem?_set_ne (Ne.symm hki)]

/-- What stands before both places stays. -/
theorem take_exchange {l : List α} {i j k : ℕ} (hki : k ≤ i) (hkj : k ≤ j) :
    (exchange l i j).take k = l.take k := by
  by_cases h : i < l.length ∧ j < l.length
  · rw [exchange_eq h.1 h.2, List.take_set_of_le hkj, List.take_set_of_le hki]
  · rw [exchange]
    rcases not_and_or.mp h with h | h
    · simp [List.getElem?_eq_none (Nat.not_lt.mp h)]
    · cases l[i]? <;> simp [List.getElem?_eq_none (Nat.not_lt.mp h)]

/-- Padding stays behind. -/
theorem exchange_append {l pad : List α} {i j : ℕ} (hi : i < l.length) (hj : j < l.length) :
    exchange (l ++ pad) i j = exchange l i j ++ pad := by
  rw [exchange_eq hi hj, exchange_eq (by simp; omega) (by simp; omega)]
  simp [hi, hj]

/-! ### Order -/

theorem mem_take_iff {l : List α} {a : α} {k : ℕ} : a ∈ l.take k ↔ ∃ i : ℕ, i < k ∧ l[i]? = some a := by
  rw [List.mem_iff_getElem?]
  constructor
  · rintro ⟨i, hi⟩
    have hik : i < k := by
      by_contra hle
      simp [hle] at hi
    rw [List.getElem?_take, if_pos hik] at hi
    exact ⟨i, hik, hi⟩
  · rintro ⟨i, hik, hi⟩
    exact ⟨i, by rw [List.getElem?_take, if_pos hik, hi]⟩

/-- The order by places. -/
theorem before_iff {a b : α} {l : List α} :
    Before a b l ↔ ∃ i : ℕ, l[i]? = some a ∧ ∀ j : ℕ, l[j]? = some b → i < j := by
  constructor
  · rintro ⟨k, ha, hb⟩
    obtain ⟨i, hik, hi⟩ := mem_take_iff.mp ha
    refine ⟨i, hi, fun j hj => ?_⟩
    by_contra hle
    exact hb (mem_take_iff.mpr ⟨j, by omega, hj⟩)
  · rintro ⟨i, hi, hlt⟩
    refine ⟨i + 1, mem_take_iff.mpr ⟨i, Nat.lt_succ_self i, hi⟩, fun hb => ?_⟩
    obtain ⟨j, hji, hj⟩ := mem_take_iff.mp hb
    have hij := hlt j hj
    omega

/-- Every element is found at its new place. -/
theorem getElem?_exchange_swap {l : List α} {m n : ℕ} (hm : m < l.length) (hn : n < l.length) (k : ℕ) :
    (exchange l m n)[Equiv.swap m n k]? = l[k]? := by
  rw [getElem?_exchange hm hn, Equiv.swap_apply_self]

/-- The order by places before an exchange. -/
theorem before_exchange_iff {a b : α} {l : List α} {m n : ℕ} (hm : m < l.length) (hn : n < l.length) :
    Before a b (exchange l m n) ↔
      ∃ i : ℕ, l[i]? = some a ∧ ∀ j : ℕ, l[j]? = some b → Equiv.swap m n i < Equiv.swap m n j := by
  have hget := getElem?_exchange_swap hm hn
  rw [before_iff]
  constructor
  · rintro ⟨i, hi, hlt⟩
    rw [getElem?_exchange hm hn] at hi
    refine ⟨_, hi, fun j hj => ?_⟩
    rw [Equiv.swap_apply_self]
    exact hlt _ ((hget j).trans hj)
  · rintro ⟨i, hi, hlt⟩
    refine ⟨Equiv.swap m n i, (hget i).trans hi, fun j hj => ?_⟩
    rw [getElem?_exchange hm hn] at hj
    have hij := hlt _ hj
    rwa [Equiv.swap_apply_self] at hij

/-! ### The last ones -/

/-- There is at most one `a`. -/
def AtMostOnce (a : α) (l : List α) : Prop := ∀ i j : ℕ, l[i]? = some a → l[j]? = some a → i = j

/-- The place of the last `a`. -/
def LastAt (a : α) (l : List α) (i : ℕ) : Prop := l[i]? = some a ∧ ∀ j : ℕ, l[j]? = some a → j ≤ i

theorem LastAt.lt_length {a : α} {l : List α} {i : ℕ} (h : LastAt a l i) : i < l.length :=
  (List.getElem?_eq_some_iff.mp h.1).1

theorem exists_lastAt {a : α} {l : List α} (h : a ∈ l) : ∃ i, LastAt a l i := by
  induction l using List.reverseRecOn with
  | nil => exact absurd h List.not_mem_nil
  | append_singleton l x ih =>
    by_cases hx : x = a
    · refine ⟨l.length, by simp [hx], fun j hj => ?_⟩
      have hlt := (List.getElem?_eq_some_iff.mp hj).1
      rw [List.length_append, List.length_singleton] at hlt
      omega
    · have hl : a ∈ l := by
        rcases List.mem_append.mp h with h | h
        · exact h
        · exact absurd (List.mem_singleton.mp h).symm hx
      obtain ⟨i, hi⟩ := ih hl
      refine ⟨i, by rw [List.getElem?_append_left hi.lt_length, hi.1], fun j hj => ?_⟩
      rw [List.getElem?_append] at hj
      split_ifs at hj with hlt
      · exact hi.2 j hj
      · simp only [List.getElem?_singleton] at hj
        split_ifs at hj
        exact absurd (Option.some.inj hj) hx

theorem atMostOnce_exchange_iff {a : α} {l : List α} {m n : ℕ} (hm : m < l.length) (hn : n < l.length) :
    AtMostOnce a (exchange l m n) ↔ AtMostOnce a l := by
  have hget := getElem?_exchange_swap hm hn
  constructor
  · intro h i j hi hj
    exact (Equiv.swap m n).injective (h _ _ ((hget i).trans hi) ((hget j).trans hj))
  · intro h i j hi hj
    rw [getElem?_exchange hm hn] at hi hj
    exact (Equiv.swap m n).injective (h _ _ hi hj)

/-- The last ones stand in order: what is left to ask is whether there is one `b` only. -/
theorem before_of_lastAt {a b : α} {l : List α} {i j : ℕ} (hi : LastAt a l i) (hj : LastAt b l j)
    (hij : i < j) (hone : AtMostOnce b l) : Before a b l := by
  rw [before_iff]
  refine ⟨i, hi.1, fun k hk => ?_⟩
  rw [hone k j hk hj.1]
  exact hij

/-- The last ones trade places: the only `b` moves behind an `a`. -/
theorem before_exchange_of_once {a b : α} {l : List α} {i j : ℕ} (hi : LastAt a l i)
    (hj : LastAt b l j) (hji : j < i) (hone : AtMostOnce b l) : Before a b (exchange l j i) := by
  rw [before_exchange_iff hj.lt_length hi.lt_length]
  refine ⟨i, hi.1, fun k hk => ?_⟩
  rw [hone k j hk hj.1, Equiv.swap_apply_left, Equiv.swap_apply_right]
  exact hji

/-- The last ones trade places: an earlier `b` decides as before. -/
theorem before_exchange_of_twice {a b : α} {l : List α} {i j : ℕ} (hj : LastAt b l j) (hji : j < i)
    (htwice : ¬ AtMostOnce b l) : Before a b (exchange l j i) ↔ Before a b l := by
  -- A `b` in front of the last one.
  obtain ⟨k, hk, hkj⟩ : ∃ k : ℕ, l[k]? = some b ∧ k < j := by
    by_contra hnone
    refine htwice fun p q hp hq => ?_
    have hlast (r : ℕ) (hr : l[r]? = some b) : r = j := by
      by_contra hne
      exact hnone ⟨r, hr, lt_of_le_of_ne (hj.2 r hr) hne⟩
    rw [hlast p hp, hlast q hq]
  have hshort {l' : List α} (htake : l'.take j = l.take j) (n : ℕ) (hb : b ∉ l'.take n) : n ≤ j := by
    by_contra hlt
    refine hb (List.mem_of_mem_take (i := j) ?_)
    rw [List.take_take, min_eq_left (by omega), htake]
    exact mem_take_iff.mpr ⟨k, hkj, hk⟩
  constructor
  · rintro ⟨n, ha, hb⟩
    have hn := hshort (take_exchange le_rfl hji.le) n hb
    rw [take_exchange hn (hn.trans hji.le)] at ha hb
    exact ⟨n, ha, hb⟩
  · rintro ⟨n, ha, hb⟩
    have hn := hshort rfl n hb
    rw [← take_exchange hn (hn.trans hji.le)] at ha hb
    exact ⟨n, ha, hb⟩

end ImxHal.Exchange
