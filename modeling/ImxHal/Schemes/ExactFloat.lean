import Mathlib.Data.Rat.Defs
import Mathlib.Algebra.Order.Ring.Rat
import Mathlib.Tactic

/-! @scheme exact-float | family:number formats

    Floating-point numbers without rounding: the finite values are rationals, and the two infinities and
    NaN behave as in IEEE 754, so that every comparison with NaN is false and `∞ - ∞` is NaN. -/

namespace ImxHal

inductive Num where
  | nan
  | negInf
  | fin (q : ℚ)
  | posInf
  deriving DecidableEq

namespace Num

def isnan : Num → Bool
  | nan => true
  | _ => false

def le : Num → Num → Bool
  | nan, _ | _, nan => false
  | negInf, _ | _, posInf => true
  | _, negInf | posInf, _ => false
  | fin a, fin b => decide (a ≤ b)

def lt (a b : Num) : Bool := a.le b && !b.le a

def neg : Num → Num
  | nan => nan
  | negInf => posInf
  | fin q => fin (-q)
  | posInf => negInf

def add : Num → Num → Num
  | nan, _ | _, nan => nan
  | negInf, posInf | posInf, negInf => nan
  | negInf, _ | _, negInf => negInf
  | posInf, _ | _, posInf => posInf
  | fin a, fin b => fin (a + b)

def sub (a b : Num) : Num := a.add b.neg

theorem le_trans {a b c : Num} (hab : a.le b = true) (hbc : b.le c = true) : a.le c = true := by
  cases a <;> cases b <;> cases c <;> simp_all [le]
  exact hab.trans hbc

/-- Two numbers are comparable. -/
theorem le_of_not_lt {a b : Num} (ha : a.isnan = false) (hb : b.isnan = false) (h : b.lt a = false) :
    a.le b = true := by
  cases a <;> cases b <;> simp_all [le, lt, isnan]
  exact (le_total _ _).elim id h

/-- What lies between a finite number and one that is not `-∞` is finite. -/
theorem fin_of_between {a b : Num} {q : ℚ} (ha : a.le b = true) (hb : b.le (fin q) = true)
    (hne : ∃ r, a = fin r) : ∃ r, b = fin r := by
  obtain ⟨r, rfl⟩ := hne
  cases b <;> simp_all [le]

end Num

end ImxHal
