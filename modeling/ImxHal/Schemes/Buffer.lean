import Mathlib.Data.List.Basic
import Mathlib.Tactic

/-! @scheme buffer | family:memory

    A buffer of fixed length that is written piece by piece. A write beyond the end changes only what is
    inside, and is remembered:

        pre │ old │ post   ── memcpy at pre.length ──▶   pre │ src │ post      (|old| = |src|) -/

namespace ImxHal.Buffer

variable {α : Type}

structure Buf (α : Type) where
  bytes : List α
  wild : Bool

/-- Writes `src` at `off`. -/
def Buf.memcpy (b : Buf α) (off : ℕ) (src : List α) : Buf α :=
  ⟨(b.bytes.take off ++ src ++ b.bytes.drop (off + src.length)).take b.bytes.length,
    b.wild || decide (b.bytes.length < off + src.length)⟩

@[simp] theorem memcpy_length (b : Buf α) (off : ℕ) (src : List α) :
    (b.memcpy off src).bytes.length = b.bytes.length := by
  simp [Buf.memcpy]
  omega

/-- A write replaces what stood in its place. -/
theorem memcpy_mid (pre old post src : List α) (w : Bool) (off : ℕ) (hoff : off = pre.length)
    (hlen : old.length = src.length) :
    (⟨pre ++ old ++ post, w⟩ : Buf α).memcpy off src = ⟨pre ++ src ++ post, w⟩ := by
  subst hoff
  have htake : (pre ++ old ++ post).take pre.length = pre := by
    rw [List.append_assoc, List.take_left]
  have hdrop : (pre ++ old ++ post).drop (pre.length + src.length) = post := by
    rw [← hlen, ← List.length_append, List.drop_left]
  simp only [Buf.memcpy, htake, hdrop]
  rw [List.take_of_length_le (by simp [hlen])]
  simp [hlen]

/-- What lies before a write is left alone. -/
theorem take_memcpy (b : Buf α) {k off : ℕ} (src : List α) (hk : k ≤ off)
    (hoff : off ≤ b.bytes.length) : (b.memcpy off src).bytes.take k = b.bytes.take k := by
  rw [Buf.memcpy, List.take_take, Nat.min_eq_left (hk.trans hoff), List.append_assoc,
    List.take_append_of_le_length (by simp; omega), List.take_take, Nat.min_eq_left hk]

theorem wild_memcpy (b : Buf α) (off : ℕ) (src : List α) :
    (b.memcpy off src).wild = true ↔ b.wild = true ∨ b.bytes.length < off + src.length := by
  simp [Buf.memcpy]

end ImxHal.Buffer
