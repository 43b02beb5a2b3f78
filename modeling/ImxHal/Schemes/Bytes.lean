import Mathlib.Data.List.Basic
import Mathlib.Tactic

/-! @scheme bytes | family:data formats

    32-bit words as they stand in memory and in names: four bytes, least significant first, and
    eight lower-case hexadecimal digits, most significant first. Memory is read through a function
    from offsets to bytes, so that a reader need not know where the bytes end. -/

namespace ImxHal.Bytes

/-- The four bytes of a word, least significant first. -/
def le32 (w : UInt32) : List UInt8 :=
  [UInt8.ofNat w.toNat, UInt8.ofNat (w.toNat / 2 ^ 8), UInt8.ofNat (w.toNat / 2 ^ 16),
    UInt8.ofNat (w.toNat / 2 ^ 24)]

def ofBytes (b₀ b₁ b₂ b₃ : UInt8) : UInt32 :=
  UInt32.ofNat (b₀.toNat + 2 ^ 8 * b₁.toNat + 2 ^ 16 * b₂.toNat + 2 ^ 24 * b₃.toNat)

/-- The `i`-th word of a memory area. -/
def wordAt (byte : ℕ → UInt8) (i : ℕ) : UInt32 :=
  ofBytes (byte (4 * i)) (byte (4 * i + 1)) (byte (4 * i + 2)) (byte (4 * i + 3))

/-- A word read back from its bytes. -/
theorem ofBytes_le32 (w : UInt32) :
    ofBytes (UInt8.ofNat w.toNat) (UInt8.ofNat (w.toNat / 2 ^ 8)) (UInt8.ofNat (w.toNat / 2 ^ 16))
      (UInt8.ofNat (w.toNat / 2 ^ 24)) = w := by
  have hw := w.toNat_lt
  apply UInt32.toNat_inj.mp
  simp only [ofBytes, UInt32.toNat_ofNat', UInt8.toNat_ofNat']
  omega

theorem ofBytes_toNat (b₀ b₁ b₂ b₃ : UInt8) : (ofBytes b₀ b₁ b₂ b₃).toNat
    = b₀.toNat + 2 ^ 8 * b₁.toNat + 2 ^ 16 * b₂.toNat + 2 ^ 24 * b₃.toNat := by
  have h₀ := b₀.toNat_lt
  have h₁ := b₁.toNat_lt
  have h₂ := b₂.toNat_lt
  have h₃ := b₃.toNat_lt
  rw [ofBytes, UInt32.toNat_ofNat']
  omega

/-- A word has no other bytes. -/
theorem ofBytes_inj {a₀ a₁ a₂ a₃ b₀ b₁ b₂ b₃ : UInt8}
    (h : ofBytes a₀ a₁ a₂ a₃ = ofBytes b₀ b₁ b₂ b₃) : a₀ = b₀ ∧ a₁ = b₁ ∧ a₂ = b₂ ∧ a₃ = b₃ := by
  have hsum := congrArg UInt32.toNat h
  rw [ofBytes_toNat, ofBytes_toNat] at hsum
  have ha₀ := a₀.toNat_lt
  have ha₁ := a₁.toNat_lt
  have ha₂ := a₂.toNat_lt
  have hb₀ := b₀.toNat_lt
  have hb₁ := b₁.toNat_lt
  have hb₂ := b₂.toNat_lt
  simp only [← UInt8.toNat_inj]
  omega

/-- The words of a list, read back from its bytes. -/
theorem wordAt_flatMap_le32 {l : List UInt32} {i : ℕ} (h : i < l.length) :
    wordAt (fun j => (l.flatMap le32).getD j 0) i = l.getD i 0 := by
  induction l generalizing i with
  | nil => exact absurd h (Nat.not_lt_zero i)
  | cons w l ih =>
    cases i with
    | zero => exact ofBytes_le32 w
    | succ i => exact ih (Nat.lt_of_succ_lt_succ h)

/-- Two areas with the same bytes have the same words. -/
theorem wordAt_congr {f g : ℕ → UInt8} {i n : ℕ} (h : ∀ j < n, f j = g j) (hi : 4 * i + 3 < n) :
    wordAt f i = wordAt g i := by
  rw [wordAt, wordAt, h _ (by omega), h _ (by omega), h _ (by omega), h _ hi]

/-- Areas that differ in a byte differ in its word. -/
theorem wordAt_ne {f g : ℕ → UInt8} {j : ℕ} (h : f j ≠ g j) : wordAt f (j / 4) ≠ wordAt g (j / 4) := by
  intro heq
  rw [wordAt, wordAt] at heq
  obtain ⟨h₀, h₁, h₂, h₃⟩ := ofBytes_inj heq
  have hj : j = 4 * (j / 4) ∨ j = 4 * (j / 4) + 1 ∨ j = 4 * (j / 4) + 2 ∨ j = 4 * (j / 4) + 3 := by
    omega
  rcases hj with hj | hj | hj | hj <;> rw [hj] at h
  · exact h h₀
  · exact h h₁
  · exact h h₂
  · exact h h₃

/-- `%08x`: eight hexadecimal digits. -/
def hex8 (w : UInt32) : List Char :=
  (List.range 8).map fun i => Nat.digitChar (w.toNat / 16 ^ (7 - i) % 16)

@[simp] theorem hex8_length (w : UInt32) : (hex8 w).length = 8 := by simp [hex8]

theorem digitChar_inj {a b : ℕ} (ha : a < 16) (hb : b < 16)
    (h : Nat.digitChar a = Nat.digitChar b) : a = b := by
  have hall : ∀ a : Fin 16, ∀ b : Fin 16, Nat.digitChar a = Nat.digitChar b → a = b := by decide
  exact congrArg Fin.val (hall ⟨a, ha⟩ ⟨b, hb⟩ h)

/-- The lower `n` digits of a number to the base `b` are the number modulo `b ^ n`. -/
theorem mod_eq_of_digits {b x y n : ℕ} (h : ∀ i < n, x / b ^ i % b = y / b ^ i % b) :
    x % b ^ n = y % b ^ n := by
  induction n with
  | zero => rw [pow_zero, Nat.mod_one, Nat.mod_one]
  | succ n ih =>
    rw [Nat.mod_pow_succ, Nat.mod_pow_succ, ih fun i hi => h i (Nat.lt_succ_of_lt hi),
      h n (Nat.lt_succ_self n)]

/-- Different words have different digits. -/
theorem hex8_inj {v w : UInt32} (h : hex8 v = hex8 w) : v = w := by
  have hdigit : ∀ i < 8, v.toNat / 16 ^ (7 - i) % 16 = w.toNat / 16 ^ (7 - i) % 16 := by
    intro i hi
    have hi' := congrArg (fun l => l[i]?) h
    simp only [hex8, List.getElem?_map, List.getElem?_range hi, Option.map_some,
      Option.some.injEq] at hi'
    exact digitChar_inj (Nat.mod_lt _ (by decide)) (Nat.mod_lt _ (by decide)) hi'
  have hmod : v.toNat % 16 ^ 8 = w.toNat % 16 ^ 8 := by
    refine mod_eq_of_digits fun i hi => ?_
    have hswap := hdigit (7 - i) (by omega)
    rwa [Nat.sub_sub_self (by omega)] at hswap
  have hv := v.toNat_lt
  have hw := w.toNat_lt
  apply UInt32.toNat_inj.mp
  rwa [Nat.mod_eq_of_lt (by omega), Nat.mod_eq_of_lt (by omega)] at hmod

end ImxHal.Bytes
