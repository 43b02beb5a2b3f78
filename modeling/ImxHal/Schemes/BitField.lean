import Mathlib.Algebra.BigOperators.Group.Finset.Basic
import Mathlib.Data.Nat.Bitwise
import Mathlib.Tactic

/-! @scheme bit field | family:data formats

    A word is stored in bytes, the least or the most significant one first, and a field of it is taken
    out by a shift and a width:

        bytes   b₀  b₁  …  bₙ₋₁          least first:  Σ bₖ 256ᵏ     most first:  Σ bₖ 256ⁿ⁻¹⁻ᵏ
        word    │ padding │ field │ shift │

    A field is read as a number or, in two's complement, as a signed one. A word with a single bit tells
    where every bit of a word comes from. -/

namespace ImxHal.BitField

/-- Where the byte at `k` of a word of `n` bytes counts. -/
def place (bigEndian : Bool) (n k : ℕ) : ℕ := if bigEndian then n - 1 - k else k

/-- The word of `n` bytes. -/
def word (bigEndian : Bool) (n : ℕ) (byte : ℕ → ℕ) : ℕ :=
  ∑ k ∈ Finset.range n, byte k * 256 ^ place bigEndian n k

/-- The order in which a word is put together, the most significant byte first. -/
def order (bigEndian : Bool) (n : ℕ) : List ℕ := if bigEndian then List.range n else (List.range n).reverse

def field (w shift bits : ℕ) : ℕ := w / 2 ^ shift % 2 ^ bits

/-- In two's complement. -/
def signed (bits f : ℕ) : ℤ := if 2 ^ bits ≤ 2 * f then (f : ℤ) - 2 ^ bits else f

theorem signed_of_bit {n b : ℕ} (h : n / 2 ^ b % 2 = 1) :
    signed (b + 1) (n % 2 ^ (b + 1)) = (n % 2 ^ b : ℕ) - (2 : ℤ) ^ b := by
  rw [signed, Nat.mod_pow_succ, h, Nat.mul_one, if_pos (by rw [pow_succ]; omega), pow_succ]
  push_cast
  ring

theorem signed_of_no_bit {n b : ℕ} (h : n / 2 ^ b % 2 = 0) :
    signed (b + 1) (n % 2 ^ (b + 1)) = (n % 2 ^ b : ℕ) := by
  have hlt := Nat.mod_lt n (Nat.two_pow_pos b)
  have heq : n % 2 ^ (b + 1) = n % 2 ^ b := by rw [Nat.mod_pow_succ, h, Nat.mul_zero, Nat.add_zero]
  rw [signed, heq, if_neg (by rw [pow_succ]; omega)]

theorem signed_of_lt {n b : ℕ} (h : n < 2 ^ b) : signed (b + 1) n = n := by
  rw [signed, if_neg (by rw [pow_succ]; omega)]

/-- Reading a number in two's complement keeps its parity. -/
theorem signed_even {b n : ℕ} (hb : 1 ≤ b) (h : 2 ∣ n) : (2 : ℤ) ∣ signed b n := by
  have hpow : (2 : ℤ) ∣ 2 ^ b := dvd_pow_self 2 (by omega)
  have hn : (2 : ℤ) ∣ n := by exact_mod_cast h
  rw [signed]
  split_ifs
  · exact dvd_sub hn hpow
  · exact hn

theorem signed_two_pow_ne_zero {b w : ℕ} (h : b < w) : signed w (2 ^ b) ≠ 0 := by
  have hlt : (2 : ℤ) ^ b < 2 ^ w := pow_lt_pow_right₀ (by decide) h
  have hpos : (0 : ℤ) < 2 ^ b := by positivity
  rw [signed]
  push_cast
  split_ifs <;> omega

variable {byte : ℕ → ℕ}

/-- Putting a word together byte by byte. -/
theorem foldl_order (bigEndian : Bool) (n : ℕ) (byte : ℕ → ℕ) :
    ((order bigEndian n).map byte).foldl (fun v b => 256 * v + b) 0 = word bigEndian n byte := by
  rw [order, word]
  cases bigEndian with
  | true =>
    simp only [if_true]
    induction n with
    | zero => rfl
    | succ n ih =>
      rw [List.range_succ, List.map_append, List.foldl_append, ih, Finset.sum_range_succ]
      simp only [List.map_cons, List.map_nil, List.foldl_cons, List.foldl_nil]
      rw [Finset.mul_sum]
      have hsum : ∑ k ∈ Finset.range n, 256 * (byte k * 256 ^ place true n k) =
          ∑ k ∈ Finset.range n, byte k * 256 ^ place true (n + 1) k := by
        refine Finset.sum_congr rfl fun k hk => ?_
        have hlt := Finset.mem_range.mp hk
        have hplace : place true (n + 1) k = place true n k + 1 := by
          simp only [place, if_true]
          omega
        rw [hplace, pow_succ]
        ring
      rw [hsum]
      simp [place]
  | false =>
    simp only [Bool.false_eq_true, if_false]
    have hfrom (v : ℕ) : ((List.range n).reverse.map byte).foldl (fun v b => 256 * v + b) v =
        v * 256 ^ n + ∑ k ∈ Finset.range n, byte k * 256 ^ place false n k := by
      simp only [place, Bool.false_eq_true, if_false]
      induction n generalizing v with
      | zero => simp
      | succ n ih =>
        rw [List.range_succ, List.reverse_append, List.map_append, List.foldl_append, ih,
          Finset.sum_range_succ]
        simp only [List.reverse_singleton, List.map_cons, List.map_nil, List.foldl_cons, List.foldl_nil]
        ring
    rw [hfrom, Nat.zero_mul, Nat.zero_add]

theorem foldl_lt {bytes : List ℕ} (h : ∀ b ∈ bytes, b < 256) :
    bytes.foldl (fun v b => 256 * v + b) 0 < 256 ^ bytes.length := by
  induction bytes using List.reverseRecOn with
  | nil => simp
  | append_singleton bytes b ih =>
    have hb := h b (by simp)
    have hrest := ih fun b' hb' => h b' (List.mem_append_left _ hb')
    rw [List.foldl_append, List.length_append, List.foldl_cons, List.foldl_nil, List.length_singleton,
      pow_succ]
    omega

theorem word_lt (bigEndian : Bool) {n : ℕ} (h : ∀ k < n, byte k < 256) : word bigEndian n byte < 256 ^ n := by
  have hlen : ((order bigEndian n).map byte).length = n := by
    rw [order]
    split_ifs <;> simp
  have hbytes : ∀ b ∈ (order bigEndian n).map byte, b < 256 := by
    intro b hb
    obtain ⟨k, hk, rfl⟩ := List.mem_map.mp hb
    refine h k ?_
    rw [order] at hk
    split_ifs at hk <;> simpa using hk
  have hlt := foldl_lt hbytes
  rwa [foldl_order, hlen] at hlt

/-! ### In a register -/

theorem toInt_eq_signed {w : ℕ} (x : BitVec w) : x.toInt = signed w x.toNat := by
  rw [BitVec.toInt_eq_toNat_cond, signed]
  split_ifs <;> first | omega | rfl

/-- Shifting a byte into a register that has room for it. -/
theorem toNat_shift_or {v : BitVec 64} (b : BitVec 8) (h : v.toNat < 2 ^ 56) :
    ((v <<< 8) ||| b.setWidth 64).toNat = 256 * v.toNat + b.toNat := by
  have hb := b.isLt
  rw [BitVec.toNat_or, BitVec.toNat_shiftLeft, BitVec.toNat_setWidth,
    Nat.mod_eq_of_lt (by omega : b.toNat < 2 ^ 64), Nat.shiftLeft_eq,
      Nat.mod_eq_of_lt (by omega : v.toNat * 2 ^ 8 < 2 ^ 64), ← Nat.shiftLeft_eq,
    ← Nat.shiftLeft_add_eq_or_of_lt hb, Nat.shiftLeft_eq]
  ring

/-- Up to eight bytes go into a register without loss. -/
theorem toNat_foldl {bytes : List (BitVec 8)} (h : bytes.length ≤ 8) :
    (bytes.foldl (fun (v : BitVec 64) b => (v <<< 8) ||| b.setWidth 64) 0).toNat =
      (bytes.map BitVec.toNat).foldl (fun v b => 256 * v + b) 0 := by
  induction bytes using List.reverseRecOn with
  | nil => rfl
  | append_singleton bytes b ih =>
    rw [List.length_append, List.length_singleton] at h
    have hrest := ih (by omega)
    have hlt : (bytes.map BitVec.toNat).foldl (fun v b => 256 * v + b) 0 < 256 ^ 7 := by
      refine lt_of_lt_of_le (foldl_lt fun b' hb' => ?_) (Nat.pow_le_pow_right (by decide) ?_)
      · obtain ⟨x, _, rfl⟩ := List.mem_map.mp hb'
        exact x.isLt
      · rw [List.length_map]
        omega
    rw [List.foldl_append, List.map_append, List.foldl_append]
    simp only [List.map_cons, List.map_nil, List.foldl_cons, List.foldl_nil]
    rw [toNat_shift_or b (hrest ▸ hlt), hrest]

/-- An arithmetic shift to the right with the copies of the sign masked out. -/
theorem toNat_shift_mask (v : BitVec 64) (s : ℕ) :
    ((v.sshiftRight s) &&& (BitVec.allOnes 64 >>> s)).toNat = v.toNat / 2 ^ s := by
  have heq : (v.sshiftRight s) &&& (BitVec.allOnes 64 >>> s) = v >>> s := by
    ext i hi
    simp only [BitVec.getElem_and, BitVec.getElem_sshiftRight, BitVec.getElem_ushiftRight,
      BitVec.getLsbD_allOnes]
    by_cases hlt : s + i < 64
    · simp [hlt]
    · simp [hlt, BitVec.getLsbD_of_ge v _ (Nat.not_lt.mp hlt)]
  rw [heq, BitVec.toNat_ushiftRight, Nat.shiftRight_eq_div_pow]

theorem toNat_bit {b : ℕ} (h : b < 64) : ((1 : BitVec 64) <<< b).toNat = 2 ^ b := by
  rw [BitVec.toNat_shiftLeft, Nat.shiftLeft_eq, show (1 : BitVec 64).toNat = 1 from rfl, Nat.one_mul]
  exact Nat.mod_eq_of_lt (Nat.pow_lt_pow_right (by decide) h)

/-- Testing a bit by a mask. -/
theorem and_bit_ne_zero (v : BitVec 64) {b : ℕ} (h : b < 64) :
    v &&& ((1 : BitVec 64) <<< b) ≠ 0 ↔ v.toNat / 2 ^ b % 2 = 1 := by
  have hbit : (v &&& ((1 : BitVec 64) <<< b)).toNat = 2 ^ b * (v.toNat.testBit b).toNat := by
    rw [BitVec.toNat_and, toNat_bit h, Nat.and_two_pow, Nat.mul_comm]
  have hpos : 0 < 2 ^ b := Nat.two_pow_pos b
  rw [Ne, ← BitVec.toNat_inj, hbit, Nat.testBit_eq_decide_div_mod_eq]
  by_cases htest : v.toNat / 2 ^ b % 2 = 1 <;> simp [htest]

theorem toNat_not_and_mask (v : BitVec 64) {b : ℕ} (h : b < 64) :
    (~~~v &&& ((1 : BitVec 64) <<< b - 1)).toNat = 2 ^ b - 1 - v.toNat % 2 ^ b := by
  have hpos : 0 < 2 ^ b := Nat.two_pow_pos b
  have hmask : ((1 : BitVec 64) <<< b - 1).toNat = 2 ^ b - 1 := by
    rw [BitVec.toNat_sub_of_le (by rw [BitVec.le_def, toNat_bit h]; exact hpos), toNat_bit h]
    rfl
  have hv := v.isLt
  have hdiv := Nat.div_add_mod v.toNat (2 ^ b)
  have hr := Nat.mod_lt v.toNat hpos
  have hsplit : 2 ^ 64 = 2 ^ b * 2 ^ (64 - b) := by
    rw [← pow_add]
    congr 1
    omega
  have hq : v.toNat / 2 ^ b < 2 ^ (64 - b) := Nat.div_lt_of_lt_mul (hsplit ▸ hv)
  have hcompl : 2 ^ 64 - 1 - v.toNat =
      2 ^ b - 1 - v.toNat % 2 ^ b + 2 ^ b * (2 ^ (64 - b) - 1 - v.toNat / 2 ^ b) := by
    have hmul : 2 ^ b * (2 ^ (64 - b) - 1 - v.toNat / 2 ^ b) + 2 ^ b * (v.toNat / 2 ^ b) + 2 ^ b =
      2 ^ 64 := by
      rw [hsplit, ← Nat.mul_add, ← Nat.mul_succ]
      congr 1
      omega
    omega
  rw [BitVec.toNat_and, hmask, Nat.and_two_pow_sub_one_eq_mod, BitVec.toNat_not, hcompl,
    Nat.add_mul_mod_self_left, Nat.mod_eq_of_lt (by omega)]

/-- The negative of the complement of the low bits, plus one. -/
theorem toInt_neg_complement (v : BitVec 64) {b : ℕ} (h : b < 63) :
    (-((~~~v &&& ((1 : BitVec 64) <<< b - 1)) + 1)).toInt = (v.toNat % 2 ^ b : ℕ) - (2 : ℤ) ^ b := by
  have hpow : 2 ^ b ≤ 2 ^ 62 := Nat.pow_le_pow_right (by decide) (by omega)
  have hr := Nat.mod_lt v.toNat (Nat.two_pow_pos b)
  have hx : ((~~~v &&& ((1 : BitVec 64) <<< b - 1)) + 1).toNat = 2 ^ b - v.toNat % 2 ^ b := by
    rw [BitVec.toNat_add, toNat_not_and_mask v (by omega), show (1 : BitVec 64).toNat = 1 from rfl,
      Nat.mod_eq_of_lt (by omega)]
    omega
  rw [BitVec.toInt_neg, BitVec.toInt_eq_toNat_of_lt (by omega), hx, Int.bmod_eq_of_le (by omega) (by omega)]
  push_cast [Nat.cast_sub hr.le]
  omega

/-! ### A single bit -/

/-- The byte that has the bit at `x` of a word of `n` bytes. -/
def home (bigEndian : Bool) (n x : ℕ) : ℕ := place bigEndian n (x / 8)

/-- Memory that is zero but for the bit at `x` of the word at `off`. -/
def single (bigEndian : Bool) (n off x : ℕ) (i : ℕ) : ℕ :=
  if i = off + home bigEndian n x then 2 ^ (x % 8) else 0

theorem single_lt (bigEndian : Bool) (n off x i : ℕ) : single bigEndian n off x i < 256 := by
  rw [single]
  split_ifs
  · exact lt_of_lt_of_eq (Nat.pow_lt_pow_right (by decide) (Nat.mod_lt x (by decide))) rfl
  · decide

theorem place_place (bigEndian : Bool) {n k : ℕ} (h : k < n) :
    place bigEndian n (place bigEndian n k) = k := by
  rw [place, place]
  split_ifs <;> omega

theorem home_lt (bigEndian : Bool) {n x : ℕ} (h : x < 8 * n) : home bigEndian n x < n := by
  rw [home, place]
  split_ifs <;> omega

/-- The word at another offset has the bit at another place, or not at all. -/
theorem word_single (bigEndian : Bool) (n off x off' : ℕ) :
    word bigEndian n (fun k => single bigEndian n off x (off' + k)) =
      if off' ≤ off + home bigEndian n x ∧ off + home bigEndian n x < off' + n then
        2 ^ (x % 8 + 8 * place bigEndian n (off + home bigEndian n x - off'))
      else 0 := by
  rw [word]
  split_ifs with hin
  · rw [Finset.sum_eq_single (off + home bigEndian n x - off')]
    · rw [single, if_pos (by omega), pow_add, pow_mul]
      norm_num
    · intro k _ hk
      rw [single, if_neg (by omega), Nat.zero_mul]
    · intro hnot
      exact (hnot (Finset.mem_range.mpr (by omega))).elim
  · refine Finset.sum_eq_zero fun k hk => ?_
    have := Finset.mem_range.mp hk
    rw [single, if_neg (by omega), Nat.zero_mul]

theorem word_single_self (bigEndian : Bool) {n x : ℕ} (h : x < 8 * n) (off : ℕ) :
    word bigEndian n (fun k => single bigEndian n off x (off + k)) = 2 ^ x := by
  have hhome := home_lt bigEndian h
  rw [word_single, if_pos ⟨by omega, by omega⟩, Nat.add_sub_cancel_left, home,
    place_place bigEndian (by omega)]
  congr 1
  omega

theorem word_single_other (bigEndian : Bool) {n x : ℕ} (h : x < 8 * n) {off off' : ℕ} (hne : off' ≠ off) :
    word bigEndian n (fun k => single bigEndian n off x (off' + k)) = 0 ∨
      ∃ y, y ≠ x ∧ word bigEndian n (fun k => single bigEndian n off x (off' + k)) = 2 ^ y := by
  have hhome := home_lt bigEndian h
  rw [word_single]
  split_ifs with hin
  · refine .inr ⟨_, fun heq => hne ?_, rfl⟩
    have hplace : place bigEndian n (off + home bigEndian n x - off') = x / 8 := by omega
    have hback := congrArg (place bigEndian n) hplace
    rw [place_place bigEndian (by omega)] at hback
    rw [← home] at hback
    omega
  · exact .inl rfl

end ImxHal.BitField
