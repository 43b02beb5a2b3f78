import ImxHal.Schemes.Text

/-! @scheme numeral | family:text files

    `std::stoul` reads a number at the start of a text and takes what it can:

        "  -0x1fz"   base 16     whitespace, sign, prefix, digits, rest     ULONG_MAX + 1 - 31
        "60fps"      base 10     60
        "p60", ""                no digits: invalid_argument

    A numeral, a text of digits alone, is read as the number it denotes, unless that is too large. -/

namespace ImxHal.Text

/-- The value of a digit in bases up to 36; 36 for anything else. -/
def digitValue (c : Char) : ℕ :=
  if 48 ≤ c.toNat ∧ c.toNat ≤ 57 then c.toNat - 48
  else if 97 ≤ c.toNat ∧ c.toNat ≤ 122 then c.toNat - 87
  else if 65 ≤ c.toNat ∧ c.toNat ≤ 90 then c.toNat - 55
  else 36

def isxdigit (c : Char) : Bool := digitValue c < 16

/-- The number that digits denote. -/
def number (base : ℕ) (digits : List Char) : ℕ :=
  digits.foldl (fun n c => base * n + digitValue c) 0

/-- Whether there is a minus sign, and what follows the sign. -/
def skipSign : List Char → Bool × List Char
  | '-' :: text => (true, text)
  | '+' :: text => (false, text)
  | text => (false, text)

/-- In base 16, a prefix `0x` before a digit. -/
def skipHexPrefix (base : ℕ) : List Char → List Char
  | '0' :: x :: c :: text =>
    if base = 16 ∧ (x = 'x' ∨ x = 'X') ∧ isxdigit c then c :: text else '0' :: x :: c :: text
  | text => text

def ULONG_MAX : ℕ := 2 ^ 64 - 1

/-- `std::stoul`; a negative number is taken modulo `2 ^ 64`. -/
def stoul (text : List Char) (base : ℕ) : Except Failure ℕ :=
  let signed := skipSign (text.dropWhile isspace)
  let digits := (skipHexPrefix base signed.2).takeWhile fun c => digitValue c < base
  let value := number base digits
  if digits = [] then .error .invalid_argument
  else if value > ULONG_MAX then .error .out_of_range
  else .ok (if signed.1 then (2 ^ 64 - value) % 2 ^ 64 else value)

/-- Digits alone. -/
def IsNumeral (base : ℕ) (text : List Char) : Prop := text ≠ [] ∧ ∀ c ∈ text, digitValue c < base

instance (base : ℕ) (text : List Char) : Decidable (IsNumeral base text) :=
  @instDecidableAnd _ _ _ (List.decidableBAll _ _)

variable {base : ℕ} {text : List Char}

/-- What is no digit is in no numeral. -/
theorem IsNumeral.not_mem (h : IsNumeral base text) {c : Char} (hc : base ≤ digitValue c) : c ∉ text :=
  fun hmem => absurd (h.2 c hmem) (not_lt.mpr hc)

theorem not_isspace_of_digit {c : Char} (h : digitValue c < 16) : isspace c = false := by
  rw [digitValue] at h
  simp only [isspace, decide_eq_false_iff_not]
  split_ifs at h <;> omega

theorem skipSign_of_digit {c : Char} (h : digitValue c < 16) (text : List Char) :
    skipSign (c :: text) = (false, c :: text) := by
  unfold skipSign
  split
  · rename_i heq
    cases heq
    exact absurd h (by decide)
  · rename_i heq
    cases heq
    exact absurd h (by decide)
  · rfl

/-- No digit is an `x`. -/
theorem skipHexPrefix_numeral (h : ∀ c ∈ text, digitValue c < 16) : skipHexPrefix base text = text := by
  unfold skipHexPrefix
  split
  · rename_i x c rest
    have hx := h x (by simp)
    have hnot : ¬ (base = 16 ∧ (x = 'x' ∨ x = 'X') ∧ isxdigit c = true) := by
      rintro ⟨-, rfl | rfl, -⟩
      · exact absurd hx (by decide)
      · exact absurd hx (by decide)
    rw [if_neg hnot]
  · rfl

/-- A numeral is read to its end. -/
theorem stoul_numeral (h : IsNumeral base text) (hbase : base ≤ 16) :
    stoul text base =
      if number base text > ULONG_MAX then .error .out_of_range else .ok (number base text) := by
  obtain ⟨hne, hdigits⟩ := h
  have hhex : ∀ c ∈ text, digitValue c < 16 := fun c hc => lt_of_lt_of_le (hdigits c hc) hbase
  obtain ⟨c, rest, rfl⟩ := List.exists_cons_of_ne_nil hne
  have hc := hhex c List.mem_cons_self
  have hspace : (c :: rest).dropWhile isspace = c :: rest :=
    List.dropWhile_cons_of_neg (by simp [not_isspace_of_digit hc])
  have hall : (c :: rest).takeWhile (fun c => digitValue c < base) = c :: rest :=
    List.takeWhile_eq_self_iff.mpr fun d hd => decide_eq_true (hdigits d hd)
  simp only [stoul, hspace, skipSign_of_digit hc, skipHexPrefix_numeral hhex, hall, hne, if_false,
    Bool.false_eq_true]

end ImxHal.Text
