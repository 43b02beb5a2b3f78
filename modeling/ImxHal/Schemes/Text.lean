import Mathlib.Data.List.Basic
import Mathlib.Data.List.TakeWhile
import Mathlib.Tactic

/-! @scheme text | family:text files

    A text file is read line by line, a line word by word, and a word as a number. What the writer of the
    file put in comes back out when no line holds a newline and no word holds the separator:

        ls ──each ++ '\n'──▶ file ──getlines──▶ ls
        ws ──intercalate ' '──▶ line ──splitOn ' '──▶ ws
        pattern ++ rest ──find pattern──▶ 0
        n ──toDigits 10──▶ word ──stoi──▶ n          (n ≤ INT_MAX, else out_of_range) -/

namespace ImxHal.Text

/-- Why a reader gives up: an exception of the number conversion, or an index outside of the words. -/
inductive Failure where
  | invalid_argument | out_of_range | undefined
  deriving DecidableEq

/-- The lines `std::getline` extracts one after the other; a newline at the end starts no line. -/
def getlines (data : List Char) : List (List Char) :=
  let pieces := data.splitOn '\n'
  if pieces.getLast? = some [] then pieces.dropLast else pieces

/-- `text.find(pattern)`: where it first stands. -/
def find (pattern : List Char) : List Char → Option ℕ
  | [] => if pattern = [] then some 0 else none
  | c :: text =>
    if pattern.isPrefixOf (c :: text) then some 0 else (find pattern text).map (· + 1)

/-- `words[i]` of a vector. -/
def word (words : List (List Char)) (i : ℕ) : Except Failure (List Char) :=
  match words[i]? with
  | some w => .ok w
  | none => .error .undefined

def isspace (c : Char) : Bool := c.toNat = 32 ∨ 9 ≤ c.toNat ∧ c.toNat ≤ 13

def INT_MIN : ℤ := -2147483648
def INT_MAX : ℤ := 2147483647

/-- The sign and the digits behind the leading whitespace, as `strtol` takes them for base 10. -/
def signAndDigits (text : List Char) : ℤ × List Char :=
  match text.dropWhile isspace with
  | '-' :: rest => (-1, rest.takeWhile Char.isDigit)
  | '+' :: rest => (1, rest.takeWhile Char.isDigit)
  | rest => (1, rest.takeWhile Char.isDigit)

/-- `std::stoi`. -/
def stoi (text : List Char) : Except Failure ℤ :=
  let parsed := signAndDigits text
  let value := parsed.1 * Nat.ofDigitChars 10 parsed.2 0
  if parsed.2 = [] then .error .invalid_argument
  else if INT_MIN ≤ value ∧ value ≤ INT_MAX then .ok value
  else .error .out_of_range

/-! ### Lines and words -/

/-- Pieces that each end with the separator. -/
theorem splitOn_terminated {sep : Char} (ls : List (List Char)) (h : ∀ l ∈ ls, sep ∉ l) :
    (ls.flatMap (· ++ [sep])).splitOn sep = ls ++ [[]] := by
  induction ls with
  | nil => rfl
  | cons l ls ih =>
    have hrest := ih fun x hx => h x (List.mem_cons_of_mem l hx)
    rw [List.flatMap_cons, List.append_assoc, List.singleton_append,
      List.splitOn_append_cons_self_of_not_mem (h l List.mem_cons_self), hrest, List.cons_append]

/-- A file of lines reads back as those lines. -/
theorem getlines_lines (ls : List (List Char)) (h : ∀ l ∈ ls, '\n' ∉ l) :
    getlines (ls.flatMap (· ++ ['\n'])) = ls := by
  simp only [getlines, splitOn_terminated ls h, List.getLast?_concat, if_true, List.dropLast_concat]

/-- A line of words holds the separator and what the words hold. -/
theorem mem_intercalate {sep c : Char} {ws : List (List Char)} (h : c ∈ [sep].intercalate ws) :
    c = sep ∨ ∃ w ∈ ws, c ∈ w := by
  induction ws with
  | nil => simp at h
  | cons w ws ih =>
    cases ws with
    | nil => exact Or.inr ⟨w, List.mem_cons_self, by simpa using h⟩
    | cons v vs =>
      rw [List.intercalate_cons_cons, List.append_assoc, List.mem_append, List.mem_append] at h
      rcases h with h | h | h
      · exact Or.inr ⟨w, List.mem_cons_self, h⟩
      · exact Or.inl (List.mem_singleton.mp h)
      · rcases ih h with hsep | ⟨x, hx, hmem⟩
        · exact Or.inl hsep
        · exact Or.inr ⟨x, List.mem_cons_of_mem w hx, hmem⟩

/-! ### Searching -/

/-- It stands at the start exactly when it is a prefix. -/
theorem find_eq_zero_iff (pattern text : List Char) : find pattern text = some 0 ↔ pattern <+: text := by
  cases text with
  | nil => simp [find]
  | cons c text =>
    rw [find, ← List.isPrefixOf_iff_prefix]
    split
    · rename_i h
      exact ⟨fun _ => h, fun _ => rfl⟩
    · rename_i h
      simp [h]

/-- Where it first stands. -/
theorem find_eq_some_iff {pattern : List Char} (hp : pattern ≠ []) {text : List Char} {k : ℕ} :
    find pattern text = some k ↔
      pattern <+: text.drop k ∧ ∀ j < k, ¬ pattern <+: text.drop j := by
  induction text generalizing k with
  | nil => simp [find, hp]
  | cons c text ih =>
    by_cases hc : pattern <+: c :: text
    · rw [find, if_pos (List.isPrefixOf_iff_prefix.mpr hc), Option.some.injEq]
      cases k with
      | zero => simp [hc]
      | succ k => exact iff_of_false (by simp) fun h => h.2 0 (Nat.succ_pos k) hc
    · rw [find, if_neg fun h => hc (List.isPrefixOf_iff_prefix.mp h)]
      cases k with
      | zero => simp [hc]
      | succ k =>
        simp only [Option.map_eq_some_iff, Nat.add_right_cancel_iff, exists_eq_right, ih,
          List.drop_succ_cons]
        refine and_congr_right fun _ => ⟨fun h j hj => ?_, fun h j hj => h (j + 1) (by omega)⟩
        cases j with
        | zero => exact hc
        | succ j => exact h j (by omega)

theorem find_eq_none_iff {pattern : List Char} (hp : pattern ≠ []) {text : List Char} :
    find pattern text = none ↔ ¬ pattern <:+: text := by
  induction text with
  | nil => simp [find, hp]
  | cons c text ih =>
    rw [find, List.infix_cons_iff, not_or, ← ih]
    by_cases hc : pattern <+: c :: text
    · simp [List.isPrefixOf_iff_prefix.mpr hc, hc]
    · rw [if_neg fun h => hc (List.isPrefixOf_iff_prefix.mp h), Option.map_eq_none_iff, and_iff_right hc]

theorem find_append (pattern rest : List Char) : find pattern (pattern ++ rest) = some 0 :=
  (find_eq_zero_iff pattern _).mpr (List.prefix_append pattern rest)

/-! ### Decimal numbers -/

theorem isDigit_range {c : Char} (h : c.isDigit = true) : 48 ≤ c.toNat ∧ c.toNat ≤ 57 := by
  simp only [Char.isDigit, Bool.and_eq_true, decide_eq_true_eq, ge_iff_le] at h
  exact ⟨h.1, h.2⟩

theorem isspace_of_isDigit {c : Char} (h : c.isDigit = true) : isspace c = false := by
  have := isDigit_range h
  simp only [isspace, decide_eq_false_iff_not]
  omega

theorem toDigits_isDigit {n : ℕ} {c : Char} (h : c ∈ Nat.toDigits 10 n) : c.isDigit = true :=
  Nat.isDigit_of_mem_toDigits (by norm_num) (by norm_num) h

/-- A character that is no digit is in no decimal number. -/
theorem not_mem_toDigits {c : Char} (h : c.isDigit = false) (n : ℕ) : c ∉ Nat.toDigits 10 n := by
  intro hc
  rw [toDigits_isDigit hc] at h
  cases h

theorem takeWhile_toDigits (n : ℕ) :
    (Nat.toDigits 10 n).takeWhile Char.isDigit = Nat.toDigits 10 n :=
  List.takeWhile_eq_self_iff.mpr fun _ hc => toDigits_isDigit hc

theorem signAndDigits_toDigits (n : ℕ) :
    signAndDigits (Nat.toDigits 10 n) = (1, Nat.toDigits 10 n) := by
  obtain ⟨c, cs, hcs⟩ := List.exists_cons_of_ne_nil (Nat.toDigits_ne_nil (n := n) (b := 10))
  have hc : c.isDigit = true := toDigits_isDigit (n := n) (by rw [hcs]; exact List.mem_cons_self)
  have hdrop : (Nat.toDigits 10 n).dropWhile isspace = Nat.toDigits 10 n := by
    rw [hcs, List.dropWhile_cons_of_neg (by simp [isspace_of_isDigit hc])]
  unfold signAndDigits
  rw [hdrop]
  split
  · rename_i rest hsign
    rw [hcs] at hsign
    cases hsign
    exact absurd hc (by decide)
  · rename_i rest hsign
    rw [hcs] at hsign
    cases hsign
    exact absurd hc (by decide)
  · rw [takeWhile_toDigits]

/-- A number written in decimal reads back when it fits in an `int`. -/
theorem stoi_toDigits (n : ℕ) :
    stoi (Nat.toDigits 10 n) = if (n : ℤ) ≤ INT_MAX then .ok (n : ℤ) else .error .out_of_range := by
  have hmin : INT_MIN ≤ (n : ℤ) := by simp only [INT_MIN]; omega
  simp only [stoi, signAndDigits_toDigits, Nat.toDigits_ne_nil, if_false, Nat.ofDigitChars_ten_toDigits,
    one_mul, hmin, true_and]

end ImxHal.Text
