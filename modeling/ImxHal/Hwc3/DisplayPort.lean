import ImxHal.Schemes.Numeral

/-! @src display/hwcomposer3/Common.cpp (getDisplayPortFromProperty) | name:Display ports | scheme:text |
    family:parsers

    `ro.boot.display_port` lists the ports of the displays by the names of their connectors:

        HDMI-A-1:0x1,DMI-A-1:2            entries name:port, ports decimal or behind 0x

    A name is looked for as the text `name:`, which stands first where it stands in a longer name:

        DMI-A-1:    at 1, behind the H    port 1 and not 2

    The number behind it is cut off before `0x`, wherever that is, and converted if it has hexadecimal
    digits only; the conversion throws where it finds no digit of the base. -/

namespace ImxHal.Hwc3.Ports
open ImxHal.Text

/-- `text.find(c, pos)` -/
def findFrom (c : Char) (text : List Char) (pos : ℕ) : Option ℕ :=
  (find [c] (text.drop pos)).map (pos + ·)

/-- The digits of a port and their base: what is behind `0x`, or all of it. -/
def digitsOf (port_str : List Char) : List Char × ℕ :=
  match find ['0', 'x'] port_str with
  | some start => (port_str.drop (start + 2), 16)
  | none => (port_str, 10)

/-- The conversion of the text of a port; `none` is `false`. -/
def readPort (port_str : List Char) : Except Failure (Option ℕ) :=
  let (digits, base) := digitsOf port_str
  if digits.all isxdigit then
    match stoul digits base with
    | .ok port => .ok (some (port % 2 ^ 32))
    | .error e => .error e
  else .ok none

/-- The port of a connector; `none` when the function returns `false`. -/
def getDisplayPortFromProperty (ports connector_name : List Char) : Except Failure (Option ℕ) :=
  if 0 < ports.length then
    let conn := connector_name ++ [':']
    match find conn ports with
    | none => .ok none
    | some pos =>
      match findFrom ':' ports pos with
      | none => .ok none
      | some colon =>
        match findFrom ',' ports colon with
        | none => readPort (ports.drop (colon + 1))
        | some comma => readPort ((ports.drop (colon + 1)).take (comma - colon - 1))
  else .ok none

/-! ### Entries -/

/-- The entry is `name:…`. -/
def isEntryOf (name entry : List Char) : Bool :=
  decide (':' ∈ entry) && decide (entry.takeWhile (· ≠ ':') = name)

def portText (entry : List Char) : List Char := (entry.dropWhile (· ≠ ':')).tail

/-- The text of the port of the first entry with exactly the name. -/
def entryOf (ports name : List Char) : Option (List Char) :=
  ((ports.splitOn ',').find? (isEntryOf name)).map portText

/-- The number a port is written as. -/
def portNumber (text : List Char) : Option ℕ :=
  match text with
  | '0' :: 'x' :: digits => if IsNumeral 16 digits then some (number 16 digits) else none
  | text => if IsNumeral 10 text then some (number 10 text) else none

/-- The port of the entry with exactly the name; none if there is no such entry, or no number in it. -/
def portOf (ports name : List Char) : Option ℕ := (entryOf ports name).bind portNumber

/-! ### What is found -/

/-- The text up to the comma behind the first colon from `pos` on. -/
def textAt (ports : List Char) (pos : ℕ) : List Char :=
  (((ports.drop pos).dropWhile (· ≠ ':')).tail).takeWhile (· ≠ ',')

/-- An entry starts at `pos`, and it may be one of the name. -/
def StartsEntry (ports name : List Char) (pos : ℕ) : Prop :=
  ':' ∉ name ∧ ',' ∉ name ∧ (pos = 0 ∨ ports[pos - 1]? = some ',')

/-- Something behind `0x`, or in the text, is no hexadecimal digit. -/
def Rejected (text : List Char) : Prop := ∃ c ∈ (digitsOf text).1, isxdigit c = false

/-- The text is converted, and gives the port. -/
def ReadAs (text : List Char) (port : ℕ) : Prop :=
  ¬ Rejected text ∧ ∃ n, stoul (digitsOf text).1 (digitsOf text).2 = .ok n ∧ n % 2 ^ 32 = port

/-- Where the name stands first, with its colon, an entry of it starts whose port is a number of 32 bits
    or is rejected; or else the text that stands there passes for the port of the entry. -/
def Unmistaken (ports name : List Char) : Prop :=
  ∀ pos, find (name ++ [':']) ports = some pos →
    (StartsEntry ports name pos →
      (∃ n < 2 ^ 32, portNumber (textAt ports pos) = some n) ∨ Rejected (textAt ports pos)) ∧
    (¬ StartsEntry ports name pos →
      (portOf ports name = none ∧ Rejected (textAt ports pos)) ∨
        ∃ n, portOf ports name = some n ∧ ReadAs (textAt ports pos) n)

variable {ports name text : List Char} {pos : ℕ}

/-! ### The text of the number -/

theorem find_char_cons (c d : Char) (text : List Char) :
    find [c] (d :: text) = if d = c then some 0 else (find [c] text).map (· + 1) := by
  rw [find]
  by_cases h : d = c
  · simp [h]
  · simp [h, Ne.symm h]

/-- The first place of a character splits the text. -/
theorem find_char {c : Char} {k : ℕ} (h : find [c] text = some k) :
    text.take k = text.takeWhile (· ≠ c) ∧ text.drop k = text.dropWhile (· ≠ c) := by
  induction text generalizing k with
  | nil => cases h
  | cons d text ih =>
    rw [find_char_cons] at h
    split_ifs at h with hd
    · cases h
      simp [hd]
    · obtain ⟨k, hk, rfl⟩ := Option.map_eq_some_iff.mp h
      obtain ⟨htake, hdrop⟩ := ih hk
      simp [hd, htake, hdrop]

theorem takeWhile_of_find_none {c : Char} (h : find [c] text = none) :
    text.takeWhile (· ≠ c) = text := by
  rw [find_eq_none_iff (List.cons_ne_nil _ _), List.singleton_infix_iff] at h
  refine List.takeWhile_eq_self_iff.mpr fun d hd => decide_eq_true ?_
  rintro rfl
  exact h hd

/-- From a colon on, the comma ends the text. -/
theorem readPort_comma {colon : ℕ} (hcolon : ports[colon]? = some ':') :
    (match findFrom ',' ports colon with
      | none => readPort (ports.drop (colon + 1))
      | some comma => readPort ((ports.drop (colon + 1)).take (comma - colon - 1))) =
      readPort ((ports.drop (colon + 1)).takeWhile (· ≠ ',')) := by
  obtain ⟨hlt, hget⟩ := List.getElem?_eq_some_iff.mp hcolon
  have hdrop : ports.drop colon = ':' :: ports.drop (colon + 1) := by
    rw [List.drop_eq_getElem_cons hlt, hget]
  have hfind : findFrom ',' ports colon
      = (find [','] (ports.drop (colon + 1))).map fun k => colon + (k + 1) := by
    rw [findFrom, hdrop, find_char_cons, if_neg (by decide), Option.map_map]
    rfl
  rw [hfind]
  cases hcomma : find [','] (ports.drop (colon + 1)) with
  | none => rw [takeWhile_of_find_none hcomma]; rfl
  | some k =>
    have hcount : colon + (k + 1) - colon - 1 = k := by omega
    rw [← (find_char hcomma).1]
    simp only [Option.map_some, hcount]

/-- What is converted is the text up to the comma. -/
theorem getDisplayPort_eq (ports name : List Char) :
    getDisplayPortFromProperty ports name =
      match find (name ++ [':']) ports with
      | none => .ok none
      | some pos => readPort (textAt ports pos) := by
  have hconn : name ++ [':'] ≠ [] := by simp
  rw [getDisplayPortFromProperty]
  by_cases hlen : 0 < ports.length
  · simp only [if_pos hlen]
    cases hpos : find (name ++ [':']) ports with
    | none => rfl
    | some pos =>
      obtain ⟨⟨rest, hrest⟩, -⟩ := (find_eq_some_iff hconn).mp hpos
      have hmem : ':' ∈ ports.drop pos := by
        rw [← hrest]
        simp
      cases hk : find [':'] (ports.drop pos) with
      | none =>
        rw [find_eq_none_iff (List.cons_ne_nil _ _), List.singleton_infix_iff] at hk
        exact absurd hmem hk
      | some k =>
        obtain ⟨-, hdrop⟩ := find_char hk
        have hfrom : findFrom ':' ports pos = some (pos + k) := by rw [findFrom, hk]; rfl
        obtain ⟨behind, hbehind⟩ := ((find_eq_some_iff (List.cons_ne_nil _ _)).mp hk).1
        rw [List.drop_drop] at hbehind hdrop
        have hcolon : ports[pos + k]? = some ':' := by
          rw [← List.head?_drop, ← hbehind]
          rfl
        have htext : textAt ports pos = (ports.drop (pos + k + 1)).takeWhile (· ≠ ',') := by
          rw [textAt, ← hdrop, List.tail_drop]
        simp only [hfrom]
        rw [readPort_comma hcolon, htext]
  · have hnil : ports = [] := List.length_eq_zero_iff.mp (by omega)
    rw [if_neg hlen, hnil]
    simp [find]

/-! ### The number -/

theorem digitsOf_hex (digits : List Char) : digitsOf ('0' :: 'x' :: digits) = (digits, 16) := by
  have hfind : find ['0', 'x'] (['0', 'x'] ++ digits) = some 0 := find_append _ _
  rw [digitsOf]
  simp only [List.cons_append, List.nil_append] at hfind
  rw [hfind]
  rfl

/-- A decimal number holds no `0x`. -/
theorem digitsOf_decimal (h : IsNumeral 10 text) : digitsOf text = (text, 10) := by
  have hnone : find ['0', 'x'] text = none := by
    rw [find_eq_none_iff (List.cons_ne_nil _ _)]
    intro hpart
    exact h.not_mem (by decide) (hpart.subset (by simp : 'x' ∈ ['0', 'x']))
  rw [digitsOf, hnone]

/-- A number is cut off from its prefix, and has hexadecimal digits. -/
theorem portNumber_eq_some {n : ℕ} (h : portNumber text = some n) :
    ∃ digits base, digitsOf text = (digits, base) ∧ IsNumeral base digits ∧ base ≤ 16 ∧
      number base digits = n := by
  unfold portNumber at h
  split at h
  · rename_i digits
    split_ifs at h with hnumeral
    cases h
    exact ⟨digits, 16, digitsOf_hex digits, hnumeral, le_rfl, rfl⟩
  · split_ifs at h with hnumeral
    cases h
    exact ⟨text, 10, digitsOf_decimal hnumeral, hnumeral, by norm_num, rfl⟩

theorem not_rejected_of_number {n : ℕ} (h : portNumber text = some n) : ¬ Rejected text := by
  obtain ⟨digits, base, hdigits, hnumeral, hbase, -⟩ := portNumber_eq_some h
  rintro ⟨c, hc, hx⟩
  rw [hdigits] at hc
  have := hnumeral.2 c hc
  simp only [isxdigit, decide_eq_false_iff_not] at hx
  omega

theorem all_isxdigit_iff : (digitsOf text).1.all isxdigit = true ↔ ¬ Rejected text := by
  simp [Rejected]

theorem readPort_of_rejected (h : Rejected text) : readPort text = .ok none := by
  have hall : ¬ (digitsOf text).1.all isxdigit = true := fun hall => all_isxdigit_iff.mp hall h
  simp only [readPort, if_neg hall]

theorem readPort_of_not_rejected (h : ¬ Rejected text) :
    readPort text = match stoul (digitsOf text).1 (digitsOf text).2 with
      | .ok port => .ok (some (port % 2 ^ 32))
      | .error e => .error e := by
  simp only [readPort, if_pos (all_isxdigit_iff.mpr h)]

theorem readPort_eq_none_iff : readPort text = .ok none ↔ Rejected text := by
  refine ⟨fun h => ?_, readPort_of_rejected⟩
  by_contra hr
  rw [readPort_of_not_rejected hr] at h
  cases hs : stoul (digitsOf text).1 (digitsOf text).2 with
  | ok port => rw [hs] at h; cases h
  | error e => rw [hs] at h; cases h

theorem readPort_eq_some_iff {n : ℕ} : readPort text = .ok (some n) ↔ ReadAs text n := by
  constructor
  · intro h
    have hr : ¬ Rejected text := fun hr => by rw [readPort_of_rejected hr] at h; cases h
    rw [readPort_of_not_rejected hr] at h
    cases hs : stoul (digitsOf text).1 (digitsOf text).2 with
    | ok port =>
      rw [hs] at h
      cases h
      exact ⟨hr, port, hs, rfl⟩
    | error e => rw [hs] at h; cases h
  · rintro ⟨hr, port, hs, rfl⟩
    rw [readPort_of_not_rejected hr, hs]

/-- A number is read as it is written when it has 32 bits. -/
theorem readPort_number_iff {n : ℕ} (h : portNumber text = some n) :
    readPort text = .ok (some n) ↔ n < 2 ^ 32 := by
  obtain ⟨digits, base, hdigits, hnumeral, hbase, rfl⟩ := portNumber_eq_some h
  rw [readPort_of_not_rejected (not_rejected_of_number h), hdigits]
  simp only [stoul_numeral hnumeral hbase]
  split_ifs with hlarge
  · refine iff_of_false (by simp) fun hlt => ?_
    rw [ULONG_MAX] at hlarge
    omega
  · simp only [Except.ok.injEq, Option.some.injEq]
    exact ⟨fun heq => heq ▸ Nat.mod_lt _ (by norm_num), Nat.mod_eq_of_lt⟩

/-- The text of an entry is read as its port exactly when it is a number of 32 bits, or rejected. -/
theorem readPort_iff : readPort text = .ok (portNumber text) ↔
    (∃ n < 2 ^ 32, portNumber text = some n) ∨ Rejected text := by
  cases hn : portNumber text with
  | none => simp [readPort_eq_none_iff]
  | some n =>
    rw [readPort_number_iff hn, or_iff_left (not_rejected_of_number hn)]
    simp

/-! ### The entry -/

theorem splitOn_head (c : Char) (text : List Char) :
    ∃ more, text.splitOn c = text.takeWhile (· ≠ c) :: more := by
  induction text with
  | nil => exact ⟨[], rfl⟩
  | cons d text ih =>
    obtain ⟨more, hmore⟩ := ih
    rw [List.splitOn_cons_eq_if_modifyHead]
    by_cases hd : d = c
    · simp [hd]
    · exact ⟨more, by simp [hd, hmore]⟩

/-- A piece stands in the text. -/
theorem infix_of_mem_splitOn {c : Char} {piece : List Char} (h : piece ∈ text.splitOn c) :
    piece <:+: text := by
  induction text generalizing piece with
  | nil =>
    rw [List.splitOn_nil, List.mem_singleton] at h
    exact h ▸ List.infix_rfl
  | cons d text ih =>
    rw [List.splitOn_cons_eq_if_modifyHead] at h
    split_ifs at h with hd
    · rcases List.mem_cons.mp h with rfl | h
      · exact List.nil_infix
      · exact List.infix_cons (ih h)
    · obtain ⟨more, hmore⟩ := splitOn_head c text
      rw [hmore, List.modifyHead_cons] at h
      rcases List.mem_cons.mp h with rfl | h
      · exact ((List.prefix_cons_inj d).mpr (List.takeWhile_prefix _)).isInfix
      · exact List.infix_cons (ih (by rw [hmore]; exact List.mem_cons_of_mem _ h))

theorem takeWhile_before {c : Char} {before : List Char} (h : c ∉ before) (after : List Char) :
    (before ++ c :: after).takeWhile (· ≠ c) = before := by
  have hall : ∀ d ∈ before, decide (d ≠ c) = true := fun d hd =>
    decide_eq_true fun heq => h (heq ▸ hd)
  rw [List.takeWhile_append_of_pos hall, List.takeWhile_cons_of_neg (by simp), List.append_nil]

theorem dropWhile_before {c : Char} {before : List Char} (h : c ∉ before) (after : List Char) :
    (before ++ c :: after).dropWhile (· ≠ c) = c :: after := by
  have hall : ∀ d ∈ before, decide (d ≠ c) = true := fun d hd =>
    decide_eq_true fun heq => h (heq ▸ hd)
  rw [List.dropWhile_append_of_pos hall, List.dropWhile_cons_of_neg (by simp)]

/-- An entry of the name begins with it. -/
theorem prefix_of_isEntryOf {entry : List Char} (h : isEntryOf name entry = true) :
    name ++ [':'] <+: entry := by
  rw [isEntryOf, Bool.and_eq_true, decide_eq_true_eq, decide_eq_true_eq] at h
  obtain ⟨hmem, hname⟩ := h
  obtain ⟨before, after, rfl, hbefore⟩ := List.eq_append_cons_of_mem hmem
  rw [takeWhile_before hbefore] at hname
  exact ⟨after, by rw [hname, List.append_assoc, List.singleton_append]⟩

theorem isEntryOf_of_prefix (hname : ':' ∉ name) (rest : List Char) :
    isEntryOf name (name ++ ':' :: rest) = true ∧ portText (name ++ ':' :: rest) = rest := by
  rw [isEntryOf, portText, takeWhile_before hname, dropWhile_before hname]
  simp

theorem portOf_of_not_found (h : find (name ++ [':']) ports = none) : portOf ports name = none := by
  rw [find_eq_none_iff (by simp)] at h
  have hnone : (ports.splitOn ',').find? (isEntryOf name) = none := by
    rw [List.find?_eq_none]
    intro entry hentry his
    exact h ((prefix_of_isEntryOf his).isInfix.trans (infix_of_mem_splitOn hentry))
  rw [portOf, entryOf, hnone]
  rfl

/-- The first place of the name, where an entry starts, is that of its entry. -/
theorem entryOf_of_startsEntry (hpos : find (name ++ [':']) ports = some pos)
    (hstart : StartsEntry ports name pos) : entryOf ports name = some (textAt ports pos) := by
  obtain ⟨hcolon, hcomma, hbegin⟩ := hstart
  obtain ⟨⟨rest, hrest⟩, hfirst⟩ := (find_eq_some_iff (by simp)).mp hpos
  rw [List.append_assoc, List.singleton_append] at hrest
  have htext : textAt ports pos = rest.takeWhile (· ≠ ',') := by
    rw [textAt, ← hrest, dropWhile_before hcolon, List.tail_cons]
  obtain ⟨more, hmore⟩ := splitOn_head ',' (name ++ ':' :: rest)
  have hpiece : (name ++ ':' :: rest).takeWhile (· ≠ ',') = name ++ ':' :: rest.takeWhile (· ≠ ',') := by
    have hall : ∀ d ∈ name, decide (d ≠ ',') = true := fun d hd =>
      decide_eq_true fun heq => hcomma (heq ▸ hd)
    rw [List.takeWhile_append_of_pos hall, List.takeWhile_cons_of_pos (by decide)]
  obtain ⟨his, hport⟩ := isEntryOf_of_prefix hcolon (rest.takeWhile (· ≠ ','))
  have hhere : ((name ++ ':' :: rest).splitOn ',').find? (isEntryOf name)
      = some (name ++ ':' :: rest.takeWhile (· ≠ ',')) := by
    rw [hmore, hpiece, List.find?_cons_of_pos his]
  rcases hbegin with rfl | hprev
  · rw [List.drop_zero] at hrest
    rw [entryOf, ← hrest, hhere, hrest, htext]
    exact congrArg some hport
  · -- the pieces before the comma hold no entry of the name, which would stand before `pos`
    obtain ⟨hlt, hget⟩ := List.getElem?_eq_some_iff.mp hprev
    have hpospos : 0 < pos := by
      rcases Nat.eq_zero_or_pos pos with rfl | h
      · rw [List.drop_zero] at hrest
        rw [← hrest] at hprev
        cases name with
        | nil => cases hprev
        | cons d name =>
          have : d = ',' := by simpa using hprev
          exact absurd (this ▸ List.mem_cons_self) hcomma
      · exact h
    have hsplit : ports = ports.take (pos - 1) ++ ',' :: (name ++ ':' :: rest) := by
      have hdrop : ports.drop (pos - 1) = ',' :: ports.drop pos := by
        rw [List.drop_eq_getElem_cons hlt, hget, Nat.sub_add_cancel hpospos]
      rw [hrest, ← hdrop, List.take_append_drop]
    have hbefore : ((ports.take (pos - 1)).splitOn ',').find? (isEntryOf name) = none := by
      rw [List.find?_eq_none]
      intro entry hentry his
      obtain ⟨front, back, hfront⟩ :=
        (prefix_of_isEntryOf his).isInfix.trans (infix_of_mem_splitOn hentry)
      have hlen : front.length < pos := by
        have := congrArg List.length hfront
        simp only [List.length_append, List.length_take] at this
        omega
      refine hfirst front.length hlen ⟨back ++ ',' :: (name ++ ':' :: rest), ?_⟩
      rw [hsplit, ← hfront]
      simp
    rw [entryOf, hsplit, List.splitOn_append_cons_self, List.find?_append, hbefore, Option.none_or,
      hhere, ← hsplit, htext]
    exact congrArg some hport

/-- The function returns the port of the entry with exactly the name, and none without one, exactly when
    the name is not mistaken. -/
theorem display_port_iff (ports name : List Char) :
    getDisplayPortFromProperty ports name = .ok (portOf ports name) ↔ Unmistaken ports name := by
  rw [getDisplayPort_eq, Unmistaken]
  cases hpos : find (name ++ [':']) ports with
  | none => simp [portOf_of_not_found hpos]
  | some pos =>
    simp only [Option.some.injEq, forall_eq']
    by_cases hstart : StartsEntry ports name pos
    · have hentry : portOf ports name = portNumber (textAt ports pos) := by
        rw [portOf, entryOf_of_startsEntry hpos hstart]
        rfl
      simp only [hstart, hentry, readPort_iff, forall_const, not_true, false_implies, and_true]
    · simp only [hstart, false_implies, true_and, not_false_eq_true, forall_const]
      cases hport : portOf ports name with
      | none => simp [readPort_eq_none_iff]
      | some n => simp [readPort_eq_some_iff]

/-- An entry without a number throws. -/
example : getDisplayPortFromProperty "DP-1:".toList "DP-1".toList = .error .invalid_argument := by
  decide +kernel

/-- The name of `DP-1` stands in that of `eDP-1`. -/
def twoPorts : List Char := "eDP-1:0x1,DP-1:0x2".toList

theorem port_of_other_connector :
    ¬ ∀ ports name : List Char, getDisplayPortFromProperty ports name = .ok (portOf ports name) := by
  intro h
  have hread : getDisplayPortFromProperty twoPorts "DP-1".toList = .ok (some 1) := by decide +kernel
  have hport : portOf twoPorts "DP-1".toList = some 2 := by decide +kernel
  have heq := hread.symm.trans (h twoPorts "DP-1".toList)
  rw [hport] at heq
  cases heq

end ImxHal.Hwc3.Ports
