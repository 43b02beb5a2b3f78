import ImxHal.Schemes.Numeral
import ImxHal.Hwc3.DisplayConfig

/-! @src display/hwcomposer3/Common.cpp (parseDisplayMode, gDisplayModes) | name:Boot display mode |
    scheme:text | family:parsers

    `ro.boot.displaymode` is the start of a known mode's name or a mode of its own:

        1080p50…          the first name of the table that it starts with
        1920x1080p60      ──split at x and p──▶ 1920, 1080, 60
        800p480x60 8x8p8p the separators are not told apart, and further tokens are not looked at
        1920x1080p        the third token is empty: stoul throws

    A number that is 0 as a `uint32_t` gives the default, 1080p60, with the preferred mode. -/

namespace ImxHal.Hwc3.Configs
open ImxHal.Text

deriving instance DecidableEq for BootMode

structure DisplayMode where
  modestr : List Char
  width : ℕ
  height : ℕ
  vrefresh : ℕ

def gDisplayModes : List DisplayMode :=
  [⟨"4kp60".toList, 3840, 2160, 60⟩, ⟨"4kp50".toList, 3840, 2160, 50⟩,
    ⟨"4kp30".toList, 3840, 2160, 30⟩, ⟨"1080p60".toList, 1920, 1080, 60⟩,
    ⟨"1080p50".toList, 1920, 1080, 50⟩, ⟨"1080p30".toList, 1920, 1080, 30⟩,
    ⟨"720p60".toList, 1280, 720, 60⟩, ⟨"720p50".toList, 1280, 720, 50⟩,
    ⟨"720p30".toList, 1280, 720, 30⟩, ⟨"480p60".toList, 640, 480, 60⟩,
    ⟨"480p50".toList, 640, 480, 50⟩, ⟨"480p30".toList, 640, 480, 30⟩,
    ⟨"4k".toList, 3840, 2160, 60⟩, ⟨"1080p".toList, 1920, 1080, 60⟩,
    ⟨"720p".toList, 1280, 720, 60⟩, ⟨"480p".toList, 640, 480, 60⟩]

/-- The mode of the table whose name the value starts with. -/
def tableMode (value : List Char) : Option DisplayMode :=
  gDisplayModes.find? fun mode => mode.modestr.isPrefixOf value

/-- `strsep` with the delimiters `xp`. -/
def tokens (value : List Char) : List (List Char) := value.splitOnP fun c => c = 'x' || c = 'p'

/-- `static_cast<uint32_t>` of an `unsigned long`. -/
def toUint32 (n : ℕ) : ℕ := n % 2 ^ 32

/-- The loop over the tokens, with `left` numbers to come; `none` is `isValid = false`. -/
def readTokens : (left : ℕ) → List (List Char) → Except Failure (Option (List ℕ))
  | 0, _ => .ok (some [])
  | _, [] => .ok (some [])
  | left + 1, token :: rest =>
    match stoul token 10 with
    | .error e => .error e
    | .ok n =>
      if toUint32 n = 0 then .ok none
      else
        match readTokens left rest with
        | .ok (some modeResult) => .ok (some (toUint32 n :: modeResult))
        | other => other

/-- "Set default mode as 1080p60" -/
def defaultMode : BootMode := ⟨1920, 1080, 60, true⟩

def parseValue (value : List Char) : Except Failure BootMode :=
  match tableMode value with
  | some mode => .ok ⟨mode.width, mode.height, mode.vrefresh, false⟩
  | none =>
    if 'x' ∈ value ∧ 'p' ∈ value then
      match readTokens 3 (tokens value) with
      | .error e => .error e
      | .ok none => .ok defaultMode
      | .ok (some modeResult) =>
        .ok ⟨modeResult.getD 0 0, modeResult.getD 1 0, modeResult.getD 2 0, false⟩
    else .ok defaultMode

/-- `property_get`: the default stands for an empty property. -/
def property_get (property default' : List Char) : List Char :=
  if property = [] then default' else property

def parseDisplayMode (property : List Char) : Except Failure BootMode :=
  parseValue (property_get property ['p'])

/-! ### The format -/

/-- A positive decimal number. -/
def Denotes (text : List Char) (n : ℕ) : Prop := IsNumeral 10 text ∧ number 10 text = n ∧ 0 < n

/-- "displaymode format should be 1920x1080p60" -/
def IsMode (value : List Char) (width height vrefresh : ℕ) : Prop :=
  ∃ w h r, value = w ++ 'x' :: (h ++ 'p' :: r) ∧ Denotes w width ∧ Denotes h height ∧ Denotes r vrefresh

/-- The mode that a property stands for. -/
def StandsFor (property : List Char) (mode : BootMode) : Prop :=
  match tableMode property with
  | some known => mode = ⟨known.width, known.height, known.vrefresh, false⟩
  | none =>
    (∀ width height vrefresh, IsMode property width height vrefresh →
      mode = ⟨width, height, vrefresh, false⟩) ∧
    ((∀ width height vrefresh, ¬ IsMode property width height vrefresh) → mode = defaultMode)

/-- Among the first three tokens one is read as a number that is 0 in 32 bits, and all before it are
    read as numbers. -/
def ZeroToken (property : List Char) : Prop :=
  ∃ before token after, (tokens property).take 3 = before ++ token :: after ∧
    (∀ t ∈ before, ∃ n, stoul t 10 = .ok n) ∧ ∃ n, stoul token 10 = .ok n ∧ toUint32 n = 0

/-- A name of the table, no `x` or no `p`, a mode of 32-bit numbers, or none with a zero token. -/
def Readable (property : List Char) : Prop :=
  (tableMode property).isSome = true ∨ ¬ ('x' ∈ property ∧ 'p' ∈ property) ∨
    (∃ width height vrefresh, IsMode property width height vrefresh ∧
      width < 2 ^ 32 ∧ height < 2 ^ 32 ∧ vrefresh < 2 ^ 32) ∨
    ((∀ width height vrefresh, ¬ IsMode property width height vrefresh) ∧ ZeroToken property)

variable {property : List Char}

/-- The default of the property is no mode, like the empty one. -/
theorem parseDisplayMode_eq (property : List Char) : parseDisplayMode property = parseValue property := by
  rw [parseDisplayMode, property_get]
  by_cases h : property = []
  · rw [if_pos h, h]
    rfl
  · rw [if_neg h]

/-! ### The tokens -/

theorem numeral_no_separator {text : List Char} (h : IsNumeral 10 text) :
    ∀ c ∈ text, (decide (c = 'x') || decide (c = 'p')) = false := by
  intro c hc
  have hx : c ≠ 'x' := fun heq => h.not_mem (by decide) (heq ▸ hc)
  have hp : c ≠ 'p' := fun heq => h.not_mem (by decide) (heq ▸ hc)
  simp [hx, hp]

/-- A mode splits into its numbers. -/
theorem tokens_mode {w h r : List Char} (hw : IsNumeral 10 w) (hh : IsNumeral 10 h)
    (hr : IsNumeral 10 r) : tokens (w ++ 'x' :: (h ++ 'p' :: r)) = [w, h, r] := by
  rw [tokens, List.splitOnP_append_cons_of_forall_mem (numeral_no_separator hw) 'x' (by decide),
    List.splitOnP_append_cons_of_forall_mem (numeral_no_separator hh) 'p' (by decide),
    List.splitOnP_eq_singleton (numeral_no_separator hr)]

/-- A token that is taken, and the rest. -/
theorem readTokens_eq_some {left : ℕ} {token : List Char} {rest : List (List Char)} {ns : List ℕ} :
    readTokens (left + 1) (token :: rest) = .ok (some ns) ↔
      ∃ n ms, ns = toUint32 n :: ms ∧ stoul token 10 = .ok n ∧ toUint32 n ≠ 0 ∧
        readTokens left rest = .ok (some ms) := by
  rw [readTokens]
  cases hs : stoul token 10 with
  | error e => simp
  | ok n =>
    by_cases hzero : toUint32 n = 0
    · simp [hzero]
    · simp only [if_neg hzero]
      cases readTokens left rest with
      | error e => simp
      | ok o =>
        cases o with
        | none => simp
        | some ms =>
          simp only [Except.ok.injEq, Option.some.injEq]
          constructor
          · intro heq
            exact ⟨n, ms, heq.symm, rfl, hzero, rfl⟩
          · rintro ⟨n', ms', heq, hn, -, hms⟩
            rw [heq, hn, hms]

/-- The loop gives up at the first zero, after tokens that are numbers. -/
theorem readTokens_eq_none (left : ℕ) (rest : List (List Char)) :
    readTokens left rest = .ok none ↔
      ∃ before token after, rest.take left = before ++ token :: after ∧
        (∀ t ∈ before, ∃ n, stoul t 10 = .ok n) ∧ ∃ n, stoul token 10 = .ok n ∧ toUint32 n = 0 := by
  induction left generalizing rest with
  | zero => simp [readTokens]
  | succ left ih =>
    cases rest with
    | nil => simp [readTokens]
    | cons first rest =>
      rw [readTokens, List.take_succ_cons]
      cases hs : stoul first 10 with
      | error e =>
        refine iff_of_false (fun h : Except.error e = .ok none => nomatch h) ?_
        rintro ⟨before, token, after, heq, hbefore, n, hn, -⟩
        cases before with
        | nil =>
          cases heq
          rw [hs] at hn
          cases hn
        | cons b before =>
          rw [List.cons_append, List.cons.injEq] at heq
          obtain ⟨m, hm⟩ := hbefore b List.mem_cons_self
          rw [← heq.1] at hm
          rw [hs] at hm
          cases hm
      | ok n =>
        by_cases hzero : toUint32 n = 0
        · exact iff_of_true (if_pos hzero) ⟨[], first, rest.take left, rfl, by simp, n, hs, hzero⟩
        · simp only [if_neg hzero]
          have hrest : (match readTokens left rest with
              | .ok (some modeResult) => .ok (some (toUint32 n :: modeResult))
              | other => other) = (.ok none : Except Failure (Option (List ℕ))) ↔
              readTokens left rest = .ok none := by
            cases readTokens left rest with
            | error e => simp
            | ok o => cases o <;> simp
          rw [hrest, ih]
          constructor
          · rintro ⟨before, token, after, heq, hbefore, hn⟩
            exact ⟨first :: before, token, after, by rw [heq, List.cons_append],
              List.forall_mem_cons.mpr ⟨⟨n, hs⟩, hbefore⟩, hn⟩
          · rintro ⟨before, token, after, heq, hbefore, m, hm, hm0⟩
            cases before with
            | nil =>
              cases heq
              rw [hs] at hm
              cases hm
              exact absurd hm0 hzero
            | cons b before =>
              rw [List.cons_append, List.cons.injEq] at heq
              exact ⟨before, token, after, heq.2, (List.forall_mem_cons.mp hbefore).2, m, hm, hm0⟩

/-! ### Modes -/

/-- A number is taken as it stands when it has 32 bits. -/
theorem taken_iff {text : List Char} {n : ℕ} (h : Denotes text n) :
    (∃ m, stoul text 10 = .ok m ∧ toUint32 m ≠ 0 ∧ toUint32 m = n) ↔ n < 2 ^ 32 := by
  obtain ⟨hnumeral, rfl, hpos⟩ := h
  rw [stoul_numeral hnumeral (by norm_num)]
  constructor
  · rintro ⟨m, -, -, heq⟩
    exact heq ▸ Nat.mod_lt _ (by norm_num)
  · intro hlt
    have hnot : ¬ number 10 text > ULONG_MAX := by rw [ULONG_MAX]; omega
    have hmod : toUint32 (number 10 text) = number 10 text := Nat.mod_eq_of_lt hlt
    exact ⟨_, if_neg hnot, by rw [hmod]; exact hpos.ne', hmod⟩

/-- Three numbers are taken as they stand when they have 32 bits. -/
theorem readTokens_mode_iff {w h r : List Char} {width height vrefresh : ℕ} (hw : Denotes w width)
    (hh : Denotes h height) (hr : Denotes r vrefresh) :
    readTokens 3 [w, h, r] = .ok (some [width, height, vrefresh]) ↔
      width < 2 ^ 32 ∧ height < 2 ^ 32 ∧ vrefresh < 2 ^ 32 := by
  rw [← taken_iff hw, ← taken_iff hh, ← taken_iff hr]
  constructor
  · intro hread
    obtain ⟨nw, _, heq, hnw, hw0, hread⟩ := readTokens_eq_some.mp hread
    cases heq
    obtain ⟨nh, _, heq, hnh, hh0, hread⟩ := readTokens_eq_some.mp hread
    cases heq
    obtain ⟨nr, _, heq, hnr, hr0, -⟩ := readTokens_eq_some.mp hread
    cases heq
    exact ⟨⟨nw, hnw, hw0, rfl⟩, ⟨nh, hnh, hh0, rfl⟩, ⟨nr, hnr, hr0, rfl⟩⟩
  · rintro ⟨⟨nw, hnw, hw0, rfl⟩, ⟨nh, hnh, hh0, rfl⟩, ⟨nr, hnr, hr0, rfl⟩⟩
    refine readTokens_eq_some.mpr ⟨nw, _, rfl, hnw, hw0, ?_⟩
    refine readTokens_eq_some.mpr ⟨nh, _, rfl, hnh, hh0, ?_⟩
    exact readTokens_eq_some.mpr ⟨nr, _, rfl, hnr, hr0, rfl⟩

theorem IsMode.separators {width height vrefresh : ℕ} (h : IsMode property width height vrefresh) :
    'x' ∈ property ∧ 'p' ∈ property := by
  obtain ⟨w, h, r, rfl, -⟩ := h
  simp

/-- A property is one mode at most. -/
theorem IsMode.unique {width height vrefresh width' height' vrefresh' : ℕ}
    (h : IsMode property width height vrefresh) (h' : IsMode property width' height' vrefresh') :
    width' = width ∧ height' = height ∧ vrefresh' = vrefresh := by
  obtain ⟨w, h, r, heq, ⟨hw, rfl, -⟩, ⟨hh, rfl, -⟩, ⟨hr, rfl, -⟩⟩ := h
  obtain ⟨w', h', r', heq', ⟨hw', rfl, -⟩, ⟨hh', rfl, -⟩, ⟨hr', rfl, -⟩⟩ := h'
  have htokens : [w', h', r'] = [w, h, r] := by
    rw [← tokens_mode hw' hh' hr', ← heq', heq, tokens_mode hw hh hr]
  cases htokens
  exact ⟨rfl, rfl, rfl⟩

theorem standsFor_mode {width height vrefresh : ℕ} {mode : BootMode} (hnone : tableMode property = none)
    (h : IsMode property width height vrefresh) :
    StandsFor property mode ↔ mode = ⟨width, height, vrefresh, false⟩ := by
  simp only [StandsFor, hnone]
  constructor
  · rintro ⟨hmode, -⟩
    exact hmode width height vrefresh h
  · rintro rfl
    refine ⟨fun width' height' vrefresh' h' => ?_, fun hnot => absurd h (hnot _ _ _)⟩
    obtain ⟨rfl, rfl, rfl⟩ := h.unique h'
    rfl

theorem standsFor_default {mode : BootMode} (hnone : tableMode property = none)
    (hnot : ∀ width height vrefresh, ¬ IsMode property width height vrefresh) :
    StandsFor property mode ↔ mode = defaultMode := by
  simp only [StandsFor, hnone]
  exact ⟨fun h => h.2 hnot, fun h => ⟨fun _ _ _ h' => absurd h' (hnot _ _ _), fun _ => h⟩⟩

/-- The loop fills `modeResult` as far as there are tokens. -/
theorem length_readTokens (left : ℕ) (rest : List (List Char)) {ns : List ℕ}
    (h : readTokens left rest = .ok (some ns)) : ns.length = min left rest.length := by
  induction left generalizing rest ns with
  | zero =>
    cases h
    simp
  | succ left ih =>
    cases rest with
    | nil =>
      cases h
      simp
    | cons token rest =>
      obtain ⟨n, ms, rfl, -, -, hms⟩ := readTokens_eq_some.mp h
      rw [List.length_cons, List.length_cons, ih rest hms, Nat.add_min_add_right]

/-- What the value gives where it is split. -/
theorem parseValue_split (hnone : tableMode property = none) (h : 'x' ∈ property ∧ 'p' ∈ property) :
    parseValue property =
      match readTokens 3 (tokens property) with
      | .error e => .error e
      | .ok none => .ok defaultMode
      | .ok (some modeResult) =>
        .ok ⟨modeResult.getD 0 0, modeResult.getD 1 0, modeResult.getD 2 0, false⟩ := by
  simp only [parseValue, hnone]
  rw [if_pos h]

/-- The default comes from a zero alone, and a triple from three tokens. -/
theorem parseValue_default_iff (hnone : tableMode property = none)
    (h : 'x' ∈ property ∧ 'p' ∈ property) :
    parseValue property = .ok defaultMode ↔ ZeroToken property := by
  rw [parseValue_split hnone h, ZeroToken, ← readTokens_eq_none]
  cases readTokens 3 (tokens property) with
  | error e => simp
  | ok o => cases o <;> simp [defaultMode]

theorem parseValue_mode_iff (hnone : tableMode property = none) {width height vrefresh : ℕ}
    (h : IsMode property width height vrefresh) :
    parseValue property = .ok ⟨width, height, vrefresh, false⟩ ↔
      width < 2 ^ 32 ∧ height < 2 ^ 32 ∧ vrefresh < 2 ^ 32 := by
  rw [parseValue_split hnone h.separators]
  obtain ⟨w, h, r, rfl, hw, hh, hr⟩ := h
  rw [tokens_mode hw.1 hh.1 hr.1, ← readTokens_mode_iff hw hh hr]
  cases hread : readTokens 3 [w, h, r] with
  | error e => simp
  | ok o =>
    cases o with
    | none => simp [defaultMode]
    | some ns =>
      obtain ⟨a, b, c, rfl⟩ := List.length_eq_three.mp (length_readTokens 3 _ hread)
      simp

/-- A property gives the mode it stands for exactly when it is readable. -/
theorem display_mode_iff (property : List Char) :
    (∃ mode, parseDisplayMode property = .ok mode ∧ StandsFor property mode) ↔ Readable property := by
  rw [parseDisplayMode_eq, Readable]
  cases hnone : tableMode property with
  | some known =>
    refine iff_of_true ⟨⟨known.width, known.height, known.vrefresh, false⟩, ?_, ?_⟩ (Or.inl rfl)
    · simp only [parseValue, hnone]
    · simp only [StandsFor, hnone]
  | none =>
    simp only [Option.isSome_none, Bool.false_eq_true, false_or]
    by_cases hmode : ∃ width height vrefresh, IsMode property width height vrefresh
    · obtain ⟨width, height, vrefresh, h⟩ := hmode
      simp only [standsFor_mode hnone h, exists_eq_right, parseValue_mode_iff hnone h]
      constructor
      · intro hlt
        exact Or.inr (Or.inl ⟨width, height, vrefresh, h, hlt⟩)
      · rintro (hno | ⟨width', height', vrefresh', h', hlt⟩ | ⟨hnot, -⟩)
        · exact absurd h.separators hno
        · obtain ⟨rfl, rfl, rfl⟩ := h.unique h'
          exact hlt
        · exact absurd h (hnot _ _ _)
    · have hnot : ∀ width height vrefresh, ¬ IsMode property width height vrefresh :=
        fun width height vrefresh h => hmode ⟨width, height, vrefresh, h⟩
      simp only [standsFor_default hnone hnot, exists_eq_right]
      by_cases hxp : 'x' ∈ property ∧ 'p' ∈ property
      · rw [parseValue_default_iff hnone hxp]
        constructor
        · intro hzero
          exact Or.inr (Or.inr ⟨hnot, hzero⟩)
        · rintro (hno | ⟨width, height, vrefresh, h, -⟩ | ⟨-, hzero⟩)
          · exact absurd hxp hno
          · exact absurd h (hnot _ _ _)
          · exact hzero
      · refine iff_of_true ?_ (Or.inl hxp)
        simp only [parseValue, hnone]
        rw [if_neg hxp]

/-- Separators in the other order, and text behind the numbers, are taken. -/
example : parseDisplayMode "800p480x60Hz".toList = .ok ⟨800, 480, 60, false⟩ := by decide +kernel

/-- `1920x1080p` throws: its third token is empty. -/
theorem display_mode_throws :
    ¬ ∀ property : List Char, ∃ mode, parseDisplayMode property = .ok mode ∧ StandsFor property mode := by
  intro h
  have hthrows : parseDisplayMode "1920x1080p".toList = .error .invalid_argument := by decide +kernel
  obtain ⟨mode, hmode, -⟩ := h "1920x1080p".toList
  rw [hthrows] at hmode
  cases hmode

end ImxHal.Hwc3.Configs
