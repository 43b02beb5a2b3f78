import ImxHal.Schemes.Text

/-! @src thermal/thermal-helper.cpp (parseCpuUsagesFileAndAssignUsages) |
    name:cpu usages | scheme:text | family:parsers

    The kernel writes the tick counters of every CPU into one file, as unsigned numbers of 64 bits. The
    parser converts each word with `std::stoi`, and so goes through an `int`:

        cpu0 4705 150 1120 16250 …  ──words──▶ stoi ──▶ user, nice, system, idle : uint64_t
                                               │
                                               └─▶ above INT_MAX: out_of_range, which nobody catches -/

namespace ImxHal.CpuUsages
open Text

structure CpuUsage where
  name : List Char
  active : BitVec 64
  total : BitVec 64
  isOnline : Bool
  deriving DecidableEq

/-- The number of cores, and the files that can be read: `/proc/stat`, and the `online` file of a CPU. -/
structure System where
  kMaxCpus : ℕ
  stat : Option (List Char)
  online : List Char → Option (List Char)

def Trim (text : List Char) : List Char :=
  ((text.dropWhile isspace).reverse.dropWhile isspace).reverse

/-- An `int` stored into a `uint64_t`. -/
def toUint64 (v : ℤ) : BitVec 64 := BitVec.ofInt 64 v

/-- `line.find("cpu") == 0 && isdigit(line[3])`; behind the last character stands a zero. -/
def isCpuLine (line : List Char) : Bool :=
  ['c', 'p', 'u'].isPrefixOf line && (line.getD 3 (Char.ofNat 0)).isDigit

/-- The loop body for the line of a CPU; `none` where the function returns. -/
def assignLine (sys : System) (cpu_usages : List CpuUsage) (line : List Char) :
    Except Failure (Option (List CpuUsage)) := do
  let words := line.splitOn ' '
  let cpu_name ← word words 0
  let cpu_num := toUint64 (← stoi (cpu_name.drop 3))
  if cpu_num.toNat < sys.kMaxCpus then
    let user := toUint64 (← stoi (← word words 1))
    let nice := toUint64 (← stoi (← word words 2))
    let system := toUint64 (← stoi (← word words 3))
    let idle := toUint64 (← stoi (← word words 4))
    match sys.online cpu_name with
    | none => return none
    | some is_online =>
      return some (cpu_usages.set cpu_num.toNat
        { name := cpu_name
          active := user + nice + system
          total := user + nice + system + idle
          isOnline := Trim is_online = ['1'] })
  else
    return none

/-- The loop over the lines. -/
def assignLines (sys : System) : List (List Char) → List CpuUsage → Except Failure (List CpuUsage)
  | [], cpu_usages => .ok cpu_usages
  | line :: lines, cpu_usages =>
    if isCpuLine line then
      match assignLine sys cpu_usages line with
      | .error e => .error e
      | .ok none => .ok cpu_usages
      | .ok (some next) => assignLines sys lines next
    else assignLines sys lines cpu_usages

def parseCpuUsagesFileAndAssignUsages (sys : System) (cpu_usages : List CpuUsage) :
    Except Failure (List CpuUsage) :=
  match sys.stat with
  | none => .ok cpu_usages
  | some data => assignLines sys (getlines data) cpu_usages

/-! ### The file the kernel writes -/

/-- The line of one CPU: its number, the four counters that are read, and the counters behind them. -/
structure CpuLine where
  num : ℕ
  user : BitVec 64
  nice : BitVec 64
  system : BitVec 64
  idle : BitVec 64
  more : List (BitVec 64)

namespace CpuLine

def name (c : CpuLine) : List Char := ['c', 'p', 'u'] ++ Nat.toDigits 10 c.num

def words (c : CpuLine) : List (List Char) :=
  c.name :: (c.user :: c.nice :: c.system :: c.idle :: c.more).map fun v => Nat.toDigits 10 v.toNat

def text (c : CpuLine) : List Char := [' '].intercalate c.words

/-- Its number and the four counters fit in an `int`. -/
def Fits (c : CpuLine) : Prop :=
  (c.num : ℤ) ≤ INT_MAX ∧ (c.user.toNat : ℤ) ≤ INT_MAX ∧ (c.nice.toNat : ℤ) ≤ INT_MAX ∧
    (c.system.toNat : ℤ) ≤ INT_MAX ∧ (c.idle.toNat : ℤ) ≤ INT_MAX

instance (c : CpuLine) : Decidable c.Fits := by unfold Fits; infer_instance

/-- What the line says about its CPU, given the content of the `online` file. -/
def usage (c : CpuLine) (is_online : List Char) : CpuUsage :=
  { name := c.name
    active := c.user + c.nice + c.system
    total := c.user + c.nice + c.system + c.idle
    isOnline := Trim is_online = ['1'] }

end CpuLine

/-- A line is that of a CPU or one of the others: the sum over all CPUs, the interrupts and so on. -/
inductive StatLine where
  | cpu (c : CpuLine)
  | other (text : List Char)

def StatLine.text : StatLine → List Char
  | .cpu c => c.text
  | .other text => text

def listed (lines : List StatLine) : List CpuLine :=
  lines.filterMap fun l => match l with
    | .cpu c => some c
    | .other _ => none

def others (lines : List StatLine) : List (List Char) :=
  lines.filterMap fun l => match l with
    | .cpu _ => none
    | .other text => some text

def procStat (lines : List StatLine) : List Char := lines.flatMap fun l => l.text ++ ['\n']

/-- CPUs below the core count, none twice, and other lines that do not look like one. -/
structure WellFormed (kMaxCpus : ℕ) (lines : List StatLine) : Prop where
  below : ∀ c ∈ listed lines, c.num < kMaxCpus
  distinct : (listed lines).Pairwise fun c d => c.num ≠ d.num
  others : ∀ text ∈ others lines, '\n' ∉ text ∧ isCpuLine text = false

/-! ### One line -/

namespace CpuLine

theorem words_clean (c : CpuLine) (sep : Char) (hd : sep.isDigit = false) (hc : sep ∉ ['c', 'p', 'u']) :
    ∀ w ∈ c.words, sep ∉ w := by
  intro w hw
  rcases List.mem_cons.mp hw with rfl | hw
  · intro h
    rcases List.mem_append.mp h with h | h
    · exact hc h
    · exact not_mem_toDigits hd _ h
  · obtain ⟨v, -, rfl⟩ := List.mem_map.mp hw
    exact not_mem_toDigits hd _

theorem drop_name (c : CpuLine) : c.name.drop 3 = Nat.toDigits 10 c.num := rfl

theorem splitOn_text (c : CpuLine) : c.text.splitOn ' ' = c.words :=
  List.splitOn_intercalate ' ' (c.words_clean ' ' (by decide) (by decide)) (by simp [words])

theorem newline_not_mem (c : CpuLine) : '\n' ∉ c.text := by
  intro h
  rcases mem_intercalate h with hsep | ⟨w, hw, hmem⟩
  · exact absurd hsep (by decide)
  · exact c.words_clean '\n' (by decide) (by decide) w hw hmem

theorem isCpuLine_text (c : CpuLine) : isCpuLine c.text = true := by
  obtain ⟨d, ds, hds⟩ := List.exists_cons_of_ne_nil (Nat.toDigits_ne_nil (n := c.num) (b := 10))
  have hd : d.isDigit = true := toDigits_isDigit (n := c.num) (by rw [hds]; exact List.mem_cons_self)
  have htext : c.text = 'c' :: 'p' :: 'u' :: d :: (ds ++ [' '] ++ [' '].intercalate c.words.tail) := by
    simp only [text, words, name, hds, List.map_cons, List.intercalate_cons_cons, List.tail_cons]
    rfl
  rw [htext]
  simpa [isCpuLine] using hd

end CpuLine

theorem toUint64_toNat (v : BitVec 64) : toUint64 v.toNat = v := by
  simp [toUint64]

/-- The number of a CPU that fits in an `int` is the index it is stored at. -/
theorem toUint64_index {n : ℕ} (h : (n : ℤ) ≤ INT_MAX) : (toUint64 n).toNat = n := by
  simp only [INT_MAX] at h
  simp only [toUint64, BitVec.ofInt_natCast, BitVec.toNat_ofNat]
  omega

theorem counter_fits {n : ℕ} (h : (n : ℤ) ≤ INT_MAX) : stoi (Nat.toDigits 10 n) = .ok (n : ℤ) := by
  rw [stoi_toDigits, if_pos h]

theorem counter_overflows {n : ℕ} (h : ¬ (n : ℤ) ≤ INT_MAX) :
    stoi (Nat.toDigits 10 n) = .error .out_of_range := by
  rw [stoi_toDigits, if_neg h]

/-- The line of a CPU below the core count whose numbers all fit: its entry is stored, or the function
    returns because its `online` file cannot be read. -/
theorem assignLine_fits (sys : System) (cpu_usages : List CpuUsage) (c : CpuLine)
    (hbelow : c.num < sys.kMaxCpus) (h : c.Fits) :
    assignLine sys cpu_usages c.text
      = .ok ((sys.online c.name).map fun o => cpu_usages.set c.num (c.usage o)) := by
  obtain ⟨hnum, huser, hnice, hsystem, hidle⟩ := h
  unfold assignLine
  rw [c.splitOn_text]
  simp only [CpuLine.words, List.map_cons, word, List.getElem?_cons_zero, List.getElem?_cons_succ,
    bind, Except.bind, c.drop_name, counter_fits hnum, counter_fits huser, counter_fits hnice,
    counter_fits hsystem, counter_fits hidle, toUint64_index hnum, toUint64_toNat, hbelow, if_true]
  cases sys.online c.name <;> rfl

/-- A number that does not fit ends the whole parse with an exception. -/
theorem assignLine_overflows (sys : System) (cpu_usages : List CpuUsage) (c : CpuLine)
    (hbelow : c.num < sys.kMaxCpus) (h : ¬ c.Fits) :
    assignLine sys cpu_usages c.text = .error .out_of_range := by
  unfold assignLine
  rw [c.splitOn_text]
  simp only [CpuLine.words, List.map_cons, word, List.getElem?_cons_zero, List.getElem?_cons_succ,
    bind, Except.bind, c.drop_name]
  by_cases hnum : (c.num : ℤ) ≤ INT_MAX
  · simp only [counter_fits hnum, toUint64_index hnum, hbelow, if_true]
    by_cases huser : (c.user.toNat : ℤ) ≤ INT_MAX
    · by_cases hnice : (c.nice.toNat : ℤ) ≤ INT_MAX
      · by_cases hsystem : (c.system.toNat : ℤ) ≤ INT_MAX
        · have hidle : ¬ (c.idle.toNat : ℤ) ≤ INT_MAX := fun hidle =>
            h ⟨hnum, huser, hnice, hsystem, hidle⟩
          simp only [counter_fits huser, counter_fits hnice, counter_fits hsystem,
            counter_overflows hidle]
        · simp only [counter_fits huser, counter_fits hnice, counter_overflows hsystem]
      · simp only [counter_fits huser, counter_overflows hnice]
    · simp only [counter_overflows huser]
  · simp only [counter_overflows hnum]

theorem assignLines_cpu (sys : System) (c : CpuLine) (lines : List (List Char))
    (cpu_usages : List CpuUsage) :
    assignLines sys (c.text :: lines) cpu_usages = match assignLine sys cpu_usages c.text with
      | .error e => .error e
      | .ok none => .ok cpu_usages
      | .ok (some next) => assignLines sys lines next := by
  rw [assignLines, if_pos c.isCpuLine_text]

theorem assignLines_other (sys : System) {text : List Char} (h : isCpuLine text = false)
    (lines : List (List Char)) (cpu_usages : List CpuUsage) :
    assignLines sys (text :: lines) cpu_usages = assignLines sys lines cpu_usages := by
  rw [assignLines, h]
  rfl

/-! ### The whole file -/

theorem listed_cpu (c : CpuLine) (lines : List StatLine) :
    listed (.cpu c :: lines) = c :: listed lines := rfl

namespace WellFormed

theorem tail_cpu {kMaxCpus : ℕ} {c : CpuLine} {lines : List StatLine}
    (h : WellFormed kMaxCpus (.cpu c :: lines)) :
    c.num < kMaxCpus ∧ (∀ d ∈ listed lines, c.num ≠ d.num) ∧ WellFormed kMaxCpus lines := by
  obtain ⟨hbelow, hdistinct, hothers⟩ := h
  rw [listed_cpu] at hbelow hdistinct
  obtain ⟨hc, hrest⟩ := List.pairwise_cons.mp hdistinct
  exact ⟨hbelow c List.mem_cons_self, hc, fun d hd => hbelow d (List.mem_cons_of_mem c hd), hrest,
    hothers⟩

theorem tail_other {kMaxCpus : ℕ} {text : List Char} {lines : List StatLine}
    (h : WellFormed kMaxCpus (.other text :: lines)) :
    isCpuLine text = false ∧ WellFormed kMaxCpus lines :=
  ⟨(h.others text List.mem_cons_self).2, h.below, h.distinct,
    fun t ht => h.others t (List.mem_cons_of_mem text ht)⟩

theorem getlines_procStat {kMaxCpus : ℕ} {lines : List StatLine} (h : WellFormed kMaxCpus lines) :
    getlines (procStat lines) = lines.map StatLine.text := by
  have hclean : ∀ l ∈ lines.map StatLine.text, '\n' ∉ l := by
    intro l hl
    obtain ⟨line, hline, rfl⟩ := List.mem_map.mp hl
    cases line with
    | cpu c => exact c.newline_not_mem
    | other text => exact (h.others text (List.mem_filterMap.mpr ⟨.other text, hline, rfl⟩)).1
  rw [← getlines_lines _ hclean, procStat, List.flatMap_map]

end WellFormed

/-- Its numbers fit in an `int` and its `online` file can be read. -/
def Readable (sys : System) (c : CpuLine) : Prop := c.Fits ∧ (sys.online c.name).isSome

instance (sys : System) (c : CpuLine) : Decidable (Readable sys c) := by
  unfold Readable; infer_instance

/-- When every listed CPU is readable the loop runs through: each of them has its entry, and the entries
    of the other CPUs are as before. -/
theorem assignLines_readable (sys : System) (lines : List StatLine) (cpu_usages : List CpuUsage)
    (hwf : WellFormed sys.kMaxCpus lines) (hlen : cpu_usages.length = sys.kMaxCpus)
    (h : ∀ c ∈ listed lines, Readable sys c) :
    ∃ after, assignLines sys (lines.map StatLine.text) cpu_usages = .ok after ∧
      (∀ c ∈ listed lines, ∃ o, sys.online c.name = some o ∧ after[c.num]? = some (c.usage o)) ∧
      ∀ i : ℕ, (∀ c ∈ listed lines, c.num ≠ i) → after[i]? = cpu_usages[i]? := by
  induction lines generalizing cpu_usages with
  | nil => exact ⟨cpu_usages, rfl, fun c hc => absurd hc List.not_mem_nil, fun _ _ => rfl⟩
  | cons line lines ih =>
    cases line with
    | other text =>
      obtain ⟨hother, hrest⟩ := hwf.tail_other
      rw [List.map_cons, StatLine.text, assignLines_other sys hother]
      exact ih cpu_usages hrest hlen h
    | cpu c =>
      obtain ⟨hbelow, hfresh, hrest⟩ := hwf.tail_cpu
      obtain ⟨hfits, honline⟩ := h c List.mem_cons_self
      obtain ⟨o, ho⟩ := Option.isSome_iff_exists.mp honline
      obtain ⟨after, hrun, hstored, hframe⟩ := ih (cpu_usages.set c.num (c.usage o)) hrest
        (by rw [List.length_set, hlen]) fun d hd => h d (List.mem_cons_of_mem c hd)
      refine ⟨after, ?_, ?_, ?_⟩
      · rw [List.map_cons, StatLine.text, assignLines_cpu, assignLine_fits sys _ c hbelow hfits, ho]
        exact hrun
      · intro d hd
        rcases List.mem_cons.mp hd with rfl | hd
        · refine ⟨o, ho, ?_⟩
          rw [hframe d.num fun e he => (hfresh e he).symm, List.getElem?_set_self (by omega)]
        · exact hstored d hd
      · intro i hi
        rw [hframe i fun d hd => hi d (List.mem_cons_of_mem c hd),
          List.getElem?_set_ne (hi c List.mem_cons_self)]

/-- When one is not, some listed CPU never gets its entry: the parse ends with an exception, or it
    returns with that entry as it was. -/
theorem assignLines_unreadable (sys : System) (lines : List StatLine)
    (hwf : WellFormed sys.kMaxCpus lines) (h : ∃ c ∈ listed lines, ¬ Readable sys c) :
    ∃ c ∈ listed lines, ∀ cpu_usages after,
      assignLines sys (lines.map StatLine.text) cpu_usages = .ok after →
        after[c.num]? = cpu_usages[c.num]? := by
  induction lines with
  | nil =>
    obtain ⟨c, hc, -⟩ := h
    exact absurd hc List.not_mem_nil
  | cons line lines ih =>
    cases line with
    | other text =>
      obtain ⟨hother, hrest⟩ := hwf.tail_other
      simp only [List.map_cons, StatLine.text, assignLines_other sys hother]
      exact ih hrest h
    | cpu c =>
      obtain ⟨hbelow, hfresh, hrest⟩ := hwf.tail_cpu
      simp only [List.map_cons, StatLine.text, assignLines_cpu]
      by_cases hfits : c.Fits
      · cases ho : sys.online c.name with
        | none =>
          refine ⟨c, List.mem_cons_self, fun cpu_usages after hafter => ?_⟩
          rw [assignLine_fits sys _ c hbelow hfits, ho] at hafter
          cases hafter
          rfl
        | some o =>
          have hrestBad : ∃ d ∈ listed lines, ¬ Readable sys d := by
            obtain ⟨d, hd, hbad⟩ := h
            rcases List.mem_cons.mp hd with rfl | hd
            · exact absurd ⟨hfits, by rw [ho]; rfl⟩ hbad
            · exact ⟨d, hd, hbad⟩
          obtain ⟨d, hd, hkeeps⟩ := ih hrest hrestBad
          refine ⟨d, List.mem_cons_of_mem c hd, fun cpu_usages after hafter => ?_⟩
          rw [assignLine_fits sys _ c hbelow hfits, ho] at hafter
          rw [hkeeps _ after hafter, List.getElem?_set_ne (hfresh d hd)]
      · refine ⟨c, List.mem_cons_self, fun cpu_usages after hafter => ?_⟩
        rw [assignLine_overflows sys _ c hbelow hfits] at hafter
        cases hafter

/-! ### What the usages say -/

/-- The parse returns, and the entry of every listed CPU has the sums of its counters modulo 2^64. -/
def Reports (kMaxCpus : ℕ) (online : List Char → Option (List Char)) (lines : List StatLine)
    (cpu_usages : List CpuUsage) : Prop :=
  ∃ after, parseCpuUsagesFileAndAssignUsages ⟨kMaxCpus, some (procStat lines), online⟩ cpu_usages
      = .ok after ∧
    ∀ c ∈ listed lines, ∃ usage, after[c.num]? = some usage ∧
      usage.active.toNat = (c.user.toNat + c.nice.toNat + c.system.toNat) % 2 ^ 64 ∧
      usage.total.toNat = (c.user.toNat + c.nice.toNat + c.system.toNat + c.idle.toNat) % 2 ^ 64

theorem active_toNat (c : CpuLine) : (c.user + c.nice + c.system).toNat
    = (c.user.toNat + c.nice.toNat + c.system.toNat) % 2 ^ 64 := by
  rw [BitVec.toNat_add, BitVec.toNat_add, Nat.mod_add_mod]

theorem total_toNat (c : CpuLine) : (c.user + c.nice + c.system + c.idle).toNat
    = (c.user.toNat + c.nice.toNat + c.system.toNat + c.idle.toNat) % 2 ^ 64 := by
  rw [BitVec.toNat_add, active_toNat, Nat.mod_add_mod]

theorem parse_procStat {kMaxCpus : ℕ} {lines : List StatLine} (hwf : WellFormed kMaxCpus lines)
    (online : List Char → Option (List Char)) (cpu_usages : List CpuUsage) :
    parseCpuUsagesFileAndAssignUsages ⟨kMaxCpus, some (procStat lines), online⟩ cpu_usages
      = assignLines ⟨kMaxCpus, some (procStat lines), online⟩ (lines.map StatLine.text) cpu_usages := by
  rw [← hwf.getlines_procStat]
  rfl

/-- CORRECT: whatever the vector held before, every listed CPU is reported exactly when all its numbers
    fit in an `int` and its `online` file can be read. -/
theorem reports_iff (kMaxCpus : ℕ) (online : List Char → Option (List Char)) (lines : List StatLine)
    (hwf : WellFormed kMaxCpus lines) :
    (∀ cpu_usages : List CpuUsage, cpu_usages.length = kMaxCpus →
        Reports kMaxCpus online lines cpu_usages) ↔
      ∀ c ∈ listed lines, c.Fits ∧ (online c.name).isSome := by
  let sys : System := ⟨kMaxCpus, some (procStat lines), online⟩
  have hparse := parse_procStat hwf online
  constructor
  · intro hreports
    by_contra hbad
    obtain ⟨c, hc, hkeeps⟩ : ∃ c ∈ listed lines, ∀ cpu_usages after,
        assignLines sys (lines.map StatLine.text) cpu_usages = .ok after →
          after[c.num]? = cpu_usages[c.num]? := by
      apply assignLines_unreadable sys lines hwf
      by_contra hall
      exact hbad fun c hc => not_not.mp fun hr => hall ⟨c, hc, hr⟩
    -- A vector whose entries are all one off for that CPU shows that nothing was stored for it.
    let stale : CpuUsage := ⟨[], c.user + c.nice + c.system + 1, 0, false⟩
    obtain ⟨after, hrun, hstored⟩ := hreports (List.replicate kMaxCpus stale) List.length_replicate
    obtain ⟨usage, hget, hactive, -⟩ := hstored c hc
    rw [hkeeps _ after ((hparse _).symm.trans hrun),
      List.getElem?_replicate_of_lt (hwf.below c hc)] at hget
    cases hget
    rw [← active_toNat] at hactive
    have hsame : c.user + c.nice + c.system + 1 = c.user + c.nice + c.system :=
      BitVec.eq_of_toNat_eq hactive
    generalize c.user + c.nice + c.system = sum at hsame
    bv_omega
  · intro hread cpu_usages hlen
    obtain ⟨after, hrun, hstored, -⟩ := assignLines_readable sys lines cpu_usages hwf hlen hread
    refine ⟨after, (hparse cpu_usages).trans hrun, fun c hc => ?_⟩
    obtain ⟨o, -, hget⟩ := hstored c hc
    exact ⟨c.usage o, hget, active_toNat c, total_toNat c⟩

/-- Two CPUs that are up, with the counters of a boot. -/
theorem reports_two_cpus :
    Reports 2 (fun _ => some ['1', '\n'])
      [.other ['c', 'p', 'u', ' ', ' ', '9'], .cpu ⟨0, 4, 1, 2, 70, [5]⟩, .cpu ⟨1, 3, 0, 2, 80, []⟩]
      [⟨[], 0, 0, false⟩, ⟨[], 0, 0, false⟩] :=
  (reports_iff 2 _ _ ⟨by decide, by decide, by decide⟩).mpr (by decide) _ rfl

/-- An idle counter of 2^31 ticks, which a CPU at 100 ticks a second reaches after 249 days. -/
theorem uptime_throws :
    ¬ ∀ (kMaxCpus : ℕ) (online : List Char → Option (List Char)) (lines : List StatLine),
      WellFormed kMaxCpus lines → (∀ c ∈ listed lines, (online c.name).isSome) →
      ∀ cpu_usages : List CpuUsage, cpu_usages.length = kMaxCpus →
        Reports kMaxCpus online lines cpu_usages := by
  intro h
  let line : CpuLine := ⟨0, 0, 0, 0, 2147483648, []⟩
  have hwf : WellFormed 1 [.cpu line] := ⟨by decide, by decide, by decide⟩
  obtain ⟨after, hrun, -⟩ := h 1 (fun _ => some ['1']) [.cpu line] hwf (by decide) [⟨[], 0, 0, false⟩] rfl
  rw [parse_procStat hwf, List.map_cons, StatLine.text, assignLines_cpu,
    assignLine_overflows _ _ line (by decide) (by decide)] at hrun
  cases hrun

end ImxHal.CpuUsages
