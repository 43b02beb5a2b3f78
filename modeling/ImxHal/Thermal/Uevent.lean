import Mathlib.Data.Finset.Basic
import ImxHal.Schemes.Run
import ImxHal.Schemes.Text

/-! @src thermal/utils/thermal_watcher.cpp (parseUevent) |
    name:thermal uevents | scheme:run, text | family:parsers

    One call drains the socket. A message is the list of its zero-terminated fields; the flag says that the
    fields which follow may name a sensor. It is set once per DRAIN, not once per message, and the fields
    are searched for a substring:

        message 1   SUBSYSTEM=thermal, NAME=cpu                            flag := true, cpu
        message 2   SUBSYSTEM=power_supply, POWER_SUPPLY_NAME=battery      flag still set: battery -/

namespace ImxHal.Uevent
open Run Text

abbrev Field := List Char

def kUeventMsgLen : ℕ := 2048
def NUL : Char := Char.ofNat 0
def SUBSYSTEM : Field := "SUBSYSTEM=".toList
def SUBSYSTEM_THERMAL : Field := "SUBSYSTEM=thermal".toList
def NAME : Field := "NAME=".toList

/-- The flag and the sensors found so far. -/
structure Drain where
  thermal_event : Bool
  sensors_set : Finset (List Char)
  deriving DecidableEq

/-- The fields `cp` points to one after the other, up to the first empty one. -/
def fieldsOf (msg : List Char) : List Field :=
  ((msg ++ [NUL, NUL]).splitOn NUL).takeWhile (· ≠ [])

/-- What stands behind the first `NAME=` of a field. -/
def nameIn (uevent : Field) : Option (List Char) :=
  (find NAME uevent).map fun start_pos => uevent.drop (start_pos + 5)

/-- The loop over the fields of one message. -/
def scanFields (monitored_sensors_ : Finset (List Char)) : List Field → Drain → Drain
  | [], s => s
  | uevent :: rest, s =>
    if s.thermal_event then
      match nameIn uevent with
      | some name =>
        if name ∈ monitored_sensors_ then { s with sensors_set := insert name s.sensors_set } else s
      | none => scanFields monitored_sensors_ rest s
    else if find SUBSYSTEM uevent = some 0 then
      if (find SUBSYSTEM_THERMAL uevent).isSome then
        scanFields monitored_sensors_ rest { s with thermal_event := true }
      else s
    else scanFields monitored_sensors_ rest s

/-- The loop over the messages; behind the last one nothing is received. A message that fills the buffer
    is discarded. -/
def drainMessages (monitored_sensors_ : Finset (List Char)) : List (List Char) → Drain → Drain
  | [], s => s
  | msg :: rest, s =>
    if msg.length = 0 then s
    else if msg.length ≥ kUeventMsgLen then drainMessages monitored_sensors_ rest s
    else drainMessages monitored_sensors_ rest (scanFields monitored_sensors_ (fieldsOf msg) s)

def parseUevent (monitored_sensors_ : Finset (List Char)) (msgs : List (List Char))
    (sensors_set : Finset (List Char)) : Finset (List Char) :=
  (drainMessages monitored_sensors_ msgs ⟨false, sensors_set⟩).sensors_set

/-! ### Messages -/

/-- A message of the kernel: at least one field, none of them empty or with a zero inside. -/
structure Message where
  fields : List Field
  some_field : fields ≠ []
  clean : ∀ f ∈ fields, f ≠ [] ∧ NUL ∉ f

def Message.bytes (m : Message) : List Char := m.fields.flatMap (· ++ [NUL])

theorem fieldsOf_bytes (m : Message) : fieldsOf m.bytes = m.fields := by
  have hterminated : m.bytes ++ [NUL, NUL] = (m.fields ++ [[], []]).flatMap (· ++ [NUL]) := by
    rw [List.flatMap_append]
    rfl
  have hclean : ∀ f ∈ m.fields ++ [[], []], NUL ∉ f := by
    intro f hf
    rcases List.mem_append.mp hf with hf | hf
    · exact (m.clean f hf).2
    · simp only [List.mem_cons, List.not_mem_nil, or_false, or_self] at hf
      rw [hf]
      exact List.not_mem_nil
  have hkept : ∀ f ∈ m.fields, decide (f ≠ []) = true := fun f hf => decide_eq_true (m.clean f hf).1
  rw [fieldsOf, hterminated, splitOn_terminated _ hclean, List.append_assoc,
    List.takeWhile_append_of_pos hkept]
  exact List.append_nil m.fields

theorem bytes_length_pos (m : Message) : m.bytes.length ≠ 0 := by
  obtain ⟨f, rest, hf⟩ := List.exists_cons_of_ne_nil m.some_field
  simp [Message.bytes, hf]

/-- A message as it is received: one that is too long changes nothing. -/
def receive (monitored_sensors_ : Finset (List Char)) (s : Drain) (m : Message) : Drain :=
  if m.bytes.length ≥ kUeventMsgLen then s else scanFields monitored_sensors_ m.fields s

theorem drainMessages_eq_run (monitored_sensors_ : Finset (List Char)) (msgs : List Message) (s : Drain) :
    drainMessages monitored_sensors_ (msgs.map Message.bytes) s
      = run (receive monitored_sensors_) s msgs := by
  induction msgs generalizing s with
  | nil => rfl
  | cons m msgs ih =>
    rw [List.map_cons, drainMessages, if_neg (bytes_length_pos m), run_cons, receive, fieldsOf_bytes]
    split
    · exact ih s
    · exact ih (scanFields monitored_sensors_ m.fields s)

/-! ### What a message names, and what is read from it -/

/-- The SUBSYSTEM field of the message is thermal, and its NAME field behind that one has the name `n`. -/
def NamedBy (fields : List Field) (n : List Char) : Prop :=
  ∃ before between after,
    fields = before ++ SUBSYSTEM_THERMAL :: (between ++ (NAME ++ n) :: after) ∧
      (∀ f ∈ before, ¬ SUBSYSTEM <+: f) ∧ ∀ f ∈ between, ¬ NAME <+: f

/-- The part of a message in which a name is looked for: all of it when the flag is set, else what is
    behind its SUBSYSTEM field, when that has `SUBSYSTEM=thermal` in it. -/
def scanned : Bool → List Field → List Field
  | true, fields => fields
  | false, [] => []
  | false, f :: fields =>
    if find SUBSYSTEM f = some 0 then
      if (find SUBSYSTEM_THERMAL f).isSome then fields else []
    else scanned false fields

/-- The first field of that part which has `NAME=` anywhere in it has `n` behind it. -/
def ReadFrom (thermal_event : Bool) (fields : List Field) (n : List Char) : Prop :=
  ∃ before f after, scanned thermal_event fields = before ++ f :: after ∧
    nameIn f = some n ∧ ∀ g ∈ before, nameIn g = none

theorem readFrom_iff (thermal_event : Bool) (fields : List Field) (n : List Char) :
    ReadFrom thermal_event fields n ↔ (scanned thermal_event fields).findSome? nameIn = some n :=
  List.findSome?_eq_some_iff.symm

theorem ReadFrom.unique {thermal_event : Bool} {fields : List Field} {n o : List Char}
    (hn : ReadFrom thermal_event fields n) (ho : ReadFrom thermal_event fields o) : n = o := by
  rw [readFrom_iff] at hn ho
  exact Option.some.inj (hn.symm.trans ho)

theorem nameIn_name (n : List Char) : nameIn (NAME ++ n) = some n := by
  rw [nameIn, find_append]
  rfl

theorem scanned_skip (before rest : List Field) (h : ∀ f ∈ before, ¬ SUBSYSTEM <+: f) :
    scanned false (before ++ rest) = scanned false rest := by
  induction before with
  | nil => rfl
  | cons f before ih =>
    have hf : find SUBSYSTEM f ≠ some 0 := fun h0 =>
      h f List.mem_cons_self ((find_eq_zero_iff SUBSYSTEM f).mp h0)
    rw [List.cons_append, scanned, if_neg hf]
    exact ih fun g hg => h g (List.mem_cons_of_mem f hg)

theorem scanned_thermal (rest : List Field) :
    scanned false (SUBSYSTEM_THERMAL :: rest) = rest := by
  have hsub : find SUBSYSTEM SUBSYSTEM_THERMAL = some 0 := by decide
  have hthermal : (find SUBSYSTEM_THERMAL SUBSYSTEM_THERMAL).isSome = true := by decide
  rw [scanned, if_pos hsub, if_pos hthermal]

theorem NamedBy.mem_fields {fields : List Field} {n : List Char} (h : NamedBy fields n) :
    NAME ++ n ∈ fields := by
  obtain ⟨before, between, after, rfl, -, -⟩ := h
  simp

/-- Something is read from every message that names a sensor. -/
theorem NamedBy.reads {fields : List Field} {n : List Char} (h : NamedBy fields n)
    (thermal_event : Bool) : ∃ r, ReadFrom thermal_event fields r := by
  obtain ⟨before, between, after, rfl, hbefore, -⟩ := h
  have hmem : NAME ++ n ∈ scanned thermal_event
      (before ++ SUBSYSTEM_THERMAL :: (between ++ (NAME ++ n) :: after)) := by
    cases thermal_event with
    | true => simp [scanned]
    | false =>
      rw [scanned_skip before _ hbefore, scanned_thermal]
      simp
  have hsome : ((scanned thermal_event
      (before ++ SUBSYSTEM_THERMAL :: (between ++ (NAME ++ n) :: after))).findSome? nameIn).isSome :=
    List.findSome?_isSome_iff.mpr ⟨NAME ++ n, hmem, by rw [nameIn_name]; rfl⟩
  obtain ⟨r, hr⟩ := Option.isSome_iff_exists.mp hsome
  exact ⟨r, (readFrom_iff _ _ r).mpr hr⟩

/-- What the scan of a message adds: the monitored sensor that is read from it. -/
theorem mem_scanFields (monitored_sensors_ : Finset (List Char)) (fields : List Field) (s : Drain)
    (n : List Char) : n ∈ (scanFields monitored_sensors_ fields s).sensors_set ↔
      n ∈ s.sensors_set ∨ n ∈ monitored_sensors_ ∧ ReadFrom s.thermal_event fields n := by
  simp only [readFrom_iff]
  induction fields generalizing s with
  | nil =>
    rw [scanFields]
    cases s.thermal_event <;> simp [scanned]
  | cons uevent fields ih =>
    rw [scanFields]
    cases hflag : s.thermal_event with
    | true =>
      have hrest := ih s
      rw [hflag] at hrest
      simp only [scanned, List.findSome?_cons, if_true] at hrest ⊢
      cases hname : nameIn uevent with
      | none => exact hrest
      | some name =>
        simp only [Option.some.injEq]
        split
        · rename_i hmon
          rw [Finset.mem_insert]
          constructor
          · rintro (rfl | h)
            · exact Or.inr ⟨hmon, rfl⟩
            · exact Or.inl h
          · rintro (h | ⟨-, rfl⟩)
            · exact Or.inr h
            · exact Or.inl rfl
        · rename_i hmon
          refine ⟨Or.inl, ?_⟩
          rintro (h | ⟨h, rfl⟩)
          · exact h
          · exact absurd h hmon
    | false =>
      have hrest := ih s
      rw [hflag] at hrest
      simp only [scanned, Bool.false_eq_true, if_false]
      split
      · split
        · have hset := ih { s with thermal_event := true }
          simp only [scanned] at hset
          exact hset
        · simp
      · exact hrest

/-! ### The drain -/

/-- A monitored sensor that is not in the set yet is read from a message that does not name it: one of
    another subsystem that finds the flag set or starts with `SUBSYSTEM=thermal`, or one that has `NAME=`
    inside another field. -/
def Stray (monitored_sensors_ : Finset (List Char)) (s : Drain) (m : Message) : Prop :=
  ∃ n ∈ monitored_sensors_, n ∉ s.sensors_set ∧ ¬ NamedBy m.fields n ∧
    m.bytes.length < kUeventMsgLen ∧ ReadFrom s.thermal_event m.fields n

/-- A monitored sensor that is not in the set yet is named by a message that is too long, or has another
    name in an earlier field of the scanned part. -/
def Hidden (monitored_sensors_ : Finset (List Char)) (s : Drain) (m : Message) : Prop :=
  ∃ n ∈ monitored_sensors_, n ∉ s.sensors_set ∧ NamedBy m.fields n ∧
    (kUeventMsgLen ≤ m.bytes.length ∨ ∃ other, other ≠ n ∧ ReadFrom s.thermal_event m.fields other)

/-- The set has exactly the monitored sensors that the messages received so far name. -/
def Exact (monitored_sensors_ : Finset (List Char)) (seen : List Message)
    (sensors_set : Finset (List Char)) : Prop :=
  ∀ n, n ∈ sensors_set ↔ n ∈ monitored_sensors_ ∧ ∃ m ∈ seen, NamedBy m.fields n

theorem mem_receive (monitored_sensors_ : Finset (List Char)) (s : Drain) (m : Message) (n : List Char) :
    n ∈ (receive monitored_sensors_ s m).sensors_set ↔ n ∈ s.sensors_set ∨
      n ∈ monitored_sensors_ ∧ m.bytes.length < kUeventMsgLen ∧ ReadFrom s.thermal_event m.fields n := by
  rw [receive]
  split
  · rename_i hlong
    refine ⟨Or.inl, ?_⟩
    rintro (h | ⟨-, hshort, -⟩)
    · exact h
    · omega
  · rename_i hshort
    rw [mem_scanFields]
    simp only [ge_iff_le, not_le] at hshort
    simp only [hshort, true_and]

/-- One message keeps the set exact exactly when it is neither stray nor hidden. -/
theorem receive_exact (monitored_sensors_ : Finset (List Char)) (seen : List Message) (s : Drain)
    (m : Message) (hs : Exact monitored_sensors_ seen s.sensors_set) :
    Exact monitored_sensors_ (seen ++ [m]) (receive monitored_sensors_ s m).sensors_set ↔
      ¬ Stray monitored_sensors_ s m ∧ ¬ Hidden monitored_sensors_ s m := by
  have hnamed : ∀ n, (∃ d ∈ seen ++ [m], NamedBy d.fields n) ↔
      (∃ d ∈ seen, NamedBy d.fields n) ∨ NamedBy m.fields n := by
    intro n
    simp only [List.mem_append, List.mem_singleton, or_and_right, exists_or, exists_eq_left]
  constructor
  · intro hexact
    constructor
    · rintro ⟨n, hmon, hfresh, hnot, hshort, hread⟩
      have hin := (mem_receive monitored_sensors_ s m n).mpr (Or.inr ⟨hmon, hshort, hread⟩)
      rcases (hnamed n).mp ((hexact n).mp hin).2 with hseen | hm
      · exact hfresh ((hs n).mpr ⟨hmon, hseen⟩)
      · exact hnot hm
    · rintro ⟨n, hmon, hfresh, hm, hbad⟩
      have hin := (hexact n).mpr ⟨hmon, (hnamed n).mpr (Or.inr hm)⟩
      rcases (mem_receive monitored_sensors_ s m n).mp hin with hold | ⟨-, hshort, hread⟩
      · exact hfresh hold
      · rcases hbad with hlong | ⟨other, hne, hother⟩
        · omega
        · exact hne (hother.unique hread)
  · rintro ⟨hstray, hhidden⟩ n
    rw [mem_receive, hnamed, hs n, and_or_left]
    by_cases hfresh : n ∈ s.sensors_set
    · simp only [(hs n).mp hfresh, true_and, true_or]
    · -- A sensor that is not in the set yet: it is read from the message exactly when it is named.
      have hread : n ∈ monitored_sensors_ →
          (m.bytes.length < kUeventMsgLen ∧ ReadFrom s.thermal_event m.fields n ↔ NamedBy m.fields n) := by
        intro hmon
        constructor
        · rintro ⟨hshort, hread⟩
          by_contra hnot
          exact hstray ⟨n, hmon, hfresh, hnot, hshort, hread⟩
        · intro hm
          obtain ⟨r, hr⟩ := hm.reads s.thermal_event
          have hshort : m.bytes.length < kUeventMsgLen := by
            by_contra hlong
            exact hhidden ⟨n, hmon, hfresh, hm, Or.inl (not_lt.mp hlong)⟩
          by_cases hrn : r = n
          · exact ⟨hshort, hrn ▸ hr⟩
          · exact absurd ⟨n, hmon, hfresh, hm, Or.inr ⟨r, hrn, hr⟩⟩ hhidden
      exact or_congr_right (and_congr_right hread)

/-- `SUBSYSTEM=thermal` stands in no longer field, and `NAME=` only at the start of a field. -/
def Plain (fields : List Field) : Prop :=
  ∀ f ∈ fields, ((find SUBSYSTEM_THERMAL f).isSome → f = SUBSYSTEM_THERMAL) ∧
    ((nameIn f).isSome → NAME <+: f)

theorem Plain.named {fields : List Field} {n : List Char} (hplain : Plain fields)
    (h : ReadFrom false fields n) : NamedBy fields n := by
  induction fields with
  | nil =>
    rw [readFrom_iff] at h
    cases h
  | cons f fields ih =>
    have hrest : Plain fields := fun g hg => hplain g (List.mem_cons_of_mem f hg)
    rw [readFrom_iff, scanned] at h
    split at h
    · split at h
      · rename_i hsub hthermal
        obtain ⟨between, g, after, rfl, hg, hbetween⟩ := List.findSome?_eq_some_iff.mp h
        obtain ⟨o, ho⟩ := (hrest g (by simp)).2 (by rw [hg]; rfl)
        have hno : o = n := by
          rw [← ho, nameIn_name] at hg
          exact Option.some.inj hg
        refine ⟨[], between, after, ?_, fun _ hx => absurd hx List.not_mem_nil, fun x hx hpre => ?_⟩
        · rw [(hplain f List.mem_cons_self).1 hthermal, ← ho, hno, List.nil_append]
        · obtain ⟨t, rfl⟩ := hpre
          have hnone := hbetween (NAME ++ t) hx
          rw [nameIn_name] at hnone
          cases hnone
      · cases h
    · rename_i hsub
      obtain ⟨before, between, after, heq, hbefore, hbetween⟩ := ih hrest ((readFrom_iff _ _ n).mpr h)
      refine ⟨f :: before, between, after, by rw [heq, List.cons_append], ?_, hbetween⟩
      intro g hg
      rcases List.mem_cons.mp hg with rfl | hg
      · exact fun hpre => hsub ((find_eq_zero_iff SUBSYSTEM g).mpr hpre)
      · exact hbefore g hg

theorem Plain.reads {fields : List Field} {n : List Char} (hplain : Plain fields)
    (h : NamedBy fields n) : ReadFrom false fields n := by
  obtain ⟨before, between, after, rfl, hbefore, hbetween⟩ := h
  refine ⟨between, NAME ++ n, after, ?_, nameIn_name n, fun f hf => ?_⟩
  · rw [scanned_skip before _ hbefore, scanned_thermal]
  · cases hname : nameIn f with
    | none => rfl
    | some o => exact absurd ((hplain f (by simp [hf])).2 (by rw [hname]; rfl)) (hbetween f hf)

/-- A plain message that is not too long and finds the flag unset is neither stray nor hidden. -/
theorem plain_message (monitored_sensors_ : Finset (List Char)) (s : Drain) (m : Message)
    (hplain : Plain m.fields) (hflag : s.thermal_event = false)
    (hshort : m.bytes.length < kUeventMsgLen) :
    ¬ Stray monitored_sensors_ s m ∧ ¬ Hidden monitored_sensors_ s m := by
  constructor
  · rintro ⟨n, -, -, hnot, -, hread⟩
    rw [hflag] at hread
    exact hnot (hplain.named hread)
  · rintro ⟨n, -, -, hm, hbad⟩
    rcases hbad with hlong | ⟨other, hne, hother⟩
    · omega
    · rw [hflag] at hother
      exact hne (hother.unique (hplain.reads hm))

/-- CORRECT: after every message the set is exact, exactly when no message of the drain is stray or
    hidden in the state before it. -/
theorem drain_exact_iff (monitored_sensors_ : Finset (List Char)) (msgs : List Message) :
    (∀ seen, seen <+: msgs → Exact monitored_sensors_ seen
        (parseUevent monitored_sensors_ (seen.map Message.bytes) ∅)) ↔
      Meets (receive monitored_sensors_)
        (fun s m => ¬ Stray monitored_sensors_ s m ∧ ¬ Hidden monitored_sensors_ s m) ⟨false, ∅⟩ msgs := by
  have hstart : Exact monitored_sensors_ [] (Drain.mk false ∅).sensors_set := by
    intro n
    simp
  simp only [parseUevent, drainMessages_eq_run]
  exact prefixes_iff_meets (fun done s m hs => receive_exact monitored_sensors_ done s m hs) msgs []
    ⟨false, ∅⟩ hstart

/-- A thermal message and then one of another subsystem, drained together: the power supply is taken for
    a sensor. -/
theorem battery_is_stray :
    ¬ ∀ (monitored_sensors_ : Finset (List Char)) (msgs : List Message),
      Exact monitored_sensors_ msgs (parseUevent monitored_sensors_ (msgs.map Message.bytes) ∅) := by
  intro h
  let thermal : Message :=
    ⟨["change@/devices/virtual/thermal/thermal_zone0".toList, "SUBSYSTEM=thermal".toList,
      "NAME=cpu".toList], by decide, by decide⟩
  let power : Message :=
    ⟨["change@/devices/battery".toList, "SUBSYSTEM=power_supply".toList,
      "POWER_SUPPLY_NAME=battery".toList], by decide, by decide⟩
  let monitored : Finset (List Char) := {"cpu".toList, "battery".toList}
  have hset : "battery".toList ∈
      parseUevent monitored ([thermal, power].map Message.bytes) ∅ := by
    rw [parseUevent, drainMessages_eq_run]
    decide
  obtain ⟨-, m, hm, hnamed⟩ := (h monitored [thermal, power] _).mp hset
  have hfield := hnamed.mem_fields
  simp only [List.mem_cons, List.not_mem_nil, or_false] at hm
  rcases hm with rfl | rfl
  · exact absurd hfield (by decide)
  · exact absurd hfield (by decide)

end ImxHal.Uevent
