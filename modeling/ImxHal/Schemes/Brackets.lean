import Mathlib.Data.List.Basic
import Mathlib.Tactic

/-! @scheme brackets | family:resource ownership

    A trace of events, some of which open a resource and some of which close one, is nested when every
    close is for the resource opened last and still open, and nothing is left open:

        open a   open b   ·   close b   open c   close c   close a
        [a]      [b, a]       [a]       [c, a]   [a]       []

    The open resources are a stack, and the trace is run against it. -/

namespace ImxHal.Brackets

variable {ε κ : Type} [DecidableEq κ] (opens closes : ε → Option κ)

/-- The stack after an event; a close of anything but its top has none. -/
def push (st : List κ) (e : ε) : Option (List κ) :=
  match closes e with
  | some k => if st.head? = some k then some st.tail else none
  | none => some ((opens e).toList ++ st)

/-- The stack after a trace. -/
def track (st : List κ) (es : List ε) : Option (List κ) := es.foldlM (push opens closes) st

/-- Everything opened is closed again, in reverse order. -/
def Nested (es : List ε) : Prop := track opens closes [] es = some []

variable {opens closes}

@[simp] theorem track_nil (st : List κ) : track opens closes st [] = some st := rfl

theorem track_append {st st' : List κ} {es fs : List ε} (h : track opens closes st es = some st') :
    track opens closes st (es ++ fs) = track opens closes st' fs := by
  rw [track, List.foldlM_append]
  exact (congrArg (· >>= _) h).trans (Option.bind_some _ _)

theorem track_singleton (st : List κ) (e : ε) :
    track opens closes st [e] = push opens closes st e := by
  simp [track]

/-- Traces that lead from stack to stack follow one another. -/
theorem track_trans {st st' st'' : List κ} {es fs : List ε} (h : track opens closes st es = some st')
    (h' : track opens closes st' fs = some st'') : track opens closes st (es ++ fs) = some st'' :=
  (track_append h).trans h'

/-- What is open at the end was open before or has been opened, less what has been closed. -/
theorem count_track {st st' : List κ} {es : List ε} (h : track opens closes st es = some st') (k : κ) :
    st'.count k + (es.filterMap closes).count k =
      st.count k + ((es.filter fun e => (closes e).isNone).filterMap opens).count k := by
  induction es generalizing st with
  | nil =>
    cases h
    simp
  | cons e es ih =>
    rw [track, List.foldlM_cons] at h
    obtain ⟨mid, hmid, hrest⟩ := Option.bind_eq_some_iff.mp h
    have hrest := ih hrest
    rw [push] at hmid
    rcases hc : closes e with _ | c
    · simp only [hc, Option.some.injEq] at hmid
      subst hmid
      rcases ho : opens e with _ | o <;> simp_all [List.count_cons]
      omega
    · simp only [hc] at hmid
      rcases st with _ | ⟨top, st⟩
      · simp at hmid
      · by_cases htop : top = c <;> simp_all [List.count_cons]
        omega

/-- Every resource is closed as often as it is opened. -/
def ClosedOnce (opens closes : ε → Option κ) (es : List ε) : Prop :=
  ∀ k, (es.filterMap closes).count k = (es.filterMap opens).count k

omit [DecidableEq κ] in
theorem count_opens (hdisj : ∀ e, (closes e).isSome = true → opens e = none) (es : List ε) :
    (es.filter fun e => (closes e).isNone).filterMap opens = es.filterMap opens := by
  induction es with
  | nil => rfl
  | cons e es ih =>
    rcases hc : closes e with _ | k
    · rw [List.filter_cons_of_pos (by simp [hc]), List.filterMap_cons, List.filterMap_cons, ih]
    · rw [List.filter_cons_of_neg (by simp [hc]), List.filterMap_cons, hdisj e (by simp [hc]), ih]

/-- Nested traces close everything once, when no event both opens and closes. -/
theorem closedOnce_of_nested (hdisj : ∀ e, (closes e).isSome = true → opens e = none) {es : List ε}
    (h : Nested opens closes es) : ClosedOnce opens closes es := by
  intro k
  have hcount := count_track h k
  rw [count_opens hdisj] at hcount
  simpa using hcount

/-- Nothing is closed that is not open, and in the end everything is closed. -/
def Settled (opens closes : ε → Option κ) (es : List ε) : Prop :=
  ClosedOnce opens closes es ∧
    ∀ fs, fs <+: es → ∀ k, (fs.filterMap closes).count k ≤ (fs.filterMap opens).count k

theorem settled_of_nested (hdisj : ∀ e, (closes e).isSome = true → opens e = none) {es : List ε}
    (h : Nested opens closes es) : Settled opens closes es := by
  refine ⟨closedOnce_of_nested hdisj h, ?_⟩
  rintro fs ⟨gs, rfl⟩ k
  rw [Nested, track, List.foldlM_append] at h
  obtain ⟨st, hst, -⟩ := Option.bind_eq_some_iff.mp h
  have hst : track opens closes [] fs = some st := hst
  have hcount := count_track hst k
  rw [count_opens hdisj] at hcount
  simp only [List.count_nil, Nat.zero_add] at hcount
  omega

theorem Settled.append {es fs : List ε} (h : Settled opens closes es) (h' : Settled opens closes fs) :
    Settled opens closes (es ++ fs) := by
  refine ⟨fun k => by simp [h.1 k, h'.1 k], fun gs hgs k => ?_⟩
  rcases List.prefix_or_prefix_of_prefix hgs (List.prefix_append es fs) with hle | ⟨hs, rfl⟩
  · exact h.2 gs hle k
  · have hpre := (List.prefix_append_right_inj es).mp hgs
    rw [List.filterMap_append, List.filterMap_append, List.count_append, List.count_append, h.1 k]
    exact Nat.add_le_add_left (h'.2 hs hpre k) _

/-- A trace that leaves every stack as it was. -/
def Neutral (opens closes : ε → Option κ) (es : List ε) : Prop := ∀ st, track opens closes st es = some st

theorem Neutral.nested {es : List ε} (h : Neutral opens closes es) : Nested opens closes es := h []

theorem Neutral.nil : Neutral opens closes ([] : List ε) := fun _ => rfl

theorem Neutral.append {es fs : List ε} (h : Neutral opens closes es) (h' : Neutral opens closes fs) :
    Neutral opens closes (es ++ fs) := fun st => track_trans (h st) (h' st)

/-- What stands between an open and its close is nested in them. -/
theorem Neutral.around {es : List ε} (h : Neutral opens closes es) {k : κ} {o c : ε} (ho : opens o = some k)
    (ho' : closes o = none) (hc : closes c = some k) : Neutral opens closes (o :: (es ++ [c])) := by
  intro st
  have hopen : track opens closes st [o] = some (k :: st) := by simp [track_singleton, push, ho, ho']
  have hclose : track opens closes (k :: st) [c] = some st := by simp [track_singleton, push, hc]
  exact track_trans hopen (track_trans (h (k :: st)) hclose)

end ImxHal.Brackets
