import Mathlib.Data.List.Range
import Mathlib.Tactic

/-! @scheme early return | family:Hoare logic

    Code that calls one fallible operation after the other and leaves at the first error code:

        ret = c();  if (ret) return ret;
        ret = d();  if (ret) return ret;

    A command maps a state to the state it leaves and its code; no result at all is undefined
    behaviour. A triple has two postconditions, one for code 0 and one for every other code, since the
    state an error leaves behind is what the next call starts from. -/

namespace ImxHal.EarlyReturn

variable {σ : Type}

/-- A call: the state it leaves and its code, or undefined behaviour. -/
abbrev Cmd (σ : Type) := σ → Option (σ × ℤ)

/-- A call that cannot fail. -/
def succeed (f : σ → σ) : Cmd σ := fun s => some (f s, 0)

/-- `if (!ok) return code;` -/
def check (ok : σ → Bool) (code : ℤ) : Cmd σ := fun s => some (s, if ok s then 0 else code)

/-- `ret = c(); if (ret) return ret; return d();` -/
def andThen (c d : Cmd σ) : Cmd σ := fun s =>
  (c s).bind fun r => if r.2 = 0 then d r.1 else some r

/-- `if (b) { c }` -/
def onlyIf (b : σ → Bool) (c : Cmd σ) : Cmd σ := fun s => if b s then c s else some (s, 0)

/-- An `err:` label: what is done on the way out, with the code kept. -/
def onError (c : Cmd σ) (cleanup : σ → σ) : Cmd σ := fun s =>
  (c s).map fun r => if r.2 = 0 then r else (cleanup r.1, r.2)

/-- What is done in any case, with the code kept. -/
def afterwards (c : Cmd σ) (f : σ → σ) : Cmd σ := fun s => (c s).map fun r => (f r.1, r.2)

/-- A loop that leaves at the first error. -/
def forEach {ι : Type} (c : ι → Cmd σ) : List ι → Cmd σ
  | [] => succeed id
  | i :: is => andThen (c i) (forEach c is)

/-- From `P`, code 0 leaves `Q` and any other code leaves `E`; undefined behaviour needs `U`, so that
    `U := True` is partial and `U := False` total correctness. -/
def Triple (U : Prop) (P : σ → Prop) (c : Cmd σ) (Q E : σ → Prop) : Prop :=
  ∀ s, P s → (c s = none → U) ∧ ∀ s' ret, c s = some (s', ret) → (ret = 0 → Q s') ∧ (ret ≠ 0 → E s')

/-- The command leaves a view of the state as it is, whatever its code. -/
def Keeps {β : Type} (view : σ → β) (c : Cmd σ) : Prop :=
  ∀ s s' ret, c s = some (s', ret) → view s' = view s

/-! ### How commands run -/

theorem andThen_some {c d : Cmd σ} {s s' : σ} {ret : ℤ} (h : andThen c d s = some (s', ret)) :
    (∃ mid, c s = some (mid, 0) ∧ d mid = some (s', ret)) ∨ (ret ≠ 0 ∧ c s = some (s', ret)) := by
  obtain ⟨⟨mid, code⟩, hc, hd⟩ := Option.bind_eq_some_iff.mp h
  rcases eq_or_ne code 0 with rfl | hcode
  · exact Or.inl ⟨mid, hc, hd⟩
  · obtain ⟨rfl, rfl⟩ := Prod.mk.inj (Option.some.inj ((if_neg hcode).symm.trans hd))
    exact Or.inr ⟨hcode, hc⟩

theorem andThen_assoc (c d e : Cmd σ) : andThen (andThen c d) e = andThen c (andThen d e) := by
  funext s
  simp only [andThen]
  cases c s with
  | none => rfl
  | some r => by_cases hr : r.2 = 0 <;> simp [hr]

theorem andThen_of_zero {c d : Cmd σ} {s mid : σ} (h : c s = some (mid, 0)) :
    andThen c d s = d mid := by
  rw [andThen, h]
  rfl

/-- Code 0 at the end means code 0 at every stage. -/
theorem andThen_zero {c d : Cmd σ} {s s' : σ} (h : andThen c d s = some (s', 0)) :
    ∃ mid, c s = some (mid, 0) ∧ d mid = some (s', 0) := by
  rcases andThen_some h with hmid | ⟨hne, -⟩
  · exact hmid
  · exact absurd rfl hne

theorem onError_some {c : Cmd σ} {cleanup : σ → σ} {s s' : σ} {ret : ℤ}
    (h : onError c cleanup s = some (s', ret)) :
    ∃ mid, c s = some (mid, ret) ∧ s' = if ret = 0 then mid else cleanup mid := by
  obtain ⟨⟨mid, code⟩, hc, hr⟩ := Option.map_eq_some_iff.mp h
  rcases eq_or_ne code 0 with rfl | hcode
  · obtain ⟨rfl, rfl⟩ := Prod.mk.inj hr
    exact ⟨mid, hc, rfl⟩
  · obtain ⟨rfl, rfl⟩ := Prod.mk.inj ((if_neg hcode).symm.trans hr)
    exact ⟨mid, hc, (if_neg hcode).symm⟩

/-! ### Triples -/

section Rules
variable {U : Prop} {P P' Q Q' R R' E E' : σ → Prop} {c d : Cmd σ}

theorem Triple.weaken (h : Triple U P c Q E) (hp : ∀ s, P' s → P s) (hq : ∀ s, Q s → Q' s)
    (he : ∀ s, E s → E' s) : Triple U P' c Q' E' := by
  intro s hs
  obtain ⟨hub, hpost⟩ := h s (hp s hs)
  refine ⟨hub, fun s' ret hrun => ?_⟩
  obtain ⟨hzero, hne⟩ := hpost s' ret hrun
  exact ⟨fun h0 => hq s' (hzero h0), fun h0 => he s' (hne h0)⟩

/-- The triple at one run. -/
theorem Triple.at_run (h : Triple U P c Q E) {s s' : σ} {ret : ℤ} (hs : P s)
    (hrun : c s = some (s', ret)) : (ret = 0 → Q s') ∧ (ret ≠ 0 → E s') := (h s hs).2 s' ret hrun

/-- Partial correctness is about the runs that return. -/
theorem Triple.of_runs (h : ∀ s s' ret, P s → c s = some (s', ret) → (ret = 0 → Q s') ∧ (ret ≠ 0 → E s')) :
    Triple True P c Q E := fun s hs => ⟨fun _ => trivial, fun s' ret hrun => h s s' ret hs hrun⟩

/-- A command that does what another one does from `P`. -/
theorem Triple.of_eq (h : Triple U P c Q E) (heq : ∀ s, P s → d s = c s) : Triple U P d Q E := by
  intro s hs
  rw [heq s hs]
  exact h s hs

/-- A command that returns one known result. -/
theorem Triple.of_some {f : σ → σ × ℤ} (hc : ∀ s, P s → c s = some (f s))
    (hq : ∀ s, P s → (f s).2 = 0 → Q (f s).1) (he : ∀ s, P s → (f s).2 ≠ 0 → E (f s).1) :
    Triple U P c Q E := by
  intro s hs
  refine ⟨fun hnone => ?_, fun s' ret hrun => ?_⟩
  · rw [hc s hs] at hnone; cases hnone
  · have heq : f s = (s', ret) := Option.some.inj ((hc s hs).symm.trans hrun)
    have hq' := hq s hs
    have he' := he s hs
    rw [heq] at hq' he'
    exact ⟨hq', he'⟩

/-- A command that is known to stop here. -/
theorem Triple.stops {code : ℤ} (hcode : code ≠ 0) (hc : ∀ s, P s → c s = some (s, code))
    (he : ∀ s, P s → E s) : Triple U P c Q E :=
  Triple.of_some (f := fun s => (s, code)) hc (fun _ _ h0 => absurd h0 hcode) fun s hs _ => he s hs

theorem Triple.succeed {f : σ → σ} (h : ∀ s, P s → Q (f s)) : Triple U P (succeed f) Q E :=
  Triple.of_some (fun _ _ => rfl) (fun s hs _ => h s hs) fun _ _ h0 => absurd rfl h0

/-- What a passed check tells is known afterwards. -/
theorem Triple.check {ok : σ → Bool} {code : ℤ} (hcode : code ≠ 0)
    (hq : ∀ s, P s → ok s = true → Q s) (he : ∀ s, P s → ok s = false → E s) :
    Triple U P (check ok code) Q E := by
  refine Triple.of_some (fun _ _ => rfl) (fun s hs h0 => ?_) fun s hs h0 => ?_
  · rcases hok : ok s with _ | _
    · exact absurd (by simpa [hok] using h0) hcode
    · exact hq s hs hok
  · rcases hok : ok s with _ | _
    · exact he s hs hok
    · exact absurd (by simp [hok]) h0

theorem Triple.andThen (hc : Triple U P c R E) (hd : Triple U R d Q E) :
    Triple U P (andThen c d) Q E := by
  intro s hs
  obtain ⟨hub, hpost⟩ := hc s hs
  refine ⟨fun hnone => ?_, fun s' ret hrun => ?_⟩
  · rcases hrun : c s with _ | ⟨mid, code⟩
    · exact hub hrun
    rcases eq_or_ne code 0 with rfl | hcode
    · rw [andThen_of_zero hrun] at hnone
      exact (hd mid ((hpost mid 0 hrun).1 rfl)).1 hnone
    · simp [EarlyReturn.andThen, hrun, hcode] at hnone
  · rcases andThen_some hrun with ⟨mid, hmid, hrest⟩ | ⟨hne, hstop⟩
    · exact (hd mid ((hpost mid 0 hmid).1 rfl)).2 s' ret hrest
    · exact ⟨fun h0 => absurd h0 hne, fun _ => (hpost s' ret hstop).2 hne⟩

theorem Triple.onlyIf {b : σ → Bool} (hc : Triple U (fun s => P s ∧ b s = true) c Q E)
    (hskip : ∀ s, P s → b s = false → Q s) : Triple U P (onlyIf b c) Q E := by
  intro s hs
  rcases hb : b s with _ | _
  · have hstay : EarlyReturn.onlyIf b c s = some (s, 0) := by
      rw [EarlyReturn.onlyIf, hb, if_neg Bool.false_ne_true]
    rw [hstay]
    refine ⟨fun h => (by cases h), fun s' ret hrun => ?_⟩
    obtain ⟨rfl, rfl⟩ := Prod.mk.inj (Option.some.inj hrun)
    exact ⟨fun _ => hskip s hs hb, fun h0 => absurd rfl h0⟩
  · have hgo : EarlyReturn.onlyIf b c s = c s := by rw [EarlyReturn.onlyIf, hb, if_pos rfl]
    rw [hgo]
    exact hc s ⟨hs, hb⟩

theorem Triple.onError {cleanup : σ → σ} (hc : Triple U P c Q R) (hclean : ∀ s, R s → E (cleanup s)) :
    Triple U P (onError c cleanup) Q E := by
  intro s hs
  obtain ⟨hub, hpost⟩ := hc s hs
  refine ⟨fun hnone => hub (Option.map_eq_none_iff.mp hnone), fun s' ret hrun => ?_⟩
  obtain ⟨mid, hmid, rfl⟩ := onError_some hrun
  obtain ⟨hzero, hne⟩ := hpost mid ret hmid
  refine ⟨fun h0 => ?_, fun h0 => ?_⟩
  · rw [if_pos h0]; exact hzero h0
  · rw [if_neg h0]; exact hclean mid (hne h0)

theorem Triple.afterwards {f : σ → σ} (hc : Triple U P c R R') (hq : ∀ s, R s → Q (f s))
    (he : ∀ s, R' s → E (f s)) : Triple U P (afterwards c f) Q E := by
  intro s hs
  obtain ⟨hub, hpost⟩ := hc s hs
  refine ⟨fun hnone => hub (Option.map_eq_none_iff.mp hnone), fun s' ret hrun => ?_⟩
  obtain ⟨⟨mid, code⟩, hmid, heq⟩ := Option.map_eq_some_iff.mp hrun
  obtain ⟨rfl, rfl⟩ := Prod.mk.inj heq
  obtain ⟨hzero, hne⟩ := hpost mid code hmid
  exact ⟨fun h0 => hq mid (hzero h0), fun h0 => he mid (hne h0)⟩

/-- Where neither undefined behaviour nor an error is possible, the command succeeds. -/
theorem Triple.success (h : Triple False P c Q fun _ => False) {s : σ} (hs : P s) :
    ∃ s', c s = some (s', 0) ∧ Q s' := by
  obtain ⟨hub, hpost⟩ := h s hs
  rcases hrun : c s with _ | ⟨s', ret⟩
  · exact (hub hrun).elim
  · obtain ⟨hzero, hne⟩ := hpost s' ret hrun
    have h0 : ret = 0 := by_contra hne
    exact ⟨s', by rw [h0], hzero h0⟩

theorem Triple.forEach_from {ι : Type} {body : ι → Cmd σ} {Inv : List ι → σ → Prop} {all : List ι}
    (hbody : ∀ done i rest, done ++ i :: rest = all →
      Triple U (Inv done) (body i) (Inv (done ++ [i])) E) (is done : List ι) (hall : done ++ is = all) :
    Triple U (Inv done) (forEach body is) (Inv all) E := by
  induction is generalizing done with
  | nil => exact Triple.succeed fun s hs => by rwa [← hall, List.append_nil]
  | cons i is ih =>
    have hnext : (done ++ [i]) ++ is = all := by rw [List.append_assoc]; exact hall
    exact (hbody done i is hall).andThen (ih (done ++ [i]) hnext)

/-- Loop rule: the invariant knows the elements that are done. -/
theorem Triple.forEach_list {ι : Type} {body : ι → Cmd σ} {Inv : List ι → σ → Prop} {is : List ι}
    (hbody : ∀ done i rest, done ++ i :: rest = is →
      Triple U (Inv done) (body i) (Inv (done ++ [i])) E) :
    Triple U (Inv []) (forEach body is) (Inv is) E :=
  Triple.forEach_from hbody is [] rfl

theorem Triple.forEach_range' {body : ℕ → Cmd σ} {Inv : ℕ → σ → Prop} {n : ℕ}
    (hbody : ∀ i < n, Triple U (Inv i) (body i) (Inv (i + 1)) E) (m k : ℕ) (hk : k + m = n) :
    Triple U (Inv k) (forEach body (List.range' k m)) (Inv n) E := by
  induction m generalizing k with
  | zero => exact Triple.succeed fun s hs => by rwa [← hk]
  | succ m ih => exact (hbody k (by omega)).andThen (ih (k + 1) (by omega))

/-- Loop rule: the invariant knows how many turns are done. -/
theorem Triple.forRange {body : ℕ → Cmd σ} {Inv : ℕ → σ → Prop} {n : ℕ}
    (hbody : ∀ i < n, Triple U (Inv i) (body i) (Inv (i + 1)) E) :
    Triple U (Inv 0) (forEach body (List.range n)) (Inv n) E := by
  rw [List.range_eq_range']
  exact Triple.forEach_range' hbody n 0 (Nat.zero_add n)

end Rules

/-! ### Frames -/

section Frames
variable {β : Type} {view : σ → β} {c d : Cmd σ}

/-- What depends only on the view survives. -/
theorem Keeps.triple (h : Keeps view c) (P : β → Prop) :
    Triple True (fun s => P (view s)) c (fun s => P (view s)) fun s => P (view s) := by
  intro s hs
  refine ⟨fun _ => trivial, fun s' ret hrun => ?_⟩
  have hnext : P (view s') := by rw [h s s' ret hrun]; exact hs
  exact ⟨fun _ => hnext, fun _ => hnext⟩

theorem Keeps.succeed {f : σ → σ} (h : ∀ s, view (f s) = view s) : Keeps view (succeed f) := by
  intro s s' ret hrun
  obtain ⟨rfl, rfl⟩ := Prod.mk.inj (Option.some.inj hrun)
  exact h s

theorem Keeps.check (ok : σ → Bool) (code : ℤ) : Keeps view (check ok code) := by
  intro s s' ret hrun
  rw [← (Prod.mk.inj (Option.some.inj hrun)).1]

theorem Keeps.andThen (hc : Keeps view c) (hd : Keeps view d) : Keeps view (andThen c d) := by
  intro s s' ret hrun
  rcases andThen_some hrun with ⟨mid, hmid, hrest⟩ | ⟨-, hstop⟩
  · exact (hd mid s' ret hrest).trans (hc s mid 0 hmid)
  · exact hc s s' ret hstop

theorem Keeps.forEach {ι : Type} {body : ι → Cmd σ} (hbody : ∀ i, Keeps view (body i)) (is : List ι) :
    Keeps view (forEach body is) := by
  induction is with
  | nil => exact Keeps.succeed fun _ => rfl
  | cons i is ih => exact (hbody i).andThen ih

end Frames

end ImxHal.EarlyReturn
