import Mathlib.Data.List.Basic
import Mathlib.Tactic

/-! @scheme run | family:transition systems

    A system that takes one action after another is a step function folded over the list of actions.
    Two readings of a run matter: `Meets` says that every action is taken in a state that allows it
    (a condition on the state BEFORE the step), and `Always` says that every step keeps a promise (a
    relation between the state before, the action and the state after). The rules turn a one-step
    fact into a fact about all runs by the same induction on the action list:

        Inv s₀ ──a₁──▶ Inv s₁ ──a₂──▶ Inv s₂ ──▶ ⋯
          C s₀ a₁        C s₁ a₂        C s₂ a₃       (`Meets`)
          P s₀ a₁ s₁     P s₁ a₂ s₂     ⋯             (`Always`) -/

namespace ImxHal.Run

variable {σ α : Type} (step : σ → α → σ)

/-- The state after a list of actions. -/
def run (s : σ) (as : List α) : σ := as.foldl step s

/-- Every action of the run is taken in a state that meets `C`. -/
def Meets (C : σ → α → Prop) : σ → List α → Prop
  | _, [] => True
  | s, a :: as => C s a ∧ Meets C (step s a) as

/-- Every step of the run satisfies `P`, read as (state before, action, state after). -/
def Always (P : σ → α → σ → Prop) : σ → List α → Prop
  | _, [] => True
  | s, a :: as => P s a (step s a) ∧ Always P (step s a) as

/-- What a run earns: the sum of `f`, read as (state before, action), over its steps. -/
def total (f : σ → α → ℕ) : σ → List α → ℕ
  | _, [] => 0
  | s, a :: as => f s a + total f (step s a) as

/-- What a run gives off: the outputs of `f`, read as (state before, action), in their order. -/
def gather {β : Type} (f : σ → α → List β) : σ → List α → List β
  | _, [] => []
  | s, a :: as => f s a ++ gather f (step s a) as

instance decMeets (C : σ → α → Prop) [∀ s a, Decidable (C s a)] :
    ∀ (s : σ) (as : List α), Decidable (Meets step C s as)
  | _, [] => inferInstanceAs (Decidable True)
  | s, a :: as =>
    have := decMeets C (step s a) as
    inferInstanceAs (Decidable (C s a ∧ Meets step C (step s a) as))

instance decAlways (P : σ → α → σ → Prop) [∀ s a t, Decidable (P s a t)] :
    ∀ (s : σ) (as : List α), Decidable (Always step P s as)
  | _, [] => inferInstanceAs (Decidable True)
  | s, a :: as =>
    have := decAlways P (step s a) as
    inferInstanceAs (Decidable (P s a (step s a) ∧ Always step P (step s a) as))

variable {step}

@[simp] theorem run_cons (s : σ) (a : α) (as : List α) :
    run step s (a :: as) = run step (step s a) as := rfl

theorem run_append (s : σ) (as bs : List α) :
    run step s (as ++ bs) = run step (run step s as) bs := List.foldl_append

/-- Invariant rule: what a step by an allowed action keeps, every run of allowed actions keeps. -/
theorem run_inv (Inv : σ → Prop) {C : α → Prop} (hstep : ∀ s a, Inv s → C a → Inv (step s a))
    (as : List α) (s : σ) (hs : Inv s) (hc : ∀ a ∈ as, C a) : Inv (run step s as) := by
  induction as generalizing s with
  | nil => exact hs
  | cons a as ih =>
    have hnext := hstep s a hs (hc a List.mem_cons_self)
    exact ih (step s a) hnext fun b hb => hc b (List.mem_cons_of_mem a hb)

/-- The invariant rule for conditions on the state before the step. -/
theorem inv_of_meets {Inv : σ → Prop} {C : σ → α → Prop}
    (hstep : ∀ s a, Inv s → C s a → Inv (step s a)) (as : List α) (s : σ) (hs : Inv s)
    (hc : Meets step C s as) : Inv (run step s as) := by
  induction as generalizing s with
  | nil => exact hs
  | cons a as ih => exact ih (step s a) (hstep s a hs hc.1) hc.2

/-- Promise rule: a promise each allowed step keeps under an invariant holds along every run. -/
theorem always_of_meets {Inv : σ → Prop} {C : σ → α → Prop} {P : σ → α → σ → Prop}
    (hstep : ∀ s a, Inv s → C s a → Inv (step s a) ∧ P s a (step s a)) (as : List α) (s : σ)
    (hs : Inv s) (hc : Meets step C s as) : Always step P s as := by
  induction as generalizing s with
  | nil => trivial
  | cons a as ih =>
    obtain ⟨hinv, hp⟩ := hstep s a hs hc.1
    exact ⟨hp, ih (step s a) hinv hc.2⟩

/-- A condition on the actions alone is met by every run of such actions. -/
theorem meets_of_forall {C : α → Prop} (as : List α) (s : σ) (h : ∀ a ∈ as, C a) :
    Meets step (fun _ a => C a) s as := by
  induction as generalizing s with
  | nil => trivial
  | cons a as ih =>
    exact ⟨h a List.mem_cons_self, ih (step s a) fun b hb => h b (List.mem_cons_of_mem a hb)⟩

/-- The last step of a run that keeps its promises. -/
theorem always_last {P : σ → α → σ → Prop} {as : List α} {a : α} {s : σ}
    (h : Always step P s (as ++ [a])) : P (run step s as) a (run step s (as ++ [a])) := by
  induction as generalizing s with
  | nil => exact h.1
  | cons b as ih => exact ih h.2

theorem meets_and {C D : σ → α → Prop} {as : List α} {s : σ} (hc : Meets step C s as)
    (hd : Meets step D s as) : Meets step (fun s a => C s a ∧ D s a) s as := by
  induction as generalizing s with
  | nil => trivial
  | cons a as ih => exact ⟨⟨hc.1, hd.1⟩, ih hc.2 hd.2⟩

/-- The promise rule for steps that are always allowed. -/
theorem always_of_inv {Inv : σ → Prop} {P : σ → α → σ → Prop}
    (hstep : ∀ s a, Inv s → Inv (step s a) ∧ P s a (step s a)) (as : List α) (s : σ) (hs : Inv s) :
    Always step P s as :=
  always_of_meets (fun s a hinv _ => hstep s a hinv) as s hs
    (meets_of_forall (C := fun _ => True) as s fun _ _ => trivial)

/-- Exactness rule: when a step keeps the promise exactly if its condition holds, a run keeps the
    promise throughout exactly if all its steps meet the condition. All actions of the run may be taken
    under a side condition `N`. -/
theorem always_iff_meets_given {Inv : σ → Prop} {N C : σ → α → Prop} {P : σ → α → σ → Prop}
    (hstep : ∀ s a, Inv s → N s a → C s a → Inv (step s a) ∧ P s a (step s a))
    (hfail : ∀ s a, Inv s → N s a → P s a (step s a) → C s a) (as : List α) (s : σ) (hs : Inv s)
    (hn : Meets step N s as) : Always step P s as ↔ Meets step C s as := by
  induction as generalizing s with
  | nil => exact Iff.rfl
  | cons a as ih =>
    obtain ⟨hna, hnrest⟩ := hn
    constructor
    · rintro ⟨hp, hrest⟩
      have hc := hfail s a hs hna hp
      exact ⟨hc, (ih _ (hstep s a hs hna hc).1 hnrest).mp hrest⟩
    · rintro ⟨hc, hrest⟩
      obtain ⟨hinv, hp⟩ := hstep s a hs hna hc
      exact ⟨hp, (ih _ hinv hnrest).mpr hrest⟩

/-- The exactness rule without a side condition. -/
theorem always_iff_meets {Inv : σ → Prop} {C : σ → α → Prop} {P : σ → α → σ → Prop}
    (hstep : ∀ s a, Inv s → C s a → Inv (step s a) ∧ P s a (step s a))
    (hfail : ∀ s a, Inv s → P s a (step s a) → C s a) (as : List α) (s : σ) (hs : Inv s) :
    Always step P s as ↔ Meets step C s as :=
  always_iff_meets_given (fun s a hinv _ => hstep s a hinv) (fun s a hinv _ => hfail s a hinv) as s hs
    (meets_of_forall (C := fun _ => True) as s fun _ _ => trivial)

/-- Prefix rule: when a step restores a relation between the actions taken and the state exactly if its
    condition holds, the relation holds after every prefix exactly if every step meets the condition. All
    actions of the run may be taken under a side condition `N`. -/
theorem prefixes_iff_meets_given {Rel : List α → σ → Prop} {N : α → Prop} {C : σ → α → Prop}
    (hstep : ∀ done s a, Rel done s → N a → (Rel (done ++ [a]) (step s a) ↔ C s a)) (as done : List α) (s : σ)
    (hs : Rel done s) (hn : ∀ a ∈ as, N a) :
    (∀ seen, seen <+: as → Rel (done ++ seen) (run step s seen)) ↔ Meets step C s as := by
  induction as generalizing done s with
  | nil =>
    refine ⟨fun _ => trivial, fun _ seen hseen => ?_⟩
    rw [List.prefix_nil.mp hseen, List.append_nil]
    exact hs
  | cons a as ih =>
    have hcons : ∀ seen, done ++ a :: seen = done ++ [a] ++ seen := by simp
    have hna := hn a List.mem_cons_self
    have hnrest : ∀ b ∈ as, N b := fun b hb => hn b (List.mem_cons_of_mem a hb)
    constructor
    · intro h
      have hnext : Rel (done ++ [a]) (step s a) := h [a] (List.prefix_append [a] as)
      refine ⟨(hstep done s a hs hna).mp hnext, (ih (done ++ [a]) (step s a) hnext hnrest).mp ?_⟩
      intro seen hseen
      rw [← hcons seen]
      exact h (a :: seen) (List.cons_prefix_cons.mpr ⟨rfl, hseen⟩)
    · rintro ⟨hc, hrest⟩ seen hseen
      cases seen with
      | nil =>
        rw [List.append_nil]
        exact hs
      | cons b seen =>
        obtain ⟨rfl, htail⟩ := List.cons_prefix_cons.mp hseen
        have hnext := (hstep done s b hs hna).mpr hc
        rw [hcons seen]
        exact (ih (done ++ [b]) (step s b) hnext hnrest).mpr hrest seen htail

/-- The prefix rule without a side condition. -/
theorem prefixes_iff_meets {Rel : List α → σ → Prop} {C : σ → α → Prop}
    (hstep : ∀ done s a, Rel done s → (Rel (done ++ [a]) (step s a) ↔ C s a)) (as done : List α) (s : σ)
    (hs : Rel done s) :
    (∀ seen, seen <+: as → Rel (done ++ seen) (run step s seen)) ↔ Meets step C s as :=
  prefixes_iff_meets_given (N := fun _ => True) (fun done s a hrel _ => hstep done s a hrel) as done s hs
    fun _ _ => trivial

/-- Balance rule: when a step adds to the balance `b` what it earns exactly if its condition holds, the
    balance after every prefix is what the prefix has earned exactly if every step meets the condition. -/
theorem balance_iff_meets {b : σ → ℕ} {f : σ → α → ℕ} {C : σ → α → Prop}
    (hstep : ∀ s a, b (step s a) = b s + f s a ↔ C s a) (as : List α) (s : σ) :
    (∀ seen, seen <+: as → b (run step s seen) = b s + total step f s seen) ↔ Meets step C s as := by
  induction as generalizing s with
  | nil =>
    refine ⟨fun _ => trivial, fun _ seen hseen => ?_⟩
    rw [List.prefix_nil.mp hseen]
    rfl
  | cons a as ih =>
    constructor
    · intro h
      have hone : b (step s a) = b s + f s a := h [a] (List.prefix_append [a] as)
      refine ⟨(hstep s a).mp hone, (ih (step s a)).mp fun seen hseen => ?_⟩
      have hcons := h (a :: seen) (List.cons_prefix_cons.mpr ⟨rfl, hseen⟩)
      rw [run_cons, total] at hcons
      rw [hcons, hone, Nat.add_assoc]
    · rintro ⟨hc, hrest⟩ seen hseen
      cases seen with
      | nil => rfl
      | cons c seen =>
        obtain ⟨rfl, htail⟩ := List.cons_prefix_cons.mp hseen
        rw [run_cons, (ih (step s c)).mpr hrest seen htail, (hstep s c).mpr hc, total, Nat.add_assoc]

section Gather
variable {β : Type} {Inv : σ → Prop} {f g : σ → α → List β}

/-- Log rule: when every step appends to a log what it gives off, the log has what the run has given off. -/
theorem log_eq_gather {l : σ → List β}
    (hstep : ∀ s a, Inv s → Inv (step s a) ∧ l (step s a) = l s ++ f s a) (as : List α) (s : σ)
    (hs : Inv s) : l (run step s as) = l s ++ gather step f s as := by
  induction as generalizing s with
  | nil => exact (List.append_nil _).symm
  | cons a as ih =>
    obtain ⟨hinv, hlog⟩ := hstep s a hs
    rw [run_cons, ih _ hinv, hlog, gather, List.append_assoc]

theorem gather_sublist (hinv : ∀ s a, Inv s → Inv (step s a))
    (h : ∀ s a, Inv s → (f s a).Sublist (g s a)) (as : List α) (s : σ) (hs : Inv s) :
    (gather step f s as).Sublist (gather step g s as) := by
  induction as generalizing s with
  | nil => exact List.Sublist.refl _
  | cons a as ih => exact (h s a hs).append (ih _ (hinv s a hs))

/-- Queue rule: when every step puts at the end of what is held and takes away at its front, what was held
    with all that came is what left with all that is held. -/
theorem gather_held {q : σ → List β}
    (hstep : ∀ s a, Inv s → Inv (step s a) ∧ q s ++ f s a = g s a ++ q (step s a)) (as : List α) (s : σ)
    (hs : Inv s) : q s ++ gather step f s as = gather step g s as ++ q (run step s as) := by
  induction as generalizing s with
  | nil => exact List.append_nil _
  | cons a as ih =>
    obtain ⟨hinv, hheld⟩ := hstep s a hs
    rw [run_cons, gather, gather, ← List.append_assoc, hheld, List.append_assoc, ih _ hinv, List.append_assoc]

end Gather

/-- Scan rule: along a list whose elements are pairwise related, an invariant over the elements
    already visited holds for the whole list when every visit keeps it. -/
theorem scan_inv {R : α → α → Prop} {Inv : List α → σ → Prop}
    (hstep : ∀ done x s, (∀ d ∈ done, R d x) → Inv done s → Inv (done ++ [x]) (step s x))
    (xs done : List α) (s : σ) (hp : xs.Pairwise R) (hd : ∀ d ∈ done, ∀ x ∈ xs, R d x)
    (hs : Inv done s) : Inv (done ++ xs) (run step s xs) := by
  induction xs generalizing done s with
  | nil => rw [List.append_nil]; exact hs
  | cons x xs ih =>
    obtain ⟨hx, hxs⟩ := List.pairwise_cons.mp hp
    have hnext := hstep done x s (fun d h => hd d h x List.mem_cons_self) hs
    have hafter : ∀ d ∈ done ++ [x], ∀ y ∈ xs, R d y := by
      intro d h y hy
      rcases List.mem_append.mp h with h | h
      · exact hd d h y (List.mem_cons_of_mem x hy)
      · rw [List.mem_singleton.mp h]; exact hx y hy
    have hrest := ih (done ++ [x]) (step s x) hxs hafter hnext
    rwa [List.append_assoc] at hrest

end ImxHal.Run
