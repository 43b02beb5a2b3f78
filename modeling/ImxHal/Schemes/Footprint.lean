import Mathlib.Data.List.Basic
import Mathlib.Tactic

/-! @scheme footprint | family:memory safety

    Code that takes a message apart reads one cell of memory after the other, and which cell comes next
    may hang on what the cells before it held. Such code is a tree: a result, or the read of a cell with
    one branch for each content. On a given memory it takes one path through the tree, and the cells on
    that path are its footprint. Bounds are statements about the footprint; and what lies outside the
    footprint cannot matter. -/

namespace ImxHal.Footprint

variable {ι β α γ : Type}

/-- A result, or the read of a cell and what is done with its content. -/
inductive Reader (ι β α : Type) where
  | done (result : α)
  | read (cell : ι) (next : β → Reader ι β α)

namespace Reader

protected def bind (f : α → Reader ι β γ) : Reader ι β α → Reader ι β γ
  | done a => f a
  | read i next => read i fun b => (next b).bind f

instance : Monad (Reader ι β) where
  pure := done
  bind := fun p f => p.bind f

/-- One cell. -/
def cell (i : ι) : Reader ι β β := read i done

def run (memory : ι → β) : Reader ι β α → α
  | done a => a
  | read i next => (next (memory i)).run memory

/-- The cells that are read, the first one first. -/
def footprint (memory : ι → β) : Reader ι β α → List ι
  | done _ => []
  | read i next => i :: (next (memory i)).footprint memory

variable {memory other : ι → β}

@[simp] theorem run_pure (a : α) : run memory (pure a : Reader ι β α) = a := rfl

@[simp] theorem run_cell (i : ι) : run memory (cell i) = memory i := rfl

@[simp] theorem run_bind (p : Reader ι β α) (f : α → Reader ι β γ) :
    run memory (p >>= f) = run memory (f (run memory p)) := by
  change run memory (p.bind f) = _
  induction p with
  | done a => rfl
  | read i next ih => exact ih (memory i)

@[simp] theorem run_ite (c : Prop) [Decidable c] (p q : Reader ι β α) :
    run memory (if c then p else q) = if c then run memory p else run memory q :=
  apply_ite (run memory) c p q

@[simp] theorem footprint_pure (a : α) : footprint memory (pure a : Reader ι β α) = [] := rfl

@[simp] theorem footprint_cell (i : ι) : footprint memory (cell i : Reader ι β β) = [i] := rfl

@[simp] theorem footprint_bind (p : Reader ι β α) (f : α → Reader ι β γ) :
    footprint memory (p >>= f) = footprint memory p ++ footprint memory (f (run memory p)) := by
  change footprint memory (p.bind f) = _
  induction p with
  | done a => rfl
  | read i next ih => exact congrArg (i :: ·) (ih (memory i))

/-- What is done with a result need not read anything. -/
theorem footprint_bind_of_pure {p : Reader ι β α} {f : α → Reader ι β γ}
    (h : ∀ a, ∃ c, f a = pure c) : footprint memory (p >>= f) = footprint memory p := by
  obtain ⟨c, hc⟩ := h (run memory p)
  rw [footprint_bind, hc, footprint_pure, List.append_nil]

/-- What is not in the footprint does not matter. -/
theorem run_congr {p : Reader ι β α} (h : ∀ i ∈ footprint memory p, memory i = other i) :
    run memory p = run other p := by
  induction p with
  | done a => rfl
  | read i next ih =>
    have hi : memory i = other i := h i (List.mem_cons_self ..)
    have hnext := ih (memory i) fun j hj => h j (List.mem_cons_of_mem _ hj)
    rw [run, run, hnext, hi]

/-- A loop over a list that keeps a value. -/
theorem run_foldlM (f : γ → α → Reader ι β γ) (l : List α) (c : γ) :
    run memory (l.foldlM f c) = l.foldl (fun c a => run memory (f c a)) c := by
  induction l generalizing c with
  | nil => rfl
  | cons a l ih => rw [List.foldlM_cons, run_bind, ih, List.foldl_cons]

/-! ### Bounds -/

/-- Only cells in `P` are read. -/
def Within (P : ι → Prop) (memory : ι → β) (p : Reader ι β α) : Prop := ∀ i ∈ footprint memory p, P i

variable {P : ι → Prop}

@[simp] theorem within_pure (a : α) : Within P memory (pure a : Reader ι β α) := by
  intro i hi
  cases hi

@[simp] theorem within_cell (i : ι) : Within P memory (cell i : Reader ι β β) ↔ P i := by
  simp [Within]

@[simp] theorem within_bind (p : Reader ι β α) (f : α → Reader ι β γ) :
    Within P memory (p >>= f) ↔ Within P memory p ∧ Within P memory (f (run memory p)) := by
  simp only [Within, footprint_bind, List.mem_append, or_imp, forall_and]

@[simp] theorem within_ite (c : Prop) [Decidable c] (p q : Reader ι β α) :
    Within P memory (if c then p else q)
      ↔ (c → Within P memory p) ∧ (¬ c → Within P memory q) := by
  by_cases hc : c
  · simp [hc]
  · simp [hc]

/-- A loop stays in bounds as each of its steps does, where the value kept has no say in that. -/
theorem within_foldlM {Q : α → Prop} {f : γ → α → Reader ι β γ}
    (hstep : ∀ c a, Within P memory (f c a) ↔ Q a) (l : List α) (c : γ) :
    Within P memory (l.foldlM f c) ↔ ∀ a ∈ l, Q a := by
  induction l generalizing c with
  | nil => simp
  | cons a l ih => rw [List.foldlM_cons, within_bind, hstep, ih, List.forall_mem_cons]

/-- Memories that agree in bounds give the same result, where the bounds are kept. -/
theorem Within.run_eq {p : Reader ι β α} (h : Within P memory p)
    (hagree : ∀ i, P i → memory i = other i) : run memory p = run other p :=
  run_congr fun i hi => hagree i (h i hi)

/-- And they keep them alike: what the bounds leave open is not looked at before they are left. -/
theorem within_congr {p : Reader ι β α} (hagree : ∀ i, P i → memory i = other i) :
    Within P memory p ↔ Within P other p := by
  induction p with
  | done a => exact iff_of_true (within_pure a) (within_pure a)
  | read i next ih =>
    simp only [Within, footprint, List.forall_mem_cons] at ih ⊢
    refine and_congr_right fun hi => ?_
    rw [hagree i hi]
    exact ih (other i)

end Reader

end ImxHal.Footprint
