import Mathlib.Data.List.Basic
import Mathlib.Tactic

/-! @scheme recency | family:caches

    A recency list keeps its keys in the order of their last use, read off a clock that ticks with every
    use. A use brings its key to the front; what leaves the list leaves the others in order, so the last
    key is always the one unused for longest:

        clock 7      k₃ (6)  k₁ (4)  k₂ (1)          `ByUse`
        use k₁       k₁ (7)  k₃ (6)  k₂ (1)
        evict        k₁ (7)  k₃ (6)                  k₂ was used before all of them -/

namespace ImxHal.Recency

variable {κ : Type}

/-- The keys stand in the order of their last use, the latest first, and every use is in the past. -/
def ByUse (used : κ → ℕ) (clock : ℕ) (keys : List κ) : Prop :=
  keys.Pairwise (fun k k' => used k' < used k) ∧ ∀ k ∈ keys, used k < clock

theorem byUse_sublist {used : κ → ℕ} {clock : ℕ} {keys keys' : List κ} (h : ByUse used clock keys)
    (hsub : keys'.Sublist keys) : ByUse used clock keys' :=
  ⟨h.1.sublist hsub, fun k hk => h.2 k (hsub.subset hk)⟩

theorem byUse_tick {used : κ → ℕ} {clock : ℕ} {keys : List κ} (h : ByUse used clock keys) :
    ByUse used (clock + 1) keys :=
  ⟨h.1, fun k hk => Nat.lt_succ_of_lt (h.2 k hk)⟩

/-- A used key comes to the front of what is left of the others. -/
theorem byUse_use [DecidableEq κ] {used : κ → ℕ} {clock : ℕ} {keys keys' : List κ} {key : κ}
    (h : ByUse used clock keys) (hsub : keys'.Sublist keys) (hkey : key ∉ keys') :
    ByUse (Function.update used key clock) (clock + 1) (key :: keys') := by
  have hold : ∀ k ∈ keys', Function.update used key clock k = used k := by
    intro k hk
    have hne : k ≠ key := fun heq => hkey (heq ▸ hk)
    exact Function.update_of_ne hne _ _
  have hpast : ∀ k ∈ keys', used k < clock := fun k hk => h.2 k (hsub.subset hk)
  refine ⟨List.pairwise_cons.mpr ⟨fun k hk => ?_, ?_⟩, fun k hk => ?_⟩
  · rw [hold k hk, Function.update_self]
    exact hpast k hk
  · refine (h.1.sublist hsub).imp_of_mem fun hk hk' hlt => ?_
    rw [hold _ hk, hold _ hk']
    exact hlt
  · rcases List.mem_cons.mp hk with rfl | hk
    · rw [Function.update_self]
      exact Nat.lt_succ_self clock
    · rw [hold k hk]
      exact Nat.lt_succ_of_lt (hpast k hk)

/-- The last key was used before all others. -/
theorem byUse_last {used : κ → ℕ} {clock : ℕ} {keys : List κ} {key : κ}
    (h : ByUse used clock (keys ++ [key])) : ∀ k ∈ keys, used key < used k := fun k hk =>
  (List.pairwise_append.mp h.1).2.2 k hk key (List.mem_singleton_self key)

end ImxHal.Recency
