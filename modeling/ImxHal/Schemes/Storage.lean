import Mathlib.Data.List.Basic
import Mathlib.Tactic

/-! @scheme storage | family:memory

    A storage device is a row of cells that is read and written at offsets. A read ends at the last cell. A
    write that runs past it is cut there, unless the device grows; then the gap is filled:

        │ cells ── off ──▶ data ◀── │ rest        `pwrite`, with the places it has written

    A write has landed at an offset when it has written all its data there and nothing anywhere else. -/

namespace ImxHal.Storage

variable {β : Type} [Inhabited β]

structure Device (β : Type) where
  cells : List β
  grows : Bool
  deriving DecidableEq

namespace Device

def pread (d : Device β) (off : ℤ) (n : ℕ) : List β :=
  if off < 0 then [] else (d.cells.drop off.toNat).take n

/-- How much a write of `n` cells stores. -/
def stored (d : Device β) (off n : ℕ) : ℕ := if d.grows then n else min n (d.cells.length - off)

def pwrite (d : Device β) (off : ℕ) (data : List β) : Device β × List ℕ :=
  let n := d.stored off data.length
  ({ d with cells :=
      if n = 0 then d.cells
      else (d.cells ++ List.replicate (off - d.cells.length) default).take off ++ data.take n ++
        d.cells.drop (off + n) },
    List.range' off n)

end Device

/-- All the data stands at `pos`, and nothing else was written. -/
structure Landed (d : Device β) (pos : ℕ) (data : List β) (r : Device β × List ℕ) : Prop where
  whole : r.2 = List.range' pos data.length
  inside : ∀ i < data.length, r.1.cells[pos + i]? = data[i]?
  outside : ∀ i < d.cells.length, i ∉ r.2 → r.1.cells[i]? = d.cells[i]?

variable {d : Device β} {off pos : ℕ} {data : List β}

omit [Inhabited β] in
theorem stored_le (d : Device β) (off n : ℕ) : d.stored off n ≤ n := by
  rw [Device.stored]
  split_ifs
  · exact le_rfl
  · exact min_le_left _ _

omit [Inhabited β] in
theorem stored_eq_iff {n : ℕ} (hn : n ≠ 0) :
    d.stored off n = n ↔ d.grows = true ∨ off + n ≤ d.cells.length := by
  rw [Device.stored]
  split_ifs with hg
  · simp [hg]
  · simp only [hg, false_or, Bool.false_eq_true, min_eq_left_iff]
    omega

theorem pwrite_cells (hn : d.stored off data.length ≠ 0) : (d.pwrite off data).1.cells =
    (d.cells ++ List.replicate (off - d.cells.length) default).take off ++
      data.take (d.stored off data.length) ++ d.cells.drop (off + d.stored off data.length) :=
  if_neg hn

theorem length_before (d : Device β) (off : ℕ) :
    ((d.cells ++ List.replicate (off - d.cells.length) default).take off).length = off := by
  rw [List.length_take, List.length_append, List.length_replicate]
  omega

/-- A write leaves every place alone that it does not list. -/
theorem getElem?_pwrite_outside {i : ℕ} (hi : i < d.cells.length) (hout : i ∉ (d.pwrite off data).2) :
    (d.pwrite off data).1.cells[i]? = d.cells[i]? := by
  by_cases hn : d.stored off data.length = 0
  · exact congrArg (·[i]?) (if_pos hn)
  · have hstored : (data.take (d.stored off data.length)).length = d.stored off data.length := by
      rw [List.length_take, min_eq_left (stored_le d off _)]
    rw [pwrite_cells hn, List.append_assoc]
    by_cases hlt : i < off
    · rw [List.getElem?_append_left (by rwa [length_before]), List.getElem?_take_of_lt hlt,
        List.getElem?_append_left hi]
    · have hge : off + d.stored off data.length ≤ i := by
        by_contra hlt'
        exact hout (List.mem_range'_1.mpr ⟨not_lt.mp hlt, not_le.mp hlt'⟩)
      rw [List.getElem?_append_right (by rw [length_before]; omega), length_before,
        List.getElem?_append_right (by omega), hstored, List.getElem?_drop]
      congr 1
      omega

theorem getElem?_pwrite_inside {i : ℕ} (hi : i < d.stored off data.length) :
    (d.pwrite off data).1.cells[off + i]? = data[i]? := by
  have hstored : (data.take (d.stored off data.length)).length = d.stored off data.length := by
    rw [List.length_take, min_eq_left (stored_le d off _)]
  rw [pwrite_cells (by omega), List.append_assoc,
    List.getElem?_append_right (by rw [length_before]; omega), length_before, Nat.add_sub_cancel_left,
    List.getElem?_append_left (by omega), List.getElem?_take_of_lt hi]

/-- Where a write lands. -/
theorem landed_iff : Landed d pos data (d.pwrite off data) ↔
    data = [] ∨ off = pos ∧ (d.grows = true ∨ off + data.length ≤ d.cells.length) := by
  constructor
  · intro h
    refine or_iff_not_imp_left.mpr fun hne => ?_
    have hpos := List.length_pos_iff.mpr hne
    have hwhole : List.range' off (d.stored off data.length) = List.range' pos data.length := h.whole
    have hall : d.stored off data.length = data.length := by
      simpa using congrArg List.length hwhole
    rw [hall] at hwhole
    have hoff : off = pos := by
      have hhead := congrArg List.head? hwhole
      simpa [List.head?_range', hpos.ne'] using hhead
    exact ⟨hoff, (stored_eq_iff hpos.ne').mp hall⟩
  · intro h
    have hall : d.stored off data.length = data.length := by
      rcases h with rfl | ⟨-, hfit⟩
      · exact Nat.le_zero.mp (stored_le d off 0)
      · by_cases h0 : data.length = 0
        · rw [h0]
          exact Nat.le_zero.mp (stored_le d off 0)
        · exact (stored_eq_iff h0).mpr hfit
    have hplace : data.length = 0 ∨ off = pos := h.imp (fun h0 => List.length_eq_zero_iff.mpr h0) And.left
    refine ⟨?_, fun i hi => ?_, fun i hi hout => getElem?_pwrite_outside hi hout⟩
    · rw [Device.pwrite]
      dsimp only
      rw [hall]
      rcases hplace with h0 | rfl
      · rw [h0, List.range'_zero, List.range'_zero]
      · rfl
    · obtain rfl := hplace.resolve_left (by omega)
      exact getElem?_pwrite_inside (hall.symm ▸ hi)

end ImxHal.Storage
