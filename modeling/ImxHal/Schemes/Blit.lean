import Mathlib.Data.List.Basic
import Mathlib.Logic.Function.Basic
import Mathlib.Tactic

/-! @scheme blit | family:pictures

    A picture is worked on by moves: each fills one cell of the destination or copies one to it. Nested
    loops are lists of moves, and what they make of a picture is read off a cell at a time, from the moves
    that end there:

        loops ──▶ [m₁, m₂, …]        dst a = the value of the moves to a, when they all have one

    Cells are numbered row by row. A line is scaled by an integer ratio about its middle: to a shorter one
    by taking every so-manieth cell, to a longer one by repeating each, with a margin on both sides. -/

namespace ImxHal.Blit

variable {α : Type}

inductive Move (α : Type)
  | fill (dst : ℕ) (v : α)
  | copy (dst src : ℕ)
  deriving DecidableEq

namespace Move

def dst : Move α → ℕ
  | fill d _ => d
  | copy d _ => d

def read : Move α → Option ℕ
  | fill _ _ => none
  | copy _ s => some s

def value (src : ℕ → α) : Move α → α
  | fill _ v => v
  | copy _ s => src s

end Move

/-- The destination after the moves. -/
def run (src mem : ℕ → α) : List (Move α) → ℕ → α
  | [] => mem
  | m :: moves => run src (Function.update mem m.dst (m.value src)) moves

/-- Every move is inside of the two pictures. -/
def InBounds (srcSize dstSize : ℕ) (moves : List (Move α)) : Prop :=
  ∀ m ∈ moves, m.dst < dstSize ∧ ∀ s ∈ m.read, s < srcSize

theorem Move.copy_inBounds {d s srcSize dstSize : ℕ} (hd : d < dstSize) (hs : s < srcSize) :
    (copy d s : Move α).dst < dstSize ∧ ∀ s' ∈ (copy d s : Move α).read, s' < srcSize := by
  refine ⟨hd, fun s' hs' => ?_⟩
  obtain rfl := Option.some_inj.mp hs'
  exact hs

theorem run_untouched {src : ℕ → α} {moves : List (Move α)} {a : ℕ} (mem : ℕ → α)
    (h : ∀ m ∈ moves, m.dst ≠ a) :
    run src mem moves a = mem a := by
  induction moves generalizing mem with
  | nil => rfl
  | cons m moves ih =>
    rw [run, ih _ fun m' hm' => h m' (List.mem_cons_of_mem _ hm'),
      Function.update_of_ne (h m List.mem_cons_self).symm]

/-- A cell has the value on which all the moves to it agree. -/
theorem run_eq {src : ℕ → α} {moves : List (Move α)} {a : ℕ} {v : α} (mem : ℕ → α)
    (hex : ∃ m ∈ moves, m.dst = a)
    (h : ∀ m ∈ moves, m.dst = a → m.value src = v) : run src mem moves a = v := by
  induction moves generalizing mem with
  | nil => obtain ⟨m, hm, _⟩ := hex; exact absurd hm List.not_mem_nil
  | cons m moves ih =>
    rw [run]
    have hrest : ∀ m' ∈ moves, m'.dst = a → m'.value src = v :=
      fun m' hm' => h m' (List.mem_cons_of_mem _ hm')
    by_cases hlater : ∃ m' ∈ moves, m'.dst = a
    · exact ih _ hlater hrest
    · have hm : m.dst = a := by
        obtain ⟨m', hm', ha⟩ := hex
        rcases List.mem_cons.mp hm' with rfl | hm'
        · exact ha
        · exact absurd ⟨m', hm', ha⟩ hlater
      rw [run_untouched _ fun m' hm' ha => hlater ⟨m', hm', ha⟩, hm, Function.update_self]
      exact h m List.mem_cons_self hm

/-- A cell is left alone, or has the value of a move to it. -/
theorem run_from (src mem : ℕ → α) (moves : List (Move α)) (a : ℕ) :
    run src mem moves a = mem a ∨ ∃ m ∈ moves, m.dst = a ∧ run src mem moves a = m.value src := by
  induction moves generalizing mem with
  | nil => exact .inl rfl
  | cons m moves ih =>
    rcases ih (Function.update mem m.dst (m.value src)) with h | ⟨m', hm', hdst, h⟩
    · rw [run, h]
      by_cases ha : a = m.dst
      · exact .inr ⟨m, List.mem_cons_self, ha.symm, by rw [ha, Function.update_self]⟩
      · exact .inl (Function.update_of_ne ha _ _)
    · exact .inr ⟨m', List.mem_cons_of_mem _ hm', hdst, h⟩

theorem run_append (src mem : ℕ → α) (moves moves' : List (Move α)) :
    run src mem (moves ++ moves') = run src (run src mem moves) moves' := by
  induction moves generalizing mem with
  | nil => rfl
  | cons m moves ih => exact ih _

/-- Moves within one memory, each of which reads what those before it have left. -/
def runIn (mem : ℕ → α) : List (Move α) → ℕ → α
  | [] => mem
  | m :: moves => runIn (Function.update mem m.dst (m.value mem)) moves

/-- Moves that read no cell they write to may as well read the memory before them. -/
theorem runIn_eq {moves : List (Move α)} (hapart : ∀ m ∈ moves, ∀ m' ∈ moves, ∀ s ∈ m'.read, m.dst ≠ s)
    (mem : ℕ → α) : runIn mem moves = run mem mem moves := by
  have hfrom (mem' : ℕ → α) (hreads : ∀ m ∈ moves, ∀ s ∈ m.read, mem' s = mem s) :
      runIn mem' moves = run mem mem' moves := by
    induction moves generalizing mem' with
    | nil => rfl
    | cons m moves ih =>
      have hvalue : m.value mem' = m.value mem := by
        cases m with
        | fill d v => rfl
        | copy d s => exact hreads _ List.mem_cons_self s rfl
      rw [runIn, run, hvalue]
      refine ih (fun a ha b hb => hapart a (List.mem_cons_of_mem m ha) b (List.mem_cons_of_mem m hb)) _ ?_
      intro m' hm' s hs
      rw [Function.update_of_ne (hapart m List.mem_cons_self m' (List.mem_cons_of_mem m hm') s hs).symm]
      exact hreads m' (List.mem_cons_of_mem m hm') s hs
  exact hfrom mem fun _ _ _ _ => rfl

/-- Moves behind a cell leave it to the moves before them. -/
theorem run_front {moves moves' : List (Move α)} {D a : ℕ} (hbehind : ∀ m ∈ moves', D ≤ m.dst) (ha : a < D)
    (src mem : ℕ → α) : run src mem (moves ++ moves') a = run src mem moves a := by
  rw [run_append]
  refine run_untouched _ fun m hm hdst => ?_
  have := hbehind m hm
  omega

/-! ### Loops -/

/-- `for (i = first; i < last; i += step)`. -/
def loop (first last step : ℕ) (body : ℕ → List (Move α)) : List (Move α) :=
  (List.range' first ((last - first + step - 1) / step) step).flatMap body

theorem mem_loop {first last step : ℕ} (hstep : 0 < step) {body : ℕ → List (Move α)} {m : Move α} :
    m ∈ loop first last step body ↔ ∃ k, first + step * k < last ∧ m ∈ body (first + step * k) := by
  rw [loop, List.mem_flatMap]
  constructor
  · rintro ⟨i, hi, hm⟩
    obtain ⟨k, hk, rfl⟩ := List.mem_range'.mp hi
    refine ⟨k, ?_, hm⟩
    have hle := Nat.mul_le_of_le_div _ _ _ (Nat.succ_le_of_lt hk)
    rw [Nat.succ_eq_add_one, Nat.add_mul, Nat.one_mul, Nat.mul_comm] at hle
    omega
  · rintro ⟨k, hk, hm⟩
    refine ⟨_, List.mem_range'.mpr ⟨k, ?_, rfl⟩, hm⟩
    rw [Nat.lt_iff_add_one_le, Nat.le_div_iff_mul_le hstep, Nat.add_mul, Nat.one_mul, Nat.mul_comm]
    omega

/-- A loop over every index below `last`. -/
theorem mem_loop_one {last : ℕ} {body : ℕ → List (Move α)} {m : Move α} :
    m ∈ loop 0 last 1 body ↔ ∃ i < last, m ∈ body i := by
  rw [mem_loop (by decide)]
  simp only [Nat.zero_add, Nat.one_mul]

theorem range'_eq_map (first n step : ℕ) :
    List.range' first n step = (List.range n).map (first + step * ·) := by
  induction n with
  | zero => rfl
  | succ n ih => rw [List.range'_concat, List.range_succ, List.map_append, ih, List.map_singleton]

/-- A loop by the number of its iterations. -/
theorem loop_eq_count (first last step : ℕ) (body : ℕ → List (Move α)) :
    loop first last step body =
      loop 0 ((last - first + step - 1) / step) 1 fun k => body (first + step * k) := by
  simp only [loop, range'_eq_map, List.flatMap_map, Nat.sub_zero, Nat.add_sub_cancel, Nat.div_one,
    Nat.zero_add, Nat.one_mul]

/-- `memset`. -/
def fills (d n : ℕ) (v : α) : List (Move α) := (List.range n).map fun k => .fill (d + k) v

/-- `memcpy`, or a store of several cells at once. -/
def copies (d s n : ℕ) : List (Move α) := (List.range n).map fun k => .copy (d + k) (s + k)

theorem mem_fills {d n : ℕ} {v : α} {m : Move α} : m ∈ fills d n v ↔ ∃ k < n, m = .fill (d + k) v := by
  simp only [fills, List.mem_map, List.mem_range, eq_comm]

theorem mem_copies {d s n : ℕ} {m : Move α} : m ∈ copies d s n ↔ ∃ k < n, m = .copy (d + k) (s + k) := by
  simp only [copies, List.mem_map, List.mem_range, eq_comm]

/-! ### Cells of a picture -/

theorem cell_lt {w h i j : ℕ} (hi : i < h) (hj : j < w) : w * i + j < w * h := by
  have hmul : w * (i + 1) ≤ w * h := Nat.mul_le_mul_left w hi
  rw [Nat.mul_add, Nat.mul_one] at hmul
  omega

theorem cell_inj {w i j i' j' : ℕ} (hj : j < w) (hj' : j' < w) (h : w * i + j = w * i' + j') :
    i = i' ∧ j = j' := by
  have hpos : 0 < w := by omega
  have hi : i = i' := by
    have hdiv := congrArg (· / w) h
    simpa only [Nat.mul_add_div hpos, Nat.div_eq_of_lt hj, Nat.div_eq_of_lt hj', Nat.add_zero] using hdiv
  subst hi
  exact ⟨rfl, by omega⟩

/-- The bytes of cells of several bytes. -/
theorem cell_add_inj {w i i' x x' b b' : ℕ} (hx' : x' + b' < w) (hx : x + b < w)
    (h : w * i' + x' + b' = w * i + x + b) : i' = i ∧ x' + b' = x + b :=
  cell_inj hx' hx (by omega)

/-- The same in a plane that begins at `D`. -/
theorem cell_offset_inj {D w i i' x x' b b' : ℕ} (hx' : x' + b' < w) (hx : x + b < w)
    (h : D + (w * i' + x') + b' = D + (w * i + x) + b) : i' = i ∧ x' + b' = x + b :=
  cell_inj hx' hx (by omega)

theorem lt_mul_iff {w h a : ℕ} : a < w * h ↔ ∃ i < h, ∃ j < w, a = w * i + j := by
  constructor
  · intro h
    have hpos : 0 < w := Nat.pos_of_mul_pos_right (Nat.zero_lt_of_lt h)
    exact ⟨a / w, Nat.div_lt_of_lt_mul h, a % w, Nat.mod_lt a hpos, (Nat.div_add_mod a w).symm⟩
  · rintro ⟨i, hi, j, hj, rfl⟩
    exact cell_lt hi hj

/-- Moves that are one for each cell of a picture. -/
theorem cells_run {D w w' h : ℕ} {moves : List (Move α)} {f : ℕ → ℕ → Move α} (hle : w' ≤ w)
    (hdst : ∀ i j, (f i j).dst = D + (w * i + j)) (hmem : ∀ m, m ∈ moves ↔ ∃ i < h, ∃ j < w', m = f i j)
    (src mem : ℕ → α) {i j : ℕ} (hi : i < h) (hj : j < w') :
    run src mem moves (D + (w * i + j)) = (f i j).value src := by
  refine run_eq mem ⟨_, (hmem _).mpr ⟨i, hi, j, hj, rfl⟩, hdst i j⟩ fun m hm hcell => ?_
  obtain ⟨i', hi', j', hj', rfl⟩ := (hmem m).mp hm
  rw [hdst, Nat.add_left_cancel_iff] at hcell
  obtain ⟨rfl, rfl⟩ := cell_inj (by omega) (by omega) hcell
  rfl

/-- Moves that fill each cell of a picture, which has `n` values. -/
theorem pixels_run {n w h : ℕ} {moves : List (Move α)} {f : ℕ → ℕ → Fin n → α}
    (hmem : ∀ m, m ∈ moves ↔ ∃ i < h, ∃ j < w, ∃ k : Fin n, m = .fill (n * (w * i + j) + k) (f i j k))
    (src mem : ℕ → α) {i j : ℕ} (hi : i < h) (hj : j < w) (k : Fin n) :
    run src mem moves (n * (w * i + j) + k) = f i j k := by
  refine run_eq mem ⟨_, (hmem _).mpr ⟨i, hi, j, hj, k, rfl⟩, rfl⟩ fun m hm hcell => ?_
  obtain ⟨i', hi', j', hj', k', rfl⟩ := (hmem m).mp hm
  obtain ⟨hpixel, hk⟩ := cell_inj k'.isLt k.isLt hcell
  obtain ⟨rfl, rfl⟩ := cell_inj hj' hj hpixel
  obtain rfl := Fin.ext hk
  rfl

/-- They stay in the picture. -/
theorem pixels_inBounds {n w h : ℕ} {moves : List (Move α)} {f : ℕ → ℕ → Fin n → α}
    (hmem : ∀ m, m ∈ moves ↔ ∃ i < h, ∃ j < w, ∃ k : Fin n, m = .fill (n * (w * i + j) + k) (f i j k))
    (srcSize : ℕ) : InBounds srcSize (n * (w * h)) moves := by
  intro m hm
  obtain ⟨i, hi, j, hj, k, rfl⟩ := (hmem m).mp hm
  exact ⟨cell_lt (cell_lt hi hj) k.isLt, fun s hs => nomatch hs⟩

/-- Two cells of the source have the same value in every source only if they are one. -/
theorem eq_of_forall_source {x y : α} (hne : x ≠ y) {a b : ℕ} (h : ∀ src : ℕ → α, src a = src b) : a = b := by
  by_contra hab
  have := h (Function.update (fun _ => x) a y)
  rw [Function.update_self, Function.update_of_ne (Ne.symm hab)] at this
  exact hne this.symm

/-! ### Lines -/

/-- The cell of a line of `big` cells that cell `i` of a line of `small` is taken from. -/
def shrink (big small i : ℕ) : ℕ := (big - small * (big / small)) / 2 + i * (big / small)

/-- The margin of a line of `big` cells in front of the `small` ones, each repeated. -/
def margin (small big : ℕ) : ℕ := (big - small * (big / small)) / 2

/-- The cell of a line of `small` cells that cell `i` of a line of `big` is taken from, if any. -/
def stretch (small big i : ℕ) : Option ℕ :=
  if i < margin small big ∨ margin small big + small * (big / small) ≤ i then none
  else some ((i - margin small big) / (big / small))

theorem shrink_lt {big small i : ℕ} (hratio : 0 < big / small) (hi : i < small) :
    shrink big small i < big := by
  have hle : small * (big / small) ≤ big := Nat.mul_div_le big small
  have hmul : (i + 1) * (big / small) ≤ small * (big / small) := Nat.mul_le_mul_right _ hi
  rw [Nat.add_mul, Nat.one_mul] at hmul
  rw [shrink]
  omega

theorem stretch_lt {small big i k : ℕ} (h : stretch small big i = some k) : k < small := by
  rw [stretch] at h
  split_ifs at h with hout
  obtain rfl := Option.some_inj.mp h
  refine Nat.div_lt_of_lt_mul ?_
  rw [Nat.mul_comm]
  omega

theorem margin_le (small big : ℕ) : margin small big + small * (big / small) + margin small big ≤ big := by
  have hle : small * (big / small) ≤ big := Nat.mul_div_le big small
  rw [margin]
  omega

theorem margin_even_iff {small big : ℕ} (hsmall : 2 ∣ small) (hbig : 2 ∣ big) :
    2 ∣ margin small big ↔ big % small % 4 = 0 := by
  have hmod : 2 ∣ big % small := (Nat.dvd_mod_iff hsmall).mpr hbig
  rw [margin, ← Nat.mod_eq_sub]
  omega

theorem shrink_eq (big small i : ℕ) : shrink big small i = margin small big + i * (big / small) := rfl

/-- Halves of the cells of a pair are one when the margin does not divide the pair. -/
theorem stretch_pair {small big : ℕ} (hsmall : 2 ∣ small) (hmargin : 2 ∣ margin small big) (l : ℕ) :
    (stretch small big (2 * l + 1)).map (· / 2) = (stretch small big (2 * l)).map (· / 2) := by
  have hend : 2 ∣ small * (big / small) := dvd_mul_of_dvd_left hsmall _
  rw [stretch, stretch]
  by_cases hout : 2 * l < margin small big ∨ margin small big + small * (big / small) ≤ 2 * l
  · rw [if_pos hout, if_pos (by omega)]
  · rw [if_neg hout, if_neg (by omega), Option.map_some, Option.map_some]
    congr 1
    obtain ⟨e, he⟩ : ∃ e, 2 * l - margin small big = 2 * e := ⟨(2 * l - margin small big) / 2, by omega⟩
    have he' : 2 * l + 1 - margin small big = 2 * e + 1 := by omega
    rw [he, he', Nat.div_right_comm, Nat.div_right_comm (2 * e)]
    congr 1
    omega

/-- A line that is only moved keeps its pairs when the margin does not divide one. -/
theorem stretch_moved {small big : ℕ} (hratio : big / small = 1) (hsmall : 2 ∣ small)
    (hmargin : 2 ∣ margin small big)
    (l : ℕ) : stretch small big (2 * l + 1) = (stretch small big (2 * l)).map (· + 1) ∧
      ∀ c ∈ stretch small big (2 * l), 2 ∣ c := by
  rw [stretch, stretch, hratio, Nat.mul_one]
  by_cases hout : 2 * l < margin small big ∨ margin small big + small ≤ 2 * l
  · rw [if_pos hout, if_pos (by omega)]
    exact ⟨rfl, fun c hc => nomatch hc⟩
  · rw [if_neg hout, if_neg (by omega), Option.map_some, Nat.div_one, Nat.div_one]
    refine ⟨?_, fun c hc => ?_⟩
    · congr 1
      omega
    · obtain rfl := Option.some_inj.mp hc
      omega

theorem stretch_half {small big : ℕ} (hsmall : 2 ∣ small) (hmargin : 2 ∣ margin small big) (i : ℕ) :
    (stretch small big (2 * (i / 2))).map (· / 2) = (stretch small big i).map (· / 2) := by
  rcases Nat.mod_two_eq_zero_or_one i with hi | hi
  · rw [show 2 * (i / 2) = i by omega]
  · rw [← stretch_pair hsmall hmargin, show 2 * (i / 2) + 1 = i by omega]

/-- The first cell behind the margin is taken from the first cell of the line. -/
theorem stretch_margin {small big : ℕ} (hpos : 0 < small) (hratio : 0 < big / small) :
    stretch small big (margin small big) = some 0 := by
  have hmul : 0 < small * (big / small) := Nat.mul_pos hpos hratio
  rw [stretch, if_neg (by omega), Nat.sub_self, Nat.zero_div]

theorem stretch_of_shorter {small big i : ℕ} (h : big < small) : stretch small big i = none := by
  rw [stretch, Nat.div_eq_of_lt h, Nat.mul_zero, if_pos (by omega)]

theorem stretch_some_of_mem {small big i : ℕ} (hlo : margin small big ≤ i)
    (hhi : i < margin small big + small * (big / small)) :
    stretch small big i = some ((i - margin small big) / (big / small)) := by
  rw [stretch, if_neg (by omega)]

theorem stretch_none_of_le {small big i : ℕ} (h : margin small big + small * (big / small) ≤ i) :
    stretch small big i = none := by
  rw [stretch, if_pos (.inr h)]

theorem stretch_none_of_lt {small big i : ℕ} (h : i < margin small big) : stretch small big i = none := by
  rw [stretch, if_pos (.inl h)]

/-- The cell of a picture that a cell of a larger one is taken from, none in the margin. -/
def stretchBoth (smallH bigH smallW bigW i j : ℕ) : Option (ℕ × ℕ) :=
  (stretch smallH bigH i).bind fun r => (stretch smallW bigW j).map fun c => (r, c)

/-- The moves for a row of a larger picture, `border` for the cells of the margin. -/
theorem mem_row (smallH bigH smallW bigW i : ℕ) (border : ℕ → List (Move α))
    (inner : ℕ → ℕ → ℕ → List (Move α)) {m : Move α} :
    (m ∈ if i < margin smallH bigH ∨ margin smallH bigH + smallH * (bigH / smallH) ≤ i then
        loop 0 bigW 1 border
      else loop 0 bigW 1 fun j =>
        if j < margin smallW bigW ∨ margin smallW bigW + smallW * (bigW / smallW) ≤ j then border j
        else inner j ((i - margin smallH bigH) / (bigH / smallH))
          ((j - margin smallW bigW) / (bigW / smallW))) ↔
      ∃ j < bigW, m ∈ (stretchBoth smallH bigH smallW bigW i j).elim (border j) fun p => inner j p.1 p.2 := by
  by_cases hrow : i < margin smallH bigH ∨ margin smallH bigH + smallH * (bigH / smallH) ≤ i
  · simp only [if_pos hrow, mem_loop_one, stretchBoth, stretch, Option.bind_none, Option.elim_none]
  · rw [if_neg hrow, mem_loop_one]
    refine exists_congr fun j => and_congr_right fun _ => ?_
    by_cases hcol : j < margin smallW bigW ∨ margin smallW bigW + smallW * (bigW / smallW) ≤ j
    · simp only [stretchBoth, stretch, if_neg hrow, if_pos hcol, Option.bind_some, Option.map_none,
        Option.elim_none]
    · simp only [stretchBoth, stretch, if_neg hrow, if_neg hcol, Option.bind_some, Option.map_some,
        Option.elim_some]

/-! ### Planes -/

section Planes
variable {D S w w' n t l : ℕ} {v : α}

/-- Rows of `w` cells cut out of longer ones. -/
def cut (D S w w' n : ℕ) : List (Move α) :=
  loop 0 n 1 fun r => copies (D + w * r) (S + w' * r) w

theorem mem_cut {m : Move α} :
    m ∈ cut D S w w' n ↔ ∃ r < n, ∃ j < w, m = .copy (D + (w * r + j)) (S + w' * r + j) := by
  simp only [cut, mem_loop_one, mem_copies, Nat.add_assoc]

theorem cut_run (src mem : ℕ → α) {r j : ℕ} (hr : r < n) (hj : j < w) :
    run src mem (cut D S w w' n) (D + (w * r + j)) = src (S + w' * r + j) :=
  cells_run le_rfl (fun _ _ => rfl) (fun _ => mem_cut) src mem hr hj

/-- A picture of `n` rows in the middle of a larger one, with `t` rows and `l` columns of a border on each
    side. -/
def pad (D S w n t l : ℕ) (v : α) : List (Move α) :=
  let W := l + w + l
  fills D (W * t) v ++ fills (D + W * (t + n)) (W * t) v ++ loop 0 n 1 fun r =>
    fills (D + W * (t + r)) l v ++ fills (D + W * (t + r) + (l + w)) l v ++
      copies (D + W * (t + r) + l) (S + w * r) w

/-- The move for a cell of the larger picture. -/
def padMove (D S w n t l : ℕ) (v : α) (k j : ℕ) : Move α :=
  if (t ≤ k ∧ k < t + n) ∧ l ≤ j ∧ j < l + w then
    .copy (D + ((l + w + l) * k + j)) (S + (w * (k - t) + (j - l)))
  else .fill (D + ((l + w + l) * k + j)) v

theorem padMove_dst (k j : ℕ) : (padMove D S w n t l v k j).dst = D + ((l + w + l) * k + j) := by
  rw [padMove]
  split_ifs <;> rfl

theorem mem_pad {m : Move α} :
    m ∈ pad D S w n t l v ↔ ∃ k < t + n + t, ∃ j < l + w + l, m = padMove D S w n t l v k j := by
  simp only [pad, List.mem_append, mem_fills, mem_copies, mem_loop_one, lt_mul_iff]
  constructor
  · rintro ((⟨_, ⟨k, hk, j, hj, rfl⟩, rfl⟩ | ⟨_, ⟨k, hk, j, hj, rfl⟩, rfl⟩) |
      ⟨r, hr, (⟨j, hj, rfl⟩ | ⟨j, hj, rfl⟩) | ⟨j, hj, rfl⟩⟩)
    · exact ⟨k, by omega, j, hj, by rw [padMove, if_neg (by omega)]⟩
    · refine ⟨t + n + k, by omega, j, hj, ?_⟩
      rw [padMove, if_neg (by omega), Nat.mul_add _ (t + n)]
      congr 1
      omega
    · refine ⟨t + r, by omega, j, by omega, ?_⟩
      rw [padMove, if_neg (by omega)]
      congr 1
      omega
    · refine ⟨t + r, by omega, l + w + j, by omega, ?_⟩
      rw [padMove, if_neg (by omega)]
      congr 1
      omega
    · refine ⟨t + r, by omega, l + j, by omega, ?_⟩
      rw [padMove, if_pos (by omega), Nat.add_sub_cancel_left, Nat.add_sub_cancel_left]
      congr 1 <;> omega
  · rintro ⟨k, hk, j, hj, rfl⟩
    rw [padMove]
    split_ifs with hin
    · refine .inr ⟨k - t, by omega, .inr ⟨j - l, by omega, ?_⟩⟩
      rw [show t + (k - t) = k by omega]
      congr 1 <;> omega
    · by_cases hrow : t ≤ k ∧ k < t + n
      · refine .inr ⟨k - t, by omega, .inl ?_⟩
        rw [show t + (k - t) = k by omega]
        by_cases hcol : j < l
        · exact .inl ⟨j, hcol, by congr 1; omega⟩
        · exact .inr ⟨j - (l + w), by omega, by congr 1; omega⟩
      · refine .inl ?_
        by_cases htop : k < t
        · exact .inl ⟨_, ⟨k, htop, j, hj, rfl⟩, rfl⟩
        · refine .inr ⟨_, ⟨k - (t + n), by omega, j, hj, rfl⟩, ?_⟩
          rw [show (l + w + l) * k = (l + w + l) * (t + n + (k - (t + n))) by congr 1; omega,
            Nat.mul_add _ (t + n)]
          congr 1
          omega

/-- A cell of the larger picture. -/
def window (S w n t l : ℕ) (v : α) (src : ℕ → α) (k j : ℕ) : α :=
  if (t ≤ k ∧ k < t + n) ∧ l ≤ j ∧ j < l + w then src (S + (w * (k - t) + (j - l))) else v

theorem pad_run (src mem : ℕ → α) {k j : ℕ} (hk : k < t + n + t) (hj : j < l + w + l) :
    run src mem (pad D S w n t l v) (D + ((l + w + l) * k + j)) = window S w n t l v src k j := by
  rw [cells_run le_rfl padMove_dst (fun _ => mem_pad) src mem hk hj, padMove, window]
  split_ifs <;> rfl

theorem pad_bounds : ∀ m ∈ pad D S w n t l v, D ≤ m.dst ∧ m.dst < D + (l + w + l) * (t + n + t) ∧
    ∀ s ∈ m.read, s < S + w * n := by
  intro m hm
  obtain ⟨k, hk, j, hj, rfl⟩ := mem_pad.mp hm
  have hcell := cell_lt hk hj
  rw [padMove_dst]
  refine ⟨Nat.le_add_right _ _, by omega, fun s hs => ?_⟩
  rw [padMove] at hs
  split_ifs at hs with hin
  · obtain rfl := Option.some_inj.mp hs
    have := cell_lt (show k - t < n by omega) (show j - l < w by omega)
    omega
  · exact nomatch hs

theorem cut_bounds : ∀ m ∈ (cut D S w w' n : List (Move α)), D ≤ m.dst ∧ m.dst < D + w * n ∧
    ∀ s ∈ m.read, ∃ r < n, ∃ j < w, s = S + w' * r + j := by
  intro m hm
  obtain ⟨r, hr, j, hj, rfl⟩ := mem_cut.mp hm
  have hcell := cell_lt hr hj
  refine ⟨Nat.le_add_right _ _, ?_, fun s hs => ?_⟩
  · show D + (w * r + j) < D + w * n
    omega
  · obtain rfl := Option.some_inj.mp hs
    exact ⟨r, hr, j, hj, rfl⟩

end Planes

end ImxHal.Blit
