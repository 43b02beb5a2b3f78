import ImxHal.Schemes.Blit

/-! @src image_process/ImageUtils.cpp (SbggrToRgb888, RGB2YUV, Rgb888ToYuv422i) | name:bayer | scheme:blit |
    family:pictures

    Each cell of the sensor has one colour, and the two others are averages over its neighbours. The frame is
    copied into one with a border, whose rows and then columns mirror the ones behind the outermost:

        B G B G      index_1 index_2 index_3
        G R G R      index_4 index_5 index_6      (the neighbourhood of a pixel)
        B G B G      index_7 index_8 index_9 -/

namespace ImxHal.Bayer
open ImxHal.Blit

def INT_MAX : ℕ := 2 ^ 31 - 1

/-! ### The border -/

def interior (width height : ℕ) : List (Move UInt16) :=
  let src_width := width + 2
  loop 0 height 1 fun i => loop 0 width 1 fun j => [.copy (src_width * (i + 1) + 1 + j) (width * i + j)]

/-- The first and the last row. -/
def fillRows (width height : ℕ) : List (Move UInt16) :=
  let src_width := width + 2
  let src_height := height + 2
  loop 0 width 1 fun i =>
    [.copy (1 + i) (src_width * 2 + 1 + i),
      .copy (src_width * (src_height - 1) + 1 + i) (src_width * (src_height - 3) + 1 + i)]

/-- The first and the last column. -/
def fillColumns (width height : ℕ) : List (Move UInt16) :=
  let src_width := width + 2
  let src_height := height + 2
  loop 0 src_height 1 fun i =>
    [.copy (i * src_width + 0) (i * src_width + 2),
      .copy (i * src_width + src_width - 1) (i * src_width + src_width - 3)]

/-- `src_data`, from whatever `malloc` returned. -/
def srcData (src garbage : ℕ → UInt16) (width height : ℕ) : ℕ → UInt16 :=
  runIn (runIn (run src garbage (interior width height)) (fillRows width height)) (fillColumns width height)

/-! ### RGB -/

/-- The three bytes of a pixel. -/
def pixel (src_data : ℕ → UInt16) (src_width i j : ℕ) : ℕ × ℕ × ℕ :=
  let index_1 := (src_data (i * src_width + j)).toNat >>> 2
  let index_2 := (src_data (i * src_width + j + 1)).toNat >>> 2
  let index_3 := (src_data (i * src_width + j + 2)).toNat >>> 2
  let index_4 := (src_data ((i + 1) * src_width + j)).toNat >>> 2
  let index_5 := (src_data ((i + 1) * src_width + j + 1)).toNat >>> 2
  let index_6 := (src_data ((i + 1) * src_width + j + 2)).toNat >>> 2
  let index_7 := (src_data ((i + 2) * src_width + j)).toNat >>> 2
  let index_8 := (src_data ((i + 2) * src_width + j + 1)).toNat >>> 2
  let index_9 := (src_data ((i + 2) * src_width + j + 2)).toNat >>> 2
  if i % 2 = 0 then
    if j % 2 = 0 then
      ((index_1 + index_3 + index_7 + index_9) / 4, (index_2 + index_4 + index_6 + index_8) / 4, index_5)
    else ((index_2 + index_8) / 2, index_5, (index_4 + index_6) / 2)
  else if j % 2 = 0 then ((index_4 + index_6) / 2, index_5, (index_2 + index_8) / 2)
  else (index_5, (index_2 + index_4 + index_6 + index_8) / 4, (index_1 + index_3 + index_7 + index_9) / 4)

/-- The three bytes at `dataIndex`, which is three times the number of the pixel. -/
def rgbMoves (src_data : ℕ → UInt16) (width height : ℕ) : List (Move UInt8) :=
  loop 0 height 1 fun i => loop 0 width 1 fun j =>
    let dataIndex := 3 * (width * i + j)
    let p := pixel src_data (width + 2) i j
    [.fill dataIndex (UInt8.ofNat p.1), .fill (dataIndex + 1) (UInt8.ofNat p.2.1),
      .fill (dataIndex + 2) (UInt8.ofNat p.2.2)]

/-- The sizes and `dataIndex` are `int`s. -/
def SbggrToRgb888 (src : ℕ → UInt16) (rgb : ℕ → UInt8) (garbage : ℕ → UInt16) (allocated : Bool)
    (width height : ℕ) : Option (ℕ → UInt8) :=
  if INT_MAX < (width + 2) * (height + 2) * 2 then none
  else if !allocated then some rgb
  else if INT_MAX < 3 * (width * height) then none
  else some (run (fun _ => 0) rgb (rgbMoves (srcData src garbage width height) width height))

/-! ### YUV -/

def clamp (x : ℤ) : ℤ := min (max x 0) 255

/-- `RGB2YUV`: y, u and v. -/
def RGB2YUV (r g b : ℤ) : ℤ × ℤ × ℤ :=
  (clamp ((77 * r + 150 * g + 29 * b) >>> (8 : ℕ)),
    clamp (((128 * b - 43 * r - 85 * g) >>> (8 : ℕ)) + 128),
    clamp (((128 * r - 107 * g - 21 * b) >>> (8 : ℕ)) + 128))

/-- The macro takes `b` for its `r`, and `v` stands behind the `y` of an even column. -/
def yuvMoves (rgb : ℕ → UInt8) (width height : ℕ) : List (Move UInt8) :=
  loop 0 height 1 fun i => loop 0 width 1 fun j =>
    let r := (rgb (3 * (width * i + j))).toNat
    let g := (rgb (3 * (width * i + j) + 1)).toNat
    let b := (rgb (3 * (width * i + j) + 2)).toNat
    let yuv := RGB2YUV b g r
    [.fill (2 * (width * i + j)) (UInt8.ofNat yuv.1.toNat),
      .fill (2 * (width * i + j) + 1) (UInt8.ofNat (if j % 2 = 1 then yuv.2.1 else yuv.2.2).toNat)]

/-- The counters of the loops are of 16 bits. -/
def Rgb888ToYuv422i (rgb yuv422i : ℕ → UInt8) (width height : ℕ) : Option (ℕ → UInt8) :=
  if width % 2 ≠ 0 ∨ height % 2 ≠ 0 then some yuv422i
  else if 65535 < width ∨ 65535 < height then none
  else some (run (fun _ => 0) yuv422i (yuvMoves rgb width height))

/-! ### Colours of a frame -/

inductive Colour where | R | G | B
  deriving DecidableEq

/-- The colour of a cell, by whether its row and its column are odd. -/
def bggr : Bool → Bool → Colour
  | false, false => .B
  | true, true => .R
  | _, _ => .G

/-- The neighbourhood of a cell, one row and one column back to one ahead. -/
def around : List (Fin 3 × Fin 3) := (List.finRange 3).flatMap fun a => (List.finRange 3).map fun b => (a, b)

/-- Rows and columns between a neighbour and the cell. -/
def distance (d : Fin 3 × Fin 3) : ℕ := (if d.1 = 1 then 0 else 1) + if d.2 = 1 then 0 else 1

/-- The neighbours of a colour. -/
def cellsOf (c : Colour) (oddRow oddColumn : Bool) : List (Fin 3 × Fin 3) :=
  around.filter fun d => bggr (oddRow != (d.1 != 1)) (oddColumn != (d.2 != 1)) = c

/-- The nearest of them. -/
def nearest (c : Colour) (oddRow oddColumn : Bool) : List (Fin 3 × Fin 3) :=
  (cellsOf c oddRow oddColumn).filter fun d => (cellsOf c oddRow oddColumn).all fun e => distance d ≤ distance e

/-- Row or column `k - 1` of a frame of `n`, mirrored at the borders. -/
def mirror (n k : ℕ) : ℕ := if k = 0 then 1 else if k = n + 1 then n - 2 else k - 1

/-- A neighbour of a cell, as 8 bits. -/
def sample (src : ℕ → UInt16) (width height i j : ℕ) (d : Fin 3 × Fin 3) : ℕ :=
  (src (width * mirror height (i + d.1) + mirror width (j + d.2))).toNat >>> 2

/-- The colour at a cell: the truncated average of the nearest cells that have it. -/
def average (c : Colour) (src : ℕ → UInt16) (width height i j : ℕ) : ℕ :=
  ((nearest c (i % 2 = 1) (j % 2 = 1)).map (sample src width height i j)).sum /
    (nearest c (i % 2 = 1) (j % 2 = 1)).length

/-! ### The border mirrors the frame -/

theorem mirror_lt {n k : ℕ} (hn : 2 ≤ n) (hk : k < n + 2) : mirror n k < n := by
  rw [mirror]
  split_ifs <;> omega

theorem mirror_succ {n k : ℕ} (hk : k < n) : mirror n (k + 1) = k := by
  rw [mirror, if_neg (by omega), if_neg (by omega), Nat.add_sub_cancel]

/-- What is filled in is never what it is filled in from. -/
theorem mirror_inside {n x y : ℕ} (hn : 2 ≤ n) (hx : x = 0 ∨ x = n + 1) (hy : y = 0 ∨ y = n + 1) :
    mirror n y + 1 ≠ x := by
  rw [mirror]
  split_ifs <;> omega

section
variable {width height : ℕ} (src garbage : ℕ → UInt16)

theorem mem_interior {m : Move UInt16} : m ∈ interior width height ↔ ∃ i < height, ∃ j < width,
    m = .copy ((width + 2) * (i + 1) + (1 + j)) (width * i + j) := by
  simp only [interior, mem_loop_one, List.mem_singleton, Nat.add_assoc]

theorem mem_fillRows {m : Move UInt16} (hh : 2 ≤ height) : m ∈ fillRows width height ↔
    ∃ r, (r = 0 ∨ r = height + 1) ∧ ∃ j < width,
      m = .copy ((width + 2) * r + (1 + j)) ((width + 2) * (mirror height r + 1) + (1 + j)) := by
  have hfirst : mirror height 0 + 1 = 2 := rfl
  have hlast : mirror height (height + 1) + 1 = height + 2 - 3 := by
    rw [mirror, if_neg (by omega), if_pos rfl]
    omega
  have hrow : height + 2 - 1 = height + 1 := by omega
  simp only [fillRows, mem_loop_one, or_and_right, exists_or, exists_eq_left, hfirst, hlast, hrow,
    List.mem_cons, List.not_mem_nil, or_false, and_or_left, Nat.mul_zero, Nat.zero_add, Nat.add_assoc]

theorem mem_fillColumns {m : Move UInt16} (hw : 2 ≤ width) : m ∈ fillColumns width height ↔
    ∃ c, (c = 0 ∨ c = width + 1) ∧ ∃ i < height + 2,
      m = .copy ((width + 2) * i + c) ((width + 2) * i + (mirror width c + 1)) := by
  have hfirst : mirror width 0 + 1 = 2 := rfl
  have hlast (i : ℕ) : (width + 2) * i + (width + 2) - 3 =
      (width + 2) * i + (mirror width (width + 1) + 1) := by
    rw [mirror, if_neg (by omega), if_pos rfl]
    omega
  have hcolumn (i : ℕ) : (width + 2) * i + (width + 2) - 1 = (width + 2) * i + (width + 1) := by omega
  simp only [fillColumns, mem_loop_one, or_and_right, exists_or, exists_eq_left, hfirst,
    List.mem_cons, List.not_mem_nil, or_false, and_or_left, Nat.mul_comm _ (width + 2), hlast, hcolumn,
    Nat.add_zero]

theorem run_interior {i j : ℕ} (hi : i < height) (hj : j < width) :
    run src garbage (interior width height) ((width + 2) * (i + 1) + (1 + j)) = src (width * i + j) := by
  refine run_eq garbage ⟨_, mem_interior.mpr ⟨i, hi, j, hj, rfl⟩, rfl⟩ fun m hm hdst => ?_
  obtain ⟨i', hi', j', hj', rfl⟩ := mem_interior.mp hm
  obtain ⟨hrow, hcol⟩ := cell_inj (by omega) (by omega) hdst
  obtain rfl : i' = i := by omega
  obtain rfl : j' = j := by omega
  rfl

/-- Edges that are filled in from inside show the mirrored cells; `place` gives a cell by its position
    across the edge and along it. -/
theorem run_mirrored {n : ℕ} (hn : 2 ≤ n) {moves : List (Move UInt16)} (Along : ℕ → Prop)
    (place : ℕ → ℕ → ℕ)
    (hinj : ∀ x y x' y', x < n + 2 → x' < n + 2 → Along y → Along y' → place x y = place x' y' →
      x = x' ∧ y = y')
    (hmem : ∀ m, m ∈ moves ↔ ∃ x, (x = 0 ∨ x = n + 1) ∧ ∃ y, Along y ∧
      m = .copy (place x y) (place (mirror n x + 1) y))
    (mem : ℕ → UInt16) {x y : ℕ} (hx : x < n + 2) (hy : Along y) :
    runIn mem moves (place x y) = mem (place (mirror n x + 1) y) := by
  have hinside {e : ℕ} (he : e = 0 ∨ e = n + 1) : mirror n e + 1 < n + 2 := by
    have hlt := mirror_lt hn (k := e) (by omega)
    omega
  rw [runIn_eq]
  · by_cases hedge : x = 0 ∨ x = n + 1
    · refine run_eq mem ⟨_, (hmem _).mpr ⟨x, hedge, y, hy, rfl⟩, rfl⟩ fun m hm hdst => ?_
      obtain ⟨e, he, y', hy', rfl⟩ := (hmem m).mp hm
      obtain ⟨rfl, rfl⟩ := hinj _ _ _ _ (by omega) hx hy' hy hdst
      rfl
    · obtain ⟨k, rfl⟩ : ∃ k, x = k + 1 := ⟨x - 1, by omega⟩
      rw [mirror_succ (by omega)]
      refine run_untouched mem fun m hm hdst => hedge ?_
      obtain ⟨e, he, y', hy', rfl⟩ := (hmem m).mp hm
      rwa [← (hinj _ _ _ _ (by omega) hx hy' hy hdst).1]
  · intro m hm m' hm' s hs heq
    obtain ⟨e, he, y, hy, rfl⟩ := (hmem m).mp hm
    obtain ⟨e', he', y', hy', rfl⟩ := (hmem m').mp hm'
    obtain rfl := Option.some.inj hs
    exact mirror_inside hn he he' (hinj _ _ _ _ (by omega) (hinside he') hy hy' heq).1.symm

/-- Once the rows are filled in, the columns of the frame are complete. -/
theorem run_fillRows (hh : 2 ≤ height) (mem : ℕ → UInt16) {r j : ℕ} (hr : r < height + 2) (hj : j < width) :
    runIn mem (fillRows width height) ((width + 2) * r + (1 + j)) =
      mem ((width + 2) * (mirror height r + 1) + (1 + j)) := by
  refine run_mirrored hh (· < width) (fun r j => (width + 2) * r + (1 + j)) ?_ (fun _ => mem_fillRows hh)
    mem hr hj
  intro r j r' j' _ _ (hj : j < width) (hj' : j' < width) heq
  obtain ⟨hrow, hcol⟩ := cell_inj (by omega) (by omega) heq
  exact ⟨hrow, by omega⟩

theorem run_fillColumns (hw : 2 ≤ width) (mem : ℕ → UInt16) {r c : ℕ} (hr : r < height + 2)
    (hc : c < width + 2) :
    runIn mem (fillColumns width height) ((width + 2) * r + c) =
      mem ((width + 2) * r + (1 + mirror width c)) := by
  rw [Nat.add_comm 1]
  refine run_mirrored hw (· < height + 2) (fun c i => (width + 2) * i + c) ?_
    (fun _ => mem_fillColumns hw) mem hc hr
  intro c i c' i' hc hc' _ _ heq
  exact (cell_inj hc hc' heq).symm

theorem srcData_eq (hw : 2 ≤ width) (hh : 2 ≤ height) {r c : ℕ} (hr : r < height + 2) (hc : c < width + 2) :
    srcData src garbage width height ((width + 2) * r + c) =
      src (width * mirror height r + mirror width c) := by
  rw [srcData, run_fillColumns hw _ hr hc, run_fillRows hh _ hr (mirror_lt hw hc),
    run_interior src garbage (mirror_lt hh hr) (mirror_lt hw hc)]

end

/-! ### Each pixel has the averages of its neighbourhood -/

section
variable {width height : ℕ} (src garbage : ℕ → UInt16)

theorem sample_eq (hw : 2 ≤ width) (hh : 2 ≤ height) {i j : ℕ} (hi : i < height) (hj : j < width)
    (a b : Fin 3) : (srcData src garbage width height ((i + a) * (width + 2) + (j + b))).toNat >>> 2 =
      sample src width height i j (a, b) := by
  rw [Nat.mul_comm, srcData_eq src garbage hw hh (by omega) (by omega), sample]

theorem nearest_blue : nearest .R false false = [(0, 0), (0, 2), (2, 0), (2, 2)] ∧
    nearest .G false false = [(0, 1), (1, 0), (1, 2), (2, 1)] ∧ nearest .B false false = [(1, 1)] := by decide

theorem nearest_blueRow : nearest .R false true = [(0, 1), (2, 1)] ∧ nearest .G false true = [(1, 1)] ∧
    nearest .B false true = [(1, 0), (1, 2)] := by decide

theorem nearest_redRow : nearest .R true false = [(1, 0), (1, 2)] ∧ nearest .G true false = [(1, 1)] ∧
    nearest .B true false = [(0, 1), (2, 1)] := by decide

theorem nearest_red : nearest .R true true = [(1, 1)] ∧
    nearest .G true true = [(0, 1), (1, 0), (1, 2), (2, 1)] ∧
    nearest .B true true = [(0, 0), (0, 2), (2, 0), (2, 2)] := by decide

theorem pixel_eq (hw : 2 ≤ width) (hh : 2 ≤ height) {i j : ℕ} (hi : i < height) (hj : j < width) :
    pixel (srcData src garbage width height) (width + 2) i j =
      (average .R src width height i j, average .G src width height i j, average .B src width height i j) := by
  have hcell := sample_eq src garbage hw hh hi hj
  have h1 := hcell 0 0
  have h2 := hcell 0 1
  have h3 := hcell 0 2
  have h4 := hcell 1 0
  have h5 := hcell 1 1
  have h6 := hcell 1 2
  have h7 := hcell 2 0
  have h8 := hcell 2 1
  have h9 := hcell 2 2
  simp only [Fin.val_zero, Fin.val_one, Fin.val_two, Nat.add_zero, ← Nat.add_assoc] at h1 h2 h3 h4 h5 h6 h7 h8 h9
  simp only [pixel, h1, h2, h3, h4, h5, h6, h7, h8, h9]
  rcases Nat.mod_two_eq_zero_or_one i with hrow | hrow <;> rcases Nat.mod_two_eq_zero_or_one j with hcol | hcol
  · simp [average, hrow, hcol, nearest_blue, Nat.add_assoc]
  · simp [average, hrow, hcol, nearest_blueRow]
  · simp [average, hrow, hcol, nearest_redRow]
  · simp [average, hrow, hcol, nearest_red, Nat.add_assoc]

theorem sum_lt {l : List ℕ} {n : ℕ} (hne : l ≠ []) (h : ∀ x ∈ l, x < n) : l.sum < n * l.length := by
  induction l with
  | nil => exact absurd rfl hne
  | cons x l ih =>
    have hx := h x List.mem_cons_self
    rw [List.sum_cons, List.length_cons, Nat.mul_succ]
    rcases eq_or_ne l [] with rfl | hl
    · simpa using hx
    · have hrest := ih hl fun y hy => h y (List.mem_cons_of_mem x hy)
      omega

theorem nearest_ne_nil : ∀ c oddRow oddColumn, nearest c oddRow oddColumn ≠ [] := by
  rintro (_ | _ | _) (_ | _) (_ | _) <;> decide

/-- Averages of 10-bit samples are of 8 bits. -/
theorem average_lt (h10 : ∀ a, (src a).toNat < 1024) (c : Colour) (i j : ℕ) :
    average c src width height i j < 256 := by
  have hne := nearest_ne_nil c (i % 2 = 1) (j % 2 = 1)
  refine Nat.div_lt_of_lt_mul ?_
  rw [← List.length_map (sample src width height i j), Nat.mul_comm]
  refine sum_lt (by simpa using hne) fun x hx => ?_
  obtain ⟨d, -, rfl⟩ := List.mem_map.mp hx
  have hlt := h10 (width * mirror height (i + d.1) + mirror width (j + d.2))
  rw [sample, Nat.shiftRight_eq_div_pow]
  omega

end

/-! ### Bytes of the pictures -/

section
variable {width height : ℕ}

/-- The bytes of a pixel in the two pictures. -/
def rgbByte (src_data : ℕ → UInt16) (width i j : ℕ) : Fin 3 → UInt8
  | 0 => UInt8.ofNat (pixel src_data (width + 2) i j).1
  | 1 => UInt8.ofNat (pixel src_data (width + 2) i j).2.1
  | 2 => UInt8.ofNat (pixel src_data (width + 2) i j).2.2

def yuvByte (rgb : ℕ → UInt8) (width i j : ℕ) : Fin 2 → UInt8 :=
  let yuv := RGB2YUV (rgb (3 * (width * i + j) + 2)).toNat (rgb (3 * (width * i + j) + 1)).toNat
    (rgb (3 * (width * i + j))).toNat
  fun
  | 0 => UInt8.ofNat yuv.1.toNat
  | 1 => UInt8.ofNat (if j % 2 = 1 then yuv.2.1 else yuv.2.2).toNat

theorem mem_rgbMoves (src_data : ℕ → UInt16) (m : Move UInt8) : m ∈ rgbMoves src_data width height ↔
    ∃ i < height, ∃ j < width, ∃ k : Fin 3, m = .fill (3 * (width * i + j) + k) (rgbByte src_data width i j k) := by
  simp [rgbMoves, mem_loop_one, Fin.exists_fin_succ, rgbByte]

theorem mem_yuvMoves (rgb : ℕ → UInt8) (m : Move UInt8) : m ∈ yuvMoves rgb width height ↔
    ∃ i < height, ∃ j < width, ∃ k : Fin 2, m = .fill (2 * (width * i + j) + k) (yuvByte rgb width i j k) := by
  simp [yuvMoves, mem_loop_one, Fin.exists_fin_succ, yuvByte]

/-- The frame with its border, the neighbourhood of every pixel and both pictures are in bounds. -/
structure Contained (srcSize dataSize rgbSize yuvSize width height : ℕ) : Prop where
  interior : InBounds srcSize dataSize (interior width height)
  rows : InBounds dataSize dataSize (fillRows width height)
  columns : InBounds dataSize dataSize (fillColumns width height)
  around : ∀ i < height, ∀ j < width, ∀ a b : Fin 3, (i + a) * (width + 2) + (j + b) < dataSize
  rgb : ∀ src_data, InBounds 0 rgbSize (rgbMoves src_data width height)
  read : ∀ i < height, ∀ j < width, 3 * (width * i + j) + 2 < rgbSize
  yuv : ∀ rgb, InBounds 0 yuvSize (yuvMoves rgb width height)

theorem contained (hw : 2 ≤ width) (hh : 2 ≤ height) :
    Contained (width * height) ((width + 2) * (height + 2)) (3 * (width * height)) (2 * (width * height))
      width height where
  interior := by
    intro m hm
    obtain ⟨i, hi, j, hj, rfl⟩ := mem_interior.mp hm
    refine ⟨cell_lt (by omega) (by omega), fun s hs => ?_⟩
    obtain rfl := Option.some.inj hs
    exact cell_lt hi hj
  rows := by
    intro m hm
    obtain ⟨r, hr, j, hj, rfl⟩ := (mem_fillRows hh).mp hm
    have hlt := mirror_lt hh (k := r) (by omega)
    refine ⟨cell_lt (by omega) (by omega), fun s hs => ?_⟩
    obtain rfl := Option.some.inj hs
    exact cell_lt (by omega) (by omega)
  columns := by
    intro m hm
    obtain ⟨c, hc, i, hi, rfl⟩ := (mem_fillColumns hw).mp hm
    have hlt := mirror_lt hw (k := c) (by omega)
    refine ⟨cell_lt hi (by omega), fun s hs => ?_⟩
    obtain rfl := Option.some.inj hs
    exact cell_lt hi (by omega)
  around i hi j hj a b := by
    rw [Nat.mul_comm]
    exact cell_lt (by omega) (by omega)
  rgb src_data := pixels_inBounds (mem_rgbMoves src_data) 0
  read i hi j hj := cell_lt (cell_lt hi hj) (by decide)
  yuv rgb := pixels_inBounds (mem_yuvMoves rgb) 0

/-- The RGB picture of a frame of 10-bit samples has the averages. -/
theorem rgb_right (src garbage : ℕ → UInt16) (rgb : ℕ → UInt8) (hw : 2 ≤ width) (hh : 2 ≤ height)
    (h10 : ∀ a, (src a).toNat < 1024) {i j : ℕ} (hi : i < height) (hj : j < width) :
    let mem := run (fun _ => 0) rgb (rgbMoves (srcData src garbage width height) width height)
    (mem (3 * (width * i + j))).toNat = average .R src width height i j ∧
      (mem (3 * (width * i + j) + 1)).toNat = average .G src width height i j ∧
      (mem (3 * (width * i + j) + 2)).toNat = average .B src width height i j := by
  have hbyte (k : Fin 3) := pixels_run (mem_rgbMoves (srcData src garbage width height)) (fun _ => 0) rgb hi hj k
  have hlt (c : Colour) : average c src width height i j < 256 := average_lt src h10 c i j
  have hpixel := pixel_eq src garbage hw hh hi hj
  refine ⟨?_, ?_, ?_⟩
  · rw [← Nat.add_zero (3 * _)]
    refine (congrArg UInt8.toNat (hbyte 0)).trans ?_
    rw [rgbByte, hpixel]
    exact UInt8.toNat_ofNat_of_lt' (hlt .R)
  · refine (congrArg UInt8.toNat (hbyte 1)).trans ?_
    rw [rgbByte, hpixel]
    exact UInt8.toNat_ofNat_of_lt' (hlt .G)
  · refine (congrArg UInt8.toNat (hbyte 2)).trans ?_
    rw [rgbByte, hpixel]
    exact UInt8.toNat_ofNat_of_lt' (hlt .B)

end

/-! ### Conversion -/

theorem clamp_bounds (x : ℤ) : 0 ≤ clamp x ∧ clamp x < 256 := by
  rw [clamp]
  omega

theorem ofNat_clamp (x : ℤ) : ((UInt8.ofNat (clamp x).toNat).toNat : ℤ) = clamp x := by
  have hbounds := clamp_bounds x
  rw [UInt8.toNat_ofNat_of_lt' (by simp only [UInt8.size]; omega), Int.toNat_of_nonneg hbounds.1]

/-- The bytes of a pixel, with red and blue exchanged and the chroma of the other column. -/
theorem yuv_bytes (rgb yuv422i : ℕ → UInt8) {width height i j : ℕ} (hi : i < height) (hj : j < width) :
    let mem := run (fun _ => 0) yuv422i (yuvMoves rgb width height)
    let yuv := RGB2YUV (rgb (3 * (width * i + j) + 2)).toNat (rgb (3 * (width * i + j) + 1)).toNat
      (rgb (3 * (width * i + j))).toNat
    ((mem (2 * (width * i + j))).toNat : ℤ) = yuv.1 ∧
      ((mem (2 * (width * i + j) + 1)).toNat : ℤ) = if j % 2 = 1 then yuv.2.1 else yuv.2.2 := by
  have hbyte (k : Fin 2) := pixels_run (mem_yuvMoves rgb) (fun _ => 0) yuv422i hi hj k
  constructor
  · rw [← Nat.add_zero (2 * _)]
    exact (congrArg (fun b : UInt8 => (b.toNat : ℤ)) (hbyte 0)).trans (ofNat_clamp _)
  · refine (congrArg (fun b : UInt8 => (b.toNat : ℤ)) (hbyte 1)).trans ?_
    rw [yuvByte]
    split_ifs
    · exact ofNat_clamp _
    · exact ofNat_clamp _

end ImxHal.Bayer
