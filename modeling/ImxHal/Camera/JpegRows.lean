import ImxHal.Schemes.Blit

/-! @src camera/YuvToJpegEncoder.cpp (Yuv420SpToJpegEncoder, Yuv422IToJpegEncoder, Yuv422SpToJpegEncoder) |
    name:jpeg rows | scheme:blit | family:pictures

    The image goes to the compressor in groups of 16 rows. Of each group the chroma, or all of a packed image,
    is copied into row buffers, and the compressor gets pointers to the rows:

        yuv ──deinterleave──▶ yRows, uRows, vRows        y[i], cb[i], cr[i] ──▶ jpeg_write_raw_data
         └──────────────────── rows of luma (NV12) ────────┘

    The pointers and the row buffers stay from one group to the next, and only the rows that are left of the
    image are set in the last one. -/

namespace ImxHal.JpegRows
open ImxHal.Blit

def INT_MAX : ℕ := 2 ^ 31 - 1

def DEINTERLEAVE_LINES_ONE_TIME : ℕ := 16

/-- The image, and the buffers for rows. -/
inductive Region where | yuv | yRows | uRows | vRows
  deriving DecidableEq

/-- `JSAMPROW`. -/
structure Ptr where
  region : Region
  offset : ℕ

/-- Bytes that may not have been written yet. -/
abbrev Cells := ℕ → Option UInt8

/-- What a group of rows is passed as. -/
structure Rows where
  y : ℕ → Option Ptr
  cb : ℕ → Option Ptr
  cr : ℕ → Option Ptr
  yRows : Cells
  uRows : Cells
  vRows : Cells

/-- The locals of `compress` before the first group. -/
def Rows.start : Rows :=
  ⟨fun _ => none, fun _ => none, fun _ => none, fun _ => none, fun _ => none, fun _ => none⟩

/-- The loop over the groups; `jpeg_write_raw_data` takes 16 rows. -/
def groups (group : ℕ → Rows → Option Rows) (image_height : ℕ) : ℕ → ℕ → Rows → Option (List Rows)
  | 0, _, _ => some []
  | fuel + 1, next_scanline, s =>
    if next_scanline < image_height then
      (group next_scanline s).bind fun s =>
        (groups group image_height fuel (next_scanline + 16) s).map (s :: ·)
    else some []

def processLines (image_height next_scanline : ℕ) : ℕ :=
  if image_height < next_scanline + DEINTERLEAVE_LINES_ONE_TIME then image_height - next_scanline
  else DEINTERLEAVE_LINES_ONE_TIME

/-- `p` is set to the first `n` of `rows`. -/
def setRows (p : ℕ → Option Ptr) (n : ℕ) (rows : ℕ → Ptr) : ℕ → Option Ptr :=
  fun i => if i < n then some (rows i) else p i

/-- A row buffer after the loop over a group. -/
def store (yuv : ℕ → UInt8) (rows : Cells) (moves : List (Move (Option UInt8))) : Cells :=
  run (fun a => some (yuv a)) rows moves

/-! ### NV12 -/

namespace Yuv420Sp

/-- The bytes of `uRows` (`b` is 0) or of `vRows` (1). A row behind the last one ends the loop. -/
def deinterleave (vuPlanar b rowIndex width height processLines : ℕ) : List (Move (Option UInt8)) :=
  loop 0 (processLines / 2) 1 fun row =>
    let hoff := rowIndex / 2 + row
    if height / 2 ≤ hoff then []
    else loop 0 (width / 2) 1 fun i => [.copy (row * (width / 2) + i) (vuPlanar + hoff * width + 2 * i + b)]

def group (yuv : ℕ → UInt8) (width height next_scanline : ℕ) (s : Rows) : Rows :=
  let vuPlanar := width * height
  let lines := processLines height next_scanline
  { y := setRows s.y lines fun i => ⟨.yuv, (next_scanline + i) * width⟩
    -- Every other row sets one of these.
    cb := setRows s.cb ((lines + 1) / 2) fun i => ⟨.uRows, i * (width / 2)⟩
    cr := setRows s.cr ((lines + 1) / 2) fun i => ⟨.vRows, i * (width / 2)⟩
    yRows := s.yRows
    uRows := store yuv s.uRows (deinterleave vuPlanar 0 next_scanline width height lines)
    vRows := store yuv s.vRows (deinterleave vuPlanar 1 next_scanline width height lines) }

/-- `width * height` is an `int`. -/
def compress (yuv : ℕ → UInt8) (width height : ℕ) : Option (List Rows) :=
  if INT_MAX < width * height then none
  else groups (fun next_scanline s => some (group yuv width height next_scanline s)) height height 0 .start

end Yuv420Sp

/-! ### Packed rows -/

/-- The luma of a packed row. -/
def packedY (rowIndex width processLines : ℕ) : List (Move (Option UInt8)) :=
  loop 0 processLines 1 fun row =>
    loop 0 (width / 2) 1 fun i =>
      let yuvSeg := (rowIndex + row) * width * 2 + 4 * i
      let indexY := row * width + 2 * i
      [.copy indexY yuvSeg, .copy (indexY + 1) (yuvSeg + 2)]

/-- One chroma of a packed row, byte `b` of every four. -/
def packedChroma (b rowIndex width processLines : ℕ) : List (Move (Option UInt8)) :=
  loop 0 processLines 1 fun row =>
    loop 0 (width / 2) 1 fun i => [.copy (row * (width / 2) + i) ((rowIndex + row) * width * 2 + 4 * i + b)]

/-- A group of rows that are all copied. -/
def packedRows (yuv : ℕ → UInt8) (width next_scanline lines : ℕ) (s : Rows) : Rows where
  y := setRows s.y lines fun i => ⟨.yRows, i * width⟩
  cb := setRows s.cb lines fun i => ⟨.uRows, i * (width / 2)⟩
  cr := setRows s.cr lines fun i => ⟨.vRows, i * (width / 2)⟩
  yRows := store yuv s.yRows (packedY next_scanline width lines)
  uRows := store yuv s.uRows (packedChroma 1 next_scanline width lines)
  vRows := store yuv s.vRows (packedChroma 3 next_scanline width lines)

/-- The offset of a row is an `int`. -/
def packedGroup (yuv : ℕ → UInt8) (width height next_scanline : ℕ) (s : Rows) : Option Rows :=
  let lines := processLines height next_scanline
  if ∃ row, row < lines ∧ INT_MAX < (next_scanline + row) * width * 2 then none
  else some (packedRows yuv width next_scanline lines s)

def Yuv422I.compress (yuv : ℕ → UInt8) (width height : ℕ) : Option (List Rows) :=
  groups (packedGroup yuv width height) height height 0 .start

/-- The encoder for semi-planar images takes them apart the way the packed ones are. -/
def Yuv422Sp.compress (yuv : ℕ → UInt8) (width height : ℕ) : Option (List Rows) :=
  groups (packedGroup yuv width height) height height 0 .start

/-! ### Formats -/

inductive SourceFormat where | NV12 | YUYV | NV16
  deriving DecidableEq

/-- The encoder for the format, by its `compress`. -/
def SourceFormat.compress : SourceFormat → (ℕ → UInt8) → ℕ → ℕ → Option (List Rows)
  | .NV12 => Yuv420Sp.compress
  | .YUYV => Yuv422I.compress
  | .NV16 => Yuv422Sp.compress

/-- Rows of chroma that a group is passed. -/
def SourceFormat.chromaRows : SourceFormat → ℕ
  | .NV12 => 8
  | .YUYV | .NV16 => 16

/-- The row of chroma for a row of the image. -/
def SourceFormat.chromaRow : SourceFormat → ℕ → ℕ
  | .NV12, row => row / 2
  | .YUYV, row | .NV16, row => row

/-- Pairs of columns in a row; an odd last column has one of its own. -/
def pairs (width : ℕ) : ℕ := (width + 1) / 2

/-- Where the format has Y of a column. -/
def SourceFormat.placeY (width : ℕ) : SourceFormat → ℕ → ℕ → ℕ
  | .NV12, row, column | .NV16, row, column => row * width + column
  | .YUYV, row, column => row * (4 * pairs width) + 2 * column

/-- Where it has U (`b` is 0) or V (1) of a pair. -/
def SourceFormat.placeChroma (width height b : ℕ) : SourceFormat → ℕ → ℕ → ℕ
  | .NV12, row, pair => width * height + row / 2 * (2 * pairs width) + 2 * pair + b
  | .YUYV, row, pair => row * (4 * pairs width) + 4 * pair + 2 * b + 1
  | .NV16, row, pair => width * height + row * (2 * pairs width) + 2 * pair + b

/-- Bytes of an image. -/
def SourceFormat.size (width height : ℕ) : SourceFormat → ℕ
  | .NV12 => width * height + 2 * pairs width * ((height + 1) / 2)
  | .YUYV => 4 * pairs width * height
  | .NV16 => width * height + 2 * pairs width * height

/-- Sizes that libjpeg accepts. -/
structure Accepted (width height : ℕ) : Prop where
  width_pos : 0 < width
  width_le : width ≤ 65500
  height_pos : 0 < height
  height_le : height ≤ 65500

/-- The bytes of a region: the image, or what its row buffer was allocated with. -/
def regionSize (f : SourceFormat) (width height : ℕ) : Region → ℕ
  | .yuv => f.size width height
  | .yRows => 16 * width
  | .uRows | .vRows => f.chromaRows * (width / 2)

/-- A pointer that is set and points into its region. -/
def Live (f : SourceFormat) (width height : ℕ) (p : Option Ptr) : Prop :=
  ∃ q, p = some q ∧ q.offset < regionSize f width height q.region

/-- Byte `c` of a row. -/
def Rows.read (yuv : ℕ → UInt8) (s : Rows) (p : Option Ptr) (c : ℕ) : Option UInt8 :=
  p.bind fun q =>
    match q.region with
    | .yuv => some (yuv (q.offset + c))
    | .yRows => s.yRows (q.offset + c)
    | .uRows => s.uRows (q.offset + c)
    | .vRows => s.vRows (q.offset + c)

/-- A row of the image, in its group. -/
def RowRight (f : SourceFormat) (yuv : ℕ → UInt8) (width height row : ℕ) (s : Rows) : Prop :=
  ∀ column < width,
    s.read yuv (s.y (row % 16)) column = some (yuv (f.placeY width row column)) ∧
    s.read yuv (s.cb (f.chromaRow (row % 16))) (column / 2) =
      some (yuv (f.placeChroma width height 0 row (column / 2))) ∧
    s.read yuv (s.cr (f.chromaRow (row % 16))) (column / 2) =
      some (yuv (f.placeChroma width height 1 row (column / 2)))

/-- The pointers of a group. -/
def AllLive (f : SourceFormat) (width height : ℕ) (s : Rows) : Prop :=
  (∀ i < 16, Live f width height (s.y i)) ∧
    ∀ i < f.chromaRows, Live f width height (s.cb i) ∧ Live f width height (s.cr i)

/-- The groups that the compressor is passed hold the image. -/
def Matches (f : SourceFormat) (width height : ℕ) (yuv : ℕ → UInt8) : Prop :=
  ∃ snaps, f.compress yuv width height = some snaps ∧ (∀ s ∈ snaps, AllLive f width height s) ∧
    ∀ row < height, ∃ s, snaps[row / 16]? = some s ∧ RowRight f yuv width height row s


/-! ### Groups -/

theorem groups_cons {group : ℕ → Rows → Option Rows} {image_height fuel next : ℕ} {s : Rows}
    {snaps : List Rows} (h : groups group image_height (fuel + 1) next s = some snaps) :
    (image_height ≤ next ∧ snaps = []) ∨ ∃ s' rest, next < image_height ∧ group next s = some s' ∧
      groups group image_height fuel (next + 16) s' = some rest ∧ snaps = s' :: rest := by
  rw [groups] at h
  split_ifs at h with hnext
  · obtain ⟨s', hs', h⟩ := Option.bind_eq_some_iff.mp h
    obtain ⟨rest, hrest, rfl⟩ := Option.map_eq_some_iff.mp h
    exact .inr ⟨s', rest, hnext, hs', hrest, rfl⟩
  · exact .inl ⟨not_lt.mp hnext, (Option.some.inj h).symm⟩

/-- What every group keeps holds of all that is passed. -/
theorem groups_inv {P : Rows → Prop} {group : ℕ → Rows → Option Rows} {image_height : ℕ}
    (hstep : ∀ next s s', P s → group next s = some s' → P s') {fuel next : ℕ} {s : Rows} (hs : P s)
    {snaps : List Rows} (h : groups group image_height fuel next s = some snaps) : ∀ s' ∈ snaps, P s' := by
  induction fuel generalizing next s snaps with
  | zero =>
    obtain rfl := Option.some.inj h
    simp
  | succ fuel ih =>
    rcases groups_cons h with ⟨-, rfl⟩ | ⟨s', rest, -, hgroup, hrest, rfl⟩
    · simp
    · have hs' := hstep next s s' hs hgroup
      intro t ht
      rcases List.mem_cons.mp ht with rfl | ht
      · exact hs'
      · exact ih hs' hrest t ht

/-- What is passed comes out of its group. -/
theorem groups_get {group : ℕ → Rows → Option Rows} {image_height fuel next : ℕ} {s : Rows}
    {snaps : List Rows} (h : groups group image_height fuel next s = some snaps) {n : ℕ} {s' : Rows}
    (hn : snaps[n]? = some s') : ∃ t, group (next + 16 * n) t = some s' := by
  induction fuel generalizing next s snaps n with
  | zero =>
    obtain rfl := Option.some.inj h
    simp at hn
  | succ fuel ih =>
    rcases groups_cons h with ⟨-, rfl⟩ | ⟨t, rest, -, hgroup, hrest, rfl⟩
    · simp at hn
    · cases n with
      | zero => exact ⟨s, (Option.some.inj hn) ▸ hgroup⟩
      | succ n =>
        obtain ⟨t, ht⟩ := ih hrest hn
        refine ⟨t, ?_⟩
        rwa [Nat.mul_succ, Nat.add_comm (16 * n), ← Nat.add_assoc]

/-- Groups that are defined one after the other pass the whole image. -/
theorem groups_spec (Inv Post : ℕ → Rows → Prop) {group : ℕ → Rows → Option Rows} {image_height : ℕ}
    (hstep : ∀ next s, next < image_height → 16 ∣ next → Inv next s →
      ∃ s', group next s = some s' ∧ Inv (next + 16) s' ∧ Post next s')
    (fuel : ℕ) {next : ℕ} {s : Rows} (hdvd : 16 ∣ next) (hs : Inv next s)
    (hfuel : image_height ≤ next + 16 * fuel) :
    ∃ snaps, groups group image_height fuel next s = some snaps ∧
      (∀ s' ∈ snaps, ∃ n, Post n s') ∧
      ∀ n, next + 16 * n < image_height → ∃ s', snaps[n]? = some s' ∧ Post (next + 16 * n) s' := by
  induction fuel generalizing next s with
  | zero => exact ⟨[], rfl, by simp, fun n hn => by omega⟩
  | succ fuel ih =>
    rw [groups]
    split_ifs with hnext
    · obtain ⟨s', hgroup, hinv, hpost⟩ := hstep next s hnext hdvd hs
      obtain ⟨rest, hrest, hall, hget⟩ := ih (Nat.dvd_add hdvd (dvd_refl 16)) hinv (by omega)
      refine ⟨s' :: rest, by rw [hgroup, Option.bind_some, hrest]; rfl, ?_, ?_⟩
      · intro t ht
        rcases List.mem_cons.mp ht with rfl | ht
        · exact ⟨next, hpost⟩
        · exact hall t ht
      · intro n hn
        cases n with
        | zero => exact ⟨s', rfl, hpost⟩
        | succ n =>
          have hnext' : next + 16 * (n + 1) = next + 16 + 16 * n := by omega
          rw [hnext'] at hn ⊢
          exact hget n hn
    · exact ⟨[], rfl, by simp, fun n hn => by omega⟩

theorem processLines_eq {height next : ℕ} (h : next < height) :
    processLines height next = min 16 (height - next) := by
  rw [processLines, DEINTERLEAVE_LINES_ONE_TIME]
  split_ifs <;> omega

theorem processLines_le (height next : ℕ) : processLines height next ≤ height := by
  rw [processLines, DEINTERLEAVE_LINES_ONE_TIME]
  split_ifs <;> omega

/-- Pointers stay set. -/
theorem live_setRows {f : SourceFormat} {width height n i : ℕ} {p : ℕ → Option Ptr} {rows : ℕ → Ptr}
    (hrows : i < n → (rows i).offset < regionSize f width height (rows i).region)
    (hold : n ≤ i → Live f width height (p i)) : Live f width height (setRows p n rows i) := by
  rw [setRows]
  split_ifs with hi
  · exact ⟨_, rfl, hrows hi⟩
  · exact hold (not_lt.mp hi)

theorem setRows_of_lt {p : ℕ → Option Ptr} {n i : ℕ} {rows : ℕ → Ptr} (h : i < n) :
    setRows p n rows i = some (rows i) := if_pos h

theorem region_setRows {r : Region} {p : ℕ → Option Ptr} (n : ℕ) {rows : ℕ → Ptr}
    (hrows : ∀ i, (rows i).region = r) (hold : ∀ i, ∀ q ∈ p i, q.region = r) :
    ∀ i, ∀ q ∈ setRows p n rows i, q.region = r := by
  intro i q hq
  rw [setRows] at hq
  split_ifs at hq
  · obtain rfl := Option.some.inj hq
    exact hrows i
  · exact hold i q hq

/-- Behind the rows of the image no group sets a pointer. -/
theorem unset_setRows {height : ℕ} {p : ℕ → Option Ptr} (next : ℕ) (rows : ℕ → Ptr)
    (hold : ∀ i, height ≤ i → p i = none) :
    ∀ i, height ≤ i → setRows p (processLines height next) rows i = none := by
  intro i hi
  have hle := processLines_le height next
  rw [setRows, if_neg (by omega)]
  exact hold i hi

theorem sixteen_rows {f : SourceFormat} {width height : ℕ} {s : Rows} (hlive : AllLive f width height s)
    (hunset : ∀ i, height ≤ i → s.y i = none) : 16 ≤ height := by
  by_contra hshort
  obtain ⟨q, hq, -⟩ := hlive.1 15 (by decide)
  rw [hunset 15 (by omega)] at hq
  cases hq

/-- What a row buffer holds was there before, or was copied to it. -/
theorem mem_store {yuv : ℕ → UInt8} {rows : Cells} {moves : List (Move (Option UInt8))} {a : ℕ} {v : UInt8}
    (hv : v ∈ store yuv rows moves a) :
    v ∈ rows a ∨ ∃ m ∈ moves, v ∈ m.value fun a => some (yuv a) := by
  rw [store] at hv
  rcases run_from (fun a => some (yuv a)) rows moves a with heq | ⟨m, hm, -, heq⟩
  · exact .inl (heq ▸ hv)
  · exact .inr ⟨m, hm, heq ▸ hv⟩

/-- An image that tells one place from all others. -/
def probe (place : ℕ) : ℕ → UInt8 := fun a => if a = place then 1 else 0

theorem probe_inj {place a : ℕ} (h : probe place place = probe place a) : place = a := by
  by_contra hne
  rw [probe, probe, if_pos rfl, if_neg (Ne.symm hne)] at h
  exact absurd h (by decide)

/-- The row of a group and its number in it. -/
theorem row_split {next row : ℕ} (hdvd : 16 ∣ next) (h : row / 16 = next / 16) :
    next + row % 16 = row := by
  omega


/-! ### NV12 -/

namespace Yuv420Sp

theorem mem_deinterleave {vuPlanar b rowIndex width height lines : ℕ} {m : Move (Option UInt8)} :
    m ∈ deinterleave vuPlanar b rowIndex width height lines ↔
      ∃ row < lines / 2, rowIndex / 2 + row < height / 2 ∧ ∃ i < width / 2,
        m = .copy (width / 2 * row + i) (vuPlanar + (rowIndex / 2 + row) * width + 2 * i + b) := by
  rw [deinterleave, mem_loop_one]
  refine exists_congr fun row => and_congr_right fun _ => ?_
  by_cases hend : height / 2 ≤ rowIndex / 2 + row
  · simp [hend]
  · rw [if_neg hend, mem_loop_one, Nat.mul_comm]
    simp [not_le.mp hend]

/-- A row of chroma that is taken apart. -/
theorem store_deinterleave {vuPlanar b rowIndex width height lines : ℕ} (yuv : ℕ → UInt8) (rows : Cells)
    {row i : ℕ} (hrow : row < lines / 2) (hend : rowIndex / 2 + row < height / 2) (hi : i < width / 2) :
    store yuv rows (deinterleave vuPlanar b rowIndex width height lines) (row * (width / 2) + i) =
      some (yuv (vuPlanar + (rowIndex / 2 + row) * width + 2 * i + b)) := by
  rw [Nat.mul_comm, store]
  refine run_eq rows ⟨_, mem_deinterleave.mpr ⟨row, hrow, hend, i, hi, rfl⟩, rfl⟩ fun m hm hdst => ?_
  obtain ⟨row', -, -, i', hi', rfl⟩ := mem_deinterleave.mp hm
  obtain ⟨rfl, rfl⟩ := cell_inj hi' hi hdst
  rfl

/-- Byte `b` of the chroma of the image, for as much of it as is ever taken apart. -/
def Copied (yuv : ℕ → UInt8) (width height b : ℕ) (rows : Cells) : Prop :=
  ∀ a, ∀ v ∈ rows a, ∃ hoff < height / 2, ∃ i < width / 2, v = yuv (width * height + hoff * width + 2 * i + b)

theorem copied_store {yuv : ℕ → UInt8} {width height b rowIndex lines : ℕ} {rows : Cells}
    (h : Copied yuv width height b rows) : Copied yuv width height b
      (store yuv rows (deinterleave (width * height) b rowIndex width height lines)) := by
  intro a v hv
  rcases mem_store hv with hold | ⟨m, hm, hmoved⟩
  · exact h a v hold
  · obtain ⟨row, -, hend, i, hi, rfl⟩ := mem_deinterleave.mp hm
    exact ⟨_, hend, i, hi, (Option.some.inj hmoved).symm⟩

section
variable (yuv : ℕ → UInt8) (width height next : ℕ) (s : Rows)

@[simp] theorem group_y : (group yuv width height next s).y =
    setRows s.y (processLines height next) fun i => ⟨.yuv, (next + i) * width⟩ := rfl

@[simp] theorem group_cb : (group yuv width height next s).cb =
    setRows s.cb ((processLines height next + 1) / 2) fun i => ⟨.uRows, i * (width / 2)⟩ := rfl

@[simp] theorem group_cr : (group yuv width height next s).cr =
    setRows s.cr ((processLines height next + 1) / 2) fun i => ⟨.vRows, i * (width / 2)⟩ := rfl

end

/-- What the pointers to U point to. -/
structure Kept (yuv : ℕ → UInt8) (width height : ℕ) (s : Rows) : Prop where
  cb : ∀ i, ∀ q ∈ s.cb i, q.region = .uRows
  copied : Copied yuv width height 0 s.uRows
  unset : ∀ i, height ≤ i → s.y i = none

theorem kept_group {yuv : ℕ → UInt8} {width height next : ℕ} {s : Rows} (h : Kept yuv width height s) :
    Kept yuv width height (group yuv width height next s) where
  cb := region_setRows _ (fun _ => rfl) h.cb
  copied := copied_store h.copied
  unset := unset_setRows next _ h.unset

/-- An image that is matched has all of its chroma among what is taken apart, and 16 rows. -/
theorem chroma_copied {yuv : ℕ → UInt8} {width height : ℕ} (h : Matches .NV12 width height yuv)
    (hpos : 0 < height) : 16 ≤ height ∧ width * height ≤ INT_MAX ∧ ∀ row < height, ∀ column < width,
      ∃ hoff < height / 2, ∃ i < width / 2, yuv (SourceFormat.NV12.placeChroma width height 0 row (column / 2)) =
        yuv (width * height + hoff * width + 2 * i) := by
  obtain ⟨snaps, hsnaps, hlive, hrows⟩ := h
  rw [SourceFormat.compress, compress] at hsnaps
  split_ifs at hsnaps with hint
  have hstart : Kept yuv width height .start :=
    ⟨fun i q hq => (nomatch hq), fun a v hv => (nomatch hv), fun i _ => rfl⟩
  have hkept : ∀ s ∈ snaps, Kept yuv width height s := by
    refine groups_inv (fun next s s' hs hs' => ?_) hstart hsnaps
    exact (Option.some.inj hs') ▸ kept_group hs
  refine ⟨?_, not_lt.mp hint, fun row hrow column hcolumn => ?_⟩
  · obtain ⟨s, hs, -⟩ := hrows 0 hpos
    have hmem := List.mem_of_getElem? hs
    exact sixteen_rows (hlive s hmem) (hkept s hmem).unset
  · obtain ⟨s, hs, hright⟩ := hrows row hrow
    have hk := hkept s (List.mem_of_getElem? hs)
    obtain ⟨-, hu, -⟩ := hright column hcolumn
    obtain ⟨q, hq, hread⟩ := Option.bind_eq_some_iff.mp hu
    rw [hk.cb _ q hq] at hread
    obtain ⟨hoff, hhoff, i, hi, hv⟩ := hk.copied _ _ hread
    exact ⟨hoff, hhoff, i, hi, hv⟩

/-- A byte of the image that is right in every image is taken from its place. -/
theorem place_copied {width height : ℕ} (h : ∀ yuv, Matches .NV12 width height yuv) (hpos : 0 < height)
    {row column : ℕ} (hrow : row < height) (hcolumn : column < width) :
    ∃ hoff < height / 2, ∃ i < width / 2, SourceFormat.NV12.placeChroma width height 0 row (column / 2) =
      width * height + hoff * width + 2 * i := by
  obtain ⟨-, -, hcopied⟩ := chroma_copied
    (h (probe (SourceFormat.NV12.placeChroma width height 0 row (column / 2)))) hpos
  obtain ⟨hoff, hhoff, i, hi, hv⟩ := hcopied row hrow column hcolumn
  exact ⟨hoff, hhoff, i, hi, probe_inj hv⟩

theorem even_of_matches {width height : ℕ} (ha : Accepted width height)
    (h : ∀ yuv, Matches .NV12 width height yuv) : 2 ∣ width ∧ 2 ∣ height := by
  have hw := ha.width_pos
  have hh := ha.height_pos
  constructor
  · by_contra hodd
    obtain ⟨hoff, -, i, hi, hplace⟩ := place_copied h hh hh (Nat.sub_lt hw one_pos)
    have hzero : 0 / 2 * (2 * pairs width) = 0 := by simp
    rw [SourceFormat.placeChroma, hzero] at hplace
    rcases Nat.eq_zero_or_pos hoff with rfl | hpos
    · omega
    · have hle := Nat.mul_le_mul_right width hpos
      omega
  · by_contra hodd
    obtain ⟨hoff, hhoff, i, hi, hplace⟩ := place_copied h hh (Nat.sub_lt hh one_pos) hw
    have hlast : (height - 1) / 2 = height / 2 := by omega
    have hpairs : width ≤ 2 * pairs width := by
      rw [pairs]
      omega
    have hle : (hoff + 1) * width ≤ height / 2 * (2 * pairs width) := Nat.mul_le_mul hhoff hpairs
    rw [SourceFormat.placeChroma, hlast] at hplace
    rw [Nat.add_mul] at hle
    omega

theorem live_chroma {width height lines i : ℕ} {p : ℕ → Option Ptr} {r : Region}
    (hr : regionSize .NV12 width height r = 8 * (width / 2)) (hw : 0 < width / 2) (hi : i < 8)
    (hold : (lines + 1) / 2 ≤ i → Live .NV12 width height (p i)) :
    Live .NV12 width height (setRows p ((lines + 1) / 2) (fun i => ⟨r, i * (width / 2)⟩) i) := by
  refine live_setRows (fun _ => ?_) hold
  rw [hr]
  exact Nat.mul_lt_mul_of_pos_right hi hw

theorem live_group {yuv : ℕ → UInt8} {width height next : ℕ} {s : Rows} (hw : 0 < width / 2)
    (hnext : next < height) (hold : next + 16 ≤ height ∨ AllLive .NV12 width height s) :
    AllLive .NV12 width height (group yuv width height next s) := by
  have hlines := processLines_eq hnext
  have hrest {i : ℕ} (hi : min 16 (height - next) ≤ i) (hi' : i < 16) : AllLive .NV12 width height s := by
    rcases hold with h | h
    · omega
    · exact h
  constructor
  · intro i hi
    rw [group_y]
    refine live_setRows (fun hlt => ?_) fun hle => (hrest (hlines ▸ hle) hi).1 i hi
    rw [hlines] at hlt
    have hcell : (next + i + 1) * width ≤ height * width := Nat.mul_le_mul_right width (by omega)
    rw [Nat.add_mul, Nat.one_mul, Nat.mul_comm height] at hcell
    have hoffset : (next + i) * width < width * height := by omega
    exact Nat.lt_of_lt_of_le hoffset (Nat.le_add_right _ _)
  · intro i hi
    rw [SourceFormat.chromaRows] at hi
    have hold' (hle : (processLines height next + 1) / 2 ≤ i) : AllLive .NV12 width height s :=
      hrest (i := 2 * i) (by omega) (by omega)
    exact ⟨live_chroma rfl hw hi fun hle => ((hold' hle).2 i hi).1,
      live_chroma rfl hw hi fun hle => ((hold' hle).2 i hi).2⟩

/-- The rows of a group. -/
theorem right_group {yuv : ℕ → UInt8} {width height next row : ℕ} {s : Rows} (hw : 2 ∣ width) (hh : 2 ∣ height)
    (hdvd : 16 ∣ next) (hrow : row / 16 = next / 16) (hlt : row < height) :
    RowRight .NV12 yuv width height row (group yuv width height next s) := by
  have hsplit := row_split hdvd hrow
  have hlines := @processLines_eq height next (by omega)
  have hpairs : 2 * pairs width = width := by
    rw [pairs]
    omega
  intro column hcolumn
  have hi : row % 16 < processLines height next := by omega
  have hhalf : row % 16 / 2 < (processLines height next + 1) / 2 := by omega
  have hchroma (b : ℕ) (rows : Cells) : store yuv rows (deinterleave (width * height) b next width height
      (processLines height next)) (row % 16 / 2 * (width / 2) + column / 2) =
        some (yuv (SourceFormat.NV12.placeChroma width height b row (column / 2))) := by
    have hhoff : next / 2 + row % 16 / 2 = row / 2 := by omega
    rw [store_deinterleave yuv rows (by omega) (by omega) (by omega), SourceFormat.placeChroma, hhoff, hpairs]
  refine ⟨?_, ?_, ?_⟩
  · rw [group_y, setRows_of_lt hi, hsplit]
    rfl
  · rw [SourceFormat.chromaRow, group_cb, setRows_of_lt hhalf]
    exact hchroma 0 s.uRows
  · rw [SourceFormat.chromaRow, group_cr, setRows_of_lt hhalf]
    exact hchroma 1 s.vRows

end Yuv420Sp

/-- Groups whose pointers are live and whose rows are right make up the image. -/
theorem matches_of_groups {f : SourceFormat} {yuv : ℕ → UInt8} {width height : ℕ}
    {group : ℕ → Rows → Option Rows}
    (hcompress : f.compress yuv width height = groups group height height 0 .start)
    (hstep : ∀ next s, next < height → 16 ∣ next → (next = 0 ∨ AllLive f width height s) →
      ∃ s', group next s = some s' ∧ AllLive f width height s' ∧
        ∀ row < height, row / 16 = next / 16 → RowRight f yuv width height row s') :
    Matches f width height yuv := by
  obtain ⟨snaps, hsnaps, hall, hget⟩ := groups_spec (s := .start)
    (fun next s => next = 0 ∨ AllLive f width height s)
    (fun next s => AllLive f width height s ∧
      ∀ row < height, row / 16 = next / 16 → RowRight f yuv width height row s)
    (fun next s hnext hdvd hinv => by
      obtain ⟨s', hs', hlive, hright⟩ := hstep next s hnext hdvd hinv
      exact ⟨s', hs', .inr hlive, hlive, hright⟩)
    height (dvd_zero 16) (.inl rfl) (by omega)
  refine ⟨snaps, hcompress.trans hsnaps, fun s hs => ?_, fun row hrow => ?_⟩
  · obtain ⟨-, hlive, -⟩ := hall s hs
    exact hlive
  · obtain ⟨s, hs, -, hright⟩ := hget (row / 16) (by omega)
    exact ⟨s, hs, hright row hrow (by omega)⟩

/-- NV12 images of even sizes from 16 rows on. -/
theorem matches_nv12 {width height : ℕ} (hpos : 0 < width) (hw : 2 ∣ width) (hh : 2 ∣ height) (h16 : 16 ≤ height)
    (hint : width * height ≤ INT_MAX) (yuv : ℕ → UInt8) : Matches .NV12 width height yuv := by
  have hcompress : SourceFormat.NV12.compress yuv width height =
      groups (fun next s => some (Yuv420Sp.group yuv width height next s)) height height 0 .start := by
    rw [SourceFormat.compress, Yuv420Sp.compress, if_neg (not_lt.mpr hint)]
  refine matches_of_groups hcompress ?_
  · intro next s hnext hdvd hinv
    refine ⟨_, rfl, Yuv420Sp.live_group (by omega) hnext ?_, fun row hrow hsame =>
      Yuv420Sp.right_group hw hh hdvd hsame hrow⟩
    rcases hinv with rfl | hlive
    · exact .inl (by omega)
    · exact .inr hlive


/-! ### Packed rows -/

theorem mem_packedY {rowIndex width lines : ℕ} {m : Move (Option UInt8)} :
    m ∈ packedY rowIndex width lines ↔ ∃ row < lines, ∃ i < width / 2, ∃ b < 2,
      m = .copy (width * row + (2 * i + b)) ((rowIndex + row) * width * 2 + 4 * i + 2 * b) := by
  rw [packedY, mem_loop_one]
  refine exists_congr fun row => and_congr_right fun _ => ?_
  rw [mem_loop_one, Nat.mul_comm row]
  refine exists_congr fun i => and_congr_right fun _ => ?_
  constructor
  · intro hm
    rcases List.mem_cons.mp hm with rfl | hm
    · exact ⟨0, by decide, rfl⟩
    · exact ⟨1, by decide, List.mem_singleton.mp hm⟩
  · rintro ⟨b, hb, rfl⟩
    rcases Nat.lt_succ_iff_lt_or_eq.mp hb with hb | rfl
    · obtain rfl := Nat.lt_one_iff.mp hb
      exact List.mem_cons_self
    · exact List.mem_cons_of_mem _ (List.mem_singleton_self _)

theorem mem_packedChroma {b rowIndex width lines : ℕ} {m : Move (Option UInt8)} :
    m ∈ packedChroma b rowIndex width lines ↔ ∃ row < lines, ∃ i < width / 2,
      m = .copy (width / 2 * row + i) ((rowIndex + row) * width * 2 + 4 * i + b) := by
  rw [packedChroma, mem_loop_one]
  refine exists_congr fun row => and_congr_right fun _ => ?_
  rw [mem_loop_one, Nat.mul_comm row]
  simp

theorem store_packedY (rowIndex : ℕ) {width lines : ℕ} (yuv : ℕ → UInt8) (rows : Cells) {row c : ℕ}
    (hrow : row < lines) (hc : c < 2 * (width / 2)) :
    store yuv rows (packedY rowIndex width lines) (row * width + c) =
      some (yuv ((rowIndex + row) * width * 2 + 2 * c)) := by
  have hsplit : 2 * (c / 2) + c % 2 = c := Nat.div_add_mod c 2
  have hplace : 4 * (c / 2) + 2 * (c % 2) = 2 * c := by omega
  rw [Nat.mul_comm row, store]
  refine run_eq rows ⟨_, mem_packedY.mpr ⟨row, hrow, c / 2, by omega, c % 2, Nat.mod_lt c two_pos, rfl⟩, ?_⟩
    fun m hm hdst => ?_
  · rw [Move.dst, hsplit]
  · obtain ⟨row', -, i, hi, b, hb, rfl⟩ := mem_packedY.mp hm
    obtain ⟨rfl, rfl⟩ := cell_inj (by omega) (by omega) hdst
    have hplace' : 4 * i + 2 * b = 2 * (2 * i + b) := by omega
    rw [Move.value, Nat.add_assoc, hplace']

theorem store_packedChroma (b rowIndex : ℕ) {width lines : ℕ} (yuv : ℕ → UInt8) (rows : Cells) {row i : ℕ}
    (hrow : row < lines) (hi : i < width / 2) :
    store yuv rows (packedChroma b rowIndex width lines) (row * (width / 2) + i) =
      some (yuv ((rowIndex + row) * width * 2 + 4 * i + b)) := by
  rw [Nat.mul_comm row, store]
  refine run_eq rows ⟨_, mem_packedChroma.mpr ⟨row, hrow, i, hi, rfl⟩, rfl⟩ fun m hm hdst => ?_
  obtain ⟨row', -, i', hi', rfl⟩ := mem_packedChroma.mp hm
  obtain ⟨rfl, rfl⟩ := cell_inj hi' hi hdst
  rfl

section
variable (yuv : ℕ → UInt8) (width next lines : ℕ) (s : Rows)

@[simp] theorem packedRows_y :
    (packedRows yuv width next lines s).y = setRows s.y lines fun i => ⟨.yRows, i * width⟩ := rfl

@[simp] theorem packedRows_cb :
    (packedRows yuv width next lines s).cb = setRows s.cb lines fun i => ⟨.uRows, i * (width / 2)⟩ := rfl

@[simp] theorem packedRows_cr :
    (packedRows yuv width next lines s).cr = setRows s.cr lines fun i => ⟨.vRows, i * (width / 2)⟩ := rfl

end

/-- A group is left defined with its rows set. -/
theorem packedGroup_some {yuv : ℕ → UInt8} {width height next : ℕ} {s s' : Rows}
    (h : packedGroup yuv width height next s = some s') :
    (∀ row < processLines height next, (next + row) * width * 2 ≤ INT_MAX) ∧
      s'.y = setRows s.y (processLines height next) (fun i => ⟨.yRows, i * width⟩) ∧
      s'.yRows = store yuv s.yRows (packedY next width (processLines height next)) := by
  rw [packedGroup] at h
  split_ifs at h with hint
  obtain rfl := Option.some.inj h
  refine ⟨fun row hrow => ?_, rfl, rfl⟩
  by_contra hlt
  exact hint ⟨row, hrow, not_le.mp hlt⟩

/-- What the pointers to Y point to. -/
structure PackedKept (yuv : ℕ → UInt8) (width height : ℕ) (s : Rows) : Prop where
  y : ∀ i, ∀ q ∈ s.y i, q.region = .yRows
  copied : ∀ a, ∀ v ∈ s.yRows a, ∃ row, ∃ i < width / 2, ∃ b < 2, v = yuv (row * width * 2 + 4 * i + 2 * b)
  unset : ∀ i, height ≤ i → s.y i = none

theorem packedKept_group {yuv : ℕ → UInt8} {width height next : ℕ} {s s' : Rows}
    (h : PackedKept yuv width height s) (hs' : packedGroup yuv width height next s = some s') :
    PackedKept yuv width height s' := by
  obtain ⟨-, hy, hrows⟩ := packedGroup_some hs'
  refine ⟨?_, fun a v hv => ?_, ?_⟩
  · rw [hy]
    exact region_setRows _ (fun _ => rfl) h.y
  · rw [hrows] at hv
    rcases mem_store hv with hold | ⟨m, hm, hmoved⟩
    · exact h.copied a v hold
    · obtain ⟨row, -, i, hi, b, hb, rfl⟩ := mem_packedY.mp hm
      exact ⟨_, i, hi, b, hb, (Option.some.inj hmoved).symm⟩
  · rw [hy]
    exact unset_setRows next _ h.unset

/-- An image that is matched by way of its packed rows has all of its luma among what is copied, 16 rows, and
    offsets that fit an `int`. -/
theorem luma_copied {f : SourceFormat} {yuv : ℕ → UInt8} {width height : ℕ}
    (hcompress : f.compress yuv width height = groups (packedGroup yuv width height) height height 0 .start)
    (h : Matches f width height yuv) (hpos : 0 < height) :
    16 ≤ height ∧ (height - 1) * width * 2 ≤ INT_MAX ∧ ∀ row < height, ∀ column < width,
      ∃ row', ∃ i < width / 2, ∃ b < 2, yuv (f.placeY width row column) = yuv (row' * width * 2 + 4 * i + 2 * b) := by
  obtain ⟨snaps, hsnaps, hlive, hrows⟩ := h
  rw [hcompress] at hsnaps
  have hstart : PackedKept yuv width height .start :=
    ⟨fun i q hq => (nomatch hq), fun a v hv => (nomatch hv), fun i _ => rfl⟩
  have hkept := groups_inv (fun _ _ _ => packedKept_group) hstart hsnaps
  refine ⟨?_, ?_, fun row hrow column hcolumn => ?_⟩
  · obtain ⟨s, hs, -⟩ := hrows 0 hpos
    have hmem := List.mem_of_getElem? hs
    exact sixteen_rows (hlive s hmem) (hkept s hmem).unset
  · obtain ⟨s, hs, -⟩ := hrows (height - 1) (by omega)
    obtain ⟨t, ht⟩ := groups_get hsnaps hs
    have hlines := @processLines_eq height (0 + 16 * ((height - 1) / 16)) (by omega)
    have hint := (packedGroup_some ht).1 ((height - 1) % 16) (by omega)
    have hlast : 0 + 16 * ((height - 1) / 16) + (height - 1) % 16 = height - 1 := by omega
    rwa [hlast] at hint
  · obtain ⟨s, hs, hright⟩ := hrows row hrow
    have hk := hkept s (List.mem_of_getElem? hs)
    obtain ⟨hy, -⟩ := hright column hcolumn
    obtain ⟨q, hq, hread⟩ := Option.bind_eq_some_iff.mp hy
    rw [hk.y _ q hq] at hread
    exact hk.copied _ _ hread

theorem place_packed {f : SourceFormat} {width height : ℕ}
    (hcompress : ∀ yuv, f.compress yuv width height = groups (packedGroup yuv width height) height height 0 .start)
    (h : ∀ yuv, Matches f width height yuv) (hpos : 0 < height) {row column : ℕ} (hrow : row < height)
    (hcolumn : column < width) :
    ∃ row', ∃ i < width / 2, ∃ b < 2, f.placeY width row column = row' * width * 2 + 4 * i + 2 * b := by
  obtain ⟨-, -, hcopied⟩ := luma_copied (hcompress _) (h (probe (f.placeY width row column))) hpos
  obtain ⟨row', i, hi, b, hb, hv⟩ := hcopied row hrow column hcolumn
  exact ⟨row', i, hi, b, hb, probe_inj hv⟩

theorem even_of_matches_yuyv {width height : ℕ} (ha : Accepted width height)
    (h : ∀ yuv, Matches .YUYV width height yuv) : 2 ∣ width := by
  have hw := ha.width_pos
  by_contra hodd
  obtain ⟨row, i, hi, b, hb, hplace⟩ := place_packed (fun _ => rfl) h ha.height_pos ha.height_pos
    (Nat.sub_lt hw one_pos)
  rw [SourceFormat.placeY, Nat.zero_mul] at hplace
  rcases Nat.eq_zero_or_pos row with rfl | hpos
  · omega
  · have hle := Nat.mul_le_mul_right width hpos
    omega

/-- Semi-planar luma is not in pairs of every other byte. -/
theorem not_matches_nv16 {width height : ℕ} (ha : Accepted width height) :
    ¬ ∀ yuv, Matches .NV16 width height yuv := by
  intro h
  have hw := ha.width_pos
  rcases Nat.lt_or_ge 1 width with hwide | hone
  · obtain ⟨row, i, -, b, -, hplace⟩ := place_packed (fun _ => rfl) h ha.height_pos ha.height_pos hwide
    rw [SourceFormat.placeY, Nat.zero_mul] at hplace
    omega
  · obtain ⟨row, i, hi, -⟩ := place_packed (fun _ => rfl) h ha.height_pos ha.height_pos hw
    omega

/-- A group of packed rows. -/
theorem packedGroup_spec {yuv : ℕ → UInt8} {width height next : ℕ} {s : Rows} (hw : 2 ∣ width) (hpos : 0 < width)
    (h16 : 16 ≤ height) (hint : (height - 1) * width * 2 ≤ INT_MAX) (hnext : next < height) (hdvd : 16 ∣ next)
    (hinv : next = 0 ∨ AllLive .YUYV width height s) :
    ∃ s', packedGroup yuv width height next s = some s' ∧ AllLive .YUYV width height s' ∧
      ∀ row < height, row / 16 = next / 16 → RowRight .YUYV yuv width height row s' := by
  have hlines := processLines_eq hnext
  have hno : ¬ ∃ row, row < processLines height next ∧ INT_MAX < (next + row) * width * 2 := by
    rintro ⟨row, hrow, hlt⟩
    have hle : (next + row) * width * 2 ≤ (height - 1) * width * 2 :=
      Nat.mul_le_mul_right 2 (Nat.mul_le_mul_right width (by omega))
    omega
  have hrest {i : ℕ} (hle : processLines height next ≤ i) (hi : i < 16) : AllLive .YUYV width height s := by
    rcases hinv with rfl | hlive
    · omega
    · exact hlive
  have hhalf : 0 < width / 2 := by omega
  refine ⟨_, if_neg hno, ⟨fun i hi => ?_, fun i hi => ⟨?_, ?_⟩⟩, fun row hrow hsame column hcolumn => ?_⟩
  · rw [packedRows_y]
    exact live_setRows (fun _ => Nat.mul_lt_mul_of_pos_right hi hpos) fun hle => (hrest hle hi).1 i hi
  · rw [packedRows_cb]
    exact live_setRows (fun _ => Nat.mul_lt_mul_of_pos_right hi hhalf) fun hle => ((hrest hle hi).2 i hi).1
  · rw [packedRows_cr]
    exact live_setRows (fun _ => Nat.mul_lt_mul_of_pos_right hi hhalf) fun hle => ((hrest hle hi).2 i hi).2
  · have hsplit := row_split hdvd hsame
    have hi : row % 16 < processLines height next := by omega
    have hpairs : (next + row % 16) * width * 2 = row * (4 * pairs width) := by
      have h4 : 4 * pairs width = width * 2 := by
        rw [pairs]
        omega
      rw [hsplit, h4, Nat.mul_assoc]
    have hpair : column / 2 < width / 2 := by omega
    have hchroma (b : ℕ) (rows : Cells) := store_packedChroma b next yuv rows hi hpair
    refine ⟨?_, ?_, ?_⟩
    · rw [packedRows_y, setRows_of_lt hi, SourceFormat.placeY, ← hpairs]
      exact store_packedY next yuv s.yRows hi (by omega)
    · rw [SourceFormat.chromaRow, packedRows_cb, setRows_of_lt hi, SourceFormat.placeChroma, ← hpairs]
      exact hchroma 1 s.uRows
    · rw [SourceFormat.chromaRow, packedRows_cr, setRows_of_lt hi, SourceFormat.placeChroma, ← hpairs]
      exact hchroma 3 s.vRows

theorem matches_yuyv {width height : ℕ} (hw : 2 ∣ width) (hpos : 0 < width) (h16 : 16 ≤ height)
    (hint : (height - 1) * width * 2 ≤ INT_MAX) (yuv : ℕ → UInt8) : Matches .YUYV width height yuv :=
  matches_of_groups rfl fun _ _ hnext hdvd hinv => packedGroup_spec hw hpos h16 hint hnext hdvd hinv

/-! ### Sizes -/

/-- The sizes that an encoder is right for. -/
def SourceFormat.Suits (width height : ℕ) : SourceFormat → Prop
  | .NV12 => 2 ∣ width ∧ 2 ∣ height ∧ 16 ≤ height ∧ width * height ≤ INT_MAX
  | .YUYV => 2 ∣ width ∧ 16 ≤ height ∧ (height - 1) * width * 2 ≤ INT_MAX
  | .NV16 => False

/-- CORRECT: every image of an accepted size is passed as it is exactly when the size suits the encoder. -/
theorem rows_match_iff {width height : ℕ} (f : SourceFormat) (ha : Accepted width height) :
    (∀ yuv, Matches f width height yuv) ↔ f.Suits width height := by
  have hpos := ha.height_pos
  cases f with
  | NV12 =>
    constructor
    · intro h
      obtain ⟨hw, hh⟩ := Yuv420Sp.even_of_matches ha h
      obtain ⟨h16, hint, -⟩ := Yuv420Sp.chroma_copied (h fun _ => 0) hpos
      exact ⟨hw, hh, h16, hint⟩
    · rintro ⟨hw, hh, h16, hint⟩
      exact matches_nv12 ha.width_pos hw hh h16 hint
  | YUYV =>
    constructor
    · intro h
      obtain ⟨h16, hint, -⟩ := luma_copied rfl (h fun _ => 0) hpos
      exact ⟨even_of_matches_yuyv ha h, h16, hint⟩
    · rintro ⟨hw, h16, hint⟩
      exact matches_yuyv hw ha.width_pos h16 hint
  | NV16 => exact iff_of_false (not_matches_nv16 ha) id

/-- A packed image of 640x480. -/
theorem rows_match_vga : Matches .YUYV 640 480 fun place => .ofNat place :=
  (rows_match_iff .YUYV ⟨by decide, by decide, by decide, by decide⟩).mpr ⟨by decide, by decide, by decide⟩ _

/-- Eight rows: the pointers from the ninth row on are never set. -/
theorem short_image_unset : ¬ ∀ (f : SourceFormat) (width height : ℕ) (yuv : ℕ → UInt8),
    Accepted width height → Matches f width height yuv := by
  intro h
  obtain ⟨h16, -⟩ := Yuv420Sp.chroma_copied
    (h .NV12 16 8 (fun _ => 0) ⟨by decide, by decide, by decide, by decide⟩) (by decide)
  exact absurd h16 (by decide)

end ImxHal.JpegRows
