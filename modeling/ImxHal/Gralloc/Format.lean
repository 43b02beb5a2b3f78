import Mathlib.Data.Int.Basic
import Mathlib.Tactic

/-! @src display/gralloc/driver_utils.cpp, display/gralloc/driver_helpers.cpp | name:Format |
    scheme:table | family:buffer layout

    The gralloc driver lays a buffer out in three stages: the pixel format is looked up in the
    table `formats`, width and height are aligned by the kind of the format, and the strides and
    sizes of the planes follow from the DRM format of the table entry:

        pixel_format ──formats──▶ fourcc, modifier ──layout_from_format──▶ planes
        width, height ──drv_pixel_width_height_alignment──▶ aligned_width, aligned_height
                                └──drv_buffer_info_calculation──▶ strides, sizes, total_size

    All of it is `uint32_t` arithmetic but for `total_size`, which is 64 bits wide. -/

namespace ImxHal.Gralloc

/-- The build flags the tables and the alignments depend on. -/
structure Build where
  GPU_RGBA1010102_LIMITATION : Bool
  VPU_P010_AMPHION_TILED : Bool
  FRAMEBUFFER_WITH_TILED_COMPRESSION : Bool
  WORKAROUND_DISPLAY_UNDERRUN : Bool
  deriving DecidableEq

/-- `x & mask` as a condition. -/
def has (x mask : ℕ) : Bool := x &&& mask != 0

def u32 (x : ℕ) : ℕ := x % 2 ^ 32

/-- `ALIGN(x, n)` and the `ALIGN_PIXEL_n` macros: `(x + (n - 1)) & ~(n - 1)` for a power of two. -/
def ALIGN (x n : ℕ) : ℕ := u32 (x + (n - 1)) / n * n

def DIV_ROUND_UP (x n : ℕ) : ℕ := u32 (x + n - 1) / n

def USAGE_GPU_TILED_VIV : ℕ := 0x10000000
def USAGE_PADDING_BUFFER : ℕ := 0x40000000
def GRALLOC_USAGE_HW_FB : ℕ := 0x1000
def GRALLOC_USAGE_PROTECTED : ℕ := 0x4000
def GRALLOC_USAGE_HW_VIDEO_ENCODER : ℕ := 0x10000
def GRALLOC_USAGE_PRIVATE_3 : ℕ := 0x80000000

def NXP_GRALLOC_FLAGS_FRAMEBUFFER : ℕ := 2 ^ 0
def NXP_GRALLOC_FLAGS_TILED_FRAMEBUFFER : ℕ := 2 ^ 16
def NXP_GRALLOC_FLAGS_DISPLAY_UNDERRUN : ℕ := 2 ^ 17

/-! ### The table of formats -/

/-- The DRM formats of the table. -/
inductive Fourcc where
  | ABGR8888 | XBGR8888 | BGR888 | RGB565 | ARGB8888 | ABGR16161616F | ABGR2101010
  | NV16 | NV21 | YUYV | NV12 | YVU420 | R8 | R16 | AXBXGXRX106106106106
  | YUV422 | YUV420 | UYVY | NV15
  deriving DecidableEq

inductive Modifier where
  | LINEAR | AMPHION_TILED | VSI_G1_TILED | VSI_G2_TILED | VSI_G2_TILED_COMPRESSED
  deriving DecidableEq

structure FormatInfo where
  id : ℤ
  fourcc : Fourcc
  modifier : Modifier
  is_rgb : Bool
  is_yuv : Bool
  deriving DecidableEq

-- `PixelFormat::…`
def RGBA_8888 : ℤ := 1
def RGBX_8888 : ℤ := 2
def RGB_888 : ℤ := 3
def RGB_565 : ℤ := 4
def BGRA_8888 : ℤ := 5
def YCBCR_422_SP : ℤ := 0x10
def YCRCB_420_SP : ℤ := 0x11
def YCBCR_422_I : ℤ := 0x14
def RGBA_FP16 : ℤ := 0x16
def RAW16 : ℤ := 0x20
def BLOB : ℤ := 0x21
def IMPLEMENTATION_DEFINED : ℤ := 0x22
def YCBCR_420_888 : ℤ := 0x23
def RGBA_1010102 : ℤ := 0x2B
def YCBCR_P010 : ℤ := 0x36
def R_8 : ℤ := 0x38
def RGBA_10101010 : ℤ := 0x3B
def Y8 : ℤ := 0x20203859
def Y16 : ℤ := 0x20363159
def YV12 : ℤ := 0x32315659

-- `HAL_PIXEL_FORMAT_…`
def YCbCr_422_P : ℤ := 0x100
def YCbCr_420_P : ℤ := 0x101
def CbYCrY_422_I : ℤ := 0x102
def YCbCr_420_SP : ℤ := 0x103
def NV12_TILED : ℤ := 0x104
def NV12_G1_TILED : ℤ := 0x105
def NV12_G2_TILED : ℤ := 0x106
def NV12_G2_TILED_COMPRESSED : ℤ := 0x107
def P010 : ℤ := 0x108
def P010_TILED : ℤ := 0x109
def P010_TILED_COMPRESSED : ℤ := 0x110

def rgb (id : ℤ) (fourcc : Fourcc) : FormatInfo := ⟨id, fourcc, .LINEAR, true, false⟩
def yuv (id : ℤ) (fourcc : Fourcc) (modifier : Modifier) : FormatInfo :=
  ⟨id, fourcc, modifier, false, true⟩
def raw (id : ℤ) (fourcc : Fourcc) : FormatInfo := ⟨id, fourcc, .LINEAR, false, false⟩

/-- `formats`. -/
def formats (build : Build) : List FormatInfo :=
  [rgb RGBA_8888 .ABGR8888, rgb RGBX_8888 .XBGR8888, rgb RGB_888 .BGR888, rgb RGB_565 .RGB565,
    rgb BGRA_8888 .ARGB8888, rgb RGBA_FP16 .ABGR16161616F] ++
  (if build.GPU_RGBA1010102_LIMITATION then [] else [rgb RGBA_1010102 .ABGR2101010]) ++
  [yuv YCBCR_422_SP .NV16 .LINEAR, yuv YCRCB_420_SP .NV21 .LINEAR, yuv YCBCR_422_I .YUYV .LINEAR,
    yuv YCBCR_420_888 .NV12 .LINEAR, yuv YV12 .YVU420 .LINEAR, raw BLOB .R8, raw RAW16 .R16,
    raw Y16 .R16, raw Y8 .R8, raw R_8 .R8, yuv IMPLEMENTATION_DEFINED .NV12 .LINEAR,
    rgb RGBA_10101010 .AXBXGXRX106106106106, yuv YCbCr_422_P .YUV422 .LINEAR,
    yuv YCbCr_420_P .YUV420 .LINEAR, yuv CbYCrY_422_I .UYVY .LINEAR,
    yuv YCbCr_420_SP .NV12 .LINEAR, yuv NV12_TILED .NV12 .AMPHION_TILED,
    yuv NV12_G1_TILED .NV12 .VSI_G1_TILED, yuv NV12_G2_TILED .NV12 .VSI_G2_TILED,
    yuv NV12_G2_TILED_COMPRESSED .NV12 .VSI_G2_TILED_COMPRESSED, yuv P010 .NV15 .LINEAR,
    yuv P010_TILED .NV15 (if build.VPU_P010_AMPHION_TILED then .AMPHION_TILED else .VSI_G1_TILED),
    yuv P010_TILED_COMPRESSED .NV15 .VSI_G2_TILED_COMPRESSED]

/-- `getPixleFormatInfo`: the first entry with that id. -/
def getPixleFormatInfo (build : Build) (pixel_format : ℤ) : Option FormatInfo :=
  (formats build).find? fun format => format.id == pixel_format

theorem getPixleFormatInfo_mem {build : Build} {pixel_format : ℤ} {info : FormatInfo}
    (h : getPixleFormatInfo build pixel_format = some info) :
    info ∈ formats build ∧ info.id = pixel_format :=
  ⟨List.mem_of_find?_eq_some h, by simpa using List.find?_some h⟩

/-! ### Planes -/

/-- One plane of a `planar_layout`. -/
structure Plane where
  horizontal_subsampling : ℕ
  vertical_subsampling : ℕ
  bits_per_pixel : ℕ
  deriving DecidableEq

def packed_1bpp_layout : List Plane := [⟨1, 1, 8⟩]
def packed_2bpp_layout : List Plane := [⟨1, 1, 16⟩]
def packed_3bpp_layout : List Plane := [⟨1, 1, 24⟩]
def packed_4bpp_layout : List Plane := [⟨1, 1, 32⟩]
def packed_8bpp_layout : List Plane := [⟨1, 1, 64⟩]
def biplanar_yuv_420_layout : List Plane := [⟨1, 1, 8⟩, ⟨2, 2, 16⟩]
def biplanar_yuv_422_layout : List Plane := [⟨1, 1, 8⟩, ⟨2, 1, 16⟩]
def triplanar_yuv_420_layout : List Plane := [⟨1, 1, 8⟩, ⟨2, 2, 8⟩, ⟨2, 2, 8⟩]
def biplanar_yuv_nv15_layout : List Plane := [⟨1, 1, 10⟩, ⟨2, 2, 20⟩]

/-- `layout_from_format`, by its planes; a format without a layout has none. -/
def layout_from_format : Fourcc → List Plane
  | .R8 => packed_1bpp_layout
  | .R16 => packed_2bpp_layout
  | .YVU420 | .YUV420 => triplanar_yuv_420_layout
  | .NV12 | .NV21 => biplanar_yuv_420_layout
  | .NV15 => biplanar_yuv_nv15_layout
  | .RGB565 | .UYVY | .YUYV => packed_2bpp_layout
  | .BGR888 => packed_3bpp_layout
  | .ABGR2101010 | .ABGR8888 | .ARGB8888 | .XBGR8888 => packed_4bpp_layout
  | .ABGR16161616F | .AXBXGXRX106106106106 => packed_8bpp_layout
  | .NV16 => biplanar_yuv_422_layout
  | .YUV422 => []

/-- The fields of `gralloc_buffer_descriptor` the driver reads. -/
structure Descriptor where
  width : ℕ
  height : ℕ
  pixel_format : ℤ
  usage : ℕ
  flags : ℕ
  reserved_region_size : ℕ

/-- Both alignments of an RGB buffer: 64 pixels for tiles, but 16 where a tiled framebuffer would
    starve the display. -/
def tile_alignment (desc : Descriptor) : ℕ :=
  if has desc.usage USAGE_GPU_TILED_VIV then
    if has desc.flags NXP_GRALLOC_FLAGS_FRAMEBUFFER && has desc.flags NXP_GRALLOC_FLAGS_DISPLAY_UNDERRUN
    then 16 else 64
  else 16

/-- The branches of `drv_pixel_width_height_alignment` by the kind of the format. -/
def kind_alignment (info : FormatInfo) (desc : Descriptor) : ℕ × ℕ :=
  if info.is_rgb then
    (ALIGN desc.width (tile_alignment desc), ALIGN desc.height (tile_alignment desc))
  else if desc.pixel_format = YV12 ∨ desc.pixel_format = YCbCr_420_P then
    (ALIGN desc.width 32, ALIGN desc.height 4)
  else if desc.pixel_format = NV12_TILED ∨ desc.pixel_format = P010_TILED then
    (ALIGN desc.width 256, ALIGN desc.height 256)
  else if info.is_yuv then
    (ALIGN desc.width 16,
      if has desc.usage USAGE_PADDING_BUFFER then ALIGN desc.height 16 else ALIGN desc.height 4)
  else (desc.width, desc.height)

/-- `drv_pixel_width_height_alignment`: (aligned_width, aligned_height). The last stage replaces the
    width of the 10-bit formats by their stride in bytes. -/
def drv_pixel_width_height_alignment (build : Build) (desc : Descriptor) : Option (ℕ × ℕ) :=
  match getPixleFormatInfo build desc.pixel_format with
  | none => none
  | some info =>
    let aligned := kind_alignment info desc
    if desc.pixel_format = P010 ∨ desc.pixel_format = P010_TILED_COMPRESSED then
      some (ALIGN (u32 (desc.width * 5) / 4) 16, aligned.2)
    else if desc.pixel_format = P010_TILED then
      some (ALIGN (u32 (desc.width * 5) / 4) 256, aligned.2)
    else some aligned

def drv_height_from_format (fourcc : Fourcc) (height : ℕ) (plane : Plane) : ℕ :=
  let alignedh := match fourcc with
    | .NV12 | .NV21 | .YUV420 | .YVU420 | .YUYV => ALIGN height 4
    | _ => height
  DIV_ROUND_UP alignedh plane.vertical_subsampling

/-- `drv_stride_from_format` of plane number `p`. -/
def drv_stride_from_format (fourcc : Fourcc) (modifier : Modifier) (width : ℕ) (p : ℕ)
    (plane : Plane) : ℕ :=
  if modifier = .LINEAR ∧ fourcc ≠ .NV15 then
    let plane_width := DIV_ROUND_UP width plane.horizontal_subsampling
    let stride_in_bytes := ALIGN (u32 (plane_width * plane.bits_per_pixel)) 8 / 8
    if fourcc = .YVU420 then
      if p = 0 then ALIGN stride_in_bytes 32 else ALIGN stride_in_bytes 16
    else stride_in_bytes
  else width

def drv_size_from_format (fourcc : Fourcc) (stride height : ℕ) (plane : Plane) : ℕ :=
  u32 (stride * drv_height_from_format fourcc height plane)

/-- What the calculation stores in the descriptor. -/
structure BufferInfo where
  strides : List ℕ
  sizes : List ℕ
  offsets : List ℕ
  total_size : ℕ

/-- The loop of `drv_buffer_info_calculation_and_padding`, from plane `p` and byte `offset` on; the
    per-plane paddings are all zero. -/
def plane_loop (fourcc : Fourcc) (modifier : Modifier) (aligned_width aligned_height height : ℕ) :
    List Plane → ℕ → ℕ → BufferInfo
  | [], _, _ => ⟨[], [], [], 0⟩
  | plane :: planes, p, offset =>
    let stride := drv_stride_from_format fourcc modifier aligned_width p plane
    let size := drv_size_from_format fourcc stride height plane
    let rest := plane_loop fourcc modifier aligned_width aligned_height height planes (p + 1)
      (u32 (offset + size))
    ⟨stride :: rest.strides, size :: rest.sizes, offset :: rest.offsets,
      drv_size_from_format fourcc stride aligned_height plane + rest.total_size⟩

/-- `padding[DRV_MAX_PLANES]`: the tile status of RGB, the extra room of the hantro decoder. -/
def end_padding (info : FormatInfo) (desc : Descriptor) (aligned_width aligned_height : ℕ) : ℕ :=
  if info.is_yuv && has desc.usage USAGE_PADDING_BUFFER &&
      decide (desc.pixel_format ∈ [YCbCr_420_SP, YCRCB_420_SP, NV12_G1_TILED, NV12_G2_TILED,
        NV12_G2_TILED_COMPRESSED, P010, P010_TILED_COMPRESSED]) then
    u32 (u32 (aligned_width * aligned_height) / 4 + 32)
  else if info.is_yuv && has desc.usage USAGE_PADDING_BUFFER &&
      decide (desc.pixel_format = YCBCR_P010) then
    u32 (u32 (aligned_width * aligned_height) / 4 * 2 + 32)
  else if info.is_rgb && has desc.usage USAGE_GPU_TILED_VIV then 128
  else 0

/-- `drv_buffer_info_calculation`. -/
def drv_buffer_info_calculation (build : Build) (desc : Descriptor)
    (aligned_width aligned_height : ℕ) : Option BufferInfo :=
  match getPixleFormatInfo build desc.pixel_format with
  | none => none
  | some info =>
    let planes := plane_loop info.fourcc info.modifier aligned_width aligned_height desc.height
      (layout_from_format info.fourcc) 0 0
    some { planes with
      total_size := planes.total_size + end_padding info desc aligned_width aligned_height }

/-- The layout `dmabuf_allocate` gives a buffer: its pixel stride and its planes. -/
def dmabuf_layout (build : Build) (desc : Descriptor) : Option (ℕ × BufferInfo) :=
  match drv_pixel_width_height_alignment build desc with
  | none => none
  | some (aligned_width, aligned_height) =>
    (drv_buffer_info_calculation build desc aligned_width aligned_height).map
      fun info => (aligned_width, info)

end ImxHal.Gralloc
