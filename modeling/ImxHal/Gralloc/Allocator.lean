import Mathlib.Data.Finset.Image
import ImxHal.Gralloc.Format

/-! @src display/gralloc/aidl/NxpAllocator.cpp, display/gralloc/gralloc_driver.cpp,
    display/gralloc/dma_buf_heaps.cpp | name:Allocator | scheme:acquire-release |
    family:error handling

    One call of `allocate` or `allocate2` makes `count` buffers, each in several steps; on a failure
    at buffer `i` it releases the buffers before it. What is alive is a set of resources, each named
    by the index of its buffer:

        convert, is_supported
          └▶ GPU gralloc              or   dma-buf heap ─▶ native handle
               └──────────────┬────────────────┘
                  reserved region fd ─▶ mmap ─▶ metadata ─▶ dup for the client ─▶ release

    Between the buffer and the metadata the driver returns its errors WITHOUT releasing what it
    holds, and nobody above has the handle. -/

namespace ImxHal.Gralloc

/-- What buffer `i` of the call can leave alive. -/
inductive Res where
  | bufferFd (i : ℕ)
  | nativeHandle (i : ℕ)
  | gpuBuffer (i : ℕ)
  | regionFd (i : ℕ)
  | regionMap (i : ℕ)
  | clientHandle (i : ℕ)
  deriving DecidableEq

def Res.index : Res → ℕ
  | .bufferFd i | .nativeHandle i | .gpuBuffer i | .regionFd i | .regionMap i | .clientHandle i => i

/-- A place of `fds`: the file it names by its number, or -1. -/
inductive Slot where
  | buffer (fd : ℤ)
  | region (fd : ℤ)
  | none

def Slot.fd : Slot → ℤ
  | .buffer fd | .region fd => fd
  | .none => -1

def Slot.names (i : ℕ) : Slot → Finset Res
  | .buffer _ => {.bufferFd i}
  | .region _ => {.regionFd i}
  | .none => ∅

/-- The fields of `gralloc_handle` that decide what `release` frees; `fds` has `numFds` places. -/
structure Handle where
  index : ℕ
  fromGpu : Bool
  pixel_stride : ℕ
  fds : List Slot
  attr_base : Bool

/-- What the calls outside the driver return for one buffer: the GPU's gralloc (code, handle, its
    stride and fd), the dma-buf heap, `native_handle_create`, the heap again for the reserved
    region, and the errno of its `mmap` (0 for none). -/
structure BufEnv where
  gpuRet : ℤ
  gpuHandle : Bool
  gpuStride : ℕ
  gpuFd : ℤ
  heapFd : ℤ
  nativeHandle : Bool
  regionFd : ℤ
  mmapErrno : ℕ

/-- How a step ends, and what is alive then; `undefined` when the code goes through a pointer that
    was never set, or throws. -/
inductive Outcome (ε α : Type) where
  | ok (value : α) (live : Finset Res)
  | error (e : ε) (live : Finset Res)
  | undefined (live : Finset Res)

inductive AllocationError where | BAD_DESCRIPTOR | NO_RESOURCES | UNSUPPORTED
  deriving DecidableEq

/-- `BufferDescriptorInfoV4`, but for the name. -/
structure DescriptorInfo where
  width : ℕ
  height : ℕ
  layerCount : ℕ
  format : ℤ
  usage : ℕ
  reservedSize : ℕ

/-- The allocator service: its build, whether its driver and the GPU's gralloc are there, and
    `sizeof(gralloc_metadata)`. -/
structure NxpAllocator where
  build : Build
  mDriver : Bool
  mGPUAlloc : Bool
  sizeofMetadata : ℕ

/-- The end of a `gralloc_driver::release`: its own `munmap`, and then either the GPU's gralloc,
    which closes the buffer's fd by its handle, or every fd of the handle and the handle itself. -/
def Handle.freed (h : Handle) : Finset Res :=
  (if h.attr_base then {.regionMap h.index} else ∅) ∪
  (if h.fromGpu then
    (if 0 < (h.fds.getLastD .none).fd then (h.fds.getLastD .none).names h.index else ∅) ∪
      ((h.fds.headD .none).names h.index ∪ {.gpuBuffer h.index})
  else (h.fds.foldr (fun slot freed => slot.names h.index ∪ freed) ∅) ∪ {.nativeHandle h.index})

def release (live : Finset Res) (h : Handle) : Finset Res := live \ h.freed

/-! ### The driver -/

/-- `convertToHalDescriptor`, and the size of the metadata added to the reserved region. -/
def NxpAllocator.convertToHalDescriptor (g : NxpAllocator) (d : DescriptorInfo) :
    Option Descriptor :=
  if 1 < d.layerCount then none
  else match getPixleFormatInfo g.build d.format with
    | none => none
    | some info =>
      if info.id = R_8 ∧ ¬has d.usage GRALLOC_USAGE_PRIVATE_3 then none
      else some {
        width := d.width
        height := d.height
        pixel_format := d.format
        usage := d.usage
        flags := (if g.build.FRAMEBUFFER_WITH_TILED_COMPRESSION
            then NXP_GRALLOC_FLAGS_TILED_FRAMEBUFFER else 0) |||
          (if g.build.WORKAROUND_DISPLAY_UNDERRUN then NXP_GRALLOC_FLAGS_DISPLAY_UNDERRUN else 0) |||
          (if has d.usage GRALLOC_USAGE_HW_FB then NXP_GRALLOC_FLAGS_FRAMEBUFFER else 0)
        reserved_region_size := (d.reservedSize + g.sizeofMetadata) % 2 ^ 64 }

/-- `is_supported`: bits 33-47 must be zero. -/
def is_supported (desc : Descriptor) : Bool := !has desc.usage 0xFFFE00000000

def NxpAllocator.allocate_from_gpu_gralloc (g : NxpAllocator) (desc : Descriptor) : Bool :=
  match getPixleFormatInfo g.build desc.pixel_format with
  | none => false
  | some info =>
    g.mGPUAlloc &&
    (decide (info.is_rgb = true ∧ desc.pixel_format ≠ RGBA_10101010 ∧
        has desc.usage (GRALLOC_USAGE_HW_FB ||| USAGE_PADDING_BUFFER ||| GRALLOC_USAGE_PROTECTED |||
          GRALLOC_USAGE_HW_VIDEO_ENCODER) = false) ||
      (has desc.usage GRALLOC_USAGE_HW_FB && has desc.flags NXP_GRALLOC_FLAGS_TILED_FRAMEBUFFER))

/-- The first half of `gralloc_driver::allocate`: the buffer itself. -/
def NxpAllocator.acquire (g : NxpAllocator) (desc : Descriptor) (env : BufEnv) (i : ℕ)
    (live : Finset Res) : Outcome ℤ Handle :=
  if g.allocate_from_gpu_gralloc desc then
    if env.gpuRet ≠ 0 then .error env.gpuRet live
    -- a success without a handle: 0 is returned, `*out_handle` never written
    else if env.gpuHandle = false then .undefined live
    else .ok ⟨i, true, env.gpuStride, [.buffer env.gpuFd], false⟩
      (live ∪ {.gpuBuffer i, .bufferFd i})
  else match drv_pixel_width_height_alignment g.build desc with
    | none => .error (-1) live
    | some (aligned_width, _) =>
      if env.heapFd < 0 then .error (-1) live
      -- `make_gralloc_handle` gives null, and `allocator_allocate` writes its flags
      else if env.nativeHandle = false then .undefined (live ∪ {.bufferFd i})
      else .ok ⟨i, false, aligned_width, [.buffer env.heapFd], false⟩
        (live ∪ {.nativeHandle i, .bufferFd i})

/-- The second half: the reserved region. Without one, `fds[num_fds - 1]` is the buffer's own place. -/
def reserve (desc : Descriptor) (env : BufEnv) (h : Handle) (live : Finset Res) :
    Outcome ℤ Handle :=
  if 0 < desc.reserved_region_size then
    if env.regionFd < 0 then .error env.regionFd live
    else if env.mmapErrno ≠ 0 then .error (-env.mmapErrno) (live ∪ {.regionFd h.index})
    else .ok { h with fds := h.fds ++ [.region env.regionFd], attr_base := true }
      (live ∪ {.regionFd h.index, .regionMap h.index})
  else .ok { h with fds := [.none] } live

/-- `gralloc_driver::allocate`. -/
def NxpAllocator.driverAllocate (g : NxpAllocator) (desc : Descriptor) (env : BufEnv) (i : ℕ)
    (live : Finset Res) : Outcome ℤ Handle :=
  match g.acquire desc env i live with
  | .ok h live => reserve desc env h live
  | .error ret live => .error ret live
  | .undefined live => .undefined live

/-! ### The service -/

/-- `initializeMetadata`, by the one check of it that can fail here (`get_reserved_region`). -/
def initializeMetadata (h : Handle) : Bool := decide (0 < (h.fds.getLastD .none).fd)

/-- `NxpAllocator::allocate` of one buffer. -/
def NxpAllocator.allocateOne (g : NxpAllocator) (d : DescriptorInfo) (env : BufEnv) (i : ℕ)
    (live : Finset Res) : Outcome AllocationError Handle :=
  match g.convertToHalDescriptor d with
  | none => .error .UNSUPPORTED live
  | some desc =>
    if is_supported desc = false then .error .UNSUPPORTED live
    else match g.driverAllocate desc env i live with
      | .error _ live => .error .NO_RESOURCES live
      | .undefined live => .undefined live
      | .ok h live =>
        if initializeMetadata h then .ok h live else .error .NO_RESOURCES (release live h)

/-- The loop over the buffers: the handles so far, the last stride. -/
def NxpAllocator.allocateAll (g : NxpAllocator) (d : DescriptorInfo) (env : ℕ → BufEnv) :
    ℕ → List Handle → ℕ → Finset Res → Outcome AllocationError (List Handle × ℕ)
  | 0, handles, stride, live => .ok (handles, stride) live
  | n + 1, handles, _, live =>
    match g.allocateOne d (env handles.length) handles.length live with
    | .ok h live => g.allocateAll d env n (handles ++ [h]) h.pixel_stride live
    | .error e live => .error e (handles.foldl release live)
    | .undefined live => .undefined live

/-- `dupToAidl` for the client, then the release of the local handle. -/
def deliver (live : Finset Res) (h : Handle) : Finset Res :=
  release (live ∪ {.clientHandle h.index}) h

/-- The common part of `allocate` and `allocate2`: the buffers handed out, and the stride. A negative
    count asks `resize` for more places than a vector can have. -/
def NxpAllocator.allocateCount (g : NxpAllocator) (d : DescriptorInfo) (count : ℤ)
    (env : ℕ → BufEnv) : Outcome AllocationError (List ℕ × ℕ) :=
  if count < 0 then .undefined ∅
  else match g.allocateAll d env count.toNat [] 0 ∅ with
    | .ok (handles, stride) live => .ok (handles.map Handle.index, stride) (handles.foldl deliver live)
    | .error e live => .error e live
    | .undefined live => .undefined live

/-- `allocate`, of an encoded descriptor by what it decodes to. -/
def NxpAllocator.allocate (g : NxpAllocator) (descriptor : Option DescriptorInfo) (count : ℤ)
    (env : ℕ → BufEnv) : Outcome AllocationError (List ℕ × ℕ) :=
  if g.mDriver = false then .error .NO_RESOURCES ∅
  else match descriptor with
    | none => .error .BAD_DESCRIPTOR ∅
    | some d => g.allocateCount d count env

def STANDARD_METADATA_DATASPACE : String := "android.hardware.graphics.common.Dataspace"

/-- `BufferDescriptorInfo` of the AIDL interface, with the names of its additional options. -/
structure BufferDescriptorInfo where
  width : ℤ
  height : ℤ
  layerCount : ℤ
  format : ℤ
  usage : ℤ
  additionalOptions : List String

/-- `convertAidlToIMapperV4Descriptor`. -/
def convertAidlToIMapperV4Descriptor (info : BufferDescriptorInfo) : DescriptorInfo where
  width := (info.width % 2 ^ 32).toNat
  height := (info.height % 2 ^ 32).toNat
  layerCount := (info.layerCount % 2 ^ 32).toNat
  format := info.format
  usage := (info.usage % 2 ^ 64).toNat
  reservedSize := 0

def NxpAllocator.allocate2 (g : NxpAllocator) (descriptor : BufferDescriptorInfo) (count : ℤ)
    (env : ℕ → BufEnv) : Outcome AllocationError (List ℕ × ℕ) :=
  if g.mDriver = false then .error .NO_RESOURCES ∅
  else if descriptor.additionalOptions.any (· != STANDARD_METADATA_DATASPACE) then
    .error .UNSUPPORTED ∅
  else g.allocateCount (convertAidlToIMapperV4Descriptor descriptor) count env

/-! ### The promise and its condition -/

/-- Success hands out `count` duplicates and keeps nothing else; an error keeps nothing. -/
def AllOrNothing (count : ℤ) : Outcome AllocationError (List ℕ × ℕ) → Prop
  | .ok (buffers, _) live => buffers = List.range count.toNat ∧
      live = (Finset.range count.toNat).image .clientHandle
  | .error _ live => live = ∅
  | .undefined _ => False

/-- The request passes the checks and the buffer itself can be made. -/
def Made (g : NxpAllocator) (d : DescriptorInfo) (env : BufEnv) (desc : Descriptor) : Prop :=
  g.convertToHalDescriptor d = some desc ∧ is_supported desc = true ∧
  if g.allocate_from_gpu_gralloc desc then env.gpuRet = 0 else 0 ≤ env.heapFd

/-- Nothing after the buffer goes wrong: it has a handle, and a reserved region that is not empty,
    has a file (other than number 0 beside a GPU buffer, which `release` would not close) and is
    mapped. -/
structure Complete (g : NxpAllocator) (desc : Descriptor) (env : BufEnv) : Prop where
  handle : if g.allocate_from_gpu_gralloc desc then env.gpuHandle = true else env.nativeHandle = true
  size : 0 < desc.reserved_region_size
  region : 0 ≤ env.regionFd
  mapped : env.mmapErrno = 0
  closed : g.allocate_from_gpu_gralloc desc → env.regionFd ≠ 0

/-- The buffer comes to be, with its metadata. -/
def Succeeds (g : NxpAllocator) (d : DescriptorInfo) (env : BufEnv) : Prop :=
  ∃ desc, Made g d env desc ∧ Complete g desc env ∧ 0 < env.regionFd

/-- A buffer that can be made is completed. -/
def Clean (g : NxpAllocator) (d : DescriptorInfo) (env : BufEnv) : Prop :=
  ∀ desc, Made g d env desc → Complete g desc env

/-- The count is not negative, and the first buffer that does not come to be fails before it is made
    or in its metadata. -/
def CleanCall (g : NxpAllocator) (d : DescriptorInfo) (count : ℤ) (env : ℕ → BufEnv) : Prop :=
  0 ≤ count ∧ ∀ i < count.toNat, (∀ j < i, Succeeds g d (env j)) → Clean g d (env i)

/-! ### One buffer -/

theorem mem_names {i : ℕ} {slot : Slot} {r : Res} (h : r ∈ slot.names i) :
    r = .bufferFd i ∨ r = .regionFd i := by
  cases slot <;> simp [Slot.names] at h <;> simp [h]

/-- A handle frees resources of its own buffer, and no duplicate of a client. -/
theorem freed_own {h : Handle} {r : Res} (hr : r ∈ h.freed) :
    r.index = h.index ∧ ∀ k, r ≠ .clientHandle k := by
  have hslots : ∀ slots : List Slot,
      r ∈ slots.foldr (fun slot freed => slot.names h.index ∪ freed) ∅ →
        r = .bufferFd h.index ∨ r = .regionFd h.index := by
    intro slots
    induction slots with
    | nil => intro hmem; simp at hmem
    | cons slot slots ih =>
      intro hmem
      rcases Finset.mem_union.mp hmem with hmem | hmem
      · exact mem_names hmem
      · exact ih hmem
  have hcases : r = .bufferFd h.index ∨ r = .regionFd h.index ∨ r = .regionMap h.index ∨
      r = .gpuBuffer h.index ∨ r = .nativeHandle h.index := by
    unfold Handle.freed at hr
    rcases Finset.mem_union.mp hr with hr | hr
    · split at hr
      · simp at hr; simp [hr]
      · simp at hr
    · split at hr
      · rcases Finset.mem_union.mp hr with hr | hr
        · split at hr
          · rcases mem_names hr with h | h <;> simp [h]
          · simp at hr
        · rcases Finset.mem_union.mp hr with hr | hr
          · rcases mem_names hr with h | h <;> simp [h]
          · simp at hr; simp [hr]
      · rcases Finset.mem_union.mp hr with hr | hr
        · rcases hslots _ hr with h | h <;> simp [h]
        · simp at hr; simp [hr]
  rcases hcases with rfl | rfl | rfl | rfl | rfl <;> exact ⟨rfl, fun k => by simp⟩

theorem mem_release {live : Finset Res} {h : Handle} {r : Res} :
    r ∈ release live h ↔ r ∈ live ∧ r ∉ h.freed := Finset.mem_sdiff

/-- Releasing a handle undoes its acquisition. -/
theorem release_union {live : Finset Res} {h : Handle} (hfresh : ∀ r ∈ live, r.index ≠ h.index) :
    release (live ∪ h.freed) h = live := by
  ext r
  rw [mem_release, Finset.mem_union]
  constructor
  · rintro ⟨hr | hr, hno⟩
    · exact hr
    · exact absurd hr hno
  · intro hr
    exact ⟨Or.inl hr, fun hmem => hfresh r hr (freed_own hmem).1⟩

section OneBuffer

variable {g : NxpAllocator} {d : DescriptorInfo} {env : BufEnv} {desc : Descriptor}

/-- A converted descriptor has a format of the table, so it can be aligned. -/
theorem alignment_some (hconv : g.convertToHalDescriptor d = some desc) :
    ∃ aligned, drv_pixel_width_height_alignment g.build desc = some aligned := by
  unfold NxpAllocator.convertToHalDescriptor at hconv
  split at hconv
  · cases hconv
  · split at hconv
    · cases hconv
    · rename_i info hi
      split at hconv
      · cases hconv
      · cases hconv
        simp only [drv_pixel_width_height_alignment, hi]
        split
        · exact ⟨_, rfl⟩
        · split <;> exact ⟨_, rfl⟩

/-- What the driver does once the buffer itself can be made. -/
theorem driverAllocate_made (hm : Made g d env desc) (i : ℕ) (live : Finset Res) :
    (∃ h : Handle, h.index = i ∧ g.driverAllocate desc env i live =
        reserve desc env h (live ∪ { if h.fromGpu then .gpuBuffer i else .nativeHandle i, .bufferFd i }) ∧
      h.fromGpu = g.allocate_from_gpu_gralloc desc ∧ h.attr_base = false ∧
      (∃ fd, h.fds = [.buffer fd]) ∧
      if g.allocate_from_gpu_gralloc desc then env.gpuHandle = true else env.nativeHandle = true) ∨
    ((∃ live', g.driverAllocate desc env i live = .undefined live') ∧
      ¬ if g.allocate_from_gpu_gralloc desc then env.gpuHandle = true else env.nativeHandle = true) := by
  obtain ⟨hconv, -, hbuf⟩ := hm
  cases hgpu : g.allocate_from_gpu_gralloc desc with
  | true =>
    rw [hgpu, if_pos rfl] at hbuf
    cases hh : env.gpuHandle with
    | true =>
      refine Or.inl ⟨⟨i, true, env.gpuStride, [.buffer env.gpuFd], false⟩, rfl, ?_, rfl, rfl,
        ⟨_, rfl⟩, rfl⟩
      simp [NxpAllocator.driverAllocate, NxpAllocator.acquire, hgpu, hbuf, hh]
    | false =>
      refine Or.inr ⟨⟨live, ?_⟩, by simp⟩
      simp [NxpAllocator.driverAllocate, NxpAllocator.acquire, hgpu, hbuf, hh]
  | false =>
    rw [hgpu, if_neg (by simp)] at hbuf
    obtain ⟨⟨aw, ah⟩, halign⟩ := alignment_some hconv
    have hfd : ¬env.heapFd < 0 := by omega
    cases hh : env.nativeHandle with
    | true =>
      refine Or.inl ⟨⟨i, false, aw, [.buffer env.heapFd], false⟩, rfl, ?_, rfl, rfl, ⟨_, rfl⟩, rfl⟩
      simp [NxpAllocator.driverAllocate, NxpAllocator.acquire, hgpu, halign, hfd, hh]
    | false =>
      refine Or.inr ⟨⟨live ∪ {.bufferFd i}, ?_⟩, by simp⟩
      simp [NxpAllocator.driverAllocate, NxpAllocator.acquire, hgpu, halign, hfd, hh]

/-- A request that cannot be made fails and takes nothing. -/
theorem allocateOne_unmade (hno : ∀ desc, ¬Made g d env desc) (i : ℕ) (live : Finset Res) :
    ∃ e, g.allocateOne d env i live = .error e live := by
  unfold NxpAllocator.allocateOne
  cases hconv : g.convertToHalDescriptor d with
  | none => exact ⟨_, rfl⟩
  | some desc =>
    cases hsup : is_supported desc with
    | false => exact ⟨.UNSUPPORTED, by simp [hsup]⟩
    | true =>
      have hbuf : ¬ if g.allocate_from_gpu_gralloc desc then env.gpuRet = 0 else 0 ≤ env.heapFd :=
        fun h => hno desc ⟨hconv, hsup, h⟩
      obtain ⟨⟨aw, ah⟩, halign⟩ := alignment_some hconv
      refine ⟨.NO_RESOURCES, ?_⟩
      cases hgpu : g.allocate_from_gpu_gralloc desc with
      | true =>
        rw [hgpu, if_pos rfl] at hbuf
        simp [NxpAllocator.driverAllocate, NxpAllocator.acquire, hgpu, hbuf, hsup]
      | false =>
        rw [hgpu, if_neg (by simp)] at hbuf
        have hfd : env.heapFd < 0 := by omega
        simp [NxpAllocator.driverAllocate, NxpAllocator.acquire, hgpu, halign, hfd, hsup]

/-- A completed buffer: its handle frees what was taken for it. -/
theorem allocateOne_complete (hm : Made g d env desc) (hc : Complete g desc env) (i : ℕ)
    (live : Finset Res) :
    ∃ h, h.index = i ∧ g.allocateOne d env i live =
      if 0 < env.regionFd then .ok h (live ∪ h.freed)
      else .error .NO_RESOURCES (release (live ∪ h.freed) h) := by
  have hconv := hm.1
  have hsup := hm.2.1
  rcases driverAllocate_made hm i live with
    ⟨h, hi, hdrv, hgpu, hattr, ⟨fd, hfds⟩, -⟩ | ⟨-, hno⟩
  · have hneg : ¬env.regionFd < 0 := not_lt.mpr hc.region
    refine ⟨{ h with fds := h.fds ++ [.region env.regionFd], attr_base := true }, hi, ?_⟩
    have hlive : live ∪ { if h.fromGpu then .gpuBuffer i else .nativeHandle i, .bufferFd i } ∪
        {.regionFd h.index, .regionMap h.index} = live ∪
        Handle.freed { h with fds := h.fds ++ [.region env.regionFd], attr_base := true } := by
      have hpos : h.fromGpu = true → 0 < env.regionFd := by
        intro hg
        have h1 := hc.closed (by rw [← hgpu, hg])
        have h2 := hc.region
        omega
      rw [Finset.union_assoc]
      congr 1
      ext r
      cases hg : h.fromGpu with
      | true => simp [Handle.freed, hfds, hi, Slot.names, Slot.fd, hpos hg]; tauto
      | false => simp [Handle.freed, hfds, hi, Slot.names]; tauto
    simp only [NxpAllocator.allocateOne, hconv, hsup, hdrv, reserve, hc.size, hneg, hc.mapped,
      hlive, if_true, if_false, initializeMetadata, hfds]
    simp [Slot.fd]
  · exact absurd hc.handle hno

/-- A buffer that is made and not completed leaves something of it alive, or ends undefined. -/
theorem allocateOne_leaks (hm : Made g d env desc) (hc : ¬Complete g desc env) (i : ℕ)
    (live : Finset Res) :
    (∃ e live' r, g.allocateOne d env i live = .error e live' ∧ r ∈ live' ∧ r.index = i) ∨
    ∃ live', g.allocateOne d env i live = .undefined live' := by
  have hconv := hm.1
  have hsup := hm.2.1
  rcases driverAllocate_made hm i live with
    ⟨h, hi, hdrv, hgpu, hattr, ⟨fd, hfds⟩, hhandle⟩ | ⟨⟨live', hund⟩, -⟩
  · left
    obtain ⟨taken, htaken⟩ : ∃ taken, taken = live ∪
        { if h.fromGpu then .gpuBuffer i else .nativeHandle i, .bufferFd i } := ⟨_, rfl⟩
    have hfd : .bufferFd i ∈ taken := by simp [htaken]
    rw [← htaken] at hdrv
    by_cases hsize : 0 < desc.reserved_region_size
    · by_cases hregion : env.regionFd < 0
      · refine ⟨.NO_RESOURCES, taken, .bufferFd i, ?_, hfd, rfl⟩
        simp [NxpAllocator.allocateOne, hconv, hsup, hdrv, reserve, hsize, hregion]
      · by_cases hmap : env.mmapErrno = 0
        · -- all is there, so it is the GPU buffer with a region of number 0
          have hzero : h.fromGpu = true ∧ env.regionFd = 0 := by
            by_contra hboth
            exact hc ⟨hhandle, hsize, by omega, hmap, fun hg hz => hboth ⟨by rw [hgpu, hg], hz⟩⟩
          refine ⟨.NO_RESOURCES, release (taken ∪ {.regionFd i, .regionMap i})
            { h with fds := h.fds ++ [.region env.regionFd], attr_base := true }, .regionFd i,
            ?_, ?_, rfl⟩
          · simp [NxpAllocator.allocateOne, hconv, hsup, hdrv, reserve, hsize, hmap,
              initializeMetadata, hzero.2, Slot.fd, hi]
          · simp [mem_release, Handle.freed, hi, hzero, hfds, Slot.fd, Slot.names]
        · refine ⟨.NO_RESOURCES, taken ∪ {.regionFd i}, .bufferFd i, ?_,
            Finset.mem_union_left _ hfd, rfl⟩
          simp [NxpAllocator.allocateOne, hconv, hsup, hdrv, reserve, hsize, hregion, hmap, hi]
    · -- no region: the buffer's own fd is overwritten
      refine ⟨.NO_RESOURCES, release taken { h with fds := [.none] }, .bufferFd i, ?_, ?_, rfl⟩
      · simp [NxpAllocator.allocateOne, hconv, hsup, hdrv, reserve, hsize, initializeMetadata,
          Slot.fd]
      · simp [mem_release, Handle.freed, hattr, hfd, Slot.fd, Slot.names]
        split <;> simp
  · right
    exact ⟨live', by simp [NxpAllocator.allocateOne, hconv, hsup, hund]⟩

/-- A handle that comes out of it frees all that was taken for it. -/
theorem allocateOne_ok {i : ℕ} {live live' : Finset Res} {h : Handle}
    (hok : g.allocateOne d env i live = .ok h live') : h.index = i ∧ live' = live ∪ h.freed := by
  by_cases hmade : ∃ desc, Made g d env desc
  · obtain ⟨desc, hm⟩ := hmade
    by_cases hc : Complete g desc env
    · obtain ⟨h', hi, hone⟩ := allocateOne_complete hm hc i live
      rw [hone] at hok
      split at hok
      · cases hok
        exact ⟨hi, rfl⟩
      · cases hok
    · rcases allocateOne_leaks hm hc i live with ⟨e, _, _, hone, -⟩ | ⟨_, hone⟩
      · rw [hone] at hok; cases hok
      · rw [hone] at hok; cases hok
  · obtain ⟨e, hone⟩ := allocateOne_unmade (not_exists.mp hmade) i live
    rw [hone] at hok
    cases hok

theorem made_unique {desc' : Descriptor} (h : Made g d env desc) (h' : Made g d env desc') :
    desc = desc' := Option.some.inj (h.1.symm.trans h'.1)

end OneBuffer

/-! ### All buffers -/

/-- The live resources are those the handles free. -/
def Owns (handles : List Handle) (live : Finset Res) : Prop :=
  ∀ r, r ∈ live ↔ ∃ h ∈ handles, r ∈ h.freed

theorem mem_release_all {handles : List Handle} {live : Finset Res} {r : Res} :
    r ∈ handles.foldl release live ↔ r ∈ live ∧ ∀ h ∈ handles, r ∉ h.freed := by
  induction handles generalizing live with
  | nil => simp
  | cons h handles ih =>
    rw [List.foldl_cons, ih, mem_release, List.forall_mem_cons, and_assoc]

/-- Delivering all handles leaves the duplicates, and what none of the handles frees. -/
theorem mem_deliver_all {handles : List Handle} {live : Finset Res} {r : Res} :
    r ∈ handles.foldl deliver live ↔
      (∃ h ∈ handles, r = .clientHandle h.index) ∨ (r ∈ live ∧ ∀ h ∈ handles, r ∉ h.freed) := by
  induction handles generalizing live with
  | nil => simp
  | cons h handles ih =>
    have hclient : ∀ k (h' : Handle), .clientHandle k ∉ h'.freed :=
      fun k h' hmem => (freed_own hmem).2 k rfl
    rw [List.foldl_cons, ih, deliver, mem_release, Finset.mem_union, Finset.mem_singleton]
    simp only [List.mem_cons, exists_eq_or_imp, forall_eq_or_imp]
    constructor
    · rintro (h1 | ⟨⟨h1 | h1, h2⟩, h3⟩)
      · exact Or.inl (Or.inr h1)
      · exact Or.inr ⟨h1, h2, h3⟩
      · exact Or.inl (Or.inl h1)
    · rintro ((h1 | h1) | ⟨h1, h2, h3⟩)
      · rw [h1]
        exact Or.inr ⟨⟨Or.inr rfl, hclient _ _⟩, fun h' _ => hclient _ _⟩
      · exact Or.inl h1
      · exact Or.inr ⟨⟨Or.inl h1, h2⟩, h3⟩

/-- How the loop may end: with one handle for each buffer, or with nothing. -/
def Settled (count : ℕ) : Outcome AllocationError (List Handle × ℕ) → Prop
  | .ok (handles, _) live => handles.map Handle.index = List.range count ∧ Owns handles live
  | .error _ live => live = ∅
  | .undefined _ => False

section Loop

variable {g : NxpAllocator} {d : DescriptorInfo} {env : ℕ → BufEnv}

theorem owns_fresh {handles : List Handle} {live : Finset Res}
    (hidx : handles.map Handle.index = List.range handles.length) (hown : Owns handles live) :
    ∀ r ∈ live, r.index < handles.length := by
  intro r hr
  obtain ⟨h, hmem, hfreed⟩ := (hown r).mp hr
  have hin : h.index ∈ handles.map Handle.index := List.mem_map_of_mem hmem
  rw [hidx, List.mem_range] at hin
  rw [(freed_own hfreed).1]
  exact hin

theorem owns_snoc {handles : List Handle} {live : Finset Res} {h : Handle}
    (hown : Owns handles live) : Owns (handles ++ [h]) (live ∪ h.freed) := by
  intro r
  rw [Finset.mem_union, hown r]
  simp [or_and_right, exists_or]

theorem index_snoc {handles : List Handle} {h : Handle}
    (hidx : handles.map Handle.index = List.range handles.length) (hi : h.index = handles.length) :
    (handles ++ [h]).map Handle.index = List.range (handles ++ [h]).length := by
  rw [List.map_append, hidx, List.length_append, List.map_singleton, hi, List.length_singleton,
    List.range_succ]

/-- A loop that ends well has made all buffers and owns what is alive. -/
theorem allocateAll_ok (n : ℕ) (handles : List Handle) (stride : ℕ) (live : Finset Res)
    (hidx : handles.map Handle.index = List.range handles.length) (hown : Owns handles live)
    {result : List Handle × ℕ} {live' : Finset Res}
    (hok : g.allocateAll d env n handles stride live = .ok result live') :
    Settled (handles.length + n) (.ok result live') := by
  induction n generalizing handles stride live with
  | zero =>
    cases hok
    exact ⟨hidx, hown⟩
  | succ n ih =>
    rw [NxpAllocator.allocateAll] at hok
    cases hone : g.allocateOne d (env handles.length) handles.length live with
    | error e l => rw [hone] at hok; cases hok
    | undefined l => rw [hone] at hok; cases hok
    | ok h l =>
      rw [hone] at hok
      obtain ⟨hi, rfl⟩ := allocateOne_ok hone
      have hrec := ih (handles ++ [h]) h.pixel_stride _ (index_snoc hidx hi) (owns_snoc hown) hok
      rw [List.length_append, List.length_singleton] at hrec
      rwa [show handles.length + (n + 1) = handles.length + 1 + n by omega]

/-- Releasing the handles that own what is alive leaves nothing. -/
theorem release_owned {handles : List Handle} {live : Finset Res} (hown : Owns handles live) :
    handles.foldl release live = ∅ := by
  refine Finset.eq_empty_of_forall_notMem fun r hr => ?_
  obtain ⟨hlive, hkept⟩ := mem_release_all.mp hr
  obtain ⟨h, hmem, hfreed⟩ := (hown r).mp hlive
  exact hkept h hmem hfreed

/-- What the next buffer leaves behind is freed by no handle made before it. -/
theorem leak_survives {handles : List Handle} {live : Finset Res} {r : Res}
    (hidx : handles.map Handle.index = List.range handles.length) (hr : r ∈ live)
    (hnew : r.index = handles.length) : handles.foldl release live ≠ ∅ := by
  have hkeep : r ∈ handles.foldl release live := by
    refine mem_release_all.mpr ⟨hr, fun h hmem hfreed => ?_⟩
    have hin : h.index ∈ handles.map Handle.index := List.mem_map_of_mem hmem
    rw [hidx, List.mem_range, ← (freed_own hfreed).1] at hin
    omega
  exact Finset.ne_empty_of_mem hkeep

/-- The first failure is the next buffer's, or lies behind it. -/
theorem first_failure_succ {S C : ℕ → Prop} (k n : ℕ) :
    (∀ i < n + 1, (∀ j < i, S (k + j)) → C (k + i)) ↔
      C k ∧ (S k → ∀ i < n, (∀ j < i, S (k + 1 + j)) → C (k + 1 + i)) := by
  have hshift : ∀ i, k + (i + 1) = k + 1 + i := fun i => by omega
  constructor
  · intro hall
    refine ⟨hall 0 (by omega) fun j hj => absurd hj (Nat.not_lt_zero j), fun hs i hi hprev => ?_⟩
    rw [← hshift]
    refine hall (i + 1) (by omega) fun j hj => ?_
    cases j with
    | zero => exact hs
    | succ j =>
      rw [hshift]
      exact hprev j (by omega)
  · rintro ⟨hc, hrest⟩ i hi hprev
    cases i with
    | zero => exact hc
    | succ i =>
      rw [hshift]
      refine hrest (hprev 0 (by omega)) i (by omega) fun j hj => ?_
      rw [← hshift]
      exact hprev (j + 1) (by omega)

/-- The loop settles exactly if the first buffer that does not succeed is clean. The induction is
    on the buffers still to make. -/
theorem allocateAll_settled (g : NxpAllocator) (d : DescriptorInfo) (env : ℕ → BufEnv) (n : ℕ)
    (handles : List Handle) (stride : ℕ) (live : Finset Res)
    (hidx : handles.map Handle.index = List.range handles.length) (hown : Owns handles live) :
    Settled (handles.length + n) (g.allocateAll d env n handles stride live) ↔
      ∀ i < n, (∀ j < i, Succeeds g d (env (handles.length + j))) →
        Clean g d (env (handles.length + i)) := by
  induction n generalizing handles stride live with
  | zero =>
    refine iff_of_true ⟨by rw [hidx, Nat.add_zero], hown⟩ ?_
    intro i hi
    omega
  | succ n ih =>
    have hnil := release_owned hown
    rw [first_failure_succ (S := fun i => Succeeds g d (env i)) (C := fun i => Clean g d (env i))]
    by_cases hmade : ∃ desc, Made g d (env handles.length) desc
    · obtain ⟨desc, hm⟩ := hmade
      by_cases hc : Complete g desc (env handles.length)
      · have hclean : Clean g d (env handles.length) := by
          intro desc' hm'
          rwa [← made_unique hm hm']
        obtain ⟨h, hi, hone⟩ := allocateOne_complete hm hc handles.length live
        rw [and_iff_right hclean]
        by_cases hpos : 0 < (env handles.length).regionFd
        · -- the buffer comes to be, and the loop goes on
          have hs : Succeeds g d (env handles.length) := ⟨desc, hm, hc, hpos⟩
          rw [if_pos hpos] at hone
          have hrec := ih (handles ++ [h]) h.pixel_stride _ (index_snoc hidx hi) (owns_snoc hown)
          rw [List.length_append, List.length_singleton] at hrec
          simp only [NxpAllocator.allocateAll, hone]
          rw [show handles.length + (n + 1) = handles.length + 1 + n by omega, hrec]
          exact ⟨fun hall _ => hall, fun hall => hall hs⟩
        · -- its metadata fails, and it is released with the others
          have hfresh : ∀ r ∈ live, r.index ≠ h.index := by
            intro r hr
            rw [hi]
            exact (owns_fresh hidx hown r hr).ne
          rw [if_neg hpos, release_union hfresh] at hone
          simp only [NxpAllocator.allocateAll, hone]
          exact iff_of_true hnil fun ⟨_, _, _, h⟩ => absurd h hpos
      · refine iff_of_false ?_ fun hclean => hc (hclean.1 desc hm)
        rcases allocateOne_leaks hm hc handles.length live with
          ⟨e, live', r, hone, hr, hnew⟩ | ⟨live', hone⟩
        · simp only [NxpAllocator.allocateAll, hone]
          exact leak_survives hidx hr hnew
        · simp only [NxpAllocator.allocateAll, hone]
          exact id
    · -- the request fails before anything is taken
      obtain ⟨e, hone⟩ := allocateOne_unmade (not_exists.mp hmade) handles.length live
      simp only [NxpAllocator.allocateAll, hone]
      exact iff_of_true hnil ⟨fun desc hm => absurd ⟨desc, hm⟩ hmade,
        fun ⟨desc, hm, _⟩ => absurd ⟨desc, hm⟩ hmade⟩

/-- The common part of both calls is all or nothing exactly if the call is clean. -/
theorem allocateCount_iff (count : ℤ) :
    AllOrNothing count (g.allocateCount d count env) ↔ CleanCall g d count env := by
  unfold NxpAllocator.allocateCount CleanCall
  by_cases hneg : count < 0
  · rw [if_pos hneg]
    exact iff_of_false id fun h => absurd h.1 (by omega)
  · rw [if_neg hneg]
    have hsettled := allocateAll_settled g d env count.toNat [] 0 ∅ rfl (by intro r; simp)
    simp only [List.length_nil, Nat.zero_add] at hsettled
    have h0 : (0 ≤ count) = True := eq_true (by omega)
    rw [h0, true_and, ← hsettled]
    cases hrun : g.allocateAll d env count.toNat [] 0 ∅ with
    | error e live => exact Iff.rfl
    | undefined live => exact Iff.rfl
    | ok result live =>
      have hdone := allocateAll_ok count.toNat [] 0 ∅ rfl (by intro r; simp) hrun
      obtain ⟨handles, stride⟩ := result
      obtain ⟨hidx, hown⟩ := hdone
      rw [List.length_nil, Nat.zero_add] at hidx
      refine iff_of_true ⟨hidx, ?_⟩ ⟨hidx, hown⟩
      ext r
      rw [mem_deliver_all, Finset.mem_image]
      have hindex : ∀ k, (∃ h ∈ handles, h.index = k) ↔ k ∈ Finset.range count.toNat := by
        intro k
        rw [Finset.mem_range, ← List.mem_range, ← hidx, List.mem_map]
      constructor
      · rintro (⟨h, hmem, rfl⟩ | ⟨hr, hno⟩)
        · exact ⟨h.index, (hindex _).mp ⟨h, hmem, rfl⟩, rfl⟩
        · obtain ⟨h, hmem, hfreed⟩ := (hown r).mp hr
          exact absurd hfreed (hno h hmem)
      · rintro ⟨k, hk, rfl⟩
        obtain ⟨h, hmem, rfl⟩ := (hindex k).mpr hk
        exact Or.inl ⟨h, hmem, rfl⟩

end Loop

/-- CORRECT: `allocate` and `allocate2` are all or nothing exactly if a call that gets past its
    first checks is clean. -/
theorem all_or_nothing_iff (g : NxpAllocator) (count : ℤ) (env : ℕ → BufEnv) :
    (∀ descriptor, AllOrNothing count (g.allocate descriptor count env) ↔
      (g.mDriver = true → ∀ d, descriptor = some d → CleanCall g d count env)) ∧
    (∀ descriptor, AllOrNothing count (g.allocate2 descriptor count env) ↔
      (g.mDriver = true → (∀ name ∈ descriptor.additionalOptions, name = STANDARD_METADATA_DATASPACE) →
        CleanCall g (convertAidlToIMapperV4Descriptor descriptor) count env)) := by
  refine ⟨?_, ?_⟩
  · intro descriptor
    unfold NxpAllocator.allocate
    cases hdrv : g.mDriver with
    | false => exact iff_of_true rfl (by simp)
    | true =>
      cases descriptor with
      | none => exact iff_of_true rfl (by simp)
      | some d => simpa using allocateCount_iff count
  · intro descriptor
    unfold NxpAllocator.allocate2
    cases hdrv : g.mDriver with
    | false => exact iff_of_true rfl (by simp)
    | true =>
      by_cases hopt : ∀ name ∈ descriptor.additionalOptions, name = STANDARD_METADATA_DATASPACE
      · have hany : descriptor.additionalOptions.any (· != STANDARD_METADATA_DATASPACE) = false := by
          simpa using hopt
        simp only [hany, Bool.false_eq_true, if_false, forall_const, Bool.true_eq_false]
        exact (allocateCount_iff count).trans ⟨fun h _ => h, fun h => h hopt⟩
      · have hany : descriptor.additionalOptions.any (· != STANDARD_METADATA_DATASPACE) = true := by
          simpa using hopt
        simp only [hany, if_true]
        exact iff_of_true rfl fun _ h => absurd h hopt

/-- A service without a GPU gralloc, asked for one RGBA buffer: the heap gives the buffer and then
    no memory for the reserved region. The buffer stays alive behind the error. -/
theorem allocate_leaks :
    ¬AllOrNothing 1 (NxpAllocator.allocate ⟨⟨false, false, false, false⟩, true, false, 1024⟩
      (some ⟨64, 64, 1, RGBA_8888, 0x3, 0⟩) 1
      fun _ => ⟨0, true, 64, 7, 8, true, -12, 0⟩) := by
  have hlive : NxpAllocator.allocate ⟨⟨false, false, false, false⟩, true, false, 1024⟩
      (some ⟨64, 64, 1, RGBA_8888, 0x3, 0⟩) 1 (fun _ => ⟨0, true, 64, 7, 8, true, -12, 0⟩) =
        .error .NO_RESOURCES {.nativeHandle 0, .bufferFd 0} := rfl
  rw [hlive]
  intro hempty
  have hempty : ({.nativeHandle 0, .bufferFd 0} : Finset Res) = ∅ := hempty
  exact absurd hempty (by decide)

end ImxHal.Gralloc
