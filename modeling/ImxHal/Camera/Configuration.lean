import ImxHal.Schemes.Text

/-! @src camera/CameraConfigurationParser.cpp, camera/CameraConfigurationParser.h,
    image_process/ImageUtils.cpp (ValueToImxEngine) | name:camera configuration | scheme:text |
    family:text files

    The entries of the configuration are parsed into the front of a vector of 24, by their position. A second
    pass appends a copy of a camera for each physical name of a logical one; it looks for the name among as
    many elements as there are entries:

        entries     e₀  e₁  e₂ (names b a)
        vec         m₀  m₁  m₂  ·  ·  ·  ·  m₁'  m₀'
        id map      []  []  [24, 25]              (' with the type of m₂) -/

namespace ImxHal.CameraConfiguration
open ImxHal.Text (isspace signAndDigits)

/-- A `char` is a byte. -/
abbrev Text := List Char

def META_STRING_SIZE : ℕ := 32
def MAX_BASIC_CAMERA_NUM : ℕ := 24
def OMIT_RESOLUTION_NUM : ℕ := 8
def GIVEN_RESOLUTION_NUM : ℕ := 8
def INT_MAX : ℤ := 2147483647
def LONG_MIN : ℤ := -9223372036854775808
def LONG_MAX : ℤ := 9223372036854775807

inductive HalVersion where | kHalV1 | kHalV2 | kHalV3
  deriving DecidableEq

inductive BufferType where | kMmap | kDma
  deriving DecidableEq

inductive ImxEngine where
  | ENG_G2D | ENG_DPU | ENG_G3D | ENG_OCLCVT | ENG_IPU | ENG_PXP | ENG_CPU | ENG_BYPASS
  deriving DecidableEq

/-! ### JSON -/

/-- The members of an object that are strings or numbers, as `asString` gives them. -/
abbrev Object := String → Option Text

/-- `root[key].asString()`, which is empty for a key that is missing. -/
def asString (root : Object) (key : String) : Text := (root key).getD []

/-- An element of `camera_metadata`. -/
structure Entry where
  member : Object
  PhysicalNames : Option (List Text)
  GivenRes : List Object
  OmitFrame : List Object

structure Configuration where
  isObject : Bool
  member : Object
  camera_metadata : List Entry

/-! ### Texts and numbers -/

/-- A C string ends at its first 0. -/
def c_str (text : Text) : Text := text.takeWhile fun c => c.toNat ≠ 0

/-- `strncpy` to an array whose last byte is then set to 0. -/
def charArray (text : Text) : Text := (c_str text).take (META_STRING_SIZE - 1)

def strtol (text : Text) : ℤ :=
  let parsed := signAndDigits text
  max LONG_MIN (min LONG_MAX (parsed.1 * Nat.ofDigitChars 10 parsed.2 0))

/-- What `endptr` is left at: all of the text if there is no number. -/
def endptr (text : Text) : Text :=
  let unsigned :=
    match (c_str text).dropWhile isspace with
    | '-' :: rest => rest
    | '+' :: rest => rest
    | rest => rest
  if (signAndDigits text).2 = [] then c_str text else unsigned.dropWhile Char.isDigit

/-- A `long` kept in an `int`. -/
def int (n : ℤ) : ℤ := n.bmod (2 ^ 32)

def intOf (root : Object) (key : String) : ℤ := int (strtol (asString root key))

/-- A number with a default. -/
def intOr (root : Object) (key : String) (default : ℤ) : ℤ :=
  match root key with
  | some value => int (strtol value)
  | none => default

def longOr (root : Object) (key : String) (default : ℤ) : ℤ :=
  match root key with
  | some value => strtol value
  | none => default

def ValueToCameraHalVersion (value : Text) : HalVersion :=
  if endptr value ≠ [] then .kHalV1
  else if int (strtol value) = 2 then .kHalV2
  else if int (strtol value) = 3 then .kHalV3
  else .kHalV1

def ValueToCameraBufferType (value : Text) : Option BufferType :=
  if value = "mmap".toList then some .kMmap
  else if value = "dma".toList then some .kDma
  else none

def ValueToImxEngine (value : Text) : ImxEngine :=
  if value = "DPU".toList then .ENG_DPU
  else if value = "GPU_2D".toList then .ENG_G2D
  else if value = "GPU_3D".toList then .ENG_G3D
  else if value = "OCLCVT".toList then .ENG_OCLCVT
  else if value = "PXP".toList then .ENG_PXP
  else if value = "IPU".toList then .ENG_IPU
  else if value = "CPU".toList then .ENG_CPU
  else if value = "BYPASS".toList then .ENG_BYPASS
  else .ENG_G2D

/-! ### Metadata -/

structure OmitFrame where
  width : ℤ
  height : ℤ
  omitnum : ℤ
  deriving DecidableEq

structure Resolution where
  width : ℤ
  height : ℤ
  deriving DecidableEq

/-- `F` is the type of the floating-point numbers. The arrays are the elements that are filled in. -/
structure CameraSensorMetadata (F : Type) where
  mplane : ℤ
  orientation : ℤ
  activearraywidth : ℤ
  activearrayheight : ℤ
  pixelarraywidth : ℤ
  pixelarrayheight : ℤ
  physicalwidth : F
  physicalheight : F
  focallength : F
  camera_type : Text
  camera_name : Text
  device_node : Text
  bus_info : Text
  maxjpegsize : ℤ
  minframeduration : ℤ
  maxframeduration : ℤ
  minframeduration_blob_5M : ℤ
  omit_frame : List OmitFrame
  buffer_type : BufferType
  v4l2_format : Text
  mAeCompMin : ℤ
  mAeCompMax : ℤ
  mAeCompStepNumerator : ℤ
  mAeCompStepDenominator : ℤ
  mExposureNsMin : ℤ
  mExposureNsMax : ℤ
  mAvailableCapabilities : ℤ
  mMaxWidth : ℤ
  mMaxHeight : ℤ
  mMinWidth : ℤ
  mMinHeight : ℤ
  mGivenRes : List Resolution
  mPreviewBuffers : ℤ
  mLibcameraBuffers : ℤ
  mNeedDewarp : Bool
  mDewarpEng : ImxEngine
  deriving DecidableEq

structure CameraDefinition (F : Type) where
  hal_version : HalVersion
  cam_blit_copy_hw : ImxEngine
  cam_blit_csc_hw : ImxEngine
  jpeg_hw : Text
  mUseCpuEncoder : ℤ
  camera_metadata_vec : List (CameraSensorMetadata F)
  camera_id_map_ : List (List ℕ)

variable {F : Type} [Zero F] (strtof : Text → F)

/-- An element of the vector that nothing was stored to. -/
def CameraSensorMetadata.cleared : CameraSensorMetadata F where
  mplane := 0
  orientation := 0
  activearraywidth := 0
  activearrayheight := 0
  pixelarraywidth := 0
  pixelarrayheight := 0
  physicalwidth := 0
  physicalheight := 0
  focallength := 0
  camera_type := []
  camera_name := []
  device_node := []
  bus_info := []
  maxjpegsize := 0
  minframeduration := 0
  maxframeduration := 0
  minframeduration_blob_5M := 0
  omit_frame := []
  buffer_type := .kMmap
  v4l2_format := []
  mAeCompMin := 0
  mAeCompMax := 0
  mAeCompStepNumerator := 0
  mAeCompStepDenominator := 0
  mExposureNsMin := 0
  mExposureNsMax := 0
  mAvailableCapabilities := 0
  mMaxWidth := 0
  mMaxHeight := 0
  mMinWidth := 0
  mMinHeight := 0
  mGivenRes := []
  mPreviewBuffers := 0
  mLibcameraBuffers := 0
  mNeedDewarp := false
  mDewarpEng := .ENG_G2D

def CameraSensorMetadata.withType (type : Text) (m : CameraSensorMetadata F) : CameraSensorMetadata F :=
  { m with camera_type := type }

/-- The metadata of an entry, whose buffer type has to be known. -/
def static_meta (root : Entry) : Option (CameraSensorMetadata F) :=
  let o := root.member
  match ValueToCameraBufferType (asString o "buffer_type") with
  | none => none
  | some buffer_type => some
    { mplane := intOr o "mplane" 0
      orientation := intOf o "orientation"
      activearraywidth := intOf o "ActiveArrayWidth"
      activearrayheight := intOf o "ActiveArrayHeight"
      pixelarraywidth := intOf o "PixelArrayWidth"
      pixelarrayheight := intOf o "PixelArrayHeight"
      physicalwidth := strtof (asString o "PhysicalWidth")
      physicalheight := strtof (asString o "PhysicalHeight")
      focallength := strtof (asString o "FocalLength")
      camera_type := charArray ((o "camera_type").getD "physical".toList)
      camera_name := charArray ((o "camera_name").getD "logical".toList)
      device_node := charArray (asString o "device_node")
      bus_info := charArray (asString o "bus_info")
      maxjpegsize := intOf o "MaxJpegSize"
      minframeduration := strtol (asString o "MinFrameDuration")
      maxframeduration := strtol (asString o "MaxFrameDuration")
      minframeduration_blob_5M :=
        if endptr (asString o "MinFrameDurationBlob5M") = [] then longOr o "MinFrameDurationBlob5M" 0 else 0
      omit_frame := (root.OmitFrame.take OMIT_RESOLUTION_NUM).map fun x =>
        ⟨intOf x "width", intOf x "height", intOf x "omit_num"⟩
      buffer_type := buffer_type
      v4l2_format := charArray ((o "v4l2_format").getD "yuyv".toList)
      mAeCompMin := intOr o "ae_comp_min" (-3)
      mAeCompMax := intOr o "ae_comp_max" 3
      mAeCompStepNumerator := intOr o "ae_comp_step_nummerator" 1
      mAeCompStepDenominator := intOr o "ae_comp_step_denominator" 1
      mExposureNsMin := longOr o "exposure_ns_min" 1000
      mExposureNsMax := longOr o "exposure_ns_max" 300000000
      mAvailableCapabilities := intOr o "AvailableCapabilities" 0
      mMaxWidth := intOr o "MaxWidth" INT_MAX
      mMaxHeight := intOr o "MaxHeight" INT_MAX
      mMinWidth := intOr o "MinWidth" 0
      mMinHeight := intOr o "MinHeight" 0
      mGivenRes := (root.GivenRes.take GIVEN_RESOLUTION_NUM).map fun x => ⟨intOf x "width", intOf x "height"⟩
      mPreviewBuffers := longOr o "PreviewBuffers" 3 % 2 ^ 32
      mLibcameraBuffers := longOr o "LibcameraBuffers" 3 % 2 ^ 32
      mNeedDewarp := intOr o "NeedDewarp" 0 ≠ 0
      mDewarpEng :=
        match o "DewarpEng" with
        | some value => ValueToImxEngine value
        | none => .ENG_OCLCVT }

/-! ### The two passes -/

/-- `none` where the metadata is stored behind the vector. -/
def ParseCharacteristics (camera : CameraDefinition F) (root : Entry) (id : ℕ) :
    Option (CameraDefinition F × Bool) :=
  match static_meta strtof root with
  | none => some (camera, false)
  | some m =>
    if id < camera.camera_metadata_vec.length then
      some ({ camera with camera_metadata_vec := camera.camera_metadata_vec.set id m }, true)
    else none

/-- The first loop: whether an entry could be parsed is not asked. The keys of the map are its positions. -/
def parseEntries : List Entry → ℕ → CameraDefinition F → Option (CameraDefinition F)
  | [], _, camera => some camera
  | root :: rest, camera_id, camera =>
    match ParseCharacteristics strtof camera root camera_id with
    | none => none
    | some (camera, _) =>
      parseEntries rest (camera_id + 1) { camera with camera_id_map_ := camera.camera_id_map_ ++ [[]] }

/-- The search from the beginning of the vector over `n` elements; `none` where it reads behind the vector. -/
def search (name : Text) : List (CameraSensorMetadata F) → ℕ → Option (Option (CameraSensorMetadata F))
  | _, 0 => some none
  | [], _ + 1 => none
  | m :: vec, n + 1 => if m.camera_name = name then some (some m) else search name vec n

def mapName (camera_index : ℕ) (camera : CameraDefinition F) (name : Text) : Option (CameraDefinition F) :=
  match search (c_str name) camera.camera_metadata_vec camera.camera_id_map_.length with
  | none => none
  | some none => some camera
  | some (some temp) =>
    match camera.camera_metadata_vec[camera_index]? with
    | none => none
    | some logical =>
      some { camera with
        camera_metadata_vec := camera.camera_metadata_vec ++
          [temp.withType (charArray logical.camera_type)]
        camera_id_map_ :=
          camera.camera_id_map_.modify camera_index (· ++ [camera.camera_metadata_vec.length]) }

/-- The names of an entry that has at least two. -/
def physicalNames (root : Entry) : List Text :=
  match root.PhysicalNames with
  | some names => if 2 ≤ names.length then names else []
  | none => []

/-- The second loop. -/
def mapEntries : List Entry → ℕ → CameraDefinition F → Option (CameraDefinition F)
  | [], _, camera => some camera
  | root :: rest, camera_index, camera =>
    match (physicalNames root).foldlM (mapName camera_index) camera with
    | none => none
    | some camera => mapEntries rest (camera_index + 1) camera

def ConfigureCameras (value : Configuration) (camera : CameraDefinition F) : Option (CameraDefinition F × Bool) :=
  if !value.isObject then some (camera, false)
  else
    match value.member "hal_version" with
    | none => some (camera, true)
    | some hal_version =>
      let camera := { camera with hal_version := ValueToCameraHalVersion hal_version }
      if camera.hal_version ≠ .kHalV3 then some (camera, false)
      else
        match value.member "cam_blit_copy" with
        | none => some (camera, true)
        | some copy =>
          let camera := { camera with cam_blit_copy_hw := ValueToImxEngine copy }
          match value.member "cam_blit_csc" with
          | none => some (camera, true)
          | some csc =>
            let camera := { camera with
              cam_blit_csc_hw := ValueToImxEngine csc
              jpeg_hw := (value.member "hw_jpeg_enc").getD camera.jpeg_hw
              mUseCpuEncoder := intOr value.member "use_cpu_encoder" 0 }
            match parseEntries strtof value.camera_metadata 0 camera with
            | none => none
            | some camera => (mapEntries value.camera_metadata 0 camera).map fun camera => (camera, true)

/-- A file that cannot be read or parsed is `none`. The vector and the map of a new parser are empty. -/
def Init (mcamera_ : CameraDefinition F) (root : Option Configuration) : Option (CameraDefinition F × Bool) :=
  let camera := { mcamera_ with
    camera_metadata_vec := List.replicate MAX_BASIC_CAMERA_NUM .cleared
    camera_id_map_ := [] }
  match root with
  | none => some (camera, false)
  | some root => ConfigureCameras strtof root camera

/-! ### What the configuration means -/

/-- It is one of version 3 and has the keys without which its cameras are not read. -/
def Complete (value : Configuration) : Prop :=
  value.isObject = true ∧ (∃ v, value.member "hal_version" = some v ∧ ValueToCameraHalVersion v = .kHalV3) ∧
    (value.member "cam_blit_copy").isSome ∧ (value.member "cam_blit_csc").isSome

/-- The metadata of an entry, cleared if it is malformed. -/
def metadataOf (root : Entry) : CameraSensorMetadata F := (static_meta strtof root).getD .cleared

/-- The name of an entry in full. -/
def nameOf (root : Entry) : Text := c_str ((root.member "camera_name").getD "logical".toList)

/-- The first camera that is configured under the name. -/
def configured (entries : List Entry) (name : Text) : Option (CameraSensorMetadata F) :=
  (entries.find? fun root => (static_meta strtof root).isSome ∧ nameOf root = c_str name).map (metadataOf strtof)

/-- The first entry whose metadata has the name: a stored name has at most 31 bytes, and that of a malformed
    entry is empty. -/
def stored (entries : List Entry) (name : Text) : Option (CameraSensorMetadata F) :=
  (entries.map (metadataOf strtof)).find? fun m => m.camera_name = c_str name

/-- Copies for the physical names of an entry, with its type. -/
def copies (lookup : Text → Option (CameraSensorMetadata F)) (root : Entry) : List (CameraSensorMetadata F) :=
  ((physicalNames root).filterMap lookup).map (.withType (metadataOf strtof root).camera_type)

structure Mapped (entries : List Entry) (camera : CameraDefinition F) : Prop where
  basic : ∀ (i : ℕ) (root : Entry), entries[i]? = some root → camera.camera_metadata_vec[i]? = some (metadataOf strtof root)
  ids : camera.camera_id_map_.length = entries.length
  physical : ∀ (i : ℕ) (root : Entry), entries[i]? = some root → ∃ ids, camera.camera_id_map_[i]? = some ids ∧
    ids.map (camera.camera_metadata_vec[·]?) = (copies strtof (configured strtof entries) root).map some
  fresh : camera.camera_id_map_.flatten.Nodup ∧ ∀ id ∈ camera.camera_id_map_.flatten, entries.length ≤ id

/-- A complete configuration is stored in the vector and mapped as it says. -/
def MappedRight (mcamera_ : CameraDefinition F) (value : Configuration) : Prop :=
  Complete value → ∃ camera, Init strtof mcamera_ (some value) = some (camera, true) ∧
    Mapped strtof value.camera_metadata camera

/-- The condition. -/
def Fits (value : Configuration) : Prop :=
  Complete value → value.camera_metadata.length ≤ MAX_BASIC_CAMERA_NUM ∧
    ∀ root ∈ value.camera_metadata, copies strtof (stored strtof value.camera_metadata) root =
      copies strtof (configured strtof value.camera_metadata) root

/-! ### Texts -/

theorem c_str_charArray (text : Text) : c_str (charArray text) = charArray text := by
  refine List.takeWhile_eq_self_iff.mpr fun c hc => ?_
  have htext := List.mem_takeWhile_imp (List.mem_of_mem_take hc)
  exact htext

theorem charArray_charArray (text : Text) : charArray (charArray text) = charArray text := by
  rw [charArray, c_str_charArray, charArray, List.take_take, min_self]

theorem charArray_type (root : Entry) :
    charArray (metadataOf strtof root).camera_type = (metadataOf strtof root).camera_type := by
  rw [metadataOf, static_meta]
  cases ValueToCameraBufferType (asString root.member "buffer_type") with
  | none => rfl
  | some b => exact charArray_charArray _

omit [Zero F] in
/-- The stored name of an entry that could be parsed is the beginning of its name. -/
theorem name_stored {root : Entry} {m : CameraSensorMetadata F} (h : static_meta strtof root = some m) :
    m.camera_name = (nameOf root).take (META_STRING_SIZE - 1) := by
  rw [static_meta] at h
  cases hb : ValueToCameraBufferType (asString root.member "buffer_type") with
  | none => simp [hb] at h
  | some b =>
    simp only [hb, Option.some.injEq] at h
    rw [← h]
    rfl

/-- A name of 1 to 30 bytes finds the camera that is configured under it. -/
theorem stored_eq_configured (entries : List Entry) {name : Text} (hne : c_str name ≠ [])
    (hlen : (c_str name).length < META_STRING_SIZE - 1) :
    stored strtof entries name = configured strtof entries name := by
  induction entries with
  | nil => rfl
  | cons root rest ih =>
    rw [stored, configured] at ih ⊢
    rw [List.map_cons, List.find?_cons, List.find?_cons]
    cases hm : (static_meta strtof root : Option (CameraSensorMetadata F)) with
    | none =>
      have hname : (metadataOf strtof root : CameraSensorMetadata F).camera_name ≠ c_str name := by
        rw [metadataOf, hm]
        exact fun heq => hne heq.symm
      simpa [hname] using ih
    | some m =>
      have hname : (metadataOf strtof root).camera_name = (nameOf root).take (META_STRING_SIZE - 1) := by
        rw [metadataOf, hm]
        exact name_stored strtof hm
      by_cases heq : nameOf root = c_str name
      · have htake : (metadataOf strtof root).camera_name = c_str name := by
          rw [hname, heq, List.take_of_length_le hlen.le]
        simp [htake, heq]
      · have htake : (metadataOf strtof root).camera_name ≠ c_str name := by
          rw [hname]
          intro hcon
          have hshort : (nameOf root).length ≤ META_STRING_SIZE - 1 := by
            rw [← hcon, List.length_take] at hlen
            omega
          rw [List.take_of_length_le hshort] at hcon
          exact heq hcon
        simpa [htake, heq] using ih

/-! ### The first pass -/

/-- An entry that could not be parsed leaves what is cleared. -/
theorem ParseCharacteristics_vec {camera : CameraDefinition F} {done rest : List (CameraSensorMetadata F)}
    (hvec : camera.camera_metadata_vec = done ++ .cleared :: rest) (root : Entry) :
    ∃ ret, ParseCharacteristics strtof camera root done.length =
      some ({ camera with camera_metadata_vec := done ++ metadataOf strtof root :: rest }, ret) := by
  rw [ParseCharacteristics, metadataOf]
  cases static_meta strtof root with
  | none => exact ⟨false, by rw [Option.getD_none, ← hvec]⟩
  | some m =>
    have hlt : done.length < camera.camera_metadata_vec.length := by
      rw [hvec, List.length_append, List.length_cons]
      omega
    have hset : camera.camera_metadata_vec.set done.length m = done ++ m :: rest := by
      rw [hvec, List.set_append_right _ _ (le_refl _), Nat.sub_self, List.set_cons_zero]
    exact ⟨true, by simp only [hlt, if_true, hset, Option.getD_some]⟩

/-- As long as there is room, the metadata stands at the position of the entry. -/
theorem parseEntries_eq {entries : List Entry} {camera : CameraDefinition F} {done : List (CameraSensorMetadata F)}
    {n : ℕ} (hvec : camera.camera_metadata_vec = done ++ List.replicate (entries.length + n) .cleared) :
    parseEntries strtof entries done.length camera = some { camera with
      camera_metadata_vec := done ++ entries.map (metadataOf strtof) ++ List.replicate n .cleared
      camera_id_map_ := camera.camera_id_map_ ++ List.replicate entries.length [] } := by
  induction entries generalizing camera done with
  | nil =>
    rw [List.length_nil, Nat.zero_add] at hvec
    simp [parseEntries, ← hvec]
  | cons root rest ih =>
    rw [List.length_cons, Nat.add_right_comm, List.replicate_succ] at hvec
    obtain ⟨ret, hparse⟩ := ParseCharacteristics_vec strtof hvec root
    have hlen : done.length + 1 = (done ++ [metadataOf strtof root]).length := by simp
    rw [parseEntries, hparse]
    simp only [hlen]
    rw [ih (by simp)]
    simp [List.replicate_succ]

omit [Zero F] in
/-- The vector is as long as before, whatever the number of entries. -/
theorem parseEntries_length {entries : List Entry} {camera camera' : CameraDefinition F} {id : ℕ}
    (h : parseEntries strtof entries id camera = some camera') :
    camera'.camera_metadata_vec.length = camera.camera_metadata_vec.length ∧
      camera'.camera_id_map_ = camera.camera_id_map_ ++ List.replicate entries.length [] := by
  induction entries generalizing camera id with
  | nil =>
    obtain rfl : camera = camera' := Option.some.inj h
    simp
  | cons root rest ih =>
    rw [parseEntries, ParseCharacteristics] at h
    cases hm : (static_meta strtof root : Option (CameraSensorMetadata F)) with
    | none =>
      simp only [hm] at h
      obtain ⟨hvec, hmap⟩ := ih h
      exact ⟨hvec, by simp [hmap, List.replicate_succ]⟩
    | some m =>
      simp only [hm] at h
      by_cases hlt : id < camera.camera_metadata_vec.length
      · simp only [hlt, if_true] at h
        obtain ⟨hvec, hmap⟩ := ih h
        exact ⟨by simp [hvec], by simp [hmap, List.replicate_succ]⟩
      · simp [hlt] at h

/-! ### The second pass -/

omit [Zero F] in
theorem search_eq (name : Text) {vec : List (CameraSensorMetadata F)} {n : ℕ} (hn : n ≤ vec.length) :
    search name vec n = some ((vec.take n).find? fun m => m.camera_name = name) := by
  induction vec generalizing n with
  | nil =>
    obtain rfl : n = 0 := by simpa using hn
    rfl
  | cons m vec ih =>
    cases n with
    | zero => rfl
    | succ n =>
      rw [search, List.take_succ_cons, List.find?_cons, ih (by simpa using hn)]
      by_cases hname : m.camera_name = name <;> simp [hname]

/-- Consecutive ids for the elements of each list. -/
def blocks {α : Type} : ℕ → List (List α) → List (List ℕ)
  | _, [] => []
  | start, xs :: rest => List.range' start xs.length :: blocks (start + xs.length) rest

theorem blocks_length {α : Type} (start : ℕ) (xss : List (List α)) : (blocks start xss).length = xss.length := by
  induction xss generalizing start with
  | nil => rfl
  | cons xs rest ih => rw [blocks, List.length_cons, ih, List.length_cons]

theorem blocks_flatten {α : Type} (start : ℕ) (xss : List (List α)) :
    (blocks start xss).flatten = List.range' start xss.flatten.length := by
  induction xss generalizing start with
  | nil => rfl
  | cons xs rest ih =>
    rw [blocks, List.flatten_cons, ih, List.flatten_cons, List.length_append, List.range'_append_1]

/-- The ids of a list lead to its elements. -/
theorem blocks_get {α : Type} (front : List α) {xss : List (List α)} {i : ℕ} {xs : List α} (h : xss[i]? = some xs) :
    ∃ ids, (blocks front.length xss)[i]? = some ids ∧ ids.map ((front ++ xss.flatten)[·]?) = xs.map some := by
  induction xss generalizing front i with
  | nil => simp at h
  | cons ys rest ih =>
    cases i with
    | zero =>
      obtain rfl : ys = xs := by simpa using h
      refine ⟨_, rfl, List.ext_getElem (by simp) fun k hk hk' => ?_⟩
      have hlt : k < ys.length := by simpa using hk
      simp [List.getElem_range', List.getElem?_append, hlt]
    | succ i =>
      obtain ⟨ids, hids, hmap⟩ := ih (front ++ ys) (by simpa using h)
      refine ⟨ids, by simpa [blocks, List.length_append] using hids, ?_⟩
      simpa [List.append_assoc] using hmap

/-- The front of the vector holds the metadata of the entries, and the map has their ids. -/
structure Parsed (entries : List Entry) (camera : CameraDefinition F) : Prop where
  front : camera.camera_metadata_vec.take entries.length = entries.map (metadataOf strtof)
  ids : camera.camera_id_map_.length = entries.length

theorem Parsed.length_le {entries : List Entry} {camera : CameraDefinition F} (h : Parsed strtof entries camera) :
    entries.length ≤ camera.camera_metadata_vec.length := by
  have hlen := congrArg List.length h.front
  rw [List.length_take, List.length_map] at hlen
  omega

theorem Parsed.get {entries : List Entry} {camera : CameraDefinition F} (h : Parsed strtof entries camera) {i : ℕ}
    {root : Entry} (hroot : entries[i]? = some root) :
    camera.camera_metadata_vec[i]? = some (metadataOf strtof root) := by
  have hlt : i < entries.length := (List.getElem?_eq_some_iff.mp hroot).1
  rw [← List.getElem?_take_of_lt hlt, h.front, List.getElem?_map, hroot, Option.map_some]

/-- New cameras at the end of the vector, with their ids in the list of entry `i`. -/
def CameraDefinition.push (camera : CameraDefinition F) (i : ℕ) (new : List (CameraSensorMetadata F)) :
    CameraDefinition F :=
  { camera with
    camera_metadata_vec := camera.camera_metadata_vec ++ new
    camera_id_map_ :=
      camera.camera_id_map_.modify i (· ++ List.range' camera.camera_metadata_vec.length new.length) }

omit [Zero F] in
theorem push_nil (camera : CameraDefinition F) (i : ℕ) : camera.push i [] = camera := by
  have hid : (fun ids : List ℕ => ids ++ List.range' camera.camera_metadata_vec.length 0) = id := by
    funext ids
    simp
  simp only [CameraDefinition.push, List.append_nil, List.length_nil, hid, List.modify_id]

omit [Zero F] in
theorem push_push (camera : CameraDefinition F) (i : ℕ) (new more : List (CameraSensorMetadata F)) :
    (camera.push i new).push i more = camera.push i (new ++ more) := by
  have hids : ((fun ids => ids ++ List.range' (camera.camera_metadata_vec ++ new).length more.length) ∘
      fun ids : List ℕ => ids ++ List.range' camera.camera_metadata_vec.length new.length) =
      fun ids => ids ++ List.range' camera.camera_metadata_vec.length (new ++ more).length := by
    funext ids
    simp [List.range'_append_1]
  simp only [CameraDefinition.push, List.modify_modify_eq, hids, List.append_assoc]

theorem Parsed.push {entries : List Entry} {camera : CameraDefinition F} (h : Parsed strtof entries camera) (i : ℕ)
    (new : List (CameraSensorMetadata F)) : Parsed strtof entries (camera.push i new) :=
  ⟨by rw [CameraDefinition.push, List.take_append_of_le_length h.length_le, h.front],
    by rw [CameraDefinition.push, List.length_modify, h.ids]⟩

/-- One name: what is found is appended with the type of the entry. -/
theorem mapName_eq {entries : List Entry} {camera : CameraDefinition F} (h : Parsed strtof entries camera) {i : ℕ}
    {root : Entry} (hroot : entries[i]? = some root) (name : Text) :
    mapName i camera name = some (camera.push i
      ((stored strtof entries name).map (.withType (metadataOf strtof root).camera_type)).toList) := by
  have hsearch : search (c_str name) camera.camera_metadata_vec camera.camera_id_map_.length =
      some (stored strtof entries name) := by
    rw [h.ids, search_eq (c_str name) h.length_le, h.front]
    rfl
  rw [mapName, hsearch]
  cases stored strtof entries name with
  | none => rw [Option.map_none, Option.toList_none, push_nil]
  | some m =>
    simp only [h.get strtof hroot, charArray_type]
    rfl

theorem mapNames_eq {entries : List Entry} {i : ℕ} {root : Entry} (hroot : entries[i]? = some root)
    (names : List Text) {camera : CameraDefinition F} (h : Parsed strtof entries camera) :
    names.foldlM (mapName i) camera = some (camera.push i
      ((names.filterMap (stored strtof entries)).map (.withType (metadataOf strtof root).camera_type))) := by
  induction names generalizing camera with
  | nil => exact congrArg some (push_nil camera i).symm
  | cons name names ih =>
    rw [List.foldlM_cons, mapName_eq strtof h hroot name]
    refine (ih (h.push strtof i _)).trans ?_
    rw [push_push]
    cases hstored : stored strtof entries name <;> simp [hstored]

theorem modify_at {α : Type} (f : α → α) (xs : List α) (x : α) (ys : List α) :
    (xs ++ x :: ys).modify xs.length f = xs ++ f x :: ys := by
  induction xs with
  | nil => rfl
  | cons y xs ih => simpa using ih

/-- The second pass appends the copies of one entry after the other. -/
theorem mapEntries_eq (done : List Entry) {entries rest : List Entry} (hentries : entries = done ++ rest)
    {camera : CameraDefinition F} (h : Parsed strtof entries camera) (ids : List (List ℕ))
    (hlen : ids.length = done.length) (hids : camera.camera_id_map_ = ids ++ List.replicate rest.length []) :
    mapEntries rest done.length camera = some { camera with
      camera_metadata_vec := camera.camera_metadata_vec ++
        (rest.map (copies strtof (stored strtof entries))).flatten
      camera_id_map_ := ids ++
        blocks camera.camera_metadata_vec.length (rest.map (copies strtof (stored strtof entries))) } := by
  induction rest generalizing done camera ids with
  | nil =>
    rw [List.length_nil, List.replicate_zero] at hids
    simp [mapEntries, blocks, ← hids]
  | cons root rest ih =>
    have hroot : entries[done.length]? = some root := by simp [hentries]
    have hnext := h.push strtof done.length (copies strtof (stored strtof entries) root)
    have hmap : (camera.push done.length (copies strtof (stored strtof entries) root)).camera_id_map_ =
        (ids ++ [List.range' camera.camera_metadata_vec.length (copies strtof (stored strtof entries) root).length]) ++
          List.replicate rest.length [] := by
      rw [CameraDefinition.push, hids, ← hlen, List.length_cons, List.replicate_succ, modify_at]
      simp
    have hdone : done.length + 1 = (done ++ [root]).length := by simp
    rw [mapEntries, mapNames_eq strtof hroot _ h]
    change mapEntries rest (done.length + 1) (camera.push done.length (copies strtof (stored strtof entries) root)) = _
    rw [hdone, ih _ (by simp [hentries]) hnext _ (by simp [hlen]) hmap]
    simp [CameraDefinition.push, blocks]

/-- The first id that is given out is `n`. -/
structure From (n : ℕ) (camera : CameraDefinition F) : Prop where
  le : n ≤ camera.camera_metadata_vec.length
  out : camera.camera_metadata_vec.length = n ∨ n ∈ camera.camera_id_map_.flatten

omit [Zero F] in
theorem mem_modify {n k i : ℕ} {ids : List (List ℕ)} (hi : i < ids.length) :
    (n = k ∨ n ∈ ids.flatten) → n ∈ (ids.modify i (· ++ [k])).flatten := by
  intro h
  rw [List.mem_flatten]
  rcases h with rfl | h
  · exact ⟨ids[i] ++ [n], List.mem_of_getElem? (by rw [List.getElem?_modify_eq, List.getElem?_eq_getElem hi]; rfl),
      by simp⟩
  · obtain ⟨row, hrow, hn⟩ := List.mem_flatten.mp h
    obtain ⟨j, hj⟩ := List.mem_iff_getElem?.mp hrow
    refine ⟨if i = j then row ++ [k] else row, List.mem_of_getElem? (by rw [List.getElem?_modify, hj]; rfl), ?_⟩
    split_ifs
    · exact List.mem_append_left _ hn
    · exact hn

omit [Zero F] in
theorem mapName_from {camera camera' : CameraDefinition F} {i n : ℕ} {name : Text}
    (hi : i < camera.camera_id_map_.length) (hfrom : From n camera) (h : mapName i camera name = some camera') :
    camera'.camera_id_map_.length = camera.camera_id_map_.length ∧ From n camera' := by
  rw [mapName] at h
  split at h
  · cases h
  · obtain rfl := Option.some.inj h
    exact ⟨rfl, hfrom⟩
  · split at h
    · cases h
    · obtain rfl := Option.some.inj h
      refine ⟨List.length_modify .., ?_, .inr (mem_modify hi (hfrom.out.imp_left Eq.symm))⟩
      have hle := hfrom.le
      simp only [List.length_append, List.length_cons]
      omega

omit [Zero F] in
theorem mapNames_from {camera camera' : CameraDefinition F} {i n : ℕ} {names : List Text}
    (hi : i < camera.camera_id_map_.length) (hfrom : From n camera)
    (h : names.foldlM (mapName i) camera = some camera') :
    camera'.camera_id_map_.length = camera.camera_id_map_.length ∧ From n camera' := by
  induction names generalizing camera with
  | nil =>
    obtain rfl := Option.some.inj h
    exact ⟨rfl, hfrom⟩
  | cons name names ih =>
    rw [List.foldlM_cons] at h
    obtain ⟨mid, hmid, hrest⟩ := Option.bind_eq_some_iff.mp h
    obtain ⟨hlen, hfrom'⟩ := mapName_from hi hfrom hmid
    obtain ⟨hlen', hfrom''⟩ := ih (by rwa [hlen]) hfrom' hrest
    exact ⟨hlen'.trans hlen, hfrom''⟩

omit [Zero F] in
theorem mapEntries_from {rest : List Entry} {camera camera' : CameraDefinition F} {i n : ℕ}
    (hi : i + rest.length ≤ camera.camera_id_map_.length) (hfrom : From n camera)
    (h : mapEntries rest i camera = some camera') : From n camera' := by
  induction rest generalizing camera i with
  | nil =>
    obtain rfl := Option.some.inj h
    exact hfrom
  | cons root rest ih =>
    rw [List.length_cons] at hi
    rw [mapEntries] at h
    split at h
    · cases h
    · next mid hmid =>
      obtain ⟨hlen, hfrom'⟩ := mapNames_from (by omega) hfrom hmid
      exact ih (by omega) hfrom' h

/-! ### The configuration is stored and mapped -/

section
variable (mcamera_ : CameraDefinition F) (value : Configuration)

/-- What the first pass starts from, in a complete configuration. -/
def header : CameraDefinition F where
  hal_version := ValueToCameraHalVersion (asString value.member "hal_version")
  cam_blit_copy_hw := ValueToImxEngine (asString value.member "cam_blit_copy")
  cam_blit_csc_hw := ValueToImxEngine (asString value.member "cam_blit_csc")
  jpeg_hw := (value.member "hw_jpeg_enc").getD mcamera_.jpeg_hw
  mUseCpuEncoder := intOr value.member "use_cpu_encoder" 0
  camera_metadata_vec := List.replicate MAX_BASIC_CAMERA_NUM .cleared
  camera_id_map_ := []

theorem Init_complete {value : Configuration} (h : Complete value) :
    Init strtof mcamera_ (some value) =
      match parseEntries strtof value.camera_metadata 0 (header mcamera_ value) with
      | none => none
      | some camera => (mapEntries value.camera_metadata 0 camera).map fun camera => (camera, true) := by
  obtain ⟨hobject, ⟨v, hv, hversion⟩, hcopy, hcsc⟩ := h
  obtain ⟨copy, hcopy⟩ := Option.isSome_iff_exists.mp hcopy
  obtain ⟨csc, hcsc⟩ := Option.isSome_iff_exists.mp hcsc
  simp [Init, ConfigureCameras, header, hobject, hv, hversion, hcopy, hcsc, asString]

/-- With room for all entries, the result is known. -/
theorem Init_fits {value : Configuration} (h : Complete value)
    (hfits : value.camera_metadata.length ≤ MAX_BASIC_CAMERA_NUM) :
    let entries := value.camera_metadata
    let new := entries.map (copies strtof (stored strtof entries))
    Init strtof mcamera_ (some value) = some ({ header mcamera_ value with
      camera_metadata_vec := (entries.map (metadataOf strtof) ++
        List.replicate (MAX_BASIC_CAMERA_NUM - entries.length) .cleared) ++ new.flatten
      camera_id_map_ := blocks MAX_BASIC_CAMERA_NUM new }, true) := by
  obtain ⟨n, hn⟩ := Nat.exists_eq_add_of_le hfits
  have hvec : (header mcamera_ value).camera_metadata_vec =
      [] ++ List.replicate (value.camera_metadata.length + n) .cleared := by
    rw [header, hn, List.nil_append]
  have hparse := parseEntries_eq strtof hvec
  rw [List.length_nil] at hparse
  have hfront : Parsed strtof value.camera_metadata { header mcamera_ value with
      camera_metadata_vec := [] ++ value.camera_metadata.map (metadataOf strtof) ++ List.replicate n .cleared
      camera_id_map_ := (header mcamera_ value).camera_id_map_ ++ List.replicate value.camera_metadata.length [] } :=
    ⟨by simp, by simp [header]⟩
  have hmap := mapEntries_eq strtof [] rfl hfront [] rfl (by simp [header])
  rw [List.length_nil] at hmap
  rw [Init_complete strtof mcamera_ h, hparse]
  simp only [hmap]
  simp [hn]

/-- The cameras that the ids of an entry lead to. -/
theorem Init_physical {value : Configuration} (hfits : value.camera_metadata.length ≤ MAX_BASIC_CAMERA_NUM) {i : ℕ}
    {root : Entry} (hroot : value.camera_metadata[i]? = some root) :
    let entries := value.camera_metadata
    let new := entries.map (copies strtof (stored strtof entries))
    let front := entries.map (metadataOf strtof) ++ List.replicate (MAX_BASIC_CAMERA_NUM - entries.length) .cleared
    ∃ ids, (blocks MAX_BASIC_CAMERA_NUM new)[i]? = some ids ∧
      ids.map ((front ++ new.flatten)[·]?) = (copies strtof (stored strtof entries) root).map some := by
  have hfront : (value.camera_metadata.map (metadataOf strtof) ++
      List.replicate (MAX_BASIC_CAMERA_NUM - value.camera_metadata.length)
        (CameraSensorMetadata.cleared : CameraSensorMetadata F)).length =
      MAX_BASIC_CAMERA_NUM := by
    rw [List.length_append, List.length_map, List.length_replicate, Nat.add_sub_cancel' hfits]
  have hget := blocks_get (value.camera_metadata.map (metadataOf strtof) ++
    List.replicate (MAX_BASIC_CAMERA_NUM - value.camera_metadata.length) .cleared)
    (show (value.camera_metadata.map (copies strtof (stored strtof value.camera_metadata)))[i]? = some _ by
      rw [List.getElem?_map, hroot, Option.map_some])
  rwa [hfront] at hget

/-- More entries than there is room for are never mapped right. -/
theorem room_of_mapped {value : Configuration} (hcomplete : Complete value) {camera : CameraDefinition F}
    (hinit : Init strtof mcamera_ (some value) = some (camera, true))
    (hmapped : Mapped strtof value.camera_metadata camera) :
    value.camera_metadata.length ≤ MAX_BASIC_CAMERA_NUM := by
  by_contra hmore
  rw [Init_complete strtof mcamera_ hcomplete] at hinit
  cases hparse : parseEntries strtof value.camera_metadata 0 (header mcamera_ value) with
  | none => simp [hparse] at hinit
  | some mid =>
    simp only [hparse, Option.map_eq_some_iff, Prod.mk.injEq, and_true, exists_eq_right] at hinit
    obtain ⟨hvec, hids⟩ := parseEntries_length strtof hparse
    have hlen : mid.camera_metadata_vec.length = MAX_BASIC_CAMERA_NUM := by simpa [header] using hvec
    have hfrom := mapEntries_from (by simp [hids, header]) ⟨hlen.ge, .inl hlen⟩ hinit
    rcases hfrom.out with hshort | hmem
    · have hroot := List.getElem?_eq_getElem (l := value.camera_metadata) (not_le.mp hmore)
      have hbasic := hmapped.basic MAX_BASIC_CAMERA_NUM _ hroot
      rw [List.getElem?_eq_none hshort.le] at hbasic
      cases hbasic
    · exact hmore (hmapped.fresh.2 _ hmem)

/-- A complete configuration is stored and mapped right if and only if there is room for its entries and the
    stored names find the cameras that are configured. -/
theorem mapped_iff : MappedRight strtof mcamera_ value ↔ Fits strtof value := by
  refine ⟨fun h hcomplete => ?_, fun h hcomplete => ?_⟩
  · obtain ⟨camera, hinit, hmapped⟩ := h hcomplete
    have hroom := room_of_mapped strtof mcamera_ hcomplete hinit hmapped
    refine ⟨hroom, fun root hroot => ?_⟩
    obtain ⟨i, hi⟩ := List.mem_iff_getElem?.mp hroot
    obtain ⟨ids, hids, hcopies⟩ := hmapped.physical i root hi
    obtain ⟨ids', hids', hcopies'⟩ := Init_physical strtof hroom hi
    rw [Init_fits strtof mcamera_ hcomplete hroom] at hinit
    obtain ⟨rfl, -⟩ := Prod.mk.inj (Option.some.inj hinit)
    obtain rfl : ids' = ids := Option.some.inj (hids'.symm.trans hids)
    exact List.map_injective_iff.mpr (Option.some_injective _) (hcopies'.symm.trans hcopies)
  · obtain ⟨hroom, hnames⟩ := h hcomplete
    refine ⟨_, Init_fits strtof mcamera_ hcomplete hroom, ?_, ?_, ?_, ?_⟩
    · intro i root hroot
      obtain ⟨hlt, rfl⟩ := List.getElem?_eq_some_iff.mp hroot
      simp [hlt, Nat.lt_add_right]
    · simp [blocks_length]
    · intro i root hroot
      obtain ⟨ids, hids, hcopies⟩ := Init_physical strtof hroom hroot
      exact ⟨ids, hids, by rw [← hnames root (List.mem_of_getElem? hroot)]; exact hcopies⟩
    · rw [blocks_flatten]
      refine ⟨List.nodup_range', fun id hid => ?_⟩
      have hle := (List.mem_range'_1.mp hid).1
      omega

end

/-- A camera for each of 25 entries. -/
def crowd : Configuration where
  isObject := true
  member
    | "hal_version" => some ['3']
    | "cam_blit_copy" => some ['D', 'P', 'U']
    | "cam_blit_csc" => some ['C', 'P', 'U']
    | _ => none
  camera_metadata := List.replicate 25
    { member := fun key => if key = "buffer_type" then some ['d', 'm', 'a'] else none
      PhysicalNames := none
      GivenRes := []
      OmitFrame := [] }

theorem crowd_complete : Complete crowd := ⟨rfl, ⟨['3'], rfl, by decide⟩, rfl, rfl⟩

/-- The last of 25 cameras has no place in the vector. -/
theorem crowd_not_mapped :
    ¬ MappedRight (fun _ => (0 : ℕ)) ⟨.kHalV1, .ENG_G2D, .ENG_G2D, [], 0, [], []⟩ crowd := by
  intro h
  obtain ⟨camera, hinit, hmapped⟩ := h crowd_complete
  exact absurd (room_of_mapped _ _ crowd_complete hinit hmapped) (by decide)

end ImxHal.CameraConfiguration
