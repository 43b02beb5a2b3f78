import ImxHal.Schemes.Footprint
import Mathlib.Data.List.GetD

/-! @src display/hwcomposer3/Edid.cpp, display/hwcomposer3/Edid.h, display/hwcomposer3/DrmConnector.cpp
    (loadEdid) | name:EDID parsing | scheme:footprint | family:memory safety

    An EDID is a base block of 128 bytes and the number of extension blocks that follow. The CEA extension
    among them holds data blocks, chained by their lengths, up to the first timing descriptor:

        0    1    2    3    4                                    d              127
        tag  rev  d    …    ┌ head ┬ data … ┐┌ head ┬ data … ┐   │ descriptors  sum
                            └ tag 3 bits, length 5 bits

    The search for the extension goes by the size of the vector. Neither the base block nor the chain
    does: `d` may be up to 255, and the last head may lie anywhere before it. -/

namespace ImxHal.Hwc3.Cea
open ImxHal.Footprint ImxHal.Footprint.Reader

abbrev Memory := ℕ → UInt8

abbrev Reading (α : Type) := Reader ℕ UInt8 α

def EDID_LENGTH : ℕ := 128
def CEA_EXTENSION : UInt8 := 0x02
def DATA_BLOCK_EXTENDED_TAG : UInt8 := 0x07
def HDR_STATIC_METADATA_BLOCK : UInt8 := 0x06
def SDR_DEFAULT_LUMINANCE : ℕ := 100
def EXTENSION_NUM : ℕ := 0x7e
def LEN_MASK : UInt8 := 0x1f
def TAG_SHIFT : UInt8 := 5

structure HdrMetaData where
  eotf : UInt8
  max_cll : ℕ
  max_fall : ℕ
  min_cll : ℕ
  deriving DecidableEq

structure Edid where
  mIsHdrSupported : Bool
  mHdrMetaData : HdrMetaData
  mIsValid : Bool
  mRawData : List UInt8
  mNumTypes : ℕ
  deriving DecidableEq

/-- The bits of the two transfer functions, `SMPTE_ST2084` and `BT_2100_HLG`, in an eotf mask. -/
structure EotfBits where
  SMPTE_ST2084 : ℕ
  BT_2100_HLG : ℕ

/-- The number of HDR types whose bit is set. -/
def EotfBits.getHdrSupportTypes (bits : EotfBits) (eotf : UInt8) : ℕ :=
  [bits.SMPTE_ST2084, bits.BT_2100_HLG].countP fun i => eotf.toNat.testBit i

/-! ### The functions of the class

Pointers are offsets from the first byte of the vector. -/

/-- The byte `p[i]`. -/
def at' (p i : ℕ) : Reading UInt8 := cell (p + i)

/-- The last byte is read first; then the others are summed up. -/
def isEdidValid (edid : Option ℕ) : Reading Bool :=
  match edid with
  | none => pure false
  | some edid => do
    let check ← at' edid (EDID_LENGTH - 1)
    let sum ← (List.range (EDID_LENGTH - 1)).foldlM (fun sum i => do
      let b ← at' edid i
      pure (sum + b)) 0
    pure (decide (check + sum = 0))

/-- The loop of `getCeaExtensionData` from extension `i` on, with `left` of them to come. -/
def findCea (edid size : ℕ) : (left i : ℕ) → Reading (Option ℕ)
  | 0, _ => pure none
  | left + 1, i =>
    if EDID_LENGTH * (i + 1) > size then pure none
    else do
      let edidExt := edid + EDID_LENGTH * i
      let valid ← isEdidValid (some edidExt)
      if valid = false then pure none
      else do
        let tag ← at' edidExt 0
        if tag ≠ CEA_EXTENSION then findCea edid size left (i + 1) else pure (some edidExt)

def getCeaExtensionData (edid size : ℕ) : Reading (Option ℕ) := do
  let extension_num ← at' edid EXTENSION_NUM
  findCea edid size extension_num.toNat 1

def getDataBlockLen (db : ℕ) : Reading ℕ := do
  let head ← at' db 0
  pure (head &&& LEN_MASK).toNat

def isHdrMetadataBlock (db : ℕ) : Reading Bool := do
  let head ← at' db 0
  if head >>> TAG_SHIFT ≠ DATA_BLOCK_EXTENDED_TAG then pure false
  else do
    let tag ← at' db 1
    pure (decide (tag = HDR_STATIC_METADATA_BLOCK))

def parseHdrMetadataBlock (db : ℕ) (meta' : HdrMetaData) : Reading HdrMetaData := do
  let len ← getDataBlockLen db
  let eotf ← at' db 2
  let meta' := { meta' with eotf := eotf }
  if len = 6 then do
    let cll ← at' db 4
    let fall ← at' db 5
    let min ← at' db 6
    pure { meta' with max_cll := cll.toNat, max_fall := fall.toNat, min_cll := min.toNat }
  else if len = 5 then do
    let cll ← at' db 4
    let fall ← at' db 5
    pure { meta' with max_cll := cll.toNat, max_fall := fall.toNat }
  else if len = 4 then do
    let cll ← at' db 4
    pure { meta' with max_cll := cll.toNat }
  else if len = 3 then do
    let sdr ← at' db 2
    if sdr &&& 1 ≠ 0 then
      pure { meta' with
        max_cll := SDR_DEFAULT_LUMINANCE
        max_fall := SDR_DEFAULT_LUMINANCE
        min_cll := SDR_DEFAULT_LUMINANCE }
    else pure meta'
  else pure meta'

/-- One data block: its length, and the members after it. -/
def parseDataBlock (bits : EotfBits) (ceaDb : ℕ) (e : Edid) : Reading (ℕ × Edid) := do
  let len ← getDataBlockLen ceaDb
  let hdr ← isHdrMetadataBlock ceaDb
  if hdr then do
    let meta' ← parseHdrMetadataBlock ceaDb e.mHdrMetaData
    pure (len, { e with
      mIsHdrSupported := true
      mHdrMetaData := meta'
      mNumTypes := bits.getHdrSupportTypes meta'.eotf })
  else pure (len, e)

/-- The loop over the data blocks, from offset `i` on; `none` if `fuel` rounds do not end it. -/
def parseDataBlocks (bits : EotfBits) (edidExt ceaDbLen : ℕ) :
    (fuel i : ℕ) → Edid → Reading (Option Edid)
  | 0, _, _ => pure none
  | fuel + 1, i, e =>
    if i < ceaDbLen then do
      let (len, e) ← parseDataBlock bits (edidExt + i) e
      parseDataBlocks bits edidExt ceaDbLen fuel (i + (len + 1)) e
    else pure (some e)

def parseCeaExtData (bits : EotfBits) (fuel edidExt : ℕ) (e : Edid) : Reading (Option Edid) := do
  let valid ← isEdidValid (some edidExt)
  if valid = false then pure (some e)
  else do
    let ceaDbLen ← at' edidExt 2
    parseDataBlocks bits edidExt ceaDbLen.toNat fuel 4 e

/-- `memcpy` of the base block. -/
def copyRaw (data : ℕ) : Reading (List UInt8) :=
  (List.range EDID_LENGTH).foldlM (fun raw i => do
    let b ← at' data i
    pure (raw ++ [b])) []

def emptyEdid : Edid := ⟨false, ⟨0, 0, 0, 0⟩, false, [], 0⟩

/-- `if (edidExt) parseCeaExtData(edidExt)`, on the members as they are initialised. -/
def parseExtension (bits : EotfBits) (fuel : ℕ) : Option ℕ → Reading (Option Edid)
  | none => pure (some emptyEdid)
  | some edidExt => parseCeaExtData bits fuel edidExt emptyEdid

/-- The constructor, on `data()` and the size of the vector. -/
def construct (bits : EotfBits) (fuel : ℕ) (data : Option ℕ) (size : ℕ) : Reading (Option Edid) := do
  let valid ← isEdidValid data
  if valid = false then pure (some emptyEdid)
  else do
    let edidExt ← getCeaExtensionData (data.getD 0) size
    let parsed ← parseExtension bits fuel edidExt
    let raw ← copyRaw (data.getD 0)
    pure (parsed.map fun e => { e with mRawData := raw, mIsValid := true })

/-- The last step of `loadEdid`: the size of the screen in millimetres, from the first timing descriptor;
    none if the preferred timing is missing. -/
def screenSize (edid : ℕ) : Reading (Option (ℕ × ℕ)) := do
  let descriptor := edid + 54
  let size : Reading (Option (ℕ × ℕ)) := do
    let w_mm_lsb ← at' descriptor 12
    let h_mm_lsb ← at' descriptor 13
    let w_and_h_mm_msb ← at' descriptor 14
    pure (some (w_mm_lsb.toNat ||| (w_and_h_mm_msb &&& 0xf0).toNat <<< 4,
      h_mm_lsb.toNat ||| (w_and_h_mm_msb &&& 0xf).toNat <<< 8))
  let first ← at' descriptor 0
  if first = 0 then do
    let second ← at' descriptor 1
    if second = 0 then pure none else size
  else size

/-- The vector in memory, with what stands behind it. -/
def inMemory (edid : List UInt8) (stray : Memory) : Memory := fun i => edid.getD i (stray i)

/-- `edid.data()`; that of an empty vector is `NULL`. -/
def dataOf (edid : List UInt8) : Option ℕ := if edid = [] then none else some 0

/-- `Edid::Edid`; the size is passed on as a `uint32_t`. -/
def Edid.new (bits : EotfBits) (fuel : ℕ) (edid : List UInt8) : Reading (Option Edid) :=
  construct bits fuel (dataOf edid) (edid.length % 2 ^ 32)

/-! ### What the vector has to hold -/

/-- The length in the head of a block. -/
def blockLen (m : Memory) (db : ℕ) : ℕ := (m db &&& LEN_MASK).toNat

/-- The bytes of a block that matter: its head, the second byte of an extended block, and the luminances
    of an HDR block as far as its length says. -/
def reach (m : Memory) (db : ℕ) : ℕ :=
  if m db >>> TAG_SHIFT ≠ DATA_BLOCK_EXTENDED_TAG then 1
  else if m (db + 1) ≠ HDR_STATIC_METADATA_BLOCK then 2
  else if blockLen m db = 6 then 7
  else if blockLen m db = 5 then 6
  else if blockLen m db = 4 then 5
  else 3

/-- The offsets of the blocks in front of the first descriptor. -/
def blockStarts (m : Memory) (edidExt ceaDbLen : ℕ) : (fuel i : ℕ) → List ℕ
  | 0, _ => []
  | fuel + 1, i =>
    if i < ceaDbLen then
      i :: blockStarts m edidExt ceaDbLen fuel (i + (blockLen m (edidExt + i) + 1))
    else []

/-- Every block in front of the first descriptor lies inside the vector, up to its last byte that
    matters. -/
def BlocksInside (m : Memory) (edidExt size : ℕ) : Prop :=
  ∀ i ∈ blockStarts m edidExt (m (edidExt + 2)).toNat 252 4,
    edidExt + i + reach m (edidExt + i) ≤ size

/-- The vector is empty or holds a base block, and a CEA extension of a valid one has its blocks
    inside. -/
def WellSized (edid : List UInt8) : Prop :=
  let m := inMemory edid fun _ => 0
  edid = [] ∨ EDID_LENGTH ≤ edid.length ∧
    (run m (isEdidValid (some 0)) = true →
      ∀ edidExt, run m (getCeaExtensionData 0 (edid.length % 2 ^ 32)) = some edidExt →
        BlocksInside m edidExt edid.length)

variable {m : Memory} {n : ℕ} {bits : EotfBits}

@[simp] theorem within_at {P : ℕ → Prop} (p i : ℕ) : Within P m (at' p i) ↔ P (p + i) :=
  within_cell (p + i)

@[simp] theorem run_at (p i : ℕ) : run m (at' p i) = m (p + i) := rfl

/-! ### Fixed blocks -/

/-- The sum runs over the whole block. -/
theorem within_isEdidValid (p : ℕ) :
    Within (· < n) m (isEdidValid (some p)) ↔ p + EDID_LENGTH ≤ n := by
  have hstep : ∀ (sum : UInt8) (i : ℕ), Within (· < n) m (do
      let b ← at' p i
      pure (sum + b)) ↔ p + i < n := fun sum i => by simp
  simp only [isEdidValid, within_bind, within_at, within_foldlM hstep, within_pure, and_true,
    List.mem_range, EDID_LENGTH]
  constructor
  · rintro ⟨hlast, -⟩
    omega
  · exact fun h => ⟨by omega, fun i hi => by omega⟩

theorem within_copyRaw (p : ℕ) : Within (· < n) m (copyRaw p) ↔ p + EDID_LENGTH ≤ n := by
  have hstep : ∀ (raw : List UInt8) (i : ℕ), Within (· < n) m (do
      let b ← at' p i
      pure (raw ++ [b])) ↔ p + i < n := fun raw i => by simp
  simp only [copyRaw, within_foldlM hstep, List.mem_range, EDID_LENGTH]
  constructor
  · intro h
    have := h 127 (by decide)
    omega
  · exact fun h i hi => by omega

/-- The descriptor is read unchecked as well. -/
theorem within_screenSize (p : ℕ) : Within (· < n) m (screenSize p) ↔
    p + 69 ≤ n ∨ (p + 56 ≤ n ∧ m (p + 54) = 0 ∧ m (p + 55) = 0) := by
  simp only [screenSize, within_bind, within_ite, within_at, within_pure, and_true, true_and,
    implies_true]
  simp only [run_at, Nat.add_zero, Nat.add_assoc, Nat.reduceAdd]
  by_cases hfirst : m (p + 54) = 0
  · by_cases hsecond : m (p + 55) = 0
    · simp only [hfirst, hsecond, not_true, false_implies, and_true, forall_const]
      omega
    · simp only [hfirst, hsecond, not_true, not_false_eq_true, false_implies, and_true, and_false,
        or_false, forall_const]
      omega
  · simp only [hfirst, not_false_eq_true, false_implies, true_and, false_and, and_false, or_false,
      forall_const]
    omega

/-- The search goes by the size. -/
theorem within_findCea {edid size : ℕ} (hsize : edid + size ≤ n) (left i : ℕ) :
    Within (· < n) m (findCea edid size left i) := by
  induction left generalizing i with
  | zero => exact within_pure _
  | succ left ih =>
    rw [findCea, within_ite]
    refine ⟨fun _ => within_pure _, fun hroom => ?_⟩
    have hblock : edid + EDID_LENGTH * i + EDID_LENGTH ≤ n := by
      rw [not_lt, mul_add] at hroom
      omega
    simp only [within_bind, within_ite, within_isEdidValid, within_at, within_pure, implies_true,
      and_true, true_and]
    refine ⟨hblock, fun _ => ⟨?_, fun _ => ih (i + 1)⟩⟩
    rw [EDID_LENGTH] at hblock ⊢
    omega

/-- What it finds is a valid block that the size has room for. -/
theorem of_findCea {edid size b : ℕ} (left i : ℕ) (h : run m (findCea edid size left i) = some b) :
    b + EDID_LENGTH ≤ edid + size ∧ run m (isEdidValid (some b)) = true := by
  induction left generalizing i with
  | zero => cases h
  | succ left ih =>
    rw [findCea, run_ite] at h
    split_ifs at h with hroom
    · cases h
    · rw [run_bind, run_ite] at h
      split_ifs at h with hvalid
      · cases h
      · rw [run_bind, run_ite] at h
        split_ifs at h with htag
        · exact ih (i + 1) h
        · cases h
          rw [not_lt, mul_add] at hroom
          exact ⟨by omega, Bool.not_eq_false _ ▸ hvalid⟩

/-! ### The chain of data blocks -/

@[simp] theorem run_getDataBlockLen (db : ℕ) : run m (getDataBlockLen db) = blockLen m db := rfl

@[simp] theorem within_getDataBlockLen (db : ℕ) :
    Within (· < n) m (getDataBlockLen db) ↔ db < n := by
  simp [getDataBlockLen]

/-- The block is an HDR metadata block. -/
def IsHdr (m : Memory) (db : ℕ) : Prop :=
  m db >>> TAG_SHIFT = DATA_BLOCK_EXTENDED_TAG ∧ m (db + 1) = HDR_STATIC_METADATA_BLOCK

theorem run_isHdrMetadataBlock (db : ℕ) : run m (isHdrMetadataBlock db) = true ↔ IsHdr m db := by
  have hrun : run m (isHdrMetadataBlock db) = if m db >>> TAG_SHIFT ≠ DATA_BLOCK_EXTENDED_TAG then false
      else decide (m (db + 1) = HDR_STATIC_METADATA_BLOCK) := by
    simp only [isHdrMetadataBlock, run_bind, run_ite, run_pure]
    rfl
  rw [hrun, IsHdr]
  by_cases h : m db >>> TAG_SHIFT = DATA_BLOCK_EXTENDED_TAG
  · rw [if_neg (not_not.mpr h), decide_eq_true_iff, and_iff_right h]
  · rw [if_pos h]
    exact iff_of_false Bool.noConfusion fun hdr => h hdr.1

theorem within_isHdrMetadataBlock (db : ℕ) : Within (· < n) m (isHdrMetadataBlock db) ↔
    db < n ∧ (m db >>> TAG_SHIFT = DATA_BLOCK_EXTENDED_TAG → db + 1 < n) := by
  simp [isHdrMetadataBlock]

/-- The luminances are read as far as the length says. -/
theorem within_parseHdrMetadataBlock (db : ℕ) (meta' : HdrMetaData) :
    Within (· < n) m (parseHdrMetadataBlock db meta') ↔
      db + 2 < n ∧ (blockLen m db = 6 → db + 6 < n) ∧ (blockLen m db = 5 → db + 5 < n) ∧
        (blockLen m db = 4 → db + 4 < n) := by
  simp only [parseHdrMetadataBlock, within_bind, within_ite, within_at, within_pure]
  simp only [within_getDataBlockLen, run_getDataBlockLen, implies_true, and_true]
  omega

/-- A block is read up to the last byte that matters. -/
theorem within_parseDataBlock (db : ℕ) (e : Edid) :
    Within (· < n) m (parseDataBlock bits db e) ↔ db + reach m db ≤ n := by
  simp only [parseDataBlock, within_bind, within_ite, within_pure, run_isHdrMetadataBlock,
    within_getDataBlockLen, within_isHdrMetadataBlock, within_parseHdrMetadataBlock]
  rw [reach]
  by_cases htag : m db >>> TAG_SHIFT = DATA_BLOCK_EXTENDED_TAG
  · by_cases hcode : m (db + 1) = HDR_STATIC_METADATA_BLOCK
    · have hdr : IsHdr m db := ⟨htag, hcode⟩
      simp only [htag, hcode, hdr, ne_eq, not_true, if_false, forall_const, false_implies, and_true]
      split_ifs <;> omega
    · have hnot : ¬ IsHdr m db := fun hdr => hcode hdr.2
      simp only [htag, hcode, hnot, ne_eq, not_true, not_false_eq_true, if_false, if_true, forall_const,
        false_implies, and_true]
      omega
  · have hnot : ¬ IsHdr m db := fun hdr => htag hdr.1
    simp only [htag, hnot, ne_eq, not_false_eq_true, if_true, false_implies, implies_true, and_true]
    omega

theorem run_parseDataBlock (db : ℕ) (e : Edid) :
    (run m (parseDataBlock bits db e)).1 = blockLen m db := by
  simp only [parseDataBlock, run_bind, run_ite, run_pure]
  split_ifs <;> rfl

/-- The chain is read block by block. -/
theorem within_parseDataBlocks (edidExt ceaDbLen fuel i : ℕ) (e : Edid) :
    Within (· < n) m (parseDataBlocks bits edidExt ceaDbLen fuel i e) ↔
      ∀ j ∈ blockStarts m edidExt ceaDbLen fuel i, edidExt + j + reach m (edidExt + j) ≤ n := by
  induction fuel generalizing i e with
  | zero => simp [parseDataBlocks, blockStarts]
  | succ fuel ih =>
    rw [parseDataBlocks, blockStarts, within_ite]
    by_cases hi : i < ceaDbLen
    · rw [if_pos hi, List.forall_mem_cons, within_bind, within_parseDataBlock]
      simp only [hi, forall_const, not_true, false_implies, and_true]
      refine and_congr_right fun _ => (ih _ _).trans ?_
      rw [run_parseDataBlock]
    · simp [hi]

/-- Every block brings the loop nearer to the descriptors. -/
theorem parseDataBlocks_ends (edidExt ceaDbLen fuel i : ℕ) (e : Edid) (h : ceaDbLen < i + fuel)
    (hfuel : 0 < fuel) : (run m (parseDataBlocks bits edidExt ceaDbLen fuel i e)).isSome = true := by
  induction fuel generalizing i e with
  | zero => exact absurd hfuel (Nat.lt_irrefl 0)
  | succ fuel ih =>
    rw [parseDataBlocks, run_ite]
    by_cases hi : i < ceaDbLen
    · rw [if_pos hi, run_bind]
      exact ih _ _ (by omega) (by omega)
    · rw [if_neg hi]
      rfl

/-- More rounds than the chain can take do not lengthen it. -/
theorem blockStarts_fuel (edidExt ceaDbLen : ℕ) {fuel fuel' i : ℕ} (h : ceaDbLen < i + fuel)
    (h' : ceaDbLen < i + fuel') :
    blockStarts m edidExt ceaDbLen fuel i = blockStarts m edidExt ceaDbLen fuel' i := by
  induction fuel generalizing fuel' i with
  | zero =>
    have hi : ¬ i < ceaDbLen := by omega
    cases fuel' with
    | zero => rfl
    | succ fuel' => rw [blockStarts, blockStarts, if_neg hi]
  | succ fuel ih =>
    cases fuel' with
    | zero =>
      have hi : ¬ i < ceaDbLen := by omega
      rw [blockStarts, blockStarts, if_neg hi]
    | succ fuel' =>
      rw [blockStarts, blockStarts]
      by_cases hi : i < ceaDbLen
      · rw [if_pos hi, if_pos hi, @ih fuel' _ (by omega) (by omega)]
      · rw [if_neg hi, if_neg hi]

/-! ### The constructor -/

/-- The parser of an extension that lies inside. -/
theorem within_parseCeaExtData {fuel edidExt : ℕ} (e : Edid) (hfuel : 252 ≤ fuel)
    (hvalid : run m (isEdidValid (some edidExt)) = true) (hroom : edidExt + EDID_LENGTH ≤ n) :
    Within (· < n) m (parseCeaExtData bits fuel edidExt e) ↔ BlocksInside m edidExt n := by
  have hlen := (m (edidExt + 2)).toNat_lt
  have hsecond : edidExt + 2 < n := by
    rw [EDID_LENGTH] at hroom
    omega
  rw [parseCeaExtData, within_bind, within_isEdidValid, within_ite, hvalid]
  simp only [hroom, hsecond, true_and, Bool.true_eq_false, false_implies, not_false_eq_true,
    forall_const, within_bind, within_at, run_at, within_parseDataBlocks]
  have hchain : blockStarts m edidExt (m (edidExt + 2)).toNat fuel 4
      = blockStarts m edidExt (m (edidExt + 2)).toNat 252 4 :=
    blockStarts_fuel _ _ (by omega) (by omega)
  rw [BlocksInside, hchain]

theorem parseCeaExtData_ends {fuel : ℕ} (edidExt : ℕ) (e : Edid) (hfuel : 252 ≤ fuel) :
    (run m (parseCeaExtData bits fuel edidExt e)).isSome = true := by
  have hlen := (m (edidExt + 2)).toNat_lt
  rw [parseCeaExtData, run_bind, run_ite]
  split_ifs
  · rfl
  · rw [run_bind]
    exact parseDataBlocks_ends _ _ _ _ _ (by rw [run_at]; omega) (by omega)

theorem within_getCeaExtensionData {size : ℕ} (hsize : size ≤ n) (hbase : EDID_LENGTH ≤ n) :
    Within (· < n) m (getCeaExtensionData 0 size) := by
  rw [getCeaExtensionData, within_bind, within_at]
  refine ⟨?_, within_findCea (by omega) _ 1⟩
  rw [EDID_LENGTH] at hbase
  rw [EXTENSION_NUM]
  omega

/-- The constructor of a vector that holds a base block. -/
theorem within_construct {fuel size : ℕ} (hfuel : 252 ≤ fuel) (hsize : size ≤ n)
    (hbase : EDID_LENGTH ≤ n) :
    Within (· < n) m (construct bits fuel (some 0) size) ↔
      (run m (isEdidValid (some 0)) = true → ∀ edidExt,
        run m (getCeaExtensionData 0 size) = some edidExt → BlocksInside m edidExt n) := by
  have hroom : 0 + EDID_LENGTH ≤ n := by omega
  rw [construct, within_bind, within_isEdidValid, within_ite]
  simp only [hroom, true_and, within_pure, implies_true, Bool.not_eq_false]
  refine forall_congr' fun _ => ?_
  rw [Option.getD_some, within_bind, within_bind, within_bind, within_copyRaw]
  simp only [hroom, within_pure, and_true, within_getCeaExtensionData hsize hbase, true_and]
  cases hext : run m (getCeaExtensionData 0 size) with
  | none => exact iff_of_true (within_pure _) fun _ h => absurd h.symm (Option.some_ne_none _)
  | some edidExt =>
    obtain ⟨hinside, hvalid⟩ := of_findCea _ _ hext
    simp only [Option.some.injEq, forall_eq']
    exact within_parseCeaExtData _ hfuel hvalid (by omega)

theorem parseExtension_ends {fuel : ℕ} (hfuel : 252 ≤ fuel) (edidExt : Option ℕ) :
    (run m (parseExtension bits fuel edidExt)).isSome = true := by
  cases edidExt with
  | none => rfl
  | some edidExt => exact parseCeaExtData_ends _ _ hfuel

/-- The constructor comes to an end. -/
theorem construct_ends {fuel : ℕ} (data : Option ℕ) (size : ℕ) (hfuel : 252 ≤ fuel) :
    (run m (construct bits fuel data size)).isSome = true := by
  rw [construct, run_bind, run_ite]
  split_ifs
  · rfl
  · rw [run_bind, run_bind, run_bind, run_pure, Option.isSome_map]
    exact parseExtension_ends hfuel _

/-- It reads nothing but the vector exactly when that is large enough; what stands behind the vector has
    no say in that. -/
theorem within_new_iff (edid : List UInt8) (stray : Memory) {fuel : ℕ} (hfuel : 252 ≤ fuel) :
    Within (· < edid.length) (inMemory edid stray) (Edid.new bits fuel edid) ↔ WellSized edid := by
  have hagree : ∀ i, i < edid.length → inMemory edid stray i = inMemory edid (fun _ => 0) i := by
    intro i hi
    rw [inMemory, inMemory, List.getD_eq_getElem _ _ hi, List.getD_eq_getElem _ _ hi]
  rw [within_congr hagree, WellSized, Edid.new]
  by_cases hnil : edid = []
  · have hdata : dataOf edid = none := if_pos hnil
    rw [hdata]
    exact iff_of_true (fun i hi => nomatch hi) (Or.inl hnil)
  · have hdata : dataOf edid = some 0 := if_neg hnil
    rw [hdata, or_iff_right hnil]
    by_cases hbase : EDID_LENGTH ≤ edid.length
    · rw [and_iff_right hbase]
      exact within_construct hfuel (Nat.mod_le _ _) hbase
    · refine iff_of_false (fun h => hbase ?_) fun h => hbase h.1
      rw [construct, within_bind, within_isEdidValid] at h
      omega

/-- The constructor of an EDID ends, and reads nothing but the vector exactly when that is empty or holds
    a base block with the data blocks of its CEA extension, if it is valid and has one. -/
theorem edid_in_bounds_iff (bits : EotfBits) (edid : List UInt8) (stray : Memory) (fuel : ℕ)
    (hfuel : 252 ≤ fuel) :
    (Within (· < edid.length) (inMemory edid stray) (Edid.new bits fuel edid) ∧
        (run (inMemory edid stray) (Edid.new bits fuel edid)).isSome = true) ↔ WellSized edid := by
  rw [within_new_iff edid stray hfuel]
  exact and_iff_left (construct_ends _ _ hfuel)

/-- A base block with one extension. -/
def baseBlock : List UInt8 := List.replicate 126 0 ++ [1, 255]

/-- A CEA extension with one block, of HDR metadata. -/
def hdrEdid : List UInt8 :=
  baseBlock ++ [2, 3, 11, 0, 0xe6, 6, 5, 1, 100, 80, 10] ++ List.replicate 116 0 ++ [0x40]

/-- Four blocks of 31 bytes, and the first descriptor at 255. -/
def farEdid : List UInt8 :=
  baseBlock ++ [2, 3, 255, 0, 31] ++ List.replicate 31 0 ++ [31] ++ List.replicate 31 0 ++ [31]
    ++ List.replicate 31 0 ++ [31] ++ List.replicate 26 0 ++ [128]

def sdrBits : EotfBits := ⟨2, 3⟩

theorem hdrEdid_wellSized : WellSized hdrEdid := by
  refine Or.inr ⟨by decide +kernel, fun _ edidExt hext => ?_⟩
  have hfound : run (inMemory hdrEdid fun _ => 0) (getCeaExtensionData 0 (hdrEdid.length % 2 ^ 32))
      = some 128 := by decide +kernel
  cases hfound.symm.trans hext
  unfold BlocksInside
  decide +kernel

theorem edid_in_bounds_hdr :
    Within (· < hdrEdid.length) (inMemory hdrEdid fun _ => 0) (Edid.new sdrBits 252 hdrEdid) ∧
      (run (inMemory hdrEdid fun _ => 0) (Edid.new sdrBits 252 hdrEdid)).isSome = true :=
  (edid_in_bounds_iff sdrBits hdrEdid (fun _ => 0) 252 le_rfl).mpr hdrEdid_wellSized

/-- The fifth head is read at byte 260 of 256. -/
theorem farEdid_out_of_bounds :
    ¬ ∀ (bits : EotfBits) (edid : List UInt8) (stray : Memory) (fuel : ℕ), 252 ≤ fuel →
      Within (· < edid.length) (inMemory edid stray) (Edid.new bits fuel edid) ∧
        (run (inMemory edid stray) (Edid.new bits fuel edid)).isSome = true := by
  intro h
  have hwithin := (h sdrBits farEdid (fun _ => 0) 252 le_rfl).1
  rw [within_new_iff farEdid _ le_rfl] at hwithin
  have hvalid : run (inMemory farEdid fun _ => 0) (isEdidValid (some 0)) = true := by decide +kernel
  have hfound : run (inMemory farEdid fun _ => 0) (getCeaExtensionData 0 (farEdid.length % 2 ^ 32))
      = some 128 := by decide +kernel
  have hblocks := (hwithin.resolve_left (by decide +kernel)).2 hvalid 128 hfound
  exact absurd (hblocks 132 (by decide +kernel)) (by decide +kernel)

end ImxHal.Hwc3.Cea
