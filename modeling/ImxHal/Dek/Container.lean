import ImxHal.Schemes.Storage
import Mathlib.Data.Option.Basic

/-! @src imx_dek_insert/imx_dek_insert.cpp (insert_dek_blob_to_container), imx_dek_insert.h |
    name:dek container | scheme:storage | family:data formats

    The blob belongs to a container, behind a signature block whose place its header gives:

        start      │ version  length  tag 0x87 │ … │ signature_block_offset │ …
        start + signature_block_offset   │ version  length  tag 0x90 │ … │ blob_offset │ …
        start + signature_block_offset + blob_offset   │ the blob -/

namespace ImxHal.Dek
open Storage

def SECO_PADING : Int32 := 0x400
def CONTAINER_TAG : UInt8 := 0x87
def SIG_BLK_TAG : UInt8 := 0x90

inductive ImageType where
  | IMAGE_NONE | SPL | BOOTLOADER
  deriving DecidableEq

inductive ErrorType where
  | NO_ERROR | FILE_ERROR | IMAGE_ERROR | MEMORY_ERROR
  deriving DecidableEq

/-- `uint16_t` in the byte order of the machine. -/
def uint16At (bytes : List UInt8) (i : ℕ) : Option ℕ :=
  match bytes[i]?, bytes[i + 1]? with
  | some lo, some hi => some (lo.toNat + 256 * hi.toNat)
  | _, _ => none

/-- `byte_str_t`; what the device does not have stays zero. -/
structure ByteStr where
  length : ℕ
  tag : UInt8

def ByteStr.ofBytes (bytes : List UInt8) : ByteStr :=
  ⟨(bytes.getD 1 0).toNat + 256 * (bytes.getD 2 0).toNat, bytes.getD 3 0⟩

/-- The field of `ahab_container_header_t`. -/
def signature_block_offset (image_header : List UInt8) : Option ℕ := uint16At image_header 0xc

/-- The tag of the signature block at `sig_blk_offset`. -/
def signature_block_tag (image_header : List UInt8) (sig_blk_offset : ℕ) : Option UInt8 :=
  image_header[sig_blk_offset + 3]?

/-- The field of `ahab_container_signature_block_t`, for the block at `sig_blk_offset`. -/
def signature_blob_offset (image_header : List UInt8) (sig_blk_offset : ℕ) : Option ℕ :=
  uint16At image_header (sig_blk_offset + 0xa)

def sizeof_byte_str : ℕ := 4
def sizeof_signature_block : ℕ := 0x10

/-- What `insert_dek_blob_to_container` is called with; whether the device opens and `malloc` has memory; and
    how many bytes the two reads deliver at most. -/
structure Call where
  image_t : ImageType
  device : Device UInt8
  dek_blob : List UInt8
  bootloader0_offset_byte : Int32
  opens : Bool
  mallocs : Bool
  preads : ℕ
  reads : ℕ

/-- The error, the device and the places written. -/
structure Result where
  ret : ErrorType
  device : Device UInt8
  written : List ℕ
  deriving DecidableEq

namespace Call
variable (c : Call)

/-- Where the tag is read, and the container starts. -/
def start : ℤ :=
  match c.image_t with
  | .SPL => (SECO_PADING + c.bootloader0_offset_byte).toInt
  | _ => c.bootloader0_offset_byte.toInt

/-- Only for an SPL the file position is moved; it stays where it is before the start of the file. -/
def position : ℤ :=
  match c.image_t with
  | .SPL => if c.start < 0 then 0 else c.start
  | _ => 0

def image_h : ByteStr := ByteStr.ofBytes ((c.device.pread c.start sizeof_byte_str).take c.preads)

/-- The bytes read into `image_header`. Behind them the buffer is not initialized, and then ends. -/
def image_header : List UInt8 := (c.device.pread c.position c.image_h.length).take c.reads

/-- Where the blob is written. -/
def blob_offset (sig_blk_offset signature_blob_offset : ℕ) : ℕ :=
  if c.image_t = .SPL then SECO_PADING.toInt.toNat + sig_blk_offset + signature_blob_offset
  else sig_blk_offset + signature_blob_offset

/-- Nothing, where bytes are used that were not read. -/
def insert_dek_blob_to_container : Option Result :=
  let fail (ret : ErrorType) : Option Result := some ⟨ret, c.device, []⟩
  if !c.opens then fail .FILE_ERROR
  else if c.image_t = .IMAGE_NONE then fail .IMAGE_ERROR
  else if CONTAINER_TAG ≠ c.image_h.tag then fail .IMAGE_ERROR
  else if !c.mallocs then fail .MEMORY_ERROR
  else
    match signature_block_offset c.image_header with
    | none => none
    | some sig_blk_offset =>
      match signature_block_tag c.image_header sig_blk_offset with
      | none => none
      | some tag =>
        if SIG_BLK_TAG ≠ tag then fail .IMAGE_ERROR
        else
          match signature_blob_offset c.image_header sig_blk_offset with
          | none => none
          | some signature_blob_offset =>
            let (device, written) := c.device.pwrite (c.blob_offset sig_blk_offset signature_blob_offset)
              c.dek_blob
            some ⟨.NO_ERROR, device, written⟩

/-! ### What is expected of it -/

/-- Where the blob of the container at `start` belongs. -/
def blobPlace (device : Device UInt8) (start : ℕ) : Option ℕ :=
  let container := device.cells.drop start
  (signature_block_offset container).bind fun sig_blk_offset =>
    (signature_blob_offset container sig_blk_offset).map fun offset => start + sig_blk_offset + offset

/-- The call uses bytes that were read only, and its result satisfies `P`. -/
def Returns (P : Result → Prop) : Prop :=
  match c.insert_dek_blob_to_container with
  | none => False
  | some r => P r

/-- When the call succeeds, the blob has landed in the container whose tag was read. -/
def BlobLands : Prop := c.Returns fun r => r.ret = .NO_ERROR → ∃ start pos : ℕ, c.start = start ∧
  blobPlace c.device start = some pos ∧ Landed c.device pos c.dek_blob (r.device, r.written)

/-- The signature block lies inside the length of the header. -/
def SignatureBlockFits : Prop :=
  ∃ sig_blk_offset, signature_block_offset (c.device.pread c.start c.image_h.length) = some sig_blk_offset ∧
    sig_blk_offset + sizeof_signature_block ≤ c.image_h.length

/-- Only bytes that were read are used, and an image is refused whose signature block does not fit. -/
def ParsesInBounds : Prop := c.Returns fun r =>
  c.opens = true → c.mallocs = true → ¬ c.SignatureBlockFits → r = ⟨.IMAGE_ERROR, c.device, []⟩

/-! ### When the code does it -/

/-- The header is parsed. -/
def Parses : Prop :=
  c.opens = true ∧ c.image_t ≠ .IMAGE_NONE ∧ c.image_h.tag = CONTAINER_TAG ∧ c.mallocs = true

/-- The signature block is found by its tag. -/
def SignatureBlockFound : Prop :=
  ∃ sig_blk_offset, signature_block_offset c.image_header = some sig_blk_offset ∧
  signature_block_tag c.image_header sig_blk_offset = some SIG_BLK_TAG

/-- The read delivered the fields that are used. -/
def FieldsRead : Prop := 0xe ≤ c.image_header.length ∧
  ∀ sig_blk_offset, signature_block_offset c.image_header = some sig_blk_offset →
    sig_blk_offset + 4 ≤ c.image_header.length ∧
      (signature_block_tag c.image_header sig_blk_offset = some SIG_BLK_TAG →
        sig_blk_offset + 0xc ≤ c.image_header.length)

/-- An SPL has no offset, and a bootloader none that leads to another place; the device has room for the
    blob. -/
def Placed : Prop := ∃ pos, blobPlace c.device c.start.toNat = some pos ∧ (c.dek_blob = [] ∨
  (if c.image_t = .SPL then c.bootloader0_offset_byte = 0 else blobPlace c.device 0 = some pos) ∧
    (c.device.grows = true ∨ pos + c.dek_blob.length ≤ c.device.cells.length))

/-- Before the header is parsed nothing is written. -/
theorem insert_not_parses (h : ¬ c.Parses) : ∃ ret, ret ≠ .NO_ERROR ∧
    c.insert_dek_blob_to_container = some ⟨ret, c.device, []⟩ ∧
      (c.opens = true → c.mallocs = true → ret = .IMAGE_ERROR) := by
  rw [insert_dek_blob_to_container]
  dsimp only
  split_ifs with hopens himage htag hmalloc
  · exact ⟨.FILE_ERROR, nofun, rfl, fun h => by simp [h] at hopens⟩
  · exact ⟨.IMAGE_ERROR, nofun, rfl, fun _ _ => rfl⟩
  · exact ⟨.IMAGE_ERROR, nofun, rfl, fun _ _ => rfl⟩
  · exact ⟨.MEMORY_ERROR, nofun, rfl, fun _ h => by simp [h] at hmalloc⟩
  · exact (h ⟨by simpa using hopens, himage, (not_not.mp htag).symm, by simpa using hmalloc⟩).elim

theorem uint16At_isSome {bytes : List UInt8} {i : ℕ} :
    (∃ n, uint16At bytes i = some n) ↔ i + 2 ≤ bytes.length := by
  rw [uint16At]
  constructor
  · rintro ⟨n, hn⟩
    rcases hhi : bytes[i + 1]? with _ | hi
    · rw [hhi] at hn
      cases hlo : bytes[i]? <;> rw [hlo] at hn <;> exact nomatch hn
    · exact (List.getElem?_eq_some_iff.mp hhi).1
  · intro hle
    rw [List.getElem?_eq_getElem (by omega), List.getElem?_eq_getElem (by omega)]
    exact ⟨_, rfl⟩

/-- The fields that are used are there. -/
theorem fieldsRead_iff : c.FieldsRead ↔ ∃ sig tag, signature_block_offset c.image_header = some sig ∧
    signature_block_tag c.image_header sig = some tag ∧
      (tag = SIG_BLK_TAG → ∃ offset, signature_blob_offset c.image_header sig = some offset) := by
  constructor
  · rintro ⟨hlen, hfields⟩
    obtain ⟨sig, hsig⟩ := uint16At_isSome.mpr hlen
    obtain ⟨htag, hblob⟩ := hfields sig hsig
    have ht : signature_block_tag c.image_header sig = some (c.image_header.get ⟨sig + 3, by omega⟩) :=
      List.getElem?_eq_getElem (by omega)
    exact ⟨sig, _, hsig, ht, fun heq => uint16At_isSome.mpr (hblob (heq ▸ ht))⟩
  · rintro ⟨sig, tag, hsig, ht, hblob⟩
    refine ⟨uint16At_isSome.mp ⟨sig, hsig⟩, fun sig' hsig' => ?_⟩
    obtain rfl := Option.some.inj (hsig.symm.trans hsig')
    refine ⟨(List.getElem?_eq_some_iff.mp ht).1, fun ht' => uint16At_isSome.mp (hblob ?_)⟩
    exact Option.some.inj (ht.symm.trans ht')

theorem insert_unread (h : c.Parses) (hread : ¬ c.FieldsRead) : c.insert_dek_blob_to_container = none := by
  rw [fieldsRead_iff] at hread
  obtain ⟨hopens, himage, htag, hmalloc⟩ := h
  rw [insert_dek_blob_to_container]
  simp only [hopens, himage, htag, hmalloc, Bool.not_true, Bool.false_eq_true, if_false, ne_eq, not_true]
  rcases hsig : signature_block_offset c.image_header with _ | sig
  · rfl
  · rcases ht : signature_block_tag c.image_header sig with _ | tag
    · simp only [ht]
    · simp only [ht]
      split_ifs with hne
      · rcases hoff : signature_blob_offset c.image_header sig with _ | offset
        · rfl
        · exact (hread ⟨sig, tag, hsig, ht, fun _ => ⟨offset, hoff⟩⟩).elim
      · exact (hread ⟨sig, tag, hsig, ht, fun heq => (hne heq.symm).elim⟩).elim

theorem insert_not_found (h : c.Parses) (hread : c.FieldsRead) (hfound : ¬ c.SignatureBlockFound) :
    c.insert_dek_blob_to_container = some ⟨.IMAGE_ERROR, c.device, []⟩ := by
  obtain ⟨hopens, himage, htag, hmalloc⟩ := h
  obtain ⟨sig, tag, hsig, ht, -⟩ := c.fieldsRead_iff.mp hread
  have hne : SIG_BLK_TAG ≠ tag := fun heq => hfound ⟨sig, hsig, heq ▸ ht⟩
  rw [insert_dek_blob_to_container]
  simp only [hopens, himage, htag, hmalloc, Bool.not_true, Bool.false_eq_true, if_false, ne_eq, not_true,
    hsig, ht, hne, not_false_eq_true, if_true]

theorem insert_found (h : c.Parses) {sig offset : ℕ} (hsig : signature_block_offset c.image_header = some sig)
    (ht : signature_block_tag c.image_header sig = some SIG_BLK_TAG)
    (hoff : signature_blob_offset c.image_header sig = some offset) :
    c.insert_dek_blob_to_container =
      some ⟨.NO_ERROR, (c.device.pwrite (c.blob_offset sig offset) c.dek_blob).1,
        (c.device.pwrite (c.blob_offset sig offset) c.dek_blob).2⟩ := by
  obtain ⟨hopens, himage, htag, hmalloc⟩ := h
  rw [insert_dek_blob_to_container]
  simp only [hopens, himage, htag, hmalloc, Bool.not_true, Bool.false_eq_true, if_false, ne_eq, not_true,
    hsig, ht, hoff]

/-- The fields are those of the device. -/
theorem uint16At_prefix {bytes more : List UInt8} (h : bytes <+: more) {i n : ℕ}
    (hn : uint16At bytes i = some n) :
    uint16At more i = some n := by
  obtain ⟨behind, rfl⟩ := h
  rw [uint16At] at hn ⊢
  rcases hlo : bytes[i]? with _ | lo
  · rw [hlo] at hn
    exact nomatch hn
  · rcases hhi : bytes[i + 1]? with _ | hi
    · rw [hlo, hhi] at hn
      exact nomatch hn
    · have hlt := (List.getElem?_eq_some_iff.mp hhi).1
      rw [hlo, hhi] at hn
      rw [List.getElem?_append_left (by omega), List.getElem?_append_left hlt, hlo, hhi]
      exact hn

/-- A promise about the result rests on the branch that writes. -/
theorem returns_iff {P : Result → Prop} {Q : Prop}
    (hearly : ∀ ret, ret ≠ .NO_ERROR → (c.opens = true → c.mallocs = true → ret = .IMAGE_ERROR) →
      P ⟨ret, c.device, []⟩)
    (hwrite : ∀ sig offset, c.Parses → signature_block_offset c.image_header = some sig →
      signature_blob_offset c.image_header sig = some offset →
      (P ⟨.NO_ERROR, (c.device.pwrite (c.blob_offset sig offset) c.dek_blob).1,
        (c.device.pwrite (c.blob_offset sig offset) c.dek_blob).2⟩ ↔ Q)) :
    c.Returns P ↔ (c.Parses → c.FieldsRead ∧ (c.SignatureBlockFound → Q)) := by
  rw [Returns]
  by_cases hp : c.Parses
  · rw [forall_prop_of_true hp]
    by_cases hread : c.FieldsRead
    · rw [and_iff_right hread]
      by_cases hfound : c.SignatureBlockFound
      · rw [forall_prop_of_true hfound]
        obtain ⟨sig, hsig, ht⟩ := hfound
        obtain ⟨sig', tag, hsig', ht', hblob⟩ := c.fieldsRead_iff.mp hread
        obtain rfl := Option.some.inj (hsig.symm.trans hsig')
        obtain ⟨offset, hoff⟩ := hblob (Option.some.inj (ht'.symm.trans ht))
        rw [c.insert_found hp hsig ht hoff]
        exact hwrite sig offset hp hsig hoff
      · rw [c.insert_not_found hp hread hfound]
        exact ⟨fun _ hf => (hfound hf).elim, fun _ => hearly .IMAGE_ERROR nofun fun _ _ => rfl⟩
    · rw [c.insert_unread hp hread]
      exact ⟨False.elim, fun h => hread h.1⟩
  · obtain ⟨ret, hret, heq, himage⟩ := c.insert_not_parses hp
    rw [heq]
    exact ⟨fun _ h => (hp h).elim, fun _ => hearly ret hret himage⟩

/-- Nothing but bytes that were read, and no image whose signature block does not fit: for every call. -/
theorem parsesInBounds_iff : c.ParsesInBounds ↔
    (c.Parses → c.FieldsRead ∧ (c.SignatureBlockFound → c.SignatureBlockFits)) := by
  refine c.returns_iff (fun ret _ himage ho hm _ => by rw [himage ho hm]) fun sig offset hp _ _ => ?_
  -- a success is no refusal
  refine ⟨fun h => ?_, fun hfits _ _ hnot => (hnot hfits).elim⟩
  by_contra hnot
  exact nomatch congrArg Result.ret (h hp.1 hp.2.2.2 hnot)

/-- A tag was read, so the container starts in the file. -/
theorem start_nonneg (h : c.image_h.tag = CONTAINER_TAG) : 0 ≤ c.start := by
  by_contra hneg
  rw [image_h, Device.pread, if_pos (not_le.mp hneg), List.take_nil] at h
  exact absurd h (by decide)

/-- The fields that are used are those of the container at the file position. -/
theorem blobPlace_position {base sig offset : ℕ} (hpos : c.position = base)
    (hsig : signature_block_offset c.image_header = some sig)
    (hoff : signature_blob_offset c.image_header sig = some offset) :
    blobPlace c.device base = some (base + sig + offset) := by
  have hprefix : c.image_header <+: c.device.cells.drop base := by
    rw [image_header, hpos, Device.pread, if_neg (by omega), Int.toNat_natCast]
    exact (List.take_prefix _ _).trans (List.take_prefix _ _)
  rw [blobPlace, signature_block_offset, uint16At_prefix hprefix hsig, Option.bind_some,
    signature_blob_offset, uint16At_prefix hprefix hoff]
  rfl

theorem position_SPL (h : c.image_t = .SPL) (hstart : 0 ≤ c.start) : c.position = c.start := by
  rw [position, h]
  exact if_neg (not_lt.mpr hstart)

theorem position_BOOTLOADER (h : c.image_t ≠ .SPL) : c.position = 0 := by
  rw [position]
  split
  · contradiction
  · rfl

theorem start_SPL (h : c.image_t = .SPL) : c.start = SECO_PADING.toInt ↔ c.bootloader0_offset_byte = 0 := by
  have hstart : c.start = (SECO_PADING + c.bootloader0_offset_byte).toInt := by
    rw [start, h]
  rw [hstart, Int32.toInt_inj]
  constructor
  · intro heq
    have hsub := congrArg (· - SECO_PADING) heq
    rwa [Int32.add_comm, Int32.add_sub_cancel, Int32.sub_self] at hsub
  · intro heq
    rw [heq]
    rfl

end Call

/-- A header of 32 bytes with its signature block behind 16, and the blob 16 bytes behind that. -/
def container : List UInt8 :=
  [0, 32, 0, CONTAINER_TAG, 0, 0, 0, 0, 0, 0, 0, 0, 16, 0, 0, 0,
    0, 16, 0, SIG_BLK_TAG, 0, 0, 0, 0, 0, 0, 16, 0, 0, 0, 0, 0]

/-- An SPL whose container stands 1 KiB further. -/
def furtherSPL : Call where
  image_t := .SPL
  device := ⟨List.replicate 2048 0 ++ container ++ [0, 0, 0, 0], false⟩
  dek_blob := [1, 2]
  bootloader0_offset_byte := 1024
  opens := true
  mallocs := true
  preads := 4
  reads := 32

/-- A signature block offset that points far behind the header, which is all that is read. -/
theorem parsed_out_of_bounds : ¬ ∀ c : Call, c.ParsesInBounds := by
  intro h
  let c : Call := ⟨.BOOTLOADER,
    ⟨[0, 16, 0, CONTAINER_TAG, 0, 0, 0, 0, 0, 0, 0, 0, 0xff, 0xff, 0, 0], false⟩, [1, 2], 0, true,
      true, 4, 16⟩
  have hnone : c.insert_dek_blob_to_container = none := by decide +kernel
  have hbounds := h c
  rwa [Call.ParsesInBounds, Call.Returns, hnone] at hbounds

end ImxHal.Dek
