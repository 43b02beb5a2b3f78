import ImxHal.Firmware.Cppbor

/-! @src package_firmware_tool/cose.cpp, cose.h, firmware_loader_package.h (signatures),
    package_firmware_tool/firmware_loader_package_tool.cpp (sign_package, verify_package) |
    name:package signature | scheme:cbor | family:data formats

    A signed file is a tagged COSE_Sign1 array without its payload, and the payload behind it. It is
    written by an encoder, and read in two ways: parsed as CBOR, or compared with fixed bytes at fixed
    offsets.

        D2 84 │ 54 A2 01 26 3A 00 01 00 00 82 69 TrustyApp 01 │ A1 04 41 kid │ F6 │ 58 40 sig │ payload
        tag   │ protected: alg = ES256, trusty = [.., 1]       │ unprotected  │null│           │

    What is signed is not in the file: an array of the protected headers and the payload, each a byte
    string, which either reader builds for itself. -/

namespace ImxHal.Firmware
open ImxHal.Cbor

def COSE_ALG_ECDSA_256 : ℤ := -7
def kEcdsaValueSize : ℕ := 32
def kEcdsaSignatureSize : ℕ := 2 * kEcdsaValueSize
def FIRMWARELOADER_SIGNATURE_FORMAT_VERSION_CURRENT : ℕ := 1

/-- The calls of the cryptographic library; a `Bignum` is a `BIGNUM` that is not negative. -/
structure OpenSSL where
  PrivateKey : Type
  PublicKey : Type
  Bignum : Type
  d2i_ECPrivateKey : Bytes → Option PrivateKey
  d2i_EC_PUBKEY : Bytes → Option PublicKey
  SHA256 : Bytes → Bytes
  ECDSA_do_sign : Bytes → PrivateKey → Option (Bignum × Bignum)
  ECDSA_do_verify : Bytes → Bignum × Bignum → PublicKey → Bool
  i2d_ECDSA_SIG : Bignum × Bignum → Bytes
  d2i_ECDSA_SIG : Bytes → Option (Bignum × Bignum)
  BN_num_bytes : Bignum → ℤ
  BN_bn2bin : Bignum → Bytes
  BN_bin2bn : Bytes → Bignum
  /-- The public key is the one of the private key. -/
  Matching : PrivateKey → PublicKey → Prop

/-- What it promises: signatures are read as they were written, numbers too, zeros in front of them or
    not, and what a key signs its public key verifies. -/
structure OpenSSL.Documented (ssl : OpenSSL) : Prop where
  der : ∀ digest key sig, ssl.ECDSA_do_sign digest key = some sig →
    ssl.d2i_ECDSA_SIG (ssl.i2d_ECDSA_SIG sig) = some sig
  num_bytes : ∀ bn, ssl.BN_num_bytes bn = (ssl.BN_bn2bin bn).length
  bin2bn : ∀ zeros bn, ssl.BN_bin2bn (List.replicate zeros 0 ++ ssl.BN_bn2bin bn) = bn
  verify : ∀ digest key publicKey sig, ssl.Matching key publicKey →
    ssl.ECDSA_do_sign digest key = some sig → ssl.ECDSA_do_verify digest sig publicKey = true

variable (cbor : Cppbor) (ssl : OpenSSL)

/-! ### Signing -/

def coseBuildToBeSigned (encodedProtectedHeaders data : Bytes) : Bytes :=
  cbor.encode (.array [.tstr (text "Signature1"), .bstr encodedProtectedHeaders, .bstr [], .bstr data])

def signEcDsaDigest (key dataDigest : Bytes) : Option Bytes :=
  match ssl.d2i_ECPrivateKey key with
  | none => none
  | some ecKey => (ssl.ECDSA_do_sign dataDigest ecKey).map ssl.i2d_ECDSA_SIG

def signEcDsa (key data : Bytes) : Option Bytes := signEcDsaDigest ssl key (ssl.SHA256 data)

/-- A value in the last of 32 bytes, the others zero. -/
def padded (bn : ssl.Bignum) : Option Bytes :=
  let bnSize := ssl.BN_num_bytes bn
  if bnSize < 0 ∨ kEcdsaValueSize < bnSize.toNat then none
  else if ((ssl.BN_bn2bin bn).length : ℤ) ≠ bnSize then none
  else some (List.replicate (kEcdsaValueSize - bnSize.toNat) 0 ++ ssl.BN_bn2bin bn)

def ecdsaSignatureDerToCose (ecdsaDerSignature : Bytes) : Option Bytes :=
  match ssl.d2i_ECDSA_SIG ecdsaDerSignature with
  | none => none
  | some (rBn, sBn) =>
    match padded ssl rBn, padded ssl sBn with
    | some r, some s => some (r ++ s)
    | _, _ => none

def coseSignEcDsa (key : Bytes) (keyId : UInt8) (data : Bytes)
    (protectedHeaders unprotectedHeaders : Entries) (detachContent tagged : Bool) : Option Item :=
  let protectedHeaders :=
    cbor.canonicalize (protectedHeaders ++ [(int COSE_LABEL_ALG, int COSE_ALG_ECDSA_256)])
  let unprotectedHeaders :=
    cbor.canonicalize (unprotectedHeaders ++ [(int COSE_LABEL_KID, .bstr [keyId])])
  let encodedProtectedHeaders := coseEncodeHeaders cbor protectedHeaders
  let toBeSigned := coseBuildToBeSigned cbor encodedProtectedHeaders data
  match signEcDsa ssl key toBeSigned with
  | none => none
  | some derSignature =>
    match ecdsaSignatureDerToCose ssl derSignature with
    | none => none
    | some coseSignature =>
      let coseSign1 := .array [.bstr encodedProtectedHeaders, .map unprotectedHeaders,
        if detachContent then .null else .bstr data, .bstr coseSignature]
      some (if tagged then .tag COSE_TAG_SIGN1 coseSign1 else coseSign1)

/-- The length of the signature, where there is one. -/
def coseIsSigned (data : Bytes) : Option ℕ :=
  match cbor.parse data with
  | none => none
  | some (item, pos) => if COSE_TAG_SIGN1 ∈ semanticTags item then some pos else none

/-- What is written to the output file. -/
def sign_package (input key : Bytes) (key_id : UInt8) : Option Bytes :=
  if (coseIsSigned cbor input).isSome then none
  else
    let trusty_array := .array [.tstr (text "TrustyApp"),
      .uint FIRMWARELOADER_SIGNATURE_FORMAT_VERSION_CURRENT]
    let protected_headers := [(int COSE_LABEL_TRUSTY, trusty_array)]
    match coseSignEcDsa cbor ssl key key_id input protected_headers [] true true with
    | none => none
    | some sig => some (cbor.encode sig ++ input)

/-! ### Verifying -/

def checkEcDsaSignature (digest signature publicKey : Bytes) : Bool :=
  let rBn := ssl.BN_bin2bn (signature.take kEcdsaValueSize)
  let sBn := ssl.BN_bin2bn ((signature.drop kEcdsaValueSize).take kEcdsaValueSize)
  match ssl.d2i_EC_PUBKEY publicKey with
  | none => false
  | some ecKey => ssl.ECDSA_do_verify digest (rBn, sBn) ecKey

/-- The payload in the array, empty where it is null. -/
def payloadData (payload : Item) : Option Bytes :=
  match asSimple payload with
  | some .null => some []
  | some (.bool _) => none
  | none => asBstr payload

def coseCheckEcDsaSignature (signatureCoseSign1 detachedContent publicKey : Bytes) : Bool :=
  match cbor.parse signatureCoseSign1 with
  | none => false
  | some (item, _) =>
    match asArray item with
    | some [headers, unprotectedHeaders, payload, signature] =>
      match asBstr headers, asMap unprotectedHeaders, payloadData payload, asBstr signature with
      | some encodedProtectedHeaders, some _, some data, some coseSignature =>
        if 0 < data.length ∧ 0 < detachedContent.length then false
        else if coseSignature.length ≠ kEcdsaSignatureSize then false
        else
          let signaturePayload := if 0 < data.length then data else detachedContent
          let toBeSigned := coseBuildToBeSigned cbor encodedProtectedHeaders signaturePayload
          checkEcDsaSignature ssl (ssl.SHA256 toBeSigned) coseSignature publicKey
      | _, _, _, _ => false
    | _ => false

def kSignatureHeader : Bytes :=
  [0xD2, 0x84, 0x54, 0xA2, 0x01,
    -- algorithm identifier
    0x26, 0x3A, 0x00, 0x01, 0x00, 0x00, 0x82, 0x69,
    -- "TrustyApp"
    0x54, 0x72, 0x75, 0x73, 0x74, 0x79, 0x41, 0x70, 0x70,
    -- version
    0x01, 0xA1, 0x04, 0x41]

def kSignatureHeaderPart2 : Bytes := [0xF6, 0x58, 0x40]

def kSignature1Header : Bytes :=
  [0x84, 0x6A,
    -- "Signature1"
    0x53, 0x69, 0x67, 0x6E, 0x61, 0x74, 0x75, 0x72, 0x65, 0x31, 0x54, 0xA2, 0x01,
    -- algorithm identifier
    0x26, 0x3A, 0x00, 0x01, 0x00, 0x00, 0x82, 0x69,
    -- "TrustyApp"
    0x54, 0x72, 0x75, 0x73, 0x74, 0x79, 0x41, 0x70, 0x70,
    -- version
    0x01, 0x40]

def kSignatureKeyIdOffset : ℕ := kSignatureHeader.length
def kSignatureHeaderPart2Offset : ℕ := kSignatureKeyIdOffset + 1
def kSignatureOffset : ℕ := kSignatureHeaderPart2Offset + kSignatureHeaderPart2.length
def kPayloadOffset : ℕ := kSignatureOffset + kEcdsaSignatureSize
def kMaxPayloadSizeHeaderSize : ℕ := 9

/-- Where the payload starts and its size. -/
def strictCheckEcDsaSignature (package : Bytes) (keyFn : UInt8 → Option Bytes) : Option (ℕ × ℕ) :=
  if package.length < kPayloadOffset then none
  else if package.take kSignatureHeader.length ≠ kSignatureHeader then none
  else
    match keyFn (package.getD kSignatureKeyIdOffset 0) with
    | none => none
    | some publicKey =>
      if (package.drop kSignatureHeaderPart2Offset).take kSignatureHeaderPart2.length ≠
          kSignatureHeaderPart2 then none
      else
        let payloadSize := package.length - kPayloadOffset
        let payloadSizeHeaderSize := cbor.headerSize payloadSize
        if kMaxPayloadSizeHeaderSize < payloadSizeHeaderSize then none
        else
          match cbor.encodeHeader BSTR payloadSize kMaxPayloadSizeHeaderSize with
          | none => none
          | some payloadSizeHeader =>
            if payloadSizeHeader.length ≠ payloadSizeHeaderSize then none
            else
              let digest := ssl.SHA256 (kSignature1Header ++ payloadSizeHeader ++ package.drop kPayloadOffset)
              if checkEcDsaSignature ssl digest (package.drop kSignatureOffset) publicKey then
                some (kPayloadOffset, payloadSize)
              else none

/-- With `--strict` or without. -/
def verify_package (strict : Bool) (input key : Bytes) : Bool :=
  match coseIsSigned cbor input with
  | none => false
  | some signature_length =>
    if strict then (strictCheckEcDsaSignature cbor ssl input fun _ => some key).isSome
    else coseCheckEcDsaSignature cbor ssl (input.take signature_length) (input.drop signature_length) key

/-! ### The bytes of a signed file -/

/-- The fixed bytes with the key id between them, the signature, and the payload. -/
def signedFile (kid : UInt8) (signature payload : Bytes) : Bytes :=
  kSignatureHeader ++ kid :: (kSignatureHeaderPart2 ++ (signature ++ payload))

/-- What is signed for a payload. -/
def signedBytes (payload : Bytes) : Bytes :=
  kSignature1Header ++ header BSTR payload.length ++ payload

/-- The protected headers in order: the algorithm, and the version of the format. -/
def protectedItem : Item :=
  .map [(.uint 1, .nint 6), (.nint 65536, .array [.tstr (text "TrustyApp"), .uint 1])]

/-- The array with the signature in it. -/
def signatureItem (kid : UInt8) (signature : Bytes) : Item :=
  .tag COSE_TAG_SIGN1 (.array [.bstr protectedItem.encode, .map [(.uint 4, .bstr [kid])], .null,
    .bstr signature])

theorem protectedItem_fits : protectedItem.Fits := by
  simp only [protectedItem, Item.Fits, ItemsFit, EntriesFit, List.length_cons, List.length_nil]
  decide

theorem signatureItem_fits (kid : UInt8) {signature : Bytes}
    (hlen : signature.length = kEcdsaSignatureSize) :
    (signatureItem kid signature).Fits := by
  have hprotected : protectedItem.encode.length < 2 ^ 64 := by decide
  have hsignature : signature.length < 2 ^ 64 := by
    rw [hlen]
    decide
  simp only [signatureItem, Item.Fits, ItemsFit, EntriesFit, List.length_cons, List.length_nil]
  exact ⟨by decide, by decide, hprotected, ⟨by decide, by decide, by decide, trivial⟩, trivial, hsignature,
    trivial⟩

/-- The encoder writes the fixed bytes. -/
theorem signatureItem_encode (kid : UInt8) {signature : Bytes}
    (hlen : signature.length = kEcdsaSignatureSize) :
    (signatureItem kid signature).encode =
      kSignatureHeader ++ kid :: (kSignatureHeaderPart2 ++ signature) := by
  have hhead : header 6 18 ++ (header 4 4 ++
      ((header 2 protectedItem.encode.length ++ protectedItem.encode) ++
        (header 5 1 ++ (header 0 4 ++ header 2 1)))) = kSignatureHeader := by decide
  have hpart : header 7 22 ++ header 2 kEcdsaSignatureSize = kSignatureHeaderPart2 := by decide
  simp only [signatureItem, COSE_TAG_SIGN1, Item.encode, encodeItems, encodeEntries, List.length_cons,
    List.length_nil, Nat.zero_add, hlen, List.append_nil, ← hhead, ← hpart, List.append_assoc,
    List.cons_append, List.nil_append]

/-- And what it writes of the array that is signed. -/
theorem coseBuildToBeSigned_eq (hcbor : cbor.Rfc8949) {payload : Bytes} (hsize : payload.length < 2 ^ 64) :
    coseBuildToBeSigned cbor protectedItem.encode payload = signedBytes payload := by
  have hhead : header 4 4 ++ ((header 3 (text "Signature1").length ++ text "Signature1") ++
      ((header 2 protectedItem.encode.length ++ protectedItem.encode) ++ header 2 0)) =
      kSignature1Header := by decide
  have hfits : (Item.array [.tstr (text "Signature1"), .bstr protectedItem.encode, .bstr [],
      .bstr payload]).Fits :=
    ⟨by simp, show (text "Signature1").length < 2 ^ 64 by decide,
      show protectedItem.encode.length < 2 ^ 64 by decide, show (0 : ℕ) < 2 ^ 64 by decide, hsize, trivial⟩
  rw [coseBuildToBeSigned, hcbor.encode _ hfits, signedBytes, ← hhead]
  simp only [Item.encode, encodeItems, List.length_cons, List.length_nil, Nat.zero_add, List.append_nil,
    List.append_assoc, BSTR]

theorem coseEncodeHeaders_eq (hcbor : cbor.Rfc8949) :
    coseEncodeHeaders cbor (cbor.canonicalize
      [(int COSE_LABEL_TRUSTY, .array [.tstr (text "TrustyApp"), .uint 1]),
        (int COSE_LABEL_ALG, int COSE_ALG_ECDSA_256)]) = protectedItem.encode := by
  have hsorted : cbor.canonicalize
      [(int COSE_LABEL_TRUSTY, .array [.tstr (text "TrustyApp"), .uint 1]),
        (int COSE_LABEL_ALG, int COSE_ALG_ECDSA_256)] =
      [(.uint 1, .nint 6), (.nint 65536, .array [.tstr (text "TrustyApp"), .uint 1])] := by
    refine canonicalize_two hcbor (by decide) ?_ ?_
    · simp [canonical_int hcbor, hcbor.canonical_array, hcbor.canonical_tstr, hcbor.canonical_uint]
    · simp [canonical_int hcbor]
  rw [hsorted, coseEncodeHeaders, if_neg (by simp)]
  exact hcbor.encode _ protectedItem_fits

/-- The 64 bytes of a signature. -/
def coseSignature (key data : Bytes) : Option Bytes :=
  (signEcDsa ssl key data).bind (ecdsaSignatureDerToCose ssl)

theorem padded_some (hssl : ssl.Documented) {bn : ssl.Bignum} {bytes : Bytes}
    (h : padded ssl bn = some bytes) : bytes.length = kEcdsaValueSize ∧ ssl.BN_bin2bn bytes = bn := by
  simp only [padded, hssl.num_bytes, Int.toNat_natCast, ne_eq, not_true_eq_false, if_false] at h
  split at h
  · simp at h
  · next hsize =>
    obtain rfl := Option.some.inj h
    refine ⟨?_, hssl.bin2bn _ _⟩
    rw [List.length_append, List.length_replicate]
    omega

theorem ecdsaSignatureDerToCose_length (hssl : ssl.Documented) {der signature : Bytes}
    (h : ecdsaSignatureDerToCose ssl der = some signature) : signature.length = kEcdsaSignatureSize := by
  unfold ecdsaSignatureDerToCose at h
  split at h
  · simp at h
  · split at h
    · next hr hs =>
      obtain rfl := Option.some.inj h
      rw [List.length_append, (padded_some ssl hssl hr).1, (padded_some ssl hssl hs).1]
      rfl
    · simp at h

theorem coseSignature_length (hssl : ssl.Documented) {key data signature : Bytes}
    (h : coseSignature ssl key data = some signature) : signature.length = kEcdsaSignatureSize := by
  obtain ⟨der, -, hcose⟩ := Option.bind_eq_some_iff.1 h
  exact ecdsaSignatureDerToCose_length ssl hssl hcose

/-- What a key signs, its public key verifies. -/
theorem checkEcDsaSignature_signed (hssl : ssl.Documented) {key data signature publicKey : Bytes}
    {ecKey : ssl.PrivateKey} {ecPublicKey : ssl.PublicKey} (hkey : ssl.d2i_ECPrivateKey key = some ecKey)
    (hpublic : ssl.d2i_EC_PUBKEY publicKey = some ecPublicKey) (hmatch : ssl.Matching ecKey ecPublicKey)
    (h : coseSignature ssl key data = some signature) (rest : Bytes) :
    checkEcDsaSignature ssl (ssl.SHA256 data) (signature ++ rest) publicKey = true := by
  obtain ⟨der, hder, hcose⟩ := Option.bind_eq_some_iff.1 h
  rw [signEcDsa, signEcDsaDigest, hkey] at hder
  obtain ⟨⟨r, s⟩, hsign, rfl⟩ := Option.map_eq_some_iff.1 hder
  rw [ecdsaSignatureDerToCose, hssl.der _ _ _ hsign] at hcose
  dsimp only at hcose
  split at hcose
  · next rBytes sBytes hr hs =>
    obtain rfl := Option.some.inj hcose
    obtain ⟨hrlen, hrbn⟩ := padded_some ssl hssl hr
    obtain ⟨hslen, hsbn⟩ := padded_some ssl hssl hs
    have hfirst : (rBytes ++ sBytes ++ rest).take kEcdsaValueSize = rBytes := by
      rw [List.append_assoc, List.take_left' hrlen]
    have hsecond : ((rBytes ++ sBytes ++ rest).drop kEcdsaValueSize).take kEcdsaValueSize = sBytes := by
      rw [List.append_assoc, List.drop_left' hrlen, List.take_left' hslen]
    simp only [checkEcDsaSignature, hfirst, hsecond, hrbn, hsbn, hpublic]
    exact hssl.verify _ _ _ _ hmatch hsign
  · simp at hcose

/-- Signing writes the fixed bytes, whatever the payload. -/
theorem sign_package_eq (hcbor : cbor.Rfc8949) (hssl : ssl.Documented) {input : Bytes}
    (hsize : input.length < 2 ^ 64) (key : Bytes) (key_id : UInt8) :
    sign_package cbor ssl input key key_id =
      if (coseIsSigned cbor input).isSome then none
      else (coseSignature ssl key (signedBytes input)).map fun signature =>
        signedFile key_id signature input := by
  have hkid : cbor.canonicalize [(int COSE_LABEL_KID, .bstr [key_id])] =
      [(.uint 4, .bstr [key_id])] := by
    exact canonicalize_one hcbor (hcbor.canonical_uint _) (hcbor.canonical_bstr _)
  unfold sign_package
  split
  · rfl
  · simp only [coseSignEcDsa, List.cons_append, List.nil_append, hkid, if_true,
      FIRMWARELOADER_SIGNATURE_FORMAT_VERSION_CURRENT, coseEncodeHeaders_eq cbor hcbor,
      coseBuildToBeSigned_eq cbor hcbor hsize]
    cases hsign : coseSignature ssl key (signedBytes input) with
    | none =>
      rw [coseSignature] at hsign
      cases hder : signEcDsa ssl key (signedBytes input) with
      | none => simp
      | some der =>
        rw [hder, Option.bind_some] at hsign
        simp [hsign]
    | some signature =>
      have hlen := coseSignature_length ssl hssl hsign
      obtain ⟨der, hder, hcose⟩ := Option.bind_eq_some_iff.1 hsign
      have hencode := hcbor.encode _ (signatureItem_fits key_id hlen)
      rw [signatureItem_encode key_id hlen, signatureItem] at hencode
      simp only [hder, hcose, hencode, Option.map_some, signedFile, List.append_assoc, List.cons_append]

/-! ### Reading it -/

/-- The parts of a signed file, where the strict reader looks for them. -/
theorem signedFile_parts (kid : UInt8) {signature : Bytes} (hlen : signature.length = kEcdsaSignatureSize)
    (payload : Bytes) :
    (signedFile kid signature payload).length = kPayloadOffset + payload.length ∧
    (signedFile kid signature payload).take kSignatureHeader.length = kSignatureHeader ∧
    (signedFile kid signature payload).getD kSignatureKeyIdOffset 0 = kid ∧
    ((signedFile kid signature payload).drop kSignatureHeaderPart2Offset).take kSignatureHeaderPart2.length =
      kSignatureHeaderPart2 ∧
    (signedFile kid signature payload).drop kSignatureOffset = signature ++ payload ∧
    (signedFile kid signature payload).drop kPayloadOffset = payload := by
  have hkid : (signedFile kid signature payload).drop kSignatureHeaderPart2Offset =
      kSignatureHeaderPart2 ++ (signature ++ payload) := by
    rw [signedFile, kSignatureHeaderPart2Offset, kSignatureKeyIdOffset, ← List.drop_drop, List.drop_left,
      List.drop_succ_cons, List.drop_zero]
  have hsignature : (signedFile kid signature payload).drop kSignatureOffset = signature ++ payload := by
    rw [kSignatureOffset, ← List.drop_drop, hkid, List.drop_left]
  refine ⟨?_, List.take_left, ?_, ?_, hsignature, ?_⟩
  · simp only [signedFile, List.length_append, List.length_cons, hlen, kPayloadOffset, kSignatureOffset,
      kSignatureHeaderPart2Offset, kSignatureKeyIdOffset]
    omega
  · rw [signedFile, kSignatureKeyIdOffset, List.getD_eq_getElem?_getD,
      List.getElem?_append_right le_rfl, Nat.sub_self, List.getElem?_cons_zero, Option.getD_some]
  · rw [hkid, List.take_left]
  · rw [kPayloadOffset, ← List.drop_drop, hsignature, List.drop_left' hlen]

theorem append_drop_of_take {start bytes : Bytes} (h : bytes.take start.length = start) :
    start ++ bytes.drop start.length = bytes := by
  conv_rhs => rw [← List.take_append_drop start.length bytes, h]

/-- The bytes compared fix everything but the key id, the signature and the payload. -/
theorem eq_signedFile {package : Bytes} (hsize : kPayloadOffset ≤ package.length)
    (hhead : package.take kSignatureHeader.length = kSignatureHeader)
    (hpart : (package.drop kSignatureHeaderPart2Offset).take kSignatureHeaderPart2.length =
      kSignatureHeaderPart2) :
    ∃ kid signature payload, package = signedFile kid signature payload ∧
      signature.length = kEcdsaSignatureSize := by
  have hoffset : kSignatureKeyIdOffset < package.length := lt_of_lt_of_le (by decide) hsize
  refine ⟨package[kSignatureKeyIdOffset], (package.drop kSignatureOffset).take kEcdsaSignatureSize,
    package.drop kPayloadOffset, ?_, ?_⟩
  · have hsignature : (package.drop kSignatureOffset).take kEcdsaSignatureSize ++
        package.drop kPayloadOffset = package.drop kSignatureOffset := by
      rw [kPayloadOffset, ← List.drop_drop, List.take_append_drop]
    have hbehind : kSignatureHeaderPart2 ++ package.drop kSignatureOffset =
        package.drop kSignatureHeaderPart2Offset := by
      rw [kSignatureOffset, ← List.drop_drop]
      exact append_drop_of_take hpart
    have hkid : package[kSignatureKeyIdOffset] :: package.drop kSignatureHeaderPart2Offset =
        package.drop kSignatureKeyIdOffset := (List.drop_eq_getElem_cons hoffset).symm
    rw [signedFile, hsignature, hbehind, hkid]
    exact (append_drop_of_take hhead).symm
  · rw [List.length_take, List.length_drop]
    have hend : kPayloadOffset = kSignatureOffset + kEcdsaSignatureSize := rfl
    omega

/-- The strict reader on a file of this form. -/
theorem strictCheckEcDsaSignature_signedFile (hcbor : cbor.Rfc8949) (kid : UInt8) {signature payload : Bytes}
    (hlen : signature.length = kEcdsaSignatureSize) (hsize : payload.length < 2 ^ 64)
    (keyFn : UInt8 → Option Bytes) :
    strictCheckEcDsaSignature cbor ssl (signedFile kid signature payload) keyFn =
      (keyFn kid).bind fun publicKey =>
        if checkEcDsaSignature ssl (ssl.SHA256 (signedBytes payload)) (signature ++ payload) publicKey then
          some (kPayloadOffset, payload.length)
        else none := by
  obtain ⟨hlength, hhead, hkid, hpart, hsignature, hpayload⟩ := signedFile_parts kid hlen payload
  have hroom : (header BSTR payload.length).length ≤ kMaxPayloadSizeHeaderSize := header_length_le_nine _ _
  unfold strictCheckEcDsaSignature
  rw [if_neg (by omega), if_neg (by simp [hhead]), hkid]
  cases keyFn kid with
  | none => rfl
  | some publicKey =>
    dsimp only
    rw [if_neg (by simp [hpart]), hlength, Nat.add_sub_cancel_left, hcbor.headerSize _ hsize,
      if_neg (by omega), hcbor.encodeHeader _ hsize _ hroom]
    simp [hsignature, hpayload, signedBytes]

/-- The strict reader takes exactly the files of this form that its key verifies. -/
theorem strictCheckEcDsaSignature_iff (hcbor : cbor.Rfc8949) {package : Bytes}
    (hsize : package.length < kPayloadOffset + 2 ^ 64) (keyFn : UInt8 → Option Bytes) (out : ℕ × ℕ) :
    strictCheckEcDsaSignature cbor ssl package keyFn = some out ↔
      ∃ kid signature payload publicKey, package = signedFile kid signature payload ∧
        signature.length = kEcdsaSignatureSize ∧ keyFn kid = some publicKey ∧
        checkEcDsaSignature ssl (ssl.SHA256 (signedBytes payload)) (signature ++ payload) publicKey = true ∧
        out = (kPayloadOffset, payload.length) := by
  constructor
  · intro h
    have hform : ∃ kid signature payload, package = signedFile kid signature payload ∧
        signature.length = kEcdsaSignatureSize := by
      unfold strictCheckEcDsaSignature at h
      split at h
      · simp at h
      · next hlength =>
        split at h
        · simp at h
        · next hhead =>
          split at h
          · simp at h
          · split at h
            · simp at h
            · next hpart =>
              exact eq_signedFile (by omega) (not_not.1 hhead) (not_not.1 hpart)
    obtain ⟨kid, signature, payload, rfl, hlen⟩ := hform
    have hlength := (signedFile_parts kid hlen payload).1
    rw [strictCheckEcDsaSignature_signedFile cbor ssl hcbor kid hlen (by omega)] at h
    obtain ⟨publicKey, hkey, h⟩ := Option.bind_eq_some_iff.1 h
    split at h
    · next hcheck =>
      exact ⟨kid, signature, payload, publicKey, rfl, hlen, hkey, hcheck, (Option.some.inj h).symm⟩
    · simp at h
  · rintro ⟨kid, signature, payload, publicKey, rfl, hlen, hkey, hcheck, rfl⟩
    have hlength := (signedFile_parts kid hlen payload).1
    rw [strictCheckEcDsaSignature_signedFile cbor ssl hcbor kid hlen (by omega), hkey, Option.bind_some,
      if_pos hcheck]

/-- The other reader finds the array at the start of the file. -/
theorem coseIsSigned_signedFile (hcbor : cbor.Rfc8949) (kid : UInt8) {signature : Bytes}
    (hlen : signature.length = kEcdsaSignatureSize) (payload : Bytes) :
    coseIsSigned cbor (signedFile kid signature payload) = some kPayloadOffset := by
  have hparse := hcbor.parse _ payload (signatureItem_fits kid hlen)
  rw [signatureItem_encode kid hlen, List.append_assoc, List.cons_append, List.append_assoc] at hparse
  have hlength : (kSignatureHeader ++ kid :: (kSignatureHeaderPart2 ++ signature)).length =
      kPayloadOffset := by
    simp only [List.length_append, List.length_cons, hlen, kPayloadOffset, kSignatureOffset,
      kSignatureHeaderPart2Offset, kSignatureKeyIdOffset]
    omega
  rw [coseIsSigned, signedFile, hparse]
  simp only [signatureItem, semanticTags, List.mem_singleton, if_true, hlength]

/-- Only the first 64 bytes are read. -/
theorem checkEcDsaSignature_append {signature : Bytes} (hlen : signature.length = kEcdsaSignatureSize)
    (digest rest publicKey : Bytes) :
    checkEcDsaSignature ssl digest (signature ++ rest) publicKey =
      checkEcDsaSignature ssl digest signature publicKey := by
  have hr : (signature ++ rest).take kEcdsaValueSize = signature.take kEcdsaValueSize :=
    List.take_append_of_le_length (by rw [hlen]; decide)
  have hs : ((signature ++ rest).drop kEcdsaValueSize).take kEcdsaValueSize =
      (signature.drop kEcdsaValueSize).take kEcdsaValueSize := by
    rw [List.drop_append_of_le_length (by rw [hlen]; decide)]
    exact List.take_append_of_le_length (by rw [List.length_drop, hlen]; decide)
  rw [checkEcDsaSignature, checkEcDsaSignature, hr, hs]

/-- And checks it as the strict reader does. -/
theorem coseCheckEcDsaSignature_signedFile (hcbor : cbor.Rfc8949) (kid : UInt8) {signature payload : Bytes}
    (hlen : signature.length = kEcdsaSignatureSize) (hsize : payload.length < 2 ^ 64) (publicKey : Bytes) :
    coseCheckEcDsaSignature cbor ssl ((signedFile kid signature payload).take kPayloadOffset)
        ((signedFile kid signature payload).drop kPayloadOffset) publicKey =
      checkEcDsaSignature ssl (ssl.SHA256 (signedBytes payload)) signature publicKey := by
  have hpayload := (signedFile_parts kid hlen payload).2.2.2.2.2
  have htake : (signedFile kid signature payload).take kPayloadOffset =
      (signatureItem kid signature).encode := by
    have happend := List.take_append_drop kPayloadOffset (signedFile kid signature payload)
    rw [hpayload] at happend
    have hfile : signedFile kid signature payload = (signatureItem kid signature).encode ++ payload := by
      rw [signatureItem_encode kid hlen, signedFile]
      simp only [List.append_assoc, List.cons_append]
    exact List.append_cancel_right (happend.trans hfile)
  have hparse := hcbor.parse _ [] (signatureItem_fits kid hlen)
  rw [List.append_nil] at hparse
  rw [coseCheckEcDsaSignature, htake, hparse, hpayload]
  simp [signatureItem, asArray, asBstr, asMap, payloadData, asSimple, untag, hlen,
    coseBuildToBeSigned_eq cbor hcbor hsize]

/-! ### The signer and its readers -/

/-- A payload that is not signed is signed whenever the key can be read and its signature has values of
    at most 32 bytes. -/
theorem sign_package_written (hcbor : cbor.Rfc8949) (hssl : ssl.Documented) (input : File)
    (hunsigned : coseIsSigned cbor input.bytes = none) (key : Bytes) (key_id : UInt8)
    {ecKey : ssl.PrivateKey} {r s : ssl.Bignum} (hkey : ssl.d2i_ECPrivateKey key = some ecKey)
    (hsign : ssl.ECDSA_do_sign (ssl.SHA256 (signedBytes input.bytes)) ecKey = some (r, s))
    (hr : ssl.BN_num_bytes r ≤ 32) (hs : ssl.BN_num_bytes s ≤ 32) :
    (sign_package cbor ssl input.bytes key key_id).isSome := by
  have hpad : ∀ bn, ssl.BN_num_bytes bn ≤ 32 → ∃ bytes, padded ssl bn = some bytes := by
    intro bn hbn
    rw [hssl.num_bytes] at hbn
    have hsize : ¬(((ssl.BN_bn2bin bn).length : ℤ) < 0 ∨
        kEcdsaValueSize < ((ssl.BN_bn2bin bn).length : ℤ).toNat) := by
      simp only [kEcdsaValueSize]
      omega
    simp only [padded, hssl.num_bytes, if_neg hsize, ne_eq, not_true_eq_false, if_false]
    exact ⟨_, rfl⟩
  obtain ⟨rBytes, hr⟩ := hpad r hr
  obtain ⟨sBytes, hs⟩ := hpad s hs
  have hder := hssl.der _ _ _ hsign
  rw [sign_package_eq cbor ssl hcbor hssl input.size_lt, hunsigned]
  simp [coseSignature, signEcDsa, signEcDsaDigest, hkey, hsign, ecdsaSignatureDerToCose, hder, hr, hs]

/-- A file signed is taken by the strict reader. -/
theorem strict_of_signed (hcbor : cbor.Rfc8949) (hssl : ssl.Documented)
    {input key publicKey signature : Bytes} (hsize : input.length < 2 ^ 64)
    {ecKey : ssl.PrivateKey} {ecPublicKey : ssl.PublicKey}
    (hkey : ssl.d2i_ECPrivateKey key = some ecKey) (hpublic : ssl.d2i_EC_PUBKEY publicKey = some ecPublicKey)
    (hmatch : ssl.Matching ecKey ecPublicKey)
    (hsign : coseSignature ssl key (signedBytes input) = some signature) (kid : UInt8)
    {keyFn : UInt8 → Option Bytes} (hfn : keyFn kid = some publicKey) :
    strictCheckEcDsaSignature cbor ssl (signedFile kid signature input) keyFn =
      some (kPayloadOffset, input.length) := by
  have hlen := coseSignature_length ssl hssl hsign
  have hcheck := checkEcDsaSignature_signed ssl hssl hkey hpublic hmatch hsign input
  rw [strictCheckEcDsaSignature_signedFile cbor ssl hcbor kid hlen hsize, hfn, Option.bind_some,
    if_pos hcheck]

/-- What the strict reader takes, the other takes, with the key of the same id. -/
theorem lenient_of_strict (hcbor : cbor.Rfc8949) {package : Bytes}
    (hsize : package.length < kPayloadOffset + 2 ^ 64)
    {keyFn : UInt8 → Option Bytes} {out : ℕ × ℕ}
    (h : strictCheckEcDsaSignature cbor ssl package keyFn = some out) :
    coseIsSigned cbor package = some out.1 ∧
      ∃ publicKey, keyFn (package.getD kSignatureKeyIdOffset 0) = some publicKey ∧
        coseCheckEcDsaSignature cbor ssl (package.take out.1) (package.drop out.1) publicKey = true := by
  obtain ⟨kid, signature, payload, publicKey, rfl, hlen, hkey, hcheck, rfl⟩ :=
    (strictCheckEcDsaSignature_iff cbor ssl hcbor hsize keyFn out).1 h
  obtain ⟨hlength, -, hkid, -, -, -⟩ := signedFile_parts kid hlen payload
  refine ⟨coseIsSigned_signedFile cbor hcbor kid hlen payload, publicKey, by rw [hkid, hkey], ?_⟩
  rw [coseCheckEcDsaSignature_signedFile cbor ssl hcbor kid hlen (by omega)]
  rwa [checkEcDsaSignature_append ssl hlen] at hcheck

theorem verify_package_of_strict (hcbor : cbor.Rfc8949) {package key : Bytes} {keyFn : UInt8 → Option Bytes}
    (hsize : package.length < kPayloadOffset + 2 ^ 64) (hfn : ∀ kid, keyFn kid = some key) {out : ℕ × ℕ}
    (h : strictCheckEcDsaSignature cbor ssl package keyFn = some out) (strict : Bool) :
    verify_package cbor ssl strict package key = true := by
  obtain ⟨hsigned, publicKey, hkey, hcheck⟩ := lenient_of_strict cbor ssl hcbor hsize h
  obtain rfl : key = publicKey := Option.some.inj ((hfn _).symm.trans hkey)
  obtain rfl : keyFn = fun _ => some key := funext hfn
  rw [verify_package, hsigned]
  cases strict with
  | true => simp [h]
  | false => simpa using hcheck

/-- A file that was signed is taken by both readers with the matching public key, the payload behind the
    signature; and what the strict reader takes, the other takes. -/
theorem signed_and_verified (hcbor : cbor.Rfc8949) (hssl : ssl.Documented) :
    (∀ (input : File) (key publicKey : Bytes) (key_id : UInt8) (ecKey : ssl.PrivateKey)
        (ecPublicKey : ssl.PublicKey) (out : Bytes),
      ssl.d2i_ECPrivateKey key = some ecKey → ssl.d2i_EC_PUBKEY publicKey = some ecPublicKey →
      ssl.Matching ecKey ecPublicKey → sign_package cbor ssl input.bytes key key_id = some out →
      (∀ keyFn, keyFn key_id = some publicKey → ∃ start,
        strictCheckEcDsaSignature cbor ssl out keyFn = some (start, input.bytes.length) ∧
          out.drop start = input.bytes) ∧
      (∃ signatureLength, coseIsSigned cbor out = some signatureLength ∧
        out.drop signatureLength = input.bytes ∧
        coseCheckEcDsaSignature cbor ssl (out.take signatureLength) (out.drop signatureLength) publicKey =
          true) ∧
      ∀ strict, verify_package cbor ssl strict out publicKey = true) ∧
    (∀ (package : File) (keyFn : UInt8 → Option Bytes) (start size : ℕ),
      strictCheckEcDsaSignature cbor ssl package.bytes keyFn = some (start, size) →
      coseIsSigned cbor package.bytes = some start ∧
        ∃ publicKey, keyFn (package.bytes.getD kSignatureKeyIdOffset 0) = some publicKey ∧
          coseCheckEcDsaSignature cbor ssl (package.bytes.take start) (package.bytes.drop start) publicKey =
            true) ∧
    ∀ (package : File) (key : Bytes), verify_package cbor ssl true package.bytes key = true →
      verify_package cbor ssl false package.bytes key = true := by
  refine ⟨?_, ?_, ?_⟩
  · intro input key publicKey key_id ecKey ecPublicKey out hkey hpublic hmatch hout
    rw [sign_package_eq cbor ssl hcbor hssl input.size_lt] at hout
    split at hout
    · simp at hout
    · obtain ⟨signature, hsign, rfl⟩ := Option.map_eq_some_iff.1 hout
      have hlen := coseSignature_length ssl hssl hsign
      obtain ⟨hlength, -, hkid, -, -, hpayload⟩ := signedFile_parts key_id hlen input.bytes
      have hsize : (signedFile key_id signature input.bytes).length < kPayloadOffset + 2 ^ 64 := by
        rw [hlength]
        exact Nat.add_lt_add_left input.size_lt _
      have hstrict : ∀ keyFn : UInt8 → Option Bytes, keyFn key_id = some publicKey →
          strictCheckEcDsaSignature cbor ssl (signedFile key_id signature input.bytes) keyFn =
            some (kPayloadOffset, input.bytes.length) := fun keyFn hfn =>
        strict_of_signed cbor ssl hcbor hssl input.size_lt hkey hpublic hmatch hsign key_id hfn
      have hconst := hstrict (fun _ => some publicKey) rfl
      obtain ⟨hsigned, publicKey', hfn, hcheck⟩ := lenient_of_strict cbor ssl hcbor hsize hconst
      obtain rfl : publicKey = publicKey' := Option.some.inj hfn
      refine ⟨fun keyFn hfn => ⟨kPayloadOffset, hstrict keyFn hfn, hpayload⟩,
        ⟨kPayloadOffset, hsigned, hpayload, hcheck⟩, fun strict => ?_⟩
      exact verify_package_of_strict cbor ssl hcbor hsize (fun _ => rfl) hconst strict
  · intro package keyFn start size h
    exact lenient_of_strict cbor ssl hcbor (Nat.lt_add_left _ package.size_lt) h
  · intro package key h
    unfold verify_package at h
    split at h
    · simp at h
    · rw [if_pos rfl, Option.isSome_iff_exists] at h
      obtain ⟨out, hstrict⟩ := h
      exact verify_package_of_strict cbor ssl hcbor (Nat.lt_add_left _ package.size_lt) (fun _ => rfl)
        hstrict false

/-! ### A key and its signature

    One key pair on P-256 with one signature of it, of the payload "fw". -/

def examplePayload : Bytes := text "fw"

def exampleKey : Bytes :=
  be 7 0x30310201010420 ++ be 32 0xc9760873d0f88e8181c6ec79cae7fe09f8d15deaba25ba639b77aa18a2026b8c ++
    be 12 0xa00a06082a8648ce3d030107

def examplePublicKey : Bytes :=
  be 27 0x3059301306072a8648ce3d020106082a8648ce3d03010703420004 ++
    be 32 0xb780f66e1bc4ed02fdb1b986710a9f011a1fbb86ecc324421d2bbdf0df34be43 ++
    be 32 0x3b613e8d527441f7464df2adefc491c8e23f4f628fbec42ca7cfa304be0f82ac

def exampleDigest : Bytes := be 32 0x2351bfa30a79099f05795925aaa74b1ef7b1a33bccdf5115784449d099e71a70

def exampleSignature : ℕ × ℕ :=
  (0x468392d4694e14dba1163cb77d05bddd694e51edb65d61cc92072ec7de9c78e3,
    0x2916fad071c18e464c02bde5320d92d61681ca41b37f0ba91e5b29956ff65c67)

def exampleDer : Bytes :=
  be 4 0x30440220 ++ be 32 exampleSignature.1 ++ be 2 0x0220 ++ be 32 exampleSignature.2

/-- The library on this key and payload; numbers as they are. -/
def OpenSSL.p256 : OpenSSL where
  PrivateKey := Unit
  PublicKey := Unit
  Bignum := ℕ
  d2i_ECPrivateKey := fun der => if der = exampleKey then some () else none
  d2i_EC_PUBKEY := fun der => if der = examplePublicKey then some () else none
  SHA256 := fun data => if data = signedBytes examplePayload then exampleDigest else []
  ECDSA_do_sign := fun digest _ => if digest = exampleDigest then some exampleSignature else none
  ECDSA_do_verify := fun digest sig _ => digest = exampleDigest && sig = exampleSignature
  i2d_ECDSA_SIG := fun sig => if sig = exampleSignature then exampleDer else []
  d2i_ECDSA_SIG := fun der => if der = exampleDer then some exampleSignature else none
  BN_num_bytes := fun n => byteCount n
  BN_bn2bin := fun n => be (byteCount n) n
  BN_bin2bn := beNat
  Matching := fun _ _ => True

theorem OpenSSL.p256_signs {digest : Bytes} {key : Unit} {sig : ℕ × ℕ}
    (h : OpenSSL.p256.ECDSA_do_sign digest key = some sig) :
    digest = exampleDigest ∧ exampleSignature = sig := by
  obtain ⟨hdigest, hsig⟩ := Option.ite_none_right_eq_some.1 h
  exact ⟨hdigest, Option.some.inj hsig⟩

theorem OpenSSL.p256_documented : OpenSSL.p256.Documented where
  der := fun digest key sig h => by
    obtain ⟨-, rfl⟩ := OpenSSL.p256_signs h
    simp only [OpenSSL.p256, if_true]
  num_bytes := fun n => congrArg Nat.cast (be_length (byteCount n) n).symm
  bin2bn := fun zeros n => by
    have hbytes : beNat (be (byteCount n) n) = n :=
      (beNat_be (byteCount n) n).trans (Nat.mod_eq_of_lt (lt_pow_byteCount n))
    exact (beNat_zeros_append zeros (be (byteCount n) n)).trans hbytes
  verify := fun digest key publicKey sig _ h => by
    obtain ⟨rfl, rfl⟩ := OpenSSL.p256_signs h
    simp [OpenSSL.p256]

theorem signed_and_verified_p256 :
    ∃ out, sign_package .plain .p256 examplePayload exampleKey 7 = some out ∧
      (∃ start, strictCheckEcDsaSignature .plain .p256 out
          (fun kid => if kid = 7 then some examplePublicKey else none) = some (start, 2) ∧
        out.drop start = examplePayload) ∧
      ∀ strict, verify_package .plain .p256 strict out examplePublicKey = true := by
  have hsize : examplePayload.length < 2 ^ 64 := by decide
  have hunsigned : coseIsSigned .plain examplePayload = none := by decide
  have hkey : OpenSSL.p256.d2i_ECPrivateKey exampleKey = some () := by simp only [OpenSSL.p256, if_true]
  have hpublic : OpenSSL.p256.d2i_EC_PUBKEY examplePublicKey = some () := by simp only [OpenSSL.p256, if_true]
  have hdigest : OpenSSL.p256.SHA256 (signedBytes examplePayload) = exampleDigest := by
    simp only [OpenSSL.p256, if_true]
  have hsign : OpenSSL.p256.ECDSA_do_sign (OpenSSL.p256.SHA256 (signedBytes examplePayload)) () =
      some exampleSignature := by
    rw [hdigest]
    simp only [OpenSSL.p256, if_true]
  have hsigned := sign_package_written .plain .p256 Cppbor.plain_rfc8949 OpenSSL.p256_documented
    ⟨examplePayload, hsize⟩ hunsigned exampleKey 7 hkey hsign (by decide) (by decide)
  obtain ⟨out, hout⟩ := Option.isSome_iff_exists.1 hsigned
  obtain ⟨hstrict, -, hverify⟩ := (signed_and_verified .plain .p256 Cppbor.plain_rfc8949
    OpenSSL.p256_documented).1 ⟨examplePayload, hsize⟩ exampleKey examplePublicKey 7 () () out
    hkey hpublic trivial hout
  exact ⟨out, hout, hstrict _ rfl, hverify⟩

end ImxHal.Firmware
