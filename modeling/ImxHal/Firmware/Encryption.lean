import ImxHal.Firmware.Cppbor

/-! @src package_firmware_tool/cose.cpp, cose.h (encryption) | name:key wrap | scheme:cbor |
    family:data formats

    An encrypted ELF file is a COSE_Encrypt array. A content key is drawn for it; the content is
    encrypted under that key, and the key, as a COSE_Key map, under the key of the one recipient:

        [ protected, {iv}, AES-GCM (content key, elf), [ [ protected, {kid, iv}, AES-GCM (key, COSE_Key) ] ] ]

    Either layer authenticates an array of its context and its protected headers, which is not in the
    file: whoever decrypts builds it again. -/

namespace ImxHal.Firmware
open ImxHal.Cbor

def COSE_LABEL_IV : ℤ := 5
def COSE_LABEL_KEY_KTY : ℤ := 1
def COSE_LABEL_KEY_ALG : ℤ := 3
def COSE_LABEL_KEY_SYMMETRIC_KEY : ℤ := -1
def COSE_TAG_ENCRYPT : ℕ := 96
def COSE_KEY_TYPE_SYMMETRIC : ℤ := 4
def COSE_CONTEXT_ENCRYPT : Bytes := text "Encrypt"
def COSE_CONTEXT_ENC_RECIPIENT : Bytes := text "Enc_Recipient"
def COSE_ALG_A128GCM : ℤ := 1
def kAesGcmIvSize : ℕ := 12
def kAesGcmTagSize : ℕ := 16
def kAes128GcmKeySize : ℕ := 16

/-- AES-128-GCM and the random numbers: `encrypt` gives the ciphertext and its tag, and `RAND_bytes`
    what its calls give one after the other. -/
structure Gcm where
  RAND_bytes : (call numBytes : ℕ) → Option (Vector UInt8 numBytes)
  encrypt : (key nonce aad plaintext : Bytes) → Bytes × Bytes
  decrypt : (key nonce aad ciphertext tag : Bytes) → Option Bytes

/-- What it promises of a key, a nonce and a length it can take. -/
structure Gcm.Documented (gcm : Gcm) : Prop where
  text_length : ∀ key nonce aad plaintext,
    (gcm.encrypt key nonce aad plaintext).1.length = plaintext.length
  tag_length : ∀ key nonce aad plaintext, (gcm.encrypt key nonce aad plaintext).2.length = kAesGcmTagSize
  decrypt_encrypt : ∀ key nonce aad plaintext, key.length = kAes128GcmKeySize →
    nonce.length = kAesGcmIvSize → plaintext.length < 2 ^ 31 →
    gcm.decrypt key nonce aad (gcm.encrypt key nonce aad plaintext).1
      (gcm.encrypt key nonce aad plaintext).2 = some plaintext

variable (cbor : Cppbor) (gcm : Gcm)

/-- A size where an `int` is expected. -/
def toInt (n : ℤ) : ℤ := n.bmod (2 ^ 32)

/-! ### Encrypting -/

def getRandom (call numBytes : ℕ) : Option Bytes := (gcm.RAND_bytes call numBytes).map Vector.toList

def coseBuildGcmAad (context encodedProtectedHeaders externalAad : Bytes) : Bytes :=
  cbor.encode (.array [.tstr context, .bstr encodedProtectedHeaders, .bstr externalAad])

/-- The library takes a length as an `int` and says how much it has written, which must be all. -/
def updates (size : ℕ) : Bool := size = 0 || toInt size = size

def encryptAes128Gcm (key nonce data additionalAuthenticatedData : Bytes) : Option Bytes :=
  if key.length ≠ kAes128GcmKeySize then none
  else if nonce.length ≠ kAesGcmIvSize then none
  else if updates additionalAuthenticatedData.length = false then none
  else if updates data.length = false then none
  else
    let sealed := gcm.encrypt key nonce additionalAuthenticatedData data
    some (sealed.1 ++ sealed.2)

/-- One layer; `call` is the number of random numbers drawn before. -/
def coseEncryptAes128Gcm (call : ℕ) (context key data externalAad : Bytes)
    (protectedHeaders unprotectedHeaders : Entries) (recipients : Option (List Item)) : Option Item :=
  match getRandom gcm call kAesGcmIvSize with
  | none => none
  | some iv =>
    let unprotectedHeaders := cbor.canonicalize (unprotectedHeaders ++ [(int COSE_LABEL_IV, .bstr iv)])
    let protectedHeaders :=
      cbor.canonicalize (protectedHeaders ++ [(int COSE_LABEL_ALG, int COSE_ALG_A128GCM)])
    let encodedProtectedHeaders := coseEncodeHeaders cbor protectedHeaders
    let gcmAad := coseBuildGcmAad cbor context encodedProtectedHeaders externalAad
    match encryptAes128Gcm gcm key iv data gcmAad with
    | none => none
    | some ciphertext => some (.array ([.bstr encodedProtectedHeaders, .map unprotectedHeaders,
        .bstr ciphertext] ++ (recipients.map Item.array).toList))

def coseEncryptAes128GcmKeyWrap (key : Bytes) (keyId : UInt8) (data externalAad : Bytes)
    (protectedHeaders unprotectedHeaders : Entries) (tagged : Bool) : Option Item :=
  match getRandom gcm 0 kAes128GcmKeySize with
  | none => none
  | some contentEncryptionKey =>
    let coseKey := cbor.canonicalize
      [(int COSE_LABEL_KEY_KTY, int COSE_KEY_TYPE_SYMMETRIC), (int COSE_LABEL_KEY_ALG, int COSE_ALG_A128GCM),
        (int COSE_LABEL_KEY_SYMMETRIC_KEY, .bstr contentEncryptionKey)]
    let keyUnprotectedHeaders := [(int COSE_LABEL_KID, .bstr [keyId])]
    match coseEncryptAes128Gcm cbor gcm 1 COSE_CONTEXT_ENC_RECIPIENT key (cbor.encode (.map coseKey)) [] []
        keyUnprotectedHeaders none with
    | none => none
    | some encContentEncryptionKey =>
      match coseEncryptAes128Gcm cbor gcm 2 COSE_CONTEXT_ENCRYPT contentEncryptionKey data externalAad
          protectedHeaders unprotectedHeaders (some [encContentEncryptionKey]) with
      | none => none
      | some coseEncrypt => some (if tagged then .tag COSE_TAG_ENCRYPT coseEncrypt else coseEncrypt)

/-! ### Decrypting -/

def decryptAes128GcmInPlace (key nonce encryptedData additionalAuthenticatedData : Bytes) : Option Bytes :=
  let ciphertextSize := toInt (toInt encryptedData.length - kAesGcmTagSize)
  if ciphertextSize < 0 then none
  else if key.length ≠ kAes128GcmKeySize then none
  else if nonce.length ≠ kAesGcmIvSize then none
  else if updates additionalAuthenticatedData.length = false then none
  else gcm.decrypt key nonce additionalAuthenticatedData (encryptedData.take ciphertextSize.toNat)
    ((encryptedData.drop ciphertextSize.toNat).take kAesGcmTagSize)

/-- One layer, opened. -/
def coseDecryptAes128GcmInPlace (context : Bytes) (item : Item) (key externalAad : Bytes) :
    Option Bytes := do
  let itemArray ← asArray item
  guard (3 ≤ itemArray.length ∧ itemArray.length ≤ 4)
  let encodedProtectedHeaders ← asBstr (itemArray.getD 0 .null)
  let (protectedHeaders, _) ← cbor.parse encodedProtectedHeaders
  let protectedHeadersMap ← asMap protectedHeaders
  let alg_item ← protectedHeadersMap.get COSE_LABEL_ALG
  let alg ← asInt alg_item
  guard (alg = COSE_ALG_A128GCM)
  let unprotectedHeaders ← asMap (itemArray.getD 1 .null)
  let iv_item ← unprotectedHeaders.get COSE_LABEL_IV
  let iv ← asBstr iv_item
  let ciphertext ← asBstr (itemArray.getD 2 .null)
  let gcmAad := coseBuildGcmAad cbor context encodedProtectedHeaders externalAad
  decryptAes128GcmInPlace gcm key iv ciphertext gcmAad

def coseDecryptAes128GcmKeyWrapInPlace (item : Item) (keyFn : UInt8 → Option Bytes) (externalAad : Bytes)
    (checkTag : Bool) : Option Bytes := do
  guard (checkTag = true → semanticTags item = [COSE_TAG_ENCRYPT])
  let itemArray ← asArray item
  guard (itemArray.length = 4)
  let recipientsArray ← asArray (itemArray.getD 3 .null)
  guard (recipientsArray.length = 1)
  let recipient := recipientsArray.getD 0 .null
  let recipientArray ← asArray recipient
  guard (recipientArray.length = 3)
  let unprotectedHeaders ← asMap (recipientArray.getD 1 .null)
  let keyIdItem ← unprotectedHeaders.get COSE_LABEL_KID
  let keyIdBytes ← asBstr keyIdItem
  guard (keyIdBytes.length = 1)
  let keyEncryptionKey ← keyFn (keyIdBytes.getD 0 0)
  let coseKeyBytes ← coseDecryptAes128GcmInPlace cbor gcm COSE_CONTEXT_ENC_RECIPIENT recipient
    keyEncryptionKey []
  let (coseKey, _) ← cbor.parse coseKeyBytes
  let coseKeyMap ← asMap coseKey
  let ktyItem ← coseKeyMap.get COSE_LABEL_KEY_KTY
  let kty ← asInt ktyItem
  guard (kty = COSE_KEY_TYPE_SYMMETRIC)
  let algItem ← coseKeyMap.get COSE_LABEL_KEY_ALG
  let alg ← asInt algItem
  guard (alg = COSE_ALG_A128GCM)
  let contentEncryptionKeyItem ← coseKeyMap.get COSE_LABEL_KEY_SYMMETRIC_KEY
  let contentEncryptionKey ← asBstr contentEncryptionKeyItem
  guard (contentEncryptionKey.length = kAes128GcmKeySize)
  coseDecryptAes128GcmInPlace cbor gcm COSE_CONTEXT_ENCRYPT item contentEncryptionKey externalAad

/-! ### One layer -/

theorem guard_eq_some {p : Prop} [Decidable p] (h : p) : (guard p : Option Unit) = some () := if_pos h

theorem toInt_of_lt {n : ℕ} (hn : n < 2 ^ 31) : toInt n = n :=
  Int.bmod_eq_of_le (by omega) (by omega)

theorem updates_of_lt {size : ℕ} (hsize : size < 2 ^ 31) : updates size = true := by
  simp [updates, toInt_of_lt hsize]

/-- The size without the tag, whatever the size did to the `int`. -/
theorem toInt_sub_tag {size : ℕ} (hsize : size < 2 ^ 31) :
    toInt (toInt ((size + kAesGcmTagSize : ℕ) : ℤ) - kAesGcmTagSize) = size := by
  rw [toInt, toInt, Int.bmod_sub_bmod, Nat.cast_add, Int.add_sub_cancel]
  exact toInt_of_lt hsize

/-- What is encrypted is decrypted. -/
theorem decryptAes128GcmInPlace_encryptAes128Gcm (hgcm : gcm.Documented) {key nonce data aad : Bytes}
    (hkey : key.length = kAes128GcmKeySize) (hnonce : nonce.length = kAesGcmIvSize)
    (hdata : data.length < 2 ^ 31) (haad : aad.length < 2 ^ 31) :
    ∃ encrypted, encryptAes128Gcm gcm key nonce data aad = some encrypted ∧
      encrypted.length = data.length + kAesGcmTagSize ∧
      decryptAes128GcmInPlace gcm key nonce encrypted aad = some data := by
  have htext := hgcm.text_length key nonce aad data
  have htag := hgcm.tag_length key nonce aad data
  have hlength : ((gcm.encrypt key nonce aad data).1 ++ (gcm.encrypt key nonce aad data).2).length =
      data.length + kAesGcmTagSize := by
    rw [List.length_append, htext, htag]
  refine ⟨_, ?_, hlength, ?_⟩
  · simp [encryptAes128Gcm, hkey, hnonce, updates_of_lt hdata, updates_of_lt haad]
  · rw [decryptAes128GcmInPlace, hlength, toInt_sub_tag hdata]
    simp only [Int.toNat_natCast, if_neg (not_lt.2 (Int.natCast_nonneg data.length)), hkey, hnonce,
      updates_of_lt haad, ne_eq, not_true_eq_false, if_false, Bool.true_eq_false]
    rw [List.take_left' htext, List.drop_left' htext, List.take_of_length_le (le_of_eq htag)]
    exact hgcm.decrypt_encrypt key nonce aad data hkey hnonce hdata

/-- The bytes of the protected headers, the algorithm among them. -/
def protectedBytes (protectedHeaders : Entries) : Bytes :=
  coseEncodeHeaders cbor
    (cbor.canonicalize (protectedHeaders ++ [(int COSE_LABEL_ALG, int COSE_ALG_A128GCM)]))

/-- The array of a layer. -/
def layerItem (protectedHeaders unprotectedHeaders : Entries) (iv ciphertext : Bytes)
    (recipients : Option (List Item)) : Item :=
  .array ([.bstr (protectedBytes cbor protectedHeaders),
    .map (cbor.canonicalize (unprotectedHeaders ++ [(int COSE_LABEL_IV, .bstr iv)])),
    .bstr ciphertext] ++ (recipients.map Item.array).toList)

/-- The protected headers are read as they were written. -/
theorem parse_protectedBytes (hcbor : cbor.Rfc8949) {protectedHeaders : Entries}
    (hfits : EntriesFit protectedHeaders) (hsmall : protectedHeaders.length < 2 ^ 63) :
    (cbor.parse (protectedBytes cbor protectedHeaders)).map Prod.fst =
      some (.map (cbor.canonicalize (protectedHeaders ++ [(int COSE_LABEL_ALG, int COSE_ALG_A128GCM)]))) := by
  have hall : EntriesFit (protectedHeaders ++ [(int COSE_LABEL_ALG, int COSE_ALG_A128GCM)]) :=
    entriesFit_append hfits ⟨int_fits COSE_LABEL_ALG (by decide), int_fits COSE_ALG_A128GCM (by decide),
      trivial⟩
  have hlength := canonicalize_length hcbor (protectedHeaders ++ [(int COSE_LABEL_ALG, int COSE_ALG_A128GCM)])
  rw [List.length_append, List.length_singleton] at hlength
  have hmap : (Item.map (cbor.canonicalize
      (protectedHeaders ++ [(int COSE_LABEL_ALG, int COSE_ALG_A128GCM)]))).Fits :=
    ⟨by omega, canonicalize_fits hcbor hall⟩
  have hparse := hcbor.parse _ [] hmap
  rw [List.append_nil] at hparse
  rw [protectedBytes, coseEncodeHeaders, if_neg (by omega), hcbor.encode _ hmap, hparse, Option.map_some]

/-- A layer is opened with the key and the context it was made with. -/
theorem layer_opened (hcbor : cbor.Rfc8949) (hgcm : gcm.Documented) {call : ℕ}
    {context key data externalAad : Bytes} {protectedHeaders : Entries} (unprotectedHeaders : Entries)
    (recipients : Option (List Item)) (hrandom : (gcm.RAND_bytes call kAesGcmIvSize).isSome)
    (hkey : key.length = kAes128GcmKeySize) (hdata : data.length < 2 ^ 31)
    (hfits : EntriesFit protectedHeaders) (hsmall : protectedHeaders.length < 2 ^ 63)
    (halg : ∀ entry ∈ protectedHeaders, asInt entry.1 ≠ some COSE_LABEL_ALG)
    (hiv : ∀ entry ∈ unprotectedHeaders, asInt entry.1 ≠ some COSE_LABEL_IV)
    (haad : (coseBuildGcmAad cbor context (protectedBytes cbor protectedHeaders) externalAad).length <
      2 ^ 31) :
    ∃ iv ciphertext, iv.length = kAesGcmIvSize ∧ ciphertext.length = data.length + kAesGcmTagSize ∧
      coseEncryptAes128Gcm cbor gcm call context key data externalAad protectedHeaders unprotectedHeaders
        recipients = some (layerItem cbor protectedHeaders unprotectedHeaders iv ciphertext recipients) ∧
      coseDecryptAes128GcmInPlace cbor gcm context
        (layerItem cbor protectedHeaders unprotectedHeaders iv ciphertext recipients) key externalAad =
          some data := by
  obtain ⟨iv, hdraw⟩ := Option.isSome_iff_exists.1 hrandom
  have hlength : iv.toList.length = kAesGcmIvSize := Vector.length_toList
  obtain ⟨ciphertext, hencrypt, hsize, hdecrypt⟩ := decryptAes128GcmInPlace_encryptAes128Gcm gcm hgcm hkey
    hlength hdata haad
  refine ⟨iv.toList, ciphertext, hlength, hsize, ?_, ?_⟩
  · rw [coseEncryptAes128Gcm, getRandom, hdraw, Option.map_some]
    dsimp only
    rw [protectedBytes] at hencrypt
    rw [hencrypt]
    rfl
  · have hgetAlg := get_added hcbor halg (int COSE_ALG_A128GCM)
    have hgetIv := get_added hcbor hiv (.bstr iv.toList)
    rw [canonical_int hcbor] at hgetAlg
    rw [hcbor.canonical_bstr] at hgetIv
    obtain ⟨⟨headers, n⟩, hparse, hheaders⟩ := Option.map_eq_some_iff.1
      (parse_protectedBytes cbor hcbor hfits hsmall)
    obtain rfl : headers = _ := hheaders
    have hcount : (recipients.map Item.array).toList.length ≤ 1 := by
      cases recipients <;> simp
    rw [coseDecryptAes128GcmInPlace]
    simp only [Option.bind_eq_bind, Option.bind_eq_some_iff]
    refine ⟨_, asArray_array _, (), guard_eq_some ?_, _, asBstr_bstr _, (_, n), hparse, _, asMap_map _, _,
      hgetAlg, _, asInt_int _, (), guard_eq_some rfl, _, asMap_map _, _, hgetIv, _, asBstr_bstr _, _,
      asBstr_bstr _, hdecrypt⟩
    simp only [List.length_append, List.length_cons, List.length_nil]
    omega

/-! ### Both layers -/

/-- The entries of the content key. -/
def keyEntries (contentEncryptionKey : Bytes) : Entries :=
  [(int COSE_LABEL_KEY_KTY, int COSE_KEY_TYPE_SYMMETRIC), (int COSE_LABEL_KEY_ALG, int COSE_ALG_A128GCM),
    (int COSE_LABEL_KEY_SYMMETRIC_KEY, .bstr contentEncryptionKey)]

theorem keyEntries_fit {cek : Bytes} (hcek : cek.length = kAes128GcmKeySize) :
    EntriesFit (keyEntries cek) := by
  have hlength : cek.length < 2 ^ 64 := by
    rw [hcek]
    decide
  exact ⟨int_fits COSE_LABEL_KEY_KTY (by decide), int_fits COSE_KEY_TYPE_SYMMETRIC (by decide),
    int_fits COSE_LABEL_KEY_ALG (by decide), int_fits COSE_ALG_A128GCM (by decide),
    int_fits COSE_LABEL_KEY_SYMMETRIC_KEY (by decide), hlength, trivial⟩

/-- The content key is read as it was written, and is short. -/
theorem coseKey_parsed (hcbor : cbor.Rfc8949) {cek : Bytes} (hcek : cek.length = kAes128GcmKeySize) :
    (∃ n, cbor.parse (cbor.encode (.map (cbor.canonicalize (keyEntries cek)))) =
      some (.map (cbor.canonicalize (keyEntries cek)), n)) ∧
    (cbor.encode (.map (cbor.canonicalize (keyEntries cek)))).length < 2 ^ 31 := by
  have hcount := canonicalize_length hcbor (keyEntries cek)
  have hthree : (keyEntries cek).length = 3 := rfl
  have hfits : (Item.map (cbor.canonicalize (keyEntries cek))).Fits :=
    ⟨by omega, canonicalize_fits hcbor (keyEntries_fit hcek)⟩
  have hparse := hcbor.parse _ [] hfits
  rw [List.append_nil] at hparse
  rw [hcbor.encode _ hfits]
  refine ⟨⟨_, hparse⟩, ?_⟩
  have hsame : (keyEntries cek).map (Prod.map cbor.canonical cbor.canonical) = keyEntries cek := by
    simp [keyEntries, canonical_int hcbor, hcbor.canonical_bstr]
  have hlength := encodeEntries_length_perm (hcbor.canonicalize_perm (keyEntries cek))
  rw [hsame] at hlength
  have hentries : (encodeEntries (keyEntries cek)).length ≤ 100 := by
    have hbytes : (Item.bstr cek).encode.length = 17 := by
      rw [Item.encode, List.length_append, hcek]
      rfl
    have hints : (int COSE_LABEL_KEY_KTY).encode.length + (int COSE_KEY_TYPE_SYMMETRIC).encode.length +
        (int COSE_LABEL_KEY_ALG).encode.length + (int COSE_ALG_A128GCM).encode.length +
        (int COSE_LABEL_KEY_SYMMETRIC_KEY).encode.length = 5 := by decide
    simp only [keyEntries, encodeEntries, List.length_append, List.length_nil, hbytes]
    omega
  have hhead := header_length_le_nine 5 (cbor.canonicalize (keyEntries cek)).length
  rw [Item.encode, List.length_append, hlength]
  omega

/-- Each field of the content key is found. -/
theorem coseKey_fields (hcbor : cbor.Rfc8949) (cek : Bytes) :
    (cbor.canonicalize (keyEntries cek)).get COSE_LABEL_KEY_KTY = some (int COSE_KEY_TYPE_SYMMETRIC) ∧
    (cbor.canonicalize (keyEntries cek)).get COSE_LABEL_KEY_ALG = some (int COSE_ALG_A128GCM) ∧
    (cbor.canonicalize (keyEntries cek)).get COSE_LABEL_KEY_SYMMETRIC_KEY = some (.bstr cek) := by
  have hkey : ∀ i (hi : i < 3), (cbor.canonicalize (keyEntries cek)).get
      ([COSE_LABEL_KEY_KTY, COSE_LABEL_KEY_ALG, COSE_LABEL_KEY_SYMMETRIC_KEY].getD i 0) =
        some (cbor.canonical (List.get (keyEntries cek) ⟨i, hi⟩).2) := by
    intro i hi
    refine get_canonicalize hcbor (List.get_mem _ _) ?_ ?_
    all_goals interval_cases i
    all_goals simp [keyEntries, COSE_LABEL_KEY_KTY, COSE_LABEL_KEY_ALG, COSE_LABEL_KEY_SYMMETRIC_KEY]
  refine ⟨?_, ?_, ?_⟩
  · exact (hkey 0 (by decide)).trans (congrArg some (canonical_int hcbor COSE_KEY_TYPE_SYMMETRIC))
  · exact (hkey 1 (by decide)).trans (congrArg some (canonical_int hcbor COSE_ALG_A128GCM))
  · exact (hkey 2 (by decide)).trans (congrArg some (hcbor.canonical_bstr _))

/-- What an array of a layer holds is short enough for a header. -/
theorem layerItem_fits (hcbor : cbor.Rfc8949) {protectedHeaders unprotectedHeaders : Entries}
    {iv ciphertext : Bytes} {recipients : Option (List Item)}
    (hprotected : (protectedBytes cbor protectedHeaders).length < 2 ^ 64)
    (hunprotected : EntriesFit unprotectedHeaders) (hsmall : unprotectedHeaders.length < 2 ^ 63)
    (hiv : iv.length = kAesGcmIvSize) (hciphertext : ciphertext.length < 2 ^ 64)
    (hrecipients : ∀ items ∈ recipients, (Item.array items).Fits) :
    (layerItem cbor protectedHeaders unprotectedHeaders iv ciphertext recipients).Fits := by
  have hivFits : (Item.bstr iv).Fits := by
    rw [Item.Fits, hiv]
    decide
  have hall : EntriesFit (unprotectedHeaders ++ [(int COSE_LABEL_IV, .bstr iv)]) :=
    entriesFit_append hunprotected ⟨int_fits COSE_LABEL_IV (by decide), hivFits, trivial⟩
  have hcount := canonicalize_length hcbor (unprotectedHeaders ++ [(int COSE_LABEL_IV, .bstr iv)])
  rw [List.length_append, List.length_singleton] at hcount
  have hmap : (Item.map (cbor.canonicalize
      (unprotectedHeaders ++ [(int COSE_LABEL_IV, .bstr iv)]))).Fits :=
    ⟨by omega, canonicalize_fits hcbor hall⟩
  cases recipients with
  | none => exact ⟨show 3 < 2 ^ 64 by decide, hprotected, hmap, hciphertext, trivial⟩
  | some items =>
    exact ⟨show 4 < 2 ^ 64 by decide, hprotected, hmap, hciphertext, hrecipients items rfl, trivial⟩

/-- The protected headers of a package. -/
def trustyHeaders : Entries := [(int COSE_LABEL_TRUSTY, .tstr (text "TrustyApp"))]

/-- The bytes of the protected headers of either layer. -/
theorem protectedBytes_eq (hcbor : cbor.Rfc8949) :
    protectedBytes cbor [] = (Item.map [(int COSE_LABEL_ALG, int COSE_ALG_A128GCM)]).encode ∧
    protectedBytes cbor trustyHeaders =
      (Item.map [(int COSE_LABEL_ALG, int COSE_ALG_A128GCM),
        (int COSE_LABEL_TRUSTY, .tstr (text "TrustyApp"))]).encode := by
  have halg : (int COSE_LABEL_ALG).Fits ∧ (int COSE_ALG_A128GCM).Fits :=
    ⟨int_fits COSE_LABEL_ALG (by decide), int_fits COSE_ALG_A128GCM (by decide)⟩
  have htrusty : (int COSE_LABEL_TRUSTY).Fits ∧ (Item.tstr (text "TrustyApp")).Fits :=
    ⟨int_fits COSE_LABEL_TRUSTY (by decide), show (text "TrustyApp").length < 2 ^ 64 by decide⟩
  have hone := canonicalize_one hcbor (canonical_int hcbor COSE_LABEL_ALG)
    (canonical_int hcbor COSE_ALG_A128GCM)
  have htwo : cbor.canonicalize [(int COSE_LABEL_TRUSTY, .tstr (text "TrustyApp")),
      (int COSE_LABEL_ALG, int COSE_ALG_A128GCM)] = [(int COSE_LABEL_ALG, int COSE_ALG_A128GCM),
      (int COSE_LABEL_TRUSTY, .tstr (text "TrustyApp"))] := by
    refine canonicalize_two hcbor (by decide) ?_ ?_
    · simp [canonical_int hcbor, hcbor.canonical_tstr]
    · simp [canonical_int hcbor]
  refine ⟨?_, ?_⟩
  · rw [protectedBytes, List.nil_append, hone]
    exact hcbor.encode _ ⟨show 1 < 2 ^ 64 by decide, halg.1, halg.2, trivial⟩
  · rw [protectedBytes, trustyHeaders, List.cons_append, List.nil_append, htwo]
    exact hcbor.encode _ ⟨show 2 < 2 ^ 64 by decide, halg.1, halg.2, htrusty.1, htrusty.2, trivial⟩

/-- What is authenticated is short. -/
theorem aad_length (hcbor : cbor.Rfc8949) :
    (coseBuildGcmAad cbor COSE_CONTEXT_ENC_RECIPIENT (protectedBytes cbor []) []).length < 2 ^ 31 ∧
    (coseBuildGcmAad cbor COSE_CONTEXT_ENCRYPT (protectedBytes cbor trustyHeaders) []).length < 2 ^ 31 := by
  obtain ⟨hrecipient, hcontent⟩ := protectedBytes_eq cbor hcbor
  have hfits : ∀ context bytes : Bytes, context.length < 2 ^ 64 → bytes.length < 2 ^ 64 →
      (Item.array [.tstr context, .bstr bytes, .bstr []]).Fits := fun context bytes hcontext hbytes =>
    ⟨show 3 < 2 ^ 64 by decide, hcontext, hbytes, show 0 < 2 ^ 64 by decide, trivial⟩
  rw [coseBuildGcmAad, coseBuildGcmAad, hrecipient, hcontent,
    hcbor.encode _ (hfits _ _ (by decide) (by decide)),
    hcbor.encode _ (hfits _ _ (by decide) (by decide))]
  exact ⟨by decide, by decide⟩

/-- A package's content is got back with the key it was encrypted for. -/
theorem keyWrap_opened (hcbor : cbor.Rfc8949) (hgcm : gcm.Documented)
    (hrandom : ∀ call numBytes, (gcm.RAND_bytes call numBytes).isSome) {key data : Bytes} (keyId : UInt8)
    (hkey : key.length = kAes128GcmKeySize) (hdata : data.length < 2 ^ 31)
    (keyFn : UInt8 → Option Bytes) (hfn : keyFn keyId = some key) :
    ∃ item, coseEncryptAes128GcmKeyWrap cbor gcm key keyId data [] trustyHeaders [] false = some item ∧
      item.Fits ∧ (asArray item).isSome ∧ asBstr item = none ∧
      coseDecryptAes128GcmKeyWrapInPlace cbor gcm item keyFn [] false = some data := by
  obtain ⟨cek, hdraw⟩ := Option.isSome_iff_exists.1 (hrandom 0 kAes128GcmKeySize)
  have hcek : cek.toList.length = kAes128GcmKeySize := Vector.length_toList
  obtain ⟨⟨n, hparse⟩, hshort⟩ := coseKey_parsed cbor hcbor hcek
  obtain ⟨hkty, halg, hsymmetric⟩ := coseKey_fields cbor hcbor cek.toList
  obtain ⟨haadKey, haadContent⟩ := aad_length cbor hcbor
  have hkid : EntriesFit [(int COSE_LABEL_KID, .bstr [keyId])] :=
    ⟨int_fits COSE_LABEL_KID (by decide), show 1 < 2 ^ 64 by decide, trivial⟩
  have htrusty : EntriesFit trustyHeaders :=
    ⟨int_fits COSE_LABEL_TRUSTY (by decide), show (text "TrustyApp").length < 2 ^ 64 by decide, trivial⟩
  have hkidFree : ∀ entry ∈ [(int COSE_LABEL_KID, Item.bstr [keyId])],
      asInt entry.1 ≠ some COSE_LABEL_IV := by
    simp [COSE_LABEL_KID, COSE_LABEL_IV]
  have htrustyFree : ∀ entry ∈ trustyHeaders, asInt entry.1 ≠ some COSE_LABEL_ALG := by
    simp [trustyHeaders, COSE_LABEL_TRUSTY, COSE_LABEL_ALG]
  -- the content key, wrapped for the recipient
  obtain ⟨iv, wrapped, hiv, hwrapped, hwrap, hunwrap⟩ := layer_opened cbor gcm hcbor hgcm
    [(int COSE_LABEL_KID, .bstr [keyId])] none (hrandom 1 kAesGcmIvSize) hkey hshort
    (show EntriesFit [] from trivial) (by simp) (by simp) hkidFree haadKey
  -- the content, under the content key
  obtain ⟨iv', ciphertext, hiv', hciphertext, hencrypt, hdecrypt⟩ := layer_opened cbor gcm hcbor hgcm []
    (some [layerItem cbor [] [(int COSE_LABEL_KID, .bstr [keyId])] iv wrapped none])
    (hrandom 2 kAesGcmIvSize) hcek hdata htrusty (by simp [trustyHeaders]) htrustyFree (by simp) haadContent
  have hrecipient : (layerItem cbor [] [(int COSE_LABEL_KID, .bstr [keyId])] iv wrapped none).Fits := by
    refine layerItem_fits cbor hcbor ?_ hkid (by simp) hiv (by simp only [kAesGcmTagSize] at hwrapped; omega)
      (by simp)
    rw [(protectedBytes_eq cbor hcbor).1]
    decide
  refine ⟨layerItem cbor trustyHeaders [] iv' ciphertext
    (some [layerItem cbor [] [(int COSE_LABEL_KID, .bstr [keyId])] iv wrapped none]), ?_, ?_, rfl, rfl, ?_⟩
  · rw [coseEncryptAes128GcmKeyWrap, getRandom, hdraw, Option.map_some]
    simp only [keyEntries] at hwrap
    simp only [hwrap, hencrypt]
    rfl
  · refine layerItem_fits cbor hcbor ?_ (show EntriesFit [] from trivial) (by simp) hiv'
      (by simp only [kAesGcmTagSize] at hciphertext; omega) ?_
    · rw [(protectedBytes_eq cbor hcbor).2]
      decide
    · rintro items ⟨⟩
      exact ⟨show 1 < 2 ^ 64 by decide, hrecipient, trivial⟩
  · have hgetKid : (cbor.canonicalize ([(int COSE_LABEL_KID, .bstr [keyId])] ++
        [(int COSE_LABEL_IV, .bstr iv)])).get COSE_LABEL_KID = some (.bstr [keyId]) := by
      have hmem : (int COSE_LABEL_KID, Item.bstr [keyId]) ∈
          [(int COSE_LABEL_KID, Item.bstr [keyId])] ++ [(int COSE_LABEL_IV, Item.bstr iv)] := by simp
      have hfound := get_canonicalize hcbor hmem (asInt_int COSE_LABEL_KID)
        (by simp [COSE_LABEL_KID, COSE_LABEL_IV])
      rwa [hcbor.canonical_bstr] at hfound
    rw [coseDecryptAes128GcmKeyWrapInPlace]
    simp only [Option.bind_eq_bind, Option.bind_eq_some_iff]
    exact ⟨(), guard_eq_some (by simp), _, asArray_array _, (), guard_eq_some rfl, _, asArray_array _, (),
      guard_eq_some rfl, _, asArray_array _, (), guard_eq_some rfl, _, asMap_map _, _, hgetKid, _,
      asBstr_bstr _, (), guard_eq_some rfl, _, hfn, _, hunwrap, (_, n), hparse, _, asMap_map _, _, hkty, _,
      asInt_int _, (), guard_eq_some rfl, _, halg, _, asInt_int _, (), guard_eq_some rfl, _, hsymmetric, _,
      asBstr_bstr _, (), guard_eq_some hcek, hdecrypt⟩

end ImxHal.Firmware
