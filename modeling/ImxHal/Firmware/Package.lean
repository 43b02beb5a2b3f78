import ImxHal.Firmware.Encryption

/-! @src package_firmware_tool/firmware_loader_package_tool.cpp (find_content_is_cose_encrypt,
    update_header_content_is_cose_encrypt, parse_package, encrypt_package, decrypt_package),
    firmware_loader_package.h | name:firmware package | scheme:cbor | family:data formats

    A package is a tagged array. Encrypting replaces the ELF file and sets a flag in the headers, which is
    looked for in all entries of the map; decrypting is the way back:

        tag 65536 [ version, {.., 1: false}, elf,          manifest ]
                                 │           │ encrypt   ▲ decrypt
        tag 65536 [ version, {.., 1: true},  COSE_Encrypt, manifest ]

    A package without the flag gets one, and its headers are put in canonical order. Where the tool exits
    with an error, nothing is written. -/

namespace ImxHal.Firmware
open ImxHal.Cbor

def FIRMWARELOADER_PACKAGE_FORMAT_VERSION_CURRENT : ℕ := 1
def FIRMWARELOADER_PACKAGE_HEADER_LABEL_CONTENT_IS_COSE_ENCRYPT : ℕ := 1
def FIRMWARELOADER_PACKAGE_CBOR_TAG_FIRMWARE : ℕ := 65536

variable (cbor : Cppbor) (gcm : Gcm)

/-! ### The flag -/

def IsFlag (entry : Item × Item) : Prop :=
  asUint entry.1 = some FIRMWARELOADER_PACKAGE_HEADER_LABEL_CONTENT_IS_COSE_ENCRYPT

instance : DecidablePred IsFlag := fun entry => inferInstanceAs (Decidable (asUint entry.1 = some _))

/-- The loop over the entries, `i` of them behind; a flag found is its place and its value. -/
def findLoop : Entries → ℕ → Option (ℕ × Bool) → Option (Option (ℕ × Bool))
  | [], _, res => some res
  | entry :: entries, i, res =>
    if IsFlag entry then
      if res.isSome then none
      else
        match asSimple entry.2 with
        | some (.bool value) => findLoop entries (i + 1) (some (i, value))
        | _ => none
    else findLoop entries (i + 1) res

def find_content_is_cose_encrypt (headers : Entries) : Option (Option (ℕ × Bool)) := findLoop headers 0 none

def update_header_content_is_cose_encrypt (headers : Entries) (new_value : Bool) : Option Entries :=
  match find_content_is_cose_encrypt headers with
  | none => none
  | some (some (i, value)) =>
    if value = new_value then none
    else some (headers.modify i fun entry => (entry.1, .bool new_value))
  | some none =>
    if new_value then
      some (cbor.canonicalize (headers ++
        [(.uint FIRMWARELOADER_PACKAGE_HEADER_LABEL_CONTENT_IS_COSE_ENCRYPT, .bool true)]))
    else some headers

/-! ### Packages -/

structure PackageInfo where
  version : Item
  headers : Entries
  elf : Item
  manifest : Item

def parse_package (input : Bytes) (check_sign_tag : Bool) : Option PackageInfo := do
  let (item, _) ← cbor.parse input
  guard (¬(check_sign_tag = true ∧ COSE_TAG_SIGN1 ∈ semanticTags item))
  guard (FIRMWARELOADER_PACKAGE_CBOR_TAG_FIRMWARE ∈ semanticTags item)
  let root_array ← asArray item
  guard (root_array.length = 4)
  let version ← asUint (root_array.getD 0 .null)
  guard (version = FIRMWARELOADER_PACKAGE_FORMAT_VERSION_CURRENT)
  let headers ← asMap (root_array.getD 1 .null)
  return ⟨root_array.getD 0 .null, headers, root_array.getD 2 .null, root_array.getD 3 .null⟩

/-- A package as it is written. -/
def packageItem (version : Item) (headers : Entries) (elf manifest : Item) : Item :=
  .tag FIRMWARELOADER_PACKAGE_CBOR_TAG_FIRMWARE (.array [version, .map headers, elf, manifest])

/-- What is written to the output file. -/
def encrypt_package (input key : Bytes) (key_id : UInt8) : Option Bytes := do
  let pkg_info ← parse_package cbor input true
  let elf ← asBstr pkg_info.elf
  guard (key.length = kAes128GcmKeySize)
  let cose_encrypt ← coseEncryptAes128GcmKeyWrap cbor gcm key key_id elf []
    [(int COSE_LABEL_TRUSTY, .tstr (text "TrustyApp"))] [] false
  let enc_headers ← update_header_content_is_cose_encrypt cbor pkg_info.headers true
  return cbor.encode (packageItem pkg_info.version enc_headers cose_encrypt pkg_info.manifest)

def decrypt_package (input key : Bytes) : Option Bytes := do
  let pkg_info ← parse_package cbor input true
  guard (asArray pkg_info.elf).isSome
  guard (key.length = kAes128GcmKeySize)
  let elf ← coseDecryptAes128GcmKeyWrapInPlace cbor gcm pkg_info.elf (fun _ => some key) [] false
  let dec_headers ← update_header_content_is_cose_encrypt cbor pkg_info.headers false
  return cbor.encode (packageItem pkg_info.version dec_headers (.bstr elf) pkg_info.manifest)

/-! ### What the loop finds -/

theorem findLoop_others {before : Entries} (h : ∀ entry ∈ before, ¬IsFlag entry) (rest : Entries) (i : ℕ)
    (res : Option (ℕ × Bool)) : findLoop (before ++ rest) i res = findLoop rest (i + before.length) res := by
  induction before generalizing i with
  | nil => rfl
  | cons entry before ih =>
    rw [List.cons_append, findLoop, if_neg (h entry (by simp)),
      ih (fun entry hmem => h entry (List.mem_cons_of_mem _ hmem)), List.length_cons]
    congr 1
    omega

theorem findLoop_none {entries : Entries} (h : ∀ entry ∈ entries, ¬IsFlag entry) (i : ℕ)
    (res : Option (ℕ × Bool)) : findLoop entries i res = some res := by
  have hloop := findLoop_others h [] i res
  rwa [List.append_nil] at hloop

/-- After a flag there is no other. -/
theorem findLoop_some {entries : Entries} {i : ℕ} {flag : ℕ × Bool} {res : Option (ℕ × Bool)}
    (h : findLoop entries i (some flag) = some res) :
    res = some flag ∧ ∀ entry ∈ entries, ¬IsFlag entry := by
  induction entries generalizing i with
  | nil => exact ⟨(Option.some.inj h).symm, by simp⟩
  | cons entry entries ih =>
    rw [findLoop] at h
    split at h
    · simp at h
    · next hflag =>
      obtain ⟨hres, hothers⟩ := ih h
      exact ⟨hres, List.forall_mem_cons.2 ⟨hflag, hothers⟩⟩

/-- What is found is the only flag, or there is none. -/
theorem findLoop_cases {entries : Entries} {i : ℕ} {res : Option (ℕ × Bool)}
    (h : findLoop entries i none = some res) :
    (∀ entry ∈ entries, ¬IsFlag entry) ∨
      ∃ j value, res = some (j, value) ∧
        ∀ entry ∈ entries, IsFlag entry → asSimple entry.2 = some (.bool value) := by
  induction entries generalizing i with
  | nil => exact .inl (by simp)
  | cons entry entries ih =>
    rw [findLoop] at h
    split at h
    · rw [if_neg (by simp)] at h
      split at h
      · next value hvalue =>
        obtain ⟨rfl, hothers⟩ := findLoop_some h
        refine .inr ⟨i, value, rfl, List.forall_mem_cons.2 ⟨fun _ => hvalue, ?_⟩⟩
        exact fun entry hmem hflag => absurd hflag (hothers entry hmem)
      · simp at h
    · next hflag =>
      rcases ih h with hnone | ⟨j, value, rfl, hothers⟩
      · exact .inl (List.forall_mem_cons.2 ⟨hflag, hnone⟩)
      · exact .inr ⟨j, value, rfl, List.forall_mem_cons.2 ⟨fun h => absurd h hflag, hothers⟩⟩

/-- A flag that has the value already is refused. -/
theorem update_refused {headers : Entries} {entry : Item × Item} {value : Bool} (hmem : entry ∈ headers)
    (hflag : IsFlag entry) (hvalue : asSimple entry.2 = some (.bool value)) :
    update_header_content_is_cose_encrypt cbor headers value = none := by
  unfold update_header_content_is_cose_encrypt
  cases hfind : find_content_is_cose_encrypt headers with
  | none => rfl
  | some res =>
    rcases findLoop_cases hfind with hnone | ⟨j, found, rfl, hall⟩
    · exact absurd hflag (hnone entry hmem)
    · obtain rfl : value = found := by simpa using hvalue.symm.trans (hall entry hmem hflag)
      simp

theorem modify_between {α : Type} (before after : List α) (a : α) (f : α → α) :
    (before ++ a :: after).modify before.length f = before ++ f a :: after := by
  induction before with
  | nil => rfl
  | cons b before ih => simp [ih]

/-- A single flag is turned. -/
theorem update_flag {before after : Entries} {key value : Item} {old : Bool}
    (hbefore : ∀ entry ∈ before, ¬IsFlag entry) (hafter : ∀ entry ∈ after, ¬IsFlag entry)
    (hflag : IsFlag (key, value)) (hvalue : asSimple value = some (.bool old)) :
    update_header_content_is_cose_encrypt cbor (before ++ (key, value) :: after) (!old) =
      some (before ++ (key, .bool (!old)) :: after) := by
  have hfind : find_content_is_cose_encrypt (before ++ (key, value) :: after) =
      some (some (before.length, old)) := by
    rw [find_content_is_cose_encrypt, findLoop_others hbefore, findLoop, if_pos hflag, if_neg (by simp),
      hvalue]
    simpa using findLoop_none hafter _ _
  rw [update_header_content_is_cose_encrypt, hfind]
  cases old <;> simp [modify_between]

/-! ### Reading and writing a package -/

theorem untag_fits : ∀ item : Item, item.Fits → (untag item).Fits
  | .tag _ item, hfits => untag_fits item hfits.2
  | .uint _, hfits => hfits
  | .nint _, hfits => hfits
  | .bstr _, hfits => hfits
  | .tstr _, hfits => hfits
  | .array _, hfits => hfits
  | .map _, hfits => hfits
  | .bool _, _ => trivial
  | .null, _ => trivial

theorem untag_length : ∀ item : Item, (untag item).encode.length ≤ item.encode.length
  | .tag value item => by
    have hrec := untag_length item
    rw [untag, Item.encode, List.length_append]
    omega
  | .uint _ => le_rfl
  | .nint _ => le_rfl
  | .bstr _ => le_rfl
  | .tstr _ => le_rfl
  | .array _ => le_rfl
  | .map _ => le_rfl
  | .bool _ => le_rfl
  | .null => le_rfl

theorem untag_of_asArray {item : Item} {items : List Item} (h : asArray item = some items) :
    untag item = .array items := by
  unfold asArray at h
  split at h
  · next heq => rw [heq, Option.some.inj h]
  · simp at h

theorem untag_of_asMap {item : Item} {entries : Entries} (h : asMap item = some entries) :
    untag item = .map entries := by
  unfold asMap at h
  split at h
  · next heq => rw [heq, Option.some.inj h]
  · simp at h

theorem untag_of_asBstr {item : Item} {bytes : Bytes} (h : asBstr item = some bytes) :
    untag item = .bstr bytes := by
  unfold asBstr at h
  split at h
  · next heq => rw [heq, Option.some.inj h]
  · simp at h

/-- What a package consists of can be written again, and a header added. -/
structure PackageInfo.Fits (pkg : PackageInfo) : Prop where
  version : pkg.version.Fits
  version_current : asUint pkg.version = some FIRMWARELOADER_PACKAGE_FORMAT_VERSION_CURRENT
  headers : EntriesFit pkg.headers
  headers_length : pkg.headers.length + 1 < 2 ^ 64
  elf : pkg.elf.Fits
  manifest : pkg.manifest.Fits

theorem parse_package_fits (hcbor : cbor.Rfc8949) (input : File) {check_sign_tag : Bool} {pkg : PackageInfo}
    (h : parse_package cbor input.bytes check_sign_tag = some pkg) : pkg.Fits := by
  rw [parse_package] at h
  simp only [Option.bind_eq_bind, Option.bind_eq_some_iff, Option.guard_eq_some', Option.pure_def] at h
  obtain ⟨⟨item, n⟩, hparse, -, -, -, -, items, harray, -, hlength, version, hversion, -, rfl, headers,
    hheaders, hpkg⟩ := h
  obtain ⟨hfits, hsize, hend⟩ := hcbor.parsed _ _ _ hparse
  obtain ⟨v, m, e, t, rfl⟩ : ∃ v m e t, items = [v, m, e, t] := by
    match items, hlength with
    | [v, m, e, t], _ => exact ⟨v, m, e, t, rfl⟩
  obtain rfl := Option.some.inj hpkg
  have hroot := untag_fits item hfits
  have hrootLength := untag_length item
  rw [untag_of_asArray harray] at hroot hrootLength
  obtain ⟨-, hv, hm, he, ht, -⟩ := hroot
  have hmap := untag_fits m hm
  have hmapLength := untag_length m
  rw [untag_of_asMap (show asMap m = some headers from hheaders)] at hmap hmapLength
  have hcount := length_le_encodeEntries headers
  have hheader := header_pos 5 headers.length
  have hinput := input.size_lt
  simp only [Item.encode, encodeItems, List.length_append] at hrootLength hmapLength
  exact ⟨hv, hversion, hmap.2, by dsimp only; omega, he, ht⟩

/-- A package written is read as it was. -/
theorem parse_package_written (hcbor : cbor.Rfc8949) {pkg : PackageInfo} (hpkg : pkg.Fits) {headers : Entries}
    (hheaders : EntriesFit headers) (hlength : headers.length < 2 ^ 64) {elf : Item} (helf : elf.Fits) :
    parse_package cbor (cbor.encode (packageItem pkg.version headers elf pkg.manifest)) true =
      some ⟨pkg.version, headers, elf, pkg.manifest⟩ := by
  have hfits : (packageItem pkg.version headers elf pkg.manifest).Fits :=
    ⟨show 65536 < 2 ^ 64 by decide, show 4 < 2 ^ 64 by decide, hpkg.version, ⟨hlength, hheaders⟩, helf,
      hpkg.manifest, trivial⟩
  have hparse := hcbor.parse _ [] hfits
  rw [List.append_nil, ← hcbor.encode _ hfits] at hparse
  have htags : semanticTags (packageItem pkg.version headers elf pkg.manifest) =
      [FIRMWARELOADER_PACKAGE_CBOR_TAG_FIRMWARE] := rfl
  rw [parse_package]
  simp only [Option.bind_eq_bind, Option.bind_eq_some_iff]
  exact ⟨(_, _), hparse, (), guard_eq_some (by rw [htags]; decide), (), guard_eq_some (by rw [htags]; decide),
    _, asArray_array _, (), guard_eq_some rfl, _, hpkg.version_current, (), guard_eq_some rfl, _,
    asMap_map _, rfl⟩

/-! ### The round trip -/

/-- At most one flag, and that false. -/
def FlagClear (headers : Entries) : Prop :=
  headers.filter IsFlag = [] ∨
    ∃ entry, headers.filter IsFlag = [entry] ∧ asSimple entry.2 = some (.bool false)

/-- The flag is false. Without it the headers are what they were: the same entries around it if it was
    there, else all of them in canonical form and order. -/
def HeadersKept (headers headers' : Entries) : Prop :=
  ∃ before key after, headers' = before ++ (key, .bool false) :: after ∧ IsFlag (key, .bool false) ∧
    ((∃ value, headers = before ++ (key, value) :: after) ∨
      (∀ entry ∈ headers, ¬IsFlag entry) ∧
        (before ++ after).Perm (headers.map (Prod.map cbor.canonical cbor.canonical)))

theorem replaced_fits {before after : Entries} {key value value' : Item}
    (hfits : EntriesFit (before ++ (key, value) :: after)) (hvalue : value'.Fits) :
    EntriesFit (before ++ (key, value') :: after) := by
  rw [entriesFit_iff] at hfits ⊢
  intro entry hmem
  rcases List.mem_append.1 hmem with hmem | hmem
  · exact hfits entry (List.mem_append_left _ hmem)
  · rcases List.mem_cons.1 hmem with rfl | hmem
    · exact ⟨(hfits (key, value) (by simp)).1, hvalue⟩
    · exact hfits entry (by simp [hmem])

/-- The headers of the encrypted package, and those got back. -/
theorem headers_kept (hcbor : cbor.Rfc8949) {headers : Entries} (hfits : EntriesFit headers)
    (hclear : FlagClear headers) :
    ∃ enc dec, update_header_content_is_cose_encrypt cbor headers true = some enc ∧
      update_header_content_is_cose_encrypt cbor enc false = some dec ∧ HeadersKept cbor headers dec ∧
      EntriesFit enc ∧ EntriesFit dec ∧ enc.length ≤ headers.length + 1 ∧ dec.length = enc.length := by
  rcases hclear with hnone | ⟨⟨key, value⟩, hone, hvalue⟩
  · -- the flag is added at the end, and is somewhere in the canonical order
    have hothers : ∀ entry ∈ headers, ¬IsFlag entry := by simpa using hnone
    have hadded : EntriesFit (headers ++ [(.uint 1, .bool true)]) :=
      entriesFit_append hfits ⟨show 1 < 2 ^ 64 by decide, trivial, trivial⟩
    have hperm := hcbor.canonicalize_perm (headers ++ [(.uint 1, .bool true)])
    have hcanonical := canonicalize_fits hcbor hadded
    have hlength := canonicalize_length hcbor (headers ++ [(.uint 1, .bool true)])
    have hupdate : update_header_content_is_cose_encrypt cbor headers true =
        some (cbor.canonicalize (headers ++ [(.uint 1, .bool true)])) := by
      rw [update_header_content_is_cose_encrypt, find_content_is_cose_encrypt, findLoop_none hothers]
      rfl
    rw [List.map_append, List.map_singleton, Prod.map_apply, hcbor.canonical_uint,
      hcbor.canonical_bool] at hperm
    obtain ⟨before, after, hsplit⟩ := List.append_of_mem
      (hperm.mem_iff.2 (List.mem_append_right _ (List.mem_singleton_self (Item.uint 1, Item.bool true))))
    rw [hsplit] at hperm hcanonical hlength hupdate
    have hrest : (before ++ after).Perm (headers.map (Prod.map cbor.canonical cbor.canonical)) := by
      have hfront := List.perm_middle.symm.trans (hperm.trans (List.perm_append_singleton _ _))
      exact List.Perm.cons_inv hfront
    have hfree : ∀ entry ∈ before ++ after, ¬IsFlag entry := by
      intro entry hmem
      obtain ⟨other, hother, rfl⟩ := List.mem_map.1 (hrest.mem_iff.1 hmem)
      rw [IsFlag, Prod.map_fst, asUint_canonical hcbor]
      exact hothers other hother
    have hturn := update_flag cbor (fun entry hmem => hfree entry (List.mem_append_left _ hmem))
      (fun entry hmem => hfree entry (List.mem_append_right _ hmem))
      (show IsFlag (Item.uint 1, Item.bool true) from rfl) (show asSimple (.bool true) = _ from rfl)
    refine ⟨_, _, hupdate, hturn, ⟨before, .uint 1, after, rfl, rfl, .inr ⟨hothers, hrest⟩⟩, hcanonical,
      replaced_fits hcanonical trivial, ?_, by simp⟩
    rw [hlength]
    simp
  · -- the flag is turned where it is
    obtain ⟨before, after, rfl, hbefore, hflag, hafter⟩ := List.filter_eq_cons_iff.1 hone
    have hbefore : ∀ entry ∈ before, ¬IsFlag entry := by simpa using hbefore
    have hafter : ∀ entry ∈ after, ¬IsFlag entry := by simpa using hafter
    have hflag : IsFlag (key, value) := by simpa using hflag
    have hset := update_flag cbor hbefore hafter hflag hvalue
    have hturn := update_flag cbor hbefore hafter (show IsFlag (key, Item.bool true) from hflag)
      (show asSimple (.bool true) = _ from rfl)
    exact ⟨_, _, hset, hturn, ⟨before, key, after, rfl, hflag, .inl ⟨value, rfl⟩⟩,
      replaced_fits hfits trivial, replaced_fits hfits trivial, by simp, by simp⟩

/-- A package with its ELF file in the clear is encrypted, if that has fewer than 2^31 bytes and its flag
    is not there or false, and got back by decrypting; and encrypting a package that is encrypted, or
    decrypting one that is not, is refused. -/
theorem package_got_back (hcbor : cbor.Rfc8949) (hgcm : gcm.Documented)
    (hrandom : ∀ call numBytes, (gcm.RAND_bytes call numBytes).isSome) :
    (∀ (input : File) (pkg : PackageInfo) (elf key : Bytes) (key_id : UInt8),
      parse_package cbor input.bytes true = some pkg → asBstr pkg.elf = some elf → elf.length < 2 ^ 31 →
      FlagClear pkg.headers → key.length = kAes128GcmKeySize →
      ∃ out back pkg', encrypt_package cbor gcm input.bytes key key_id = some out ∧
        decrypt_package cbor gcm out key = some back ∧ parse_package cbor back true = some pkg' ∧
        pkg'.version = pkg.version ∧ HeadersKept cbor pkg.headers pkg'.headers ∧ pkg'.elf = .bstr elf ∧
        pkg'.manifest = pkg.manifest) ∧
    (∀ (input : Bytes) (pkg : PackageInfo) (key : Bytes) (key_id : UInt8),
      parse_package cbor input true = some pkg →
      (asBstr pkg.elf = none ∨
        ∃ entry ∈ pkg.headers, IsFlag entry ∧ asSimple entry.2 = some (.bool true)) →
      encrypt_package cbor gcm input key key_id = none) ∧
    ∀ (input : Bytes) (pkg : PackageInfo) (key : Bytes), parse_package cbor input true = some pkg →
      ((asBstr pkg.elf).isSome ∨
        ∃ entry ∈ pkg.headers, IsFlag entry ∧ asSimple entry.2 = some (.bool false)) →
      decrypt_package cbor gcm input key = none := by
  refine ⟨?_, ?_, ?_⟩
  · intro input pkg elf key key_id hparse helf hlength hclear hkey
    have hpkg := parse_package_fits cbor hcbor input hparse
    obtain ⟨item, hencrypt, hitem, hisArray, -, hdecrypt⟩ := keyWrap_opened cbor gcm hcbor hgcm hrandom key_id
      hkey hlength (fun _ => some key) rfl
    obtain ⟨enc, dec, henc, hdec, hkept, hencFits, hdecFits, hencLength, hdecLength⟩ :=
      headers_kept cbor hcbor hpkg.headers hclear
    have hcount := hpkg.headers_length
    have helfFits : (Item.bstr elf).Fits := by
      have huntag := untag_fits _ hpkg.elf
      rwa [untag_of_asBstr helf] at huntag
    have hwritten := parse_package_written cbor hcbor hpkg hencFits (by omega) hitem
    have hback := parse_package_written cbor hcbor hpkg hdecFits (by omega) helfFits
    refine ⟨cbor.encode (packageItem pkg.version enc item pkg.manifest), _, _, ?_, ?_, hback, rfl, hkept,
      rfl, rfl⟩
    · rw [encrypt_package]
      simp only [Option.bind_eq_bind, Option.bind_eq_some_iff]
      exact ⟨_, hparse, _, helf, (), guard_eq_some hkey, _, hencrypt, _, henc, rfl⟩
    · rw [decrypt_package]
      simp only [Option.bind_eq_bind, Option.bind_eq_some_iff]
      exact ⟨_, hwritten, (), guard_eq_some hisArray, (), guard_eq_some hkey, _, hdecrypt, _, hdec, rfl⟩
  · intro input pkg key key_id hparse hrefused
    rw [encrypt_package, hparse, Option.bind_eq_bind, Option.bind_some]
    rcases hrefused with helf | ⟨entry, hmem, hflag, hvalue⟩
    · rw [helf]
      rfl
    · rw [update_refused cbor hmem hflag hvalue]
      simp
  · intro input pkg key hparse hrefused
    rw [decrypt_package, hparse, Option.bind_eq_bind, Option.bind_some]
    rcases hrefused with helf | ⟨entry, hmem, hflag, hvalue⟩
    · obtain ⟨elf, helf⟩ := Option.isSome_iff_exists.1 helf
      have harray : asArray pkg.elf = none := by
        rw [asArray, untag_of_asBstr helf]
      rw [harray]
      rfl
    · rw [update_refused cbor hmem hflag hvalue]
      simp

/-! ### A key and two ciphertexts -/

/-- One result of AES-128-GCM. -/
structure Sealed where
  key : Bytes
  nonce : Bytes
  aad : Bytes
  plaintext : Bytes
  ciphertext : Bytes
  tag : Bytes

def exampleKek : Bytes := List.replicate 16 0x11

def exampleElf : Bytes := [0x7f, 0x45, 0x4c, 0x46]

/-- The content key under `exampleKek`, and `exampleElf` under the content key. -/
def exampleSealed : List Sealed := [
  { key := exampleKek
    nonce := List.replicate 12 0xa1
    aad := be 20 0x836d456e635f526563697069656e7443a1010140
    plaintext := be 7 0xa3010403012050 ++ List.replicate 16 0xa0
    ciphertext := be 23 0x484ff2b976a8957ebbf6adbeb7099ec3f35789cdd6329f
    tag := be 16 0x2755f6f9e4b0bb2238febda9bc439e72 },
  { key := List.replicate 16 0xa0
    nonce := List.replicate 12 0xa2
    aad := be 29 0x8367456e637279707452a201013a000100006954727573747941707040
    plaintext := exampleElf
    ciphertext := be 4 0x18a27942
    tag := be 16 0xd468c370e8ef627c9047d6f28025d52b }]

/-- The cipher on these; the random numbers are the ones they were made with. -/
def Gcm.aes : Gcm where
  RAND_bytes := fun call numBytes => some (Vector.replicate numBytes (UInt8.ofNat (0xa0 + call)))
  encrypt := fun key nonce aad plaintext =>
    match exampleSealed.find? fun s =>
      s.key = key ∧ s.nonce = nonce ∧ s.aad = aad ∧ s.plaintext = plaintext with
    | some s => (s.ciphertext, s.tag)
    | none => (plaintext, List.replicate 16 0)
  decrypt := fun key nonce aad ciphertext tag =>
    match exampleSealed.find? fun s =>
      s.key = key ∧ s.nonce = nonce ∧ s.aad = aad ∧ s.ciphertext = ciphertext ∧ s.tag = tag with
    | some s => some s.plaintext
    | none => if tag = List.replicate 16 0 then some ciphertext else none

theorem Gcm.aes_documented : Gcm.aes.Documented where
  text_length := fun key nonce aad plaintext => by
    have hsame : ∀ s ∈ exampleSealed, s.ciphertext.length = s.plaintext.length := by decide
    simp only [Gcm.aes]
    split
    · next s hfind =>
      have hmatch := List.find?_some hfind
      rw [hsame s (List.mem_of_find?_eq_some hfind), (of_decide_eq_true hmatch).2.2.2]
    · rfl
  tag_length := fun key nonce aad plaintext => by
    have hsize : ∀ s ∈ exampleSealed, s.tag.length = kAesGcmTagSize := by decide
    simp only [Gcm.aes]
    split
    · next s hfind => exact hsize s (List.mem_of_find?_eq_some hfind)
    · simp [kAesGcmTagSize]
  decrypt_encrypt := fun key nonce aad plaintext _ _ _ => by
    have hsame : ∀ s ∈ exampleSealed, ∀ s' ∈ exampleSealed, s'.tag = s.tag → s'.plaintext = s.plaintext := by
      decide
    have htags : ∀ s ∈ exampleSealed, s.tag ≠ List.replicate 16 0 := by decide
    simp only [Gcm.aes]
    cases hfind : exampleSealed.find? fun s =>
        s.key = key ∧ s.nonce = nonce ∧ s.aad = aad ∧ s.plaintext = plaintext with
    | some s =>
      have hmem := List.mem_of_find?_eq_some hfind
      have hmatch := List.find?_some hfind
      rw [decide_eq_true_eq] at hmatch
      obtain ⟨rfl, rfl, rfl, rfl⟩ := hmatch
      dsimp only
      split
      · next s' hfind' =>
        have hmatch' := List.find?_some hfind'
        rw [decide_eq_true_eq] at hmatch'
        obtain ⟨-, -, -, -, htag⟩ := hmatch'
        rw [hsame s hmem s' (List.mem_of_find?_eq_some hfind') htag]
      · next hnone =>
        have hself := List.find?_eq_none.1 hnone s hmem
        simp at hself
    | none =>
      dsimp only
      split
      · next s' hfind' =>
        have hmatch' := List.find?_some hfind'
        rw [decide_eq_true_eq] at hmatch'
        obtain ⟨-, -, -, -, htag⟩ := hmatch'
        exact absurd htag (htags s' (List.mem_of_find?_eq_some hfind'))
      · rfl

/-- A package with these headers and `exampleElf`. -/
def examplePackage (headers : Entries) : Bytes :=
  (packageItem (.uint 1) headers (.bstr exampleElf) (.bstr [1, 2])).encode

theorem package_got_back_elf : ∃ out back pkg',
    encrypt_package .plain .aes (examplePackage [(.uint 1, .bool false)]) exampleKek 7 = some out ∧
      decrypt_package .plain .aes out exampleKek = some back ∧ parse_package .plain back true = some pkg' ∧
      pkg'.elf = .bstr exampleElf := by
  have hparse : parse_package .plain (examplePackage [(.uint 1, .bool false)]) true =
      some ⟨.uint 1, [(.uint 1, .bool false)], .bstr exampleElf, .bstr [1, 2]⟩ := rfl
  obtain ⟨out, back, pkg', hencrypt, hdecrypt, hback, -, -, helf, -⟩ := (package_got_back .plain .aes
    Cppbor.plain_rfc8949 Gcm.aes_documented (fun _ _ => rfl)).1
    ⟨examplePackage [(.uint 1, .bool false)], by decide⟩ _ exampleElf exampleKek 7 hparse rfl
    (by decide) (.inr ⟨_, rfl, rfl⟩) rfl
  exact ⟨out, back, pkg', hencrypt, hdecrypt, hback, helf⟩

/-- A flag that is a number is neither doubled nor true; the package is accepted but not encrypted. -/
theorem number_flag_refused : ∃ pkg,
    parse_package .plain (examplePackage [(.uint 1, .uint 5)]) true = some pkg ∧
      asBstr pkg.elf = some exampleElf ∧ (pkg.headers.filter IsFlag).length = 1 ∧
      (∀ entry ∈ pkg.headers, asSimple entry.2 ≠ some (.bool true)) ∧
      encrypt_package .plain .aes (examplePackage [(.uint 1, .uint 5)]) exampleKek 7 = none := by
  refine ⟨⟨.uint 1, [(.uint 1, .uint 5)], .bstr exampleElf, .bstr [1, 2]⟩, rfl, rfl, rfl, ?_, by decide⟩
  simp [asSimple, untag]

end ImxHal.Firmware
