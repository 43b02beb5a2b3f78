import ImxHal.Schemes.Cbor

/-! @src package_firmware_tool/cose.cpp, package_firmware_tool/firmware_loader_package_tool.cpp (the calls of
    cppbor) | name:cppbor | scheme:cbor | family:libraries

    The tool reads and writes its files with a CBOR library that is not in the tree. It is a parameter
    here: what is called of it, and what the tool relies on.

        encode        items as RFC 8949 has them        canonicalize   entries in the order of their keys
        parse         an encoded item, and its end      headerSize, encodeHeader   a header by itself -/

namespace ImxHal.Firmware
open ImxHal.Cbor

abbrev Entries := List (Item × Item)

/-- The calls of the library. `parse` gives the item and the number of bytes up to its end, and with
    views it gives the same item; `encodeHeader` has so much room; `canonical` is what sorting a map
    does to the items inside. -/
structure Cppbor where
  encode : Item → Bytes
  parse : Bytes → Option (Item × ℕ)
  headerSize : ℕ → ℕ
  encodeHeader : (type value room : ℕ) → Option Bytes
  canonical : Item → Item
  canonicalize : Entries → Entries

/-- The bytes of a file; the size is a `size_t`. -/
structure File where
  bytes : Bytes
  size_lt : bytes.length < 2 ^ 64

def BSTR : ℕ := 2

/-- What the library promises. -/
structure Cppbor.Rfc8949 (cbor : Cppbor) : Prop where
  encode : ∀ item : Item, item.Fits → cbor.encode item = item.encode
  parse : ∀ (item : Item) (rest : Bytes), item.Fits →
    cbor.parse (item.encode ++ rest) = some (item, item.encode.length)
  parsed : ∀ (bytes : Bytes) (item : Item) (n : ℕ), cbor.parse bytes = some (item, n) →
    item.Fits ∧ item.encode.length ≤ n ∧ n ≤ bytes.length
  headerSize : ∀ n < 2 ^ 64, cbor.headerSize n = (header BSTR n).length
  encodeHeader : ∀ n < 2 ^ 64, ∀ room, (header BSTR n).length ≤ room →
    cbor.encodeHeader BSTR n room = some (header BSTR n)
  canonicalize_perm : ∀ entries,
    (cbor.canonicalize entries).Perm (entries.map (Prod.map cbor.canonical cbor.canonical))
  canonicalize_sorted : ∀ entries, (cbor.canonicalize entries).Pairwise KeyLe
  canonical_uint : ∀ n, cbor.canonical (.uint n) = .uint n
  canonical_nint : ∀ n, cbor.canonical (.nint n) = .nint n
  canonical_bstr : ∀ bytes, cbor.canonical (.bstr bytes) = .bstr bytes
  canonical_tstr : ∀ bytes, cbor.canonical (.tstr bytes) = .tstr bytes
  canonical_bool : ∀ value, cbor.canonical (.bool value) = .bool value
  canonical_null : cbor.canonical .null = .null
  canonical_array : ∀ items, cbor.canonical (.array items) = .array (items.map cbor.canonical)
  canonical_map : ∀ entries, cbor.canonical (.map entries) = .map (cbor.canonicalize entries)
  canonical_tag : ∀ value item, cbor.canonical (.tag value item) = .tag value (cbor.canonical item)

/-! ### Items -/

/-- A tagged item answers as what it tags. -/
def untag : Item → Item
  | .tag _ item => untag item
  | item => item

/-- The semantic tags of an item. -/
def semanticTags : Item → List ℕ
  | .tag value item => value :: semanticTags item
  | _ => []

inductive Simple | bool (value : Bool) | null

def asUint (item : Item) : Option ℕ :=
  match untag item with
  | .uint n => some n
  | _ => none

def asInt (item : Item) : Option ℤ :=
  match untag item with
  | .uint n => some n
  | .nint n => some (-1 - n)
  | _ => none

/-- Also `asViewBstr`: what was parsed with views has its byte strings as views. -/
def asBstr (item : Item) : Option Bytes :=
  match untag item with
  | .bstr bytes => some bytes
  | _ => none

def asArray (item : Item) : Option (List Item) :=
  match untag item with
  | .array items => some items
  | _ => none

def asMap (item : Item) : Option Entries :=
  match untag item with
  | .map entries => some entries
  | _ => none

def asSimple (item : Item) : Option Simple :=
  match untag item with
  | .bool value => some (.bool value)
  | .null => some .null
  | _ => none

/-- The item of a number. -/
def int : ℤ → Item
  | .ofNat n => .uint n
  | .negSucc n => .nint n

/-- The value of the first entry with the key. -/
def Entries.get (entries : Entries) (key : ℤ) : Option Item :=
  (entries.find? fun entry => asInt entry.1 = some key).map Prod.snd

/-- The bytes of a text. -/
def text (s : String) : Bytes := s.toByteArray.data.toList

@[simp] theorem asUint_uint (n : ℕ) : asUint (.uint n) = some n := rfl

@[simp] theorem asInt_int (n : ℤ) : asInt (int n) = some n := by
  cases n with
  | ofNat n => rfl
  | negSucc n => simp [int, asInt, untag, Int.negSucc_eq, Int.add_comm, sub_eq_add_neg, neg_add_rev]

@[simp] theorem asBstr_bstr (bytes : Bytes) : asBstr (.bstr bytes) = some bytes := rfl

@[simp] theorem asArray_array (items : List Item) : asArray (.array items) = some items := rfl

@[simp] theorem asMap_map (entries : Entries) : asMap (.map entries) = some entries := rfl

/-! ### Headers -/

def COSE_LABEL_ALG : ℤ := 1
def COSE_LABEL_KID : ℤ := 4
def COSE_LABEL_TRUSTY : ℤ := -65537
def COSE_TAG_SIGN1 : ℕ := 18

def coseEncodeHeaders (cbor : Cppbor) (protectedHeaders : Entries) : Bytes :=
  if protectedHeaders.length = 0 then cbor.encode (.bstr []) else cbor.encode (.map protectedHeaders)

/-! ### Canonical form -/

variable {cbor : Cppbor}

mutual

/-- Canonical items fit where the items do: one case for each kind of item. -/
theorem canonical_fits (h : cbor.Rfc8949) : ∀ item : Item, item.Fits → (cbor.canonical item).Fits
  | .uint n, hfits => by rwa [h.canonical_uint]
  | .nint n, hfits => by rwa [h.canonical_nint]
  | .bstr bytes, hfits => by rwa [h.canonical_bstr]
  | .tstr bytes, hfits => by rwa [h.canonical_tstr]
  | .bool value, hfits => by rwa [h.canonical_bool]
  | .null, hfits => by rwa [h.canonical_null]
  | .array items, hfits => by
    have hitems := canonicalItems_fit h items hfits.2
    rw [h.canonical_array]
    exact ⟨by simpa using hfits.1, hitems⟩
  | .map entries, hfits => by
    have hentries := canonicalEntries_fit h entries hfits.2
    have hperm := h.canonicalize_perm entries
    rw [h.canonical_map]
    refine ⟨by simpa [hperm.length_eq] using hfits.1, ?_⟩
    rw [entriesFit_iff] at hentries ⊢
    exact fun entry hmem => hentries entry (hperm.mem_iff.1 hmem)
  | .tag value item, hfits => by
    rw [h.canonical_tag]
    exact ⟨hfits.1, canonical_fits h item hfits.2⟩

theorem canonicalItems_fit (h : cbor.Rfc8949) : ∀ items : List Item, ItemsFit items →
    ItemsFit (items.map cbor.canonical)
  | [], _ => trivial
  | item :: items, hfits => ⟨canonical_fits h item hfits.1, canonicalItems_fit h items hfits.2⟩

theorem canonicalEntries_fit (h : cbor.Rfc8949) : ∀ entries : Entries, EntriesFit entries →
    EntriesFit (entries.map (Prod.map cbor.canonical cbor.canonical))
  | [], _ => trivial
  | (key, value) :: entries, hfits =>
    ⟨canonical_fits h key hfits.1, canonical_fits h value hfits.2.1,
      canonicalEntries_fit h entries hfits.2.2⟩

end

theorem canonical_int (h : cbor.Rfc8949) (n : ℤ) : cbor.canonical (int n) = int n := by
  cases n with
  | ofNat n => exact h.canonical_uint n
  | negSucc n => exact h.canonical_nint n

/-- A map of one entry is in order. -/
theorem canonicalize_one (h : cbor.Rfc8949) {key value : Item} (hkey : cbor.canonical key = key)
    (hvalue : cbor.canonical value = value) : cbor.canonicalize [(key, value)] = [(key, value)] := by
  have hperm := h.canonicalize_perm [(key, value)]
  rw [List.map_singleton, Prod.map_apply, hkey, hvalue] at hperm
  exact hperm.eq_singleton

/-- A map of two entries, the second with the lower key. -/
theorem canonicalize_two (h : cbor.Rfc8949) {a b : Item × Item} (hlt : ¬ KeyLe a b)
    (ha : Prod.map cbor.canonical cbor.canonical a = a)
    (hb : Prod.map cbor.canonical cbor.canonical b = b) : cbor.canonicalize [a, b] = [b, a] := by
  have hperm := h.canonicalize_perm [a, b]
  have hsorted := h.canonicalize_sorted [a, b]
  rw [List.map_cons, List.map_singleton, ha, hb] at hperm
  rcases List.perm_pair.1 hperm with heq | heq
  · rw [heq] at hsorted
    exact absurd (by simpa using hsorted) hlt
  · exact heq

theorem canonicalize_length (h : cbor.Rfc8949) (entries : Entries) :
    (cbor.canonicalize entries).length = entries.length := by
  rw [(h.canonicalize_perm entries).length_eq, List.length_map]

theorem canonicalize_fits (h : cbor.Rfc8949) {entries : Entries} (hfits : EntriesFit entries) :
    EntriesFit (cbor.canonicalize entries) := by
  have hentries := canonicalEntries_fit h entries hfits
  rw [entriesFit_iff] at hentries ⊢
  exact fun entry hmem => hentries entry ((h.canonicalize_perm entries).mem_iff.1 hmem)

/-- Canonical form keeps the tags. -/
theorem untag_canonical (h : cbor.Rfc8949) : ∀ item, untag (cbor.canonical item) = cbor.canonical (untag item)
  | .uint n => by simp only [h.canonical_uint, untag]
  | .nint n => by simp only [h.canonical_nint, untag]
  | .bstr bytes => by simp only [h.canonical_bstr, untag]
  | .tstr bytes => by simp only [h.canonical_tstr, untag]
  | .bool value => by simp only [h.canonical_bool, untag]
  | .null => by simp only [h.canonical_null, untag]
  | .array items => by simp only [h.canonical_array, untag]
  | .map entries => by simp only [h.canonical_map, untag]
  | .tag value item => by
    rw [h.canonical_tag, untag, untag]
    exact untag_canonical h item

theorem asInt_canonical (h : cbor.Rfc8949) (item : Item) : asInt (cbor.canonical item) = asInt item := by
  rw [asInt, asInt, untag_canonical h]
  cases untag item <;>
    simp [h.canonical_uint, h.canonical_nint, h.canonical_bstr, h.canonical_tstr, h.canonical_bool,
      h.canonical_null, h.canonical_array, h.canonical_map, h.canonical_tag]

theorem asUint_canonical (h : cbor.Rfc8949) (item : Item) : asUint (cbor.canonical item) = asUint item := by
  rw [asUint, asUint, untag_canonical h]
  cases untag item <;>
    simp [h.canonical_uint, h.canonical_nint, h.canonical_bstr, h.canonical_tstr, h.canonical_bool,
      h.canonical_null, h.canonical_array, h.canonical_map, h.canonical_tag]

theorem int_fits (n : ℤ) (hn : n.natAbs < 2 ^ 64) : (int n).Fits := by
  cases n with
  | ofNat n => exact hn
  | negSucc n => exact Nat.lt_of_succ_lt hn

/-- The only entry with a key is found in canonical form too. -/
theorem get_canonicalize (h : cbor.Rfc8949) {entries : Entries} {entry : Item × Item} {key : ℤ}
    (hmem : entry ∈ entries) (hkey : asInt entry.1 = some key)
    (honly : ∀ other ∈ entries, asInt other.1 = some key → other = entry) :
    (cbor.canonicalize entries).get key = some (cbor.canonical entry.2) := by
  have hperm := h.canonicalize_perm entries
  have hin : Prod.map cbor.canonical cbor.canonical entry ∈ cbor.canonicalize entries :=
    hperm.mem_iff.2 (List.mem_map_of_mem hmem)
  rw [Entries.get]
  cases hfind : (cbor.canonicalize entries).find? fun entry => asInt entry.1 = some key with
  | none =>
    have hnone := List.find?_eq_none.1 hfind _ hin
    simp [asInt_canonical h, hkey] at hnone
  | some found =>
    have hfound := List.find?_some hfind
    obtain ⟨other, hother, rfl⟩ := List.mem_map.1 (hperm.mem_iff.1 (List.mem_of_find?_eq_some hfind))
    simp only [Prod.map_fst, asInt_canonical h, decide_eq_true_eq] at hfound
    rw [honly other hother hfound, Option.map_some, Prod.map_snd]

/-- An entry added under a key that was free. -/
theorem get_added (h : cbor.Rfc8949) {entries : Entries} {key : ℤ}
    (hfree : ∀ entry ∈ entries, asInt entry.1 ≠ some key) (value : Item) :
    (cbor.canonicalize (entries ++ [(int key, value)])).get key = some (cbor.canonical value) := by
  have hmem : (int key, value) ∈ entries ++ [(int key, value)] := by simp
  refine get_canonicalize h hmem (asInt_int key) fun other hother hkey => ?_
  rcases List.mem_append.1 hother with hother | hother
  · exact absurd hkey (hfree other hother)
  · exact List.mem_singleton.1 hother

/-! ### A library that keeps the promise -/

def Cppbor.plain : Cppbor where
  encode := Item.encode
  parse := Cbor.parse
  headerSize := fun n => (header BSTR n).length
  encodeHeader := fun type n room =>
    if (header type n).length ≤ room then some (header type n) else none
  canonical := Item.canonical
  canonicalize := Cbor.canonicalize

theorem Cppbor.plain_rfc8949 : Cppbor.plain.Rfc8949 where
  encode := fun _ _ => rfl
  parse := fun item rest hfits => parse_encode item hfits rest
  parsed := fun _ _ _ h => parse_some h
  headerSize := fun _ _ => rfl
  encodeHeader := fun _ _ _ hroom => if_pos hroom
  canonicalize_perm := Cbor.canonicalize_perm
  canonicalize_sorted := Cbor.canonicalize_sorted
  canonical_uint := fun _ => rfl
  canonical_nint := fun _ => rfl
  canonical_bstr := fun _ => rfl
  canonical_tstr := fun _ => rfl
  canonical_bool := fun _ => rfl
  canonical_null := rfl
  canonical_array := fun items => by
    simp only [Cppbor.plain, Item.canonical, canonicalItems_eq]
  canonical_map := fun entries => by
    simp only [Cppbor.plain, Item.canonical, Cbor.canonicalize]
  canonical_tag := fun _ _ => by simp only [Cppbor.plain, Item.canonical]

end ImxHal.Firmware
