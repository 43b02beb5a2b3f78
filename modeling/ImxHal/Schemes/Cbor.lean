import Mathlib.Data.List.Sort
import Mathlib.Data.Prod.Lex
import Mathlib.Order.Lex
import Mathlib.Data.List.Lex
import Mathlib.Tactic

/-! @scheme cbor | family:data formats

    CBOR data items and their encoding as RFC 8949 has it: a header of the major type and an argument
    in the fewest bytes, and the content behind it.

        │ major │ info │ argument          │ content
        │ 0 1   │ < 24 │                   │             integers
        │ 2 3   │ 24   │ 1 byte            │ bytes       strings
        │ 4 5   │ 25   │ 2 bytes           │ items       arrays, maps
        │ 6     │ 26   │ 4 bytes           │ item        tags
        │ 7     │ 27   │ 8 bytes           │             simple values

    Decoding an encoded item gives the item back and stops behind it, whatever follows. -/

namespace ImxHal.Cbor

abbrev Bytes := List UInt8

/-- A data item; `nint n` is the integer `-1 - n`, and a text is the bytes of its UTF-8 form. -/
inductive Item where
  | uint (n : ℕ)
  | nint (n : ℕ)
  | bstr (bytes : Bytes)
  | tstr (bytes : Bytes)
  | array (items : List Item)
  | map (entries : List (Item × Item))
  | tag (value : ℕ) (item : Item)
  | bool (value : Bool)
  | null

/-- The last `k` bytes of a number, the most significant first. -/
def be : ℕ → ℕ → Bytes
  | 0, _ => []
  | k + 1, n => be k (n / 256) ++ [UInt8.ofNat n]

def beNat (bytes : Bytes) : ℕ := bytes.foldl (fun n b => 256 * n + b.toNat) 0

/-- The number of bytes a number takes, none for zero. -/
def byteCount (n : ℕ) : ℕ := if n = 0 then 0 else n.log2 / 8 + 1

def header (major n : ℕ) : Bytes :=
  if n < 24 then [UInt8.ofNat (32 * major + n)]
  else if n < 2 ^ 8 then UInt8.ofNat (32 * major + 24) :: be 1 n
  else if n < 2 ^ 16 then UInt8.ofNat (32 * major + 25) :: be 2 n
  else if n < 2 ^ 32 then UInt8.ofNat (32 * major + 26) :: be 4 n
  else UInt8.ofNat (32 * major + 27) :: be 8 n

mutual

def Item.encode : Item → Bytes
  | .uint n => header 0 n
  | .nint n => header 1 n
  | .bstr bytes => header 2 bytes.length ++ bytes
  | .tstr bytes => header 3 bytes.length ++ bytes
  | .array items => header 4 items.length ++ encodeItems items
  | .map entries => header 5 entries.length ++ encodeEntries entries
  | .tag value item => header 6 value ++ item.encode
  | .bool value => header 7 (if value then 21 else 20)
  | .null => header 7 22

def encodeItems : List Item → Bytes
  | [] => []
  | item :: items => item.encode ++ encodeItems items

def encodeEntries : List (Item × Item) → Bytes
  | [] => []
  | (key, value) :: entries => key.encode ++ value.encode ++ encodeEntries entries

end

mutual

/-- Every number and every count in the item fits a header. -/
def Item.Fits : Item → Prop
  | .uint n => n < 2 ^ 64
  | .nint n => n < 2 ^ 64
  | .bstr bytes => bytes.length < 2 ^ 64
  | .tstr bytes => bytes.length < 2 ^ 64
  | .array items => items.length < 2 ^ 64 ∧ ItemsFit items
  | .map entries => entries.length < 2 ^ 64 ∧ EntriesFit entries
  | .tag value item => value < 2 ^ 64 ∧ item.Fits
  | .bool _ => True
  | .null => True

def ItemsFit : List Item → Prop
  | [] => True
  | item :: items => item.Fits ∧ ItemsFit items

def EntriesFit : List (Item × Item) → Prop
  | [] => True
  | (key, value) :: entries => key.Fits ∧ value.Fits ∧ EntriesFit entries

end

/-! ### Canonical form -/

/-- Keys are ordered by the length of their encoding, and then byte by byte. -/
def keyOrder (item : Item) : ℕ ×ₗ List ℕ := toLex (item.encode.length, item.encode.map UInt8.toNat)

abbrev KeyLe (a b : Item × Item) : Prop := keyOrder a.1 ≤ keyOrder b.1

mutual

/-- The item with the entries of each of its maps in the order of their keys. -/
def Item.canonical : Item → Item
  | .array items => .array (canonicalItems items)
  | .map entries => .map ((canonicalEntries entries).insertionSort KeyLe)
  | .tag value item => .tag value item.canonical
  | .uint n => .uint n
  | .nint n => .nint n
  | .bstr bytes => .bstr bytes
  | .tstr bytes => .tstr bytes
  | .bool value => .bool value
  | .null => .null

def canonicalItems : List Item → List Item
  | [] => []
  | item :: items => item.canonical :: canonicalItems items

def canonicalEntries : List (Item × Item) → List (Item × Item)
  | [] => []
  | (key, value) :: entries => (key.canonical, value.canonical) :: canonicalEntries entries

end

/-- The entries of a map in the order of their keys. -/
def canonicalize (entries : List (Item × Item)) : List (Item × Item) :=
  (canonicalEntries entries).insertionSort KeyLe

/-! ### Decoding -/

/-- A number of `k` bytes. -/
def readArg (k : ℕ) (bytes : Bytes) : Option (ℕ × Bytes) :=
  if k ≤ bytes.length then some (beNat (bytes.take k), bytes.drop k) else none

/-- The major type, the argument, and what follows. -/
def readHeader : Bytes → Option (ℕ × ℕ × Bytes)
  | [] => none
  | b :: bytes =>
    let info := b.toNat % 32
    let arg :=
      if info < 24 then some (info, bytes)
      else if info = 24 then readArg 1 bytes
      else if info = 25 then readArg 2 bytes
      else if info = 26 then readArg 4 bytes
      else if info = 27 then readArg 8 bytes
      else none
    arg.map fun p => (b.toNat / 32, p)

/-- A string of `n` bytes. -/
def readString (n : ℕ) (bytes : Bytes) : Option (Bytes × Bytes) :=
  if n ≤ bytes.length then some (bytes.take n, bytes.drop n) else none

mutual

def decode : ℕ → Bytes → Option (Item × Bytes)
  | 0, _ => none
  | fuel + 1, bytes =>
    match readHeader bytes with
    | none => none
    | some (major, n, rest) =>
      match major with
      | 0 => some (.uint n, rest)
      | 1 => some (.nint n, rest)
      | 2 => (readString n rest).map fun p => (.bstr p.1, p.2)
      | 3 => (readString n rest).map fun p => (.tstr p.1, p.2)
      | 4 => (decodeItems fuel n rest).map fun p => (.array p.1, p.2)
      | 5 => (decodeEntries fuel n rest).map fun p => (.map p.1, p.2)
      | 6 => (decode fuel rest).map fun p => (.tag n p.1, p.2)
      | 7 =>
        if n = 20 then some (.bool false, rest)
        else if n = 21 then some (.bool true, rest)
        else if n = 22 then some (.null, rest)
        else none
      | _ => none

def decodeItems : ℕ → ℕ → Bytes → Option (List Item × Bytes)
  | _, 0, bytes => some ([], bytes)
  | 0, _ + 1, _ => none
  | fuel + 1, n + 1, bytes =>
    match decode fuel bytes with
    | none => none
    | some (item, rest) => (decodeItems fuel n rest).map fun p => (item :: p.1, p.2)

def decodeEntries : ℕ → ℕ → Bytes → Option (List (Item × Item) × Bytes)
  | _, 0, bytes => some ([], bytes)
  | 0, _ + 1, _ => none
  | fuel + 1, n + 1, bytes =>
    match decode fuel bytes with
    | none => none
    | some (key, rest) =>
      match decode fuel rest with
      | none => none
      | some (value, rest) => (decodeEntries fuel n rest).map fun p => ((key, value) :: p.1, p.2)

end

/-- The first item of some bytes, and the number of bytes it takes. -/
def parse (bytes : Bytes) : Option (Item × ℕ) :=
  (decode (2 * bytes.length) bytes).map fun p => (p.1, bytes.length - p.2.length)

/-! ### Numbers and headers -/

@[simp] theorem be_length (k n : ℕ) : (be k n).length = k := by
  induction k generalizing n with
  | zero => rfl
  | succ k ih => simp [be, ih]

theorem beNat_append (bytes : Bytes) (b : UInt8) : beNat (bytes ++ [b]) = 256 * beNat bytes + b.toNat := by
  rw [beNat, List.foldl_append]
  rfl

theorem beNat_be (k n : ℕ) : beNat (be k n) = n % 256 ^ k := by
  induction k generalizing n with
  | zero => simp [be, beNat, Nat.mod_one]
  | succ k ih =>
    have hpow : 256 ^ (k + 1) = 256 * 256 ^ k := pow_succ' 256 k
    rw [be, beNat_append, ih, UInt8.toNat_ofNat', hpow, Nat.mod_mul]
    omega

theorem beNat_zeros_append (k : ℕ) (bytes : Bytes) :
    beNat (List.replicate k 0 ++ bytes) = beNat bytes := by
  induction k with
  | zero => simp
  | succ k ih => simpa [beNat, List.replicate_succ] using ih

theorem lt_pow_byteCount (n : ℕ) : n < 256 ^ byteCount n := by
  unfold byteCount
  split
  · next h => simp [h]
  · next h =>
    have hlog : n < 2 ^ (n.log2 + 1) := Nat.lt_log2_self
    have hpow : (2 : ℕ) ^ (n.log2 + 1) ≤ 2 ^ (8 * (n.log2 / 8 + 1)) :=
      Nat.pow_le_pow_right (by decide) (by omega)
    calc n < 2 ^ (n.log2 + 1) := hlog
      _ ≤ 2 ^ (8 * (n.log2 / 8 + 1)) := hpow
      _ = 256 ^ (n.log2 / 8 + 1) := by rw [Nat.pow_mul]

theorem readArg_be {k n : ℕ} (hn : n < 256 ^ k) (rest : Bytes) :
    readArg k (be k n ++ rest) = some (n, rest) := by
  have htake : (be k n ++ rest).take k = be k n := by
    rw [List.take_append_of_le_length (by simp), List.take_of_length_le (by simp)]
  have hdrop : (be k n ++ rest).drop k = rest := List.drop_left' (by simp)
  rw [readArg, if_pos (by simp), htake, hdrop, beNat_be, Nat.mod_eq_of_lt hn]

theorem header_pos (major n : ℕ) : 0 < (header major n).length := by
  unfold header
  repeat' split
  all_goals simp

theorem header_length_le_nine (major n : ℕ) : (header major n).length ≤ 9 := by
  unfold header
  repeat' split
  all_goals simp

/-- The first byte of a header gives the major type and says how long the argument is. -/
theorem readHeader_cons {major info : ℕ} (hm : major < 8) (hi : info < 32) (bytes : Bytes) :
    readHeader (UInt8.ofNat (32 * major + info) :: bytes) =
      (if info < 24 then some (info, bytes)
      else if info = 24 then readArg 1 bytes
      else if info = 25 then readArg 2 bytes
      else if info = 26 then readArg 4 bytes
      else if info = 27 then readArg 8 bytes
      else none).map fun p => (major, p) := by
  have hbyte : (UInt8.ofNat (32 * major + info)).toNat = 32 * major + info := by
    rw [UInt8.toNat_ofNat']
    omega
  have hinfo : (32 * major + info) % 32 = info := by omega
  have hmajor : (32 * major + info) / 32 = major := by omega
  simp only [readHeader, hbyte, hinfo, hmajor]

/-- A header read back. -/
theorem readHeader_header (major : ℕ) {n : ℕ} (hm : major < 8) (hn : n < 2 ^ 64) (rest : Bytes) :
    readHeader (header major n ++ rest) = some (major, n, rest) := by
  unfold header
  split
  · next h =>
    rw [List.cons_append, readHeader_cons hm (by omega)]
    simp [h]
  · split
    · next h =>
      rw [List.cons_append, readHeader_cons hm (by decide)]
      simp [readArg_be (show n < 256 ^ 1 by omega)]
    · split
      · next h =>
        rw [List.cons_append, readHeader_cons hm (by decide)]
        simp [readArg_be (show n < 256 ^ 2 by omega)]
      · split
        · next h =>
          rw [List.cons_append, readHeader_cons hm (by decide)]
          simp [readArg_be (show n < 256 ^ 4 by omega)]
        · rw [List.cons_append, readHeader_cons hm (by decide)]
          simp [readArg_be (show n < 256 ^ 8 by omega)]

theorem encode_pos (item : Item) : 0 < item.encode.length := by
  cases item <;> simp only [Item.encode, List.length_append] <;>
    first
    | exact header_pos _ _
    | exact Nat.add_pos_left (header_pos _ _) _

/-! ### The round trip -/

theorem readString_append (bytes rest : Bytes) :
    readString bytes.length (bytes ++ rest) = some (bytes, rest) := by
  rw [readString, if_pos (by simp), List.take_left, List.drop_left]

/-- Items, lists of items and lists of entries, by induction on the fuel. -/
theorem decode_fuel (fuel : ℕ) :
    (∀ (item : Item) (rest : Bytes), item.Fits → 2 * item.encode.length ≤ fuel →
      decode fuel (item.encode ++ rest) = some (item, rest)) ∧
    (∀ (items : List Item) (rest : Bytes), ItemsFit items →
      2 * (encodeItems items).length < fuel →
      decodeItems fuel items.length (encodeItems items ++ rest) = some (items, rest)) ∧
    ∀ (entries : List (Item × Item)) (rest : Bytes), EntriesFit entries →
      2 * (encodeEntries entries).length < fuel →
      decodeEntries fuel entries.length (encodeEntries entries ++ rest) = some (entries, rest) := by
  induction fuel with
  | zero =>
    refine ⟨fun item rest _ h => ?_, fun items rest _ h => by omega, fun entries rest _ h => by omega⟩
    have hpos := encode_pos item
    omega
  | succ fuel ih =>
    obtain ⟨hitem, hitems, hentries⟩ := ih
    refine ⟨fun item rest hfits h => ?_, fun items rest hfits h => ?_, fun entries rest hfits h => ?_⟩
    · cases item with
      | uint n =>
        simp only [Item.encode, decode, readHeader_header 0 (by decide) hfits]
      | nint n =>
        simp only [Item.encode, decode, readHeader_header 1 (by decide) hfits]
      | bstr bytes =>
        simp only [Item.encode, List.append_assoc, decode, readHeader_header 2 (by decide) hfits,
          readString_append, Option.map_some]
      | tstr bytes =>
        simp only [Item.encode, List.append_assoc, decode, readHeader_header 3 (by decide) hfits,
          readString_append, Option.map_some]
      | array items =>
        have hpos := header_pos 4 items.length
        simp only [Item.encode, List.length_append] at h
        simp only [Item.encode, List.append_assoc, decode, readHeader_header 4 (by decide) hfits.1,
          hitems items rest hfits.2 (by omega), Option.map_some]
      | map entries =>
        have hpos := header_pos 5 entries.length
        simp only [Item.encode, List.length_append] at h
        simp only [Item.encode, List.append_assoc, decode, readHeader_header 5 (by decide) hfits.1,
          hentries entries rest hfits.2 (by omega), Option.map_some]
      | tag value item =>
        have hpos := header_pos 6 value
        simp only [Item.encode, List.length_append] at h
        simp only [Item.encode, List.append_assoc, decode, readHeader_header 6 (by decide) hfits.1,
          hitem item rest hfits.2 (by omega), Option.map_some]
      | bool value =>
        cases value <;>
          simp [Item.encode, decode, readHeader_header 7 (by decide)]
      | null => simp [Item.encode, decode, readHeader_header 7 (by decide)]
    · cases items with
      | nil => simp [encodeItems, decodeItems]
      | cons item items =>
        have hpos := encode_pos item
        simp only [encodeItems, List.length_append] at h
        simp only [encodeItems, List.append_assoc, List.length_cons, decodeItems,
          hitem item _ hfits.1 (by omega), hitems items rest hfits.2 (by omega), Option.map_some]
    · cases entries with
      | nil => simp [encodeEntries, decodeEntries]
      | cons entry entries =>
        obtain ⟨key, value⟩ := entry
        obtain ⟨hkey, hvalue, hrest⟩ := hfits
        have hpos := encode_pos key
        simp only [encodeEntries, List.length_append] at h
        simp only [encodeEntries, List.append_assoc, List.length_cons, decodeEntries,
          hitem key _ hkey (by omega), hitem value _ hvalue (by omega),
          hentries entries rest hrest (by omega), Option.map_some]

/-- An encoded item is parsed as itself, whatever follows it. -/
theorem parse_encode (item : Item) (hfits : item.Fits) (rest : Bytes) :
    parse (item.encode ++ rest) = some (item, item.encode.length) := by
  have hfuel : 2 * item.encode.length ≤ 2 * (item.encode ++ rest).length := by
    rw [List.length_append]
    omega
  rw [parse, (decode_fuel _).1 item rest hfits hfuel, Option.map_some, List.length_append,
    Nat.add_sub_cancel]

/-! ### What is decoded -/

theorem beNat_lt (bytes : Bytes) : beNat bytes < 256 ^ bytes.length := by
  induction bytes using List.reverseRecOn with
  | nil => simp [beNat]
  | append_singleton bytes b ih =>
    have hb : b.toNat < 256 := b.toNat_lt
    rw [beNat_append, List.length_append, List.length_singleton, pow_succ]
    omega

theorem readArg_some {k n : ℕ} {bytes rest : Bytes} (h : readArg k bytes = some (n, rest)) :
    n < 256 ^ k ∧ k + rest.length = bytes.length := by
  unfold readArg at h
  split at h
  · next hk =>
    obtain ⟨rfl, rfl⟩ : beNat (bytes.take k) = n ∧ bytes.drop k = rest := by simpa using h
    have hlt := beNat_lt (bytes.take k)
    rw [List.length_take_of_le hk] at hlt
    exact ⟨hlt, by rw [List.length_drop]; omega⟩
  · simp at h

theorem header_length_le (major : ℕ) {n k : ℕ} (hk : k = 1 ∨ k = 2 ∨ k = 4 ∨ k = 8) (hn : n < 256 ^ k) :
    (header major n).length ≤ 1 + k := by
  rcases hk with rfl | rfl | rfl | rfl
  all_goals
    unfold header
    repeat' split
    all_goals simp only [List.length_cons, List.length_nil, be_length]
    all_goals omega

/-- A header read is at least as long as the one that would be written. -/
theorem readHeader_some {major n : ℕ} {bytes rest : Bytes}
    (h : readHeader bytes = some (major, n, rest)) :
    n < 2 ^ 64 ∧ (header major n).length + rest.length ≤ bytes.length := by
  cases bytes with
  | nil => simp [readHeader] at h
  | cons b bytes =>
    simp only [readHeader, Option.map_eq_some_iff, Prod.mk.injEq, Prod.exists] at h
    obtain ⟨n', rest', harg, hmajor, rfl, rfl⟩ := h
    have hread : ∀ k, (k = 1 ∨ k = 2 ∨ k = 4 ∨ k = 8) → readArg k bytes = some (n', rest') →
        n' < 2 ^ 64 ∧ (header major n').length + rest'.length ≤ (b :: bytes).length := by
      intro k hk h
      obtain ⟨hlt, hlen⟩ := readArg_some h
      have hhead := header_length_le major hk hlt
      refine ⟨?_, by rw [List.length_cons]; omega⟩
      rcases hk with rfl | rfl | rfl | rfl <;> omega
    repeat' split at harg
    · next hinfo =>
      obtain ⟨rfl, rfl⟩ : b.toNat % 32 = n' ∧ bytes = rest' := by simpa using harg
      refine ⟨by omega, ?_⟩
      simp only [header, if_pos hinfo, List.length_cons, List.length_nil]
      omega
    · exact hread 1 (by decide) harg
    · exact hread 2 (by decide) harg
    · exact hread 4 (by decide) harg
    · exact hread 8 (by decide) harg
    · simp at harg

theorem readString_some {n : ℕ} {bytes content rest : Bytes}
    (h : readString n bytes = some (content, rest)) :
    content.length = n ∧ content.length + rest.length = bytes.length := by
  unfold readString at h
  split at h
  · next hn =>
    obtain ⟨rfl, rfl⟩ : bytes.take n = content ∧ bytes.drop n = rest := by simpa using h
    rw [List.length_take_of_le hn, List.length_drop]
    exact ⟨rfl, by omega⟩
  · simp at h

/-- What is decoded fits, and its encoding is no longer than the bytes it was read from. -/
theorem decode_some (fuel : ℕ) :
    (∀ (bytes : Bytes) (item : Item) (rest : Bytes), decode fuel bytes = some (item, rest) →
      item.Fits ∧ item.encode.length + rest.length ≤ bytes.length) ∧
    (∀ (n : ℕ) (bytes : Bytes) (items : List Item) (rest : Bytes),
      decodeItems fuel n bytes = some (items, rest) →
      items.length = n ∧ ItemsFit items ∧ (encodeItems items).length + rest.length ≤ bytes.length) ∧
    ∀ (n : ℕ) (bytes : Bytes) (entries : List (Item × Item)) (rest : Bytes),
      decodeEntries fuel n bytes = some (entries, rest) →
      entries.length = n ∧ EntriesFit entries ∧
        (encodeEntries entries).length + rest.length ≤ bytes.length := by
  induction fuel with
  | zero =>
    refine ⟨fun bytes item rest h => ?_, fun n bytes items rest h => ?_, fun n bytes entries rest h => ?_⟩
    · simp [decode] at h
    · cases n with
      | zero =>
        obtain ⟨rfl, rfl⟩ : items = [] ∧ bytes = rest := by simpa [decodeItems, eq_comm] using h
        simp [ItemsFit, encodeItems]
      | succ n => simp [decodeItems] at h
    · cases n with
      | zero =>
        obtain ⟨rfl, rfl⟩ : entries = [] ∧ bytes = rest := by simpa [decodeEntries, eq_comm] using h
        simp [EntriesFit, encodeEntries]
      | succ n => simp [decodeEntries] at h
  | succ fuel ih =>
    obtain ⟨hitem, hitems, hentries⟩ := ih
    refine ⟨fun bytes item rest h => ?_, fun n bytes items rest h => ?_, fun n bytes entries rest h => ?_⟩
    · rw [decode] at h
      split at h
      · simp at h
      · next major n behind hhead =>
        obtain ⟨hn, hlen⟩ := readHeader_some hhead
        split at h
        · simp only [Option.some.injEq, Prod.mk.injEq] at h
          obtain ⟨rfl, rfl⟩ := h
          exact ⟨hn, hlen⟩
        · simp only [Option.some.injEq, Prod.mk.injEq] at h
          obtain ⟨rfl, rfl⟩ := h
          exact ⟨hn, hlen⟩
        · simp only [Option.map_eq_some_iff, Prod.mk.injEq, Prod.exists] at h
          obtain ⟨content, rest, hread, rfl, rfl⟩ := h
          obtain ⟨rfl, hsum⟩ := readString_some hread
          refine ⟨hn, ?_⟩
          rw [Item.encode, List.length_append]
          omega
        · simp only [Option.map_eq_some_iff, Prod.mk.injEq, Prod.exists] at h
          obtain ⟨content, rest, hread, rfl, rfl⟩ := h
          obtain ⟨rfl, hsum⟩ := readString_some hread
          refine ⟨hn, ?_⟩
          rw [Item.encode, List.length_append]
          omega
        · simp only [Option.map_eq_some_iff, Prod.mk.injEq, Prod.exists] at h
          obtain ⟨items, rest, hread, rfl, rfl⟩ := h
          obtain ⟨rfl, hfits, hsum⟩ := hitems _ _ _ _ hread
          refine ⟨⟨hn, hfits⟩, ?_⟩
          rw [Item.encode, List.length_append]
          omega
        · simp only [Option.map_eq_some_iff, Prod.mk.injEq, Prod.exists] at h
          obtain ⟨entries, rest, hread, rfl, rfl⟩ := h
          obtain ⟨rfl, hfits, hsum⟩ := hentries _ _ _ _ hread
          refine ⟨⟨hn, hfits⟩, ?_⟩
          rw [Item.encode, List.length_append]
          omega
        · simp only [Option.map_eq_some_iff, Prod.mk.injEq, Prod.exists] at h
          obtain ⟨item, rest, hread, rfl, rfl⟩ := h
          obtain ⟨hfits, hsum⟩ := hitem _ _ _ hread
          refine ⟨⟨hn, hfits⟩, ?_⟩
          rw [Item.encode, List.length_append]
          omega
        · split at h
          · simp only [Option.some.injEq, Prod.mk.injEq] at h
            obtain ⟨rfl, rfl⟩ := h
            next hvalue => exact ⟨trivial, by simpa [Item.encode, hvalue] using hlen⟩
          · split at h
            · simp only [Option.some.injEq, Prod.mk.injEq] at h
              obtain ⟨rfl, rfl⟩ := h
              next hvalue => exact ⟨trivial, by simpa [Item.encode, hvalue] using hlen⟩
            · split at h
              · simp only [Option.some.injEq, Prod.mk.injEq] at h
                obtain ⟨rfl, rfl⟩ := h
                next hvalue => exact ⟨trivial, by simpa [Item.encode, hvalue] using hlen⟩
              · simp at h
        · simp at h
    · cases n with
      | zero =>
        obtain ⟨rfl, rfl⟩ : items = [] ∧ bytes = rest := by simpa [decodeItems, eq_comm] using h
        simp [ItemsFit, encodeItems]
      | succ n =>
        rw [decodeItems] at h
        split at h
        · simp at h
        · next item behind hread =>
          obtain ⟨hfits, hsum⟩ := hitem _ _ _ hread
          simp only [Option.map_eq_some_iff, Prod.mk.injEq, Prod.exists] at h
          obtain ⟨items, rest, htail, rfl, rfl⟩ := h
          obtain ⟨rfl, htailFits, htailSum⟩ := hitems _ _ _ _ htail
          refine ⟨rfl, ⟨hfits, htailFits⟩, ?_⟩
          rw [encodeItems, List.length_append]
          omega
    · cases n with
      | zero =>
        obtain ⟨rfl, rfl⟩ : entries = [] ∧ bytes = rest := by simpa [decodeEntries, eq_comm] using h
        simp [EntriesFit, encodeEntries]
      | succ n =>
        rw [decodeEntries] at h
        split at h
        · simp at h
        · next key behind hkey =>
          obtain ⟨hkeyFits, hkeySum⟩ := hitem _ _ _ hkey
          split at h
          · simp at h
          · next value behind hvalue =>
            obtain ⟨hvalueFits, hvalueSum⟩ := hitem _ _ _ hvalue
            simp only [Option.map_eq_some_iff, Prod.mk.injEq, Prod.exists] at h
            obtain ⟨entries, rest, htail, rfl, rfl⟩ := h
            obtain ⟨rfl, htailFits, htailSum⟩ := hentries _ _ _ _ htail
            refine ⟨rfl, ⟨hkeyFits, hvalueFits, htailFits⟩, ?_⟩
            rw [encodeEntries, List.length_append, List.length_append]
            omega

/-- What is parsed fits, and is no longer than the bytes it was read from. -/
theorem parse_some {bytes : Bytes} {item : Item} {n : ℕ} (h : parse bytes = some (item, n)) :
    item.Fits ∧ item.encode.length ≤ n ∧ n ≤ bytes.length := by
  simp only [parse, Option.map_eq_some_iff, Prod.mk.injEq, Prod.exists] at h
  obtain ⟨item, rest, hread, rfl, rfl⟩ := h
  obtain ⟨hfits, hsum⟩ := (decode_some _).1 _ _ _ hread
  exact ⟨hfits, by omega, Nat.sub_le _ _⟩

/-! ### Entries one by one -/

theorem entriesFit_iff (entries : List (Item × Item)) :
    EntriesFit entries ↔ ∀ entry ∈ entries, entry.1.Fits ∧ entry.2.Fits := by
  induction entries with
  | nil => simp [EntriesFit]
  | cons entry entries ih =>
    obtain ⟨key, value⟩ := entry
    simp [EntriesFit, ih, and_assoc]

theorem entriesFit_append {entries entries' : List (Item × Item)} (h : EntriesFit entries)
    (h' : EntriesFit entries') : EntriesFit (entries ++ entries') := by
  rw [entriesFit_iff] at h h' ⊢
  intro entry hmem
  exact (List.mem_append.1 hmem).elim (h entry) (h' entry)

theorem length_le_encodeEntries (entries : List (Item × Item)) :
    entries.length ≤ (encodeEntries entries).length := by
  induction entries with
  | nil => simp
  | cons entry entries ih =>
    obtain ⟨key, value⟩ := entry
    have hpos := encode_pos key
    rw [encodeEntries, List.length_append, List.length_append, List.length_cons]
    omega

/-- The order of the entries does not change the length. -/
theorem encodeEntries_length_perm {entries entries' : List (Item × Item)} (h : entries.Perm entries') :
    (encodeEntries entries).length = (encodeEntries entries').length := by
  induction h with
  | nil => rfl
  | cons entry _ ih =>
    obtain ⟨key, value⟩ := entry
    simp only [encodeEntries, List.length_append, ih]
  | swap a b entries =>
    obtain ⟨key, value⟩ := a
    obtain ⟨key', value'⟩ := b
    simp only [encodeEntries, List.length_append]
    omega
  | trans _ _ ih ih' => exact ih.trans ih'

/-! ### What canonical form keeps -/

theorem canonicalItems_eq (items : List Item) : canonicalItems items = items.map Item.canonical := by
  induction items with
  | nil => rfl
  | cons item items ih => rw [canonicalItems, ih, List.map_cons]

theorem canonicalEntries_eq (entries : List (Item × Item)) :
    canonicalEntries entries = entries.map (Prod.map Item.canonical Item.canonical) := by
  induction entries with
  | nil => rfl
  | cons entry entries ih =>
    obtain ⟨key, value⟩ := entry
    rw [canonicalEntries, ih, List.map_cons, Prod.map_apply]

theorem canonicalize_perm (entries : List (Item × Item)) :
    (canonicalize entries).Perm (entries.map (Prod.map Item.canonical Item.canonical)) := by
  rw [canonicalize, canonicalEntries_eq]
  exact List.perm_insertionSort KeyLe _

theorem canonicalize_sorted (entries : List (Item × Item)) : (canonicalize entries).Pairwise KeyLe := by
  have htotal : Std.Total KeyLe := ⟨fun a b => le_total (keyOrder a.1) (keyOrder b.1)⟩
  have htrans : IsTrans (Item × Item) KeyLe := ⟨fun a b c hab hbc => le_trans hab hbc⟩
  exact List.pairwise_insertionSort KeyLe _

end ImxHal.Cbor
