import Mathlib.Data.List.Sort
import ImxHal.Schemes.BitField

/-! @src sensor/Sensor.cpp (HWSensorBase::processScanData), sensor/iio_utils.cpp (get_scan_type),
    sensor/iio_utils.h | name:IIO scan data | scheme:bit field | family:data formats

    A scan holds one element for each channel of the device. The kernel puts the elements in the order of
    their indices, each at a multiple of its own storage size; the HAL looks for them one after the other,
    without padding. From its element a channel's value is taken by a shift and, for a signed channel, by
    the width.

        storage 1, 2   kernel   │ 0 │ - │ 1   1 │        HAL   │ 0 │ 1   1 │

    The memory behind `data` is as long as is needed: which of it belongs to the buffer is not asked here.
    `char` is unsigned, as on the boards, and the values are those before the conversion to `float`. -/

namespace ImxHal.Sensor.Scan
open ImxHal.BitField

structure iio_info_channel where
  name : String
  index : ℕ
  storage_bytes : ℕ
  bits_used : ℕ
  shift : ℕ
  big_endian : Bool
  sign : Bool
  deriving DecidableEq

namespace iio_info_channel
variable (c : iio_info_channel)

/-- `strstr(name, "timestamp")`. -/
def isTimestamp : Bool := decide ("timestamp".toList <:+: c.name.toList)

def shift_timestamp : ℕ := if c.isTimestamp then 2 else 0

/-- The values of `k`, in the order of the loops. -/
def ks : List ℕ :=
  if c.big_endian then List.range' c.shift_timestamp (c.storage_bytes - c.shift_timestamp)
  else (List.range' c.shift_timestamp c.storage_bytes).reverse

def assemble (channel_data : ℕ → BitVec 8) : BitVec 64 :=
  (c.ks.map channel_data).foldl (fun (val : BitVec 64) b => (val <<< 8) ||| b.setWidth 64) 0

/-- `val` is the shifted word; `none` is a shift by 64 bits or more, which the language leaves undefined. -/
def assigned (val : BitVec 64) : Option ℤ :=
  if !c.sign then some val.toInt
  else match c.bits_used with
    | 0 => some 0
    | 1 => some 0
    | 8 => some (val.setWidth 8).toInt
    | 16 => some (val.setWidth 16).toInt
    | 32 => some (val.setWidth 32).toInt
    | 64 => some val.toInt
    | bits_used =>
      if 64 < bits_used then none
      else
        let sign_mask := (1 : BitVec 64) <<< (bits_used - 1)
        let value_mask := sign_mask - 1
        if val &&& sign_mask ≠ 0 then some (-((~~~val &&& value_mask) + 1)).toInt else some val.toInt

end iio_info_channel

open iio_info_channel

/-- `channel_data - data`. -/
def offset (channelInfo : List iio_info_channel) (chanIdx : ℕ) : ℕ :=
  channelInfo.foldl (fun off j => if chanIdx ≤ j.index then off else off + j.storage_bytes) 0

/-- One pass of the outer loop. -/
def decodeChannel (channelInfo : List iio_info_channel) (data : ℕ → BitVec 8) (c : iio_info_channel) :
    Option ℤ :=
  let val := c.assemble fun k => data (offset channelInfo c.index + k)
  if 64 ≤ c.shift then none
  else c.assigned ((val.sshiftRight c.shift) &&& (BitVec.allOnes 64 >>> c.shift))

/-- The outer loop over `rest`, with `channelData` as it stands. -/
def decode (channelInfo : List iio_info_channel) (data : ℕ → BitVec 8) :
    List iio_info_channel → (ℕ → ℤ) → Option (ℕ → ℤ)
  | [], channelData => some channelData
  | c :: rest, channelData => do
    let val ← decodeChannel channelInfo data c
    decode channelInfo data rest (Function.update channelData c.index val)

/-! ### The layout of the kernel -/

/-- `off` rounded up to a multiple of `size`. -/
def alignUp (off size : ℕ) : ℕ := (off + size - 1) / size * size

/-- Where the kernel puts the element of the channel: behind those of lower index, each aligned to its
    own size. -/
def elementOffset (channelInfo : List iio_info_channel) (c : iio_info_channel) : ℕ :=
  alignUp
    (((channelInfo.filter fun j => j.index < c.index).insertionSort fun i j => i.index ≤ j.index).foldl
      (fun off j => alignUp off j.storage_bytes + j.storage_bytes) 0)
    c.storage_bytes

/-- The bytes of the elements of lower index. -/
def storageBelow (channelInfo : List iio_info_channel) (index : ℕ) : ℕ :=
  ((channelInfo.filter fun j => j.index < index).map (·.storage_bytes)).sum

/-- The word that a channel has at `off`. -/
def iio_info_channel.wordAt (c : iio_info_channel) (data : ℕ → BitVec 8) (off : ℕ) : ℕ :=
  word c.big_endian c.storage_bytes fun k => (data (off + k)).toNat

/-- What the bits in use mean. -/
def iio_info_channel.meaning (c : iio_info_channel) (w : ℕ) : ℤ :=
  if c.sign then signed c.bits_used (field w c.shift c.bits_used) else field w c.shift c.bits_used

/-- Scan types as they are registered with the kernel. -/
structure Layout (channelInfo : List iio_info_channel) : Prop where
  indices : (channelInfo.map (·.index)).Nodup
  storage : ∀ c ∈ channelInfo, 1 ≤ c.storage_bytes ∧ c.storage_bytes ≤ 8
  bits : ∀ c ∈ channelInfo, c.shift + c.bits_used ≤ 8 * c.storage_bytes

/-- The widths at which bits that are not in use leave the value alone. -/
def iio_info_channel.WidthHandled (c : iio_info_channel) : Prop :=
  if c.sign then
    c.bits_used ∈ [0, 8, 16, 32, 64] ∨ 2 ≤ c.bits_used ∧ c.shift + c.bits_used = 8 * c.storage_bytes
  else c.bits_used < 64 ∧ c.shift + c.bits_used = 8 * c.storage_bytes

instance (c : iio_info_channel) : Decidable c.WidthHandled :=
  inferInstanceAs (Decidable (if c.sign = true then
    c.bits_used ∈ [0, 8, 16, 32, 64] ∨ 2 ≤ c.bits_used ∧ c.shift + c.bits_used = 8 * c.storage_bytes
  else c.bits_used < 64 ∧ c.shift + c.bits_used = 8 * c.storage_bytes))

/-! ### One channel -/

theorem assemble_toNat {c : iio_info_channel} (hts : c.isTimestamp = false) (hs : c.storage_bytes ≤ 8)
    (channel_data : ℕ → BitVec 8) :
    (c.assemble channel_data).toNat = word c.big_endian c.storage_bytes fun k => (channel_data k).toNat := by
  have hks : c.ks = order c.big_endian c.storage_bytes := by
    rw [ks, shift_timestamp, hts, order]
    simp only [Bool.false_eq_true, if_false, Nat.sub_zero, List.range_eq_range']
  have hlen : (c.ks.map channel_data).length ≤ 8 := by
    rw [List.length_map, hks, order]
    split_ifs <;> simpa using hs
  rw [assemble, toNat_foldl hlen, List.map_map, hks, ← foldl_order]
  rfl

theorem offset_eq (channelInfo : List iio_info_channel) (chanIdx : ℕ) :
    offset channelInfo chanIdx = storageBelow channelInfo chanIdx := by
  have hfrom (off : ℕ) :
      channelInfo.foldl (fun off j => if chanIdx ≤ j.index then off else off + j.storage_bytes) off =
        off + storageBelow channelInfo chanIdx := by
    rw [storageBelow]
    induction channelInfo generalizing off with
    | nil => rfl
    | cons j rest ih =>
      rw [List.foldl_cons, ih]
      by_cases hj : chanIdx ≤ j.index
      · rw [if_pos hj, List.filter_cons_of_neg (by simpa using hj)]
      · rw [if_neg hj, List.filter_cons_of_pos (by simpa using hj), List.map_cons, List.sum_cons,
          Nat.add_assoc]
  rw [offset, hfrom, Nat.zero_add]

/-- What the branches make of the shifted word `n`. -/
def iio_info_channel.value (c : iio_info_channel) (n : ℕ) : ℤ :=
  if c.sign = false then signed 64 n
  else if c.bits_used ≤ 1 then 0
  else if c.bits_used ∈ [8, 16, 32, 64] ∨ n / 2 ^ (c.bits_used - 1) % 2 = 1 then
    signed c.bits_used (n % 2 ^ c.bits_used)
  else signed 64 n

theorem assigned_eq {c : iio_info_channel} (h : c.bits_used ≤ 64) (val : BitVec 64) :
    c.assigned val = some (c.value val.toNat) := by
  rw [assigned, iio_info_channel.value]
  cases hsign : c.sign with
  | false =>
    simp only [Bool.not_false, if_true]
    rw [toInt_eq_signed]
  | true =>
    simp only [Bool.not_true, Bool.false_eq_true, if_false, Bool.true_eq_false]
    split
    case h_1 hb | h_2 hb => rw [hb, if_pos (by decide)]
    case h_3 hb | h_4 hb | h_5 hb =>
      rw [hb, if_neg (by decide), if_pos (by simp), toInt_eq_signed, BitVec.toNat_setWidth]
    case h_6 hb =>
      rw [hb, if_neg (by decide), if_pos (by simp), toInt_eq_signed, Nat.mod_eq_of_lt val.isLt]
    case h_7 h0 h1 h8 h16 h32 h64 =>
      rw [imp_false] at h0 h1 h8 h16 h32 h64
      have hle : ¬ c.bits_used ≤ 1 := by omega
      obtain ⟨b, hb⟩ : ∃ b, c.bits_used = b + 1 := ⟨c.bits_used - 1, by omega⟩
      rw [if_neg (by omega), if_neg hle, hb, Nat.add_sub_cancel]
      simp only [and_bit_ne_zero val (show b < 64 by omega)]
      have hnot : ¬ b + 1 ∈ [8, 16, 32, 64] := by
        rw [← hb]
        simp only [List.mem_cons, List.not_mem_nil, or_false]
        omega
      by_cases hbit : val.toNat / 2 ^ b % 2 = 1
      · rw [if_pos hbit, if_pos (.inr hbit), toInt_neg_complement val (by omega), signed_of_bit hbit]
      · rw [if_neg hbit, if_neg (not_or_intro hnot hbit), toInt_eq_signed]

theorem decodeChannel_eq {c : iio_info_channel} (hts : c.isTimestamp = false) (hs : c.storage_bytes ≤ 8)
    (hshift : c.shift < 64) (hbits : c.bits_used ≤ 64) (channelInfo : List iio_info_channel)
      (data : ℕ → BitVec 8) :
    decodeChannel channelInfo data c =
      some (c.value (c.wordAt data (storageBelow channelInfo c.index) / 2 ^ c.shift)) := by
  rw [decodeChannel, if_neg (by omega), assigned_eq hbits, toNat_shift_mask, assemble_toNat hts hs, offset_eq]
  rfl

section Channel
variable {c : iio_info_channel} (hs : c.storage_bytes ≤ 8)
    (hbits : c.shift + c.bits_used ≤ 8 * c.storage_bytes)
include hs hbits

theorem value_eq_meaning (hc : c.WidthHandled) {w : ℕ} (hw : w < 2 ^ (8 * c.storage_bytes)) :
    c.value (w / 2 ^ c.shift) = c.meaning w := by
  have hn : c.shift + c.bits_used = 8 * c.storage_bytes → w / 2 ^ c.shift < 2 ^ c.bits_used := fun heq =>
    Nat.div_lt_of_lt_mul (by rwa [← pow_add, heq])
  rw [iio_info_channel.value, iio_info_channel.meaning, field]
  rw [iio_info_channel.WidthHandled] at hc
  cases hsign : c.sign with
  | false =>
    rw [hsign, if_neg Bool.false_ne_true] at hc
    have hlt := hn hc.2
    have h63 : w / 2 ^ c.shift < 2 ^ 63 := lt_of_lt_of_le hlt (Nat.pow_le_pow_right (by decide) (by omega))
    rw [if_pos rfl, if_neg Bool.false_ne_true, Nat.mod_eq_of_lt hlt, signed_of_lt h63]
  | true =>
    rw [hsign, if_pos rfl] at hc
    rw [if_neg (by simp), if_pos rfl]
    by_cases h1 : c.bits_used ≤ 1
    · have h0 : c.bits_used = 0 := by
        rcases hc with hmem | hfull
        · simp only [List.mem_cons, List.not_mem_nil, or_false] at hmem
          omega
        · omega
      rw [if_pos h1, h0, pow_zero, Nat.mod_one]
      rfl
    rw [if_neg h1]
    split_ifs with hcase
    · rfl
    obtain ⟨hmem, hbit⟩ := not_or.mp hcase
    have hfull : c.shift + c.bits_used = 8 * c.storage_bytes := by
      rcases hc with hmem' | hfull
      · simp only [List.mem_cons, List.not_mem_nil, or_false] at hmem hmem'
        omega
      · exact hfull.2
    obtain ⟨b, hb⟩ : ∃ b, c.bits_used = b + 1 := ⟨c.bits_used - 1, by omega⟩
    have hlt := hn hfull
    rw [hb] at hbit hlt
    rw [Nat.add_sub_cancel] at hbit
    have hclear : w / 2 ^ c.shift / 2 ^ b = 0 := by
      have hquot : w / 2 ^ c.shift / 2 ^ b < 2 := Nat.div_lt_of_lt_mul (by rwa [← pow_succ])
      exact (Nat.le_one_iff_eq_zero_or_eq_one.mp (Nat.lt_succ_iff.mp hquot)).resolve_right fun heq => hbit
        (by rw [heq])
    have hsmall : w / 2 ^ c.shift < 2 ^ b := (Nat.div_eq_zero_iff_lt (Nat.two_pow_pos b)).mp hclear
    have h63 : w / 2 ^ c.shift < 2 ^ 63 := lt_of_lt_of_le hsmall (Nat.pow_le_pow_right (by decide) (by omega))
    rw [hb, signed_of_no_bit (by rw [hclear]), Nat.mod_eq_of_lt hsmall, signed_of_lt h63]

/-- A single bit that shows that the width is not handled. -/
theorem exists_bit (hshift : c.shift < 64) (hpos : 1 ≤ c.storage_bytes) (hc : ¬ c.WidthHandled) :
    ∃ x < 8 * c.storage_bytes, c.value (2 ^ x / 2 ^ c.shift) ≠ c.meaning (2 ^ x) := by
  have hdiv {x : ℕ} (hx : c.shift ≤ x) : 2 ^ x / 2 ^ c.shift = 2 ^ (x - c.shift) := Nat.pow_div hx (by decide)
  -- The bit right above those in use.
  have habove (hlt : c.shift + c.bits_used < 8 * c.storage_bytes)
    (hv : c.value (2 ^ c.bits_used) = signed 64 (2 ^ c.bits_used)) :
      ∃ x < 8 * c.storage_bytes, c.value (2 ^ x / 2 ^ c.shift) ≠ c.meaning (2 ^ x) := by
    refine ⟨c.shift + c.bits_used, hlt, ?_⟩
    have hzero : c.meaning (2 ^ (c.shift + c.bits_used)) = 0 := by
      rw [iio_info_channel.meaning, field, hdiv (by omega), Nat.add_sub_cancel_left, Nat.mod_self]
      split_ifs
      · rw [signed, if_neg (by have := Nat.two_pow_pos c.bits_used; omega)]
        rfl
      · rfl
    rw [hdiv (by omega), Nat.add_sub_cancel_left, hv, hzero]
    exact signed_two_pow_ne_zero (by omega)
  rw [iio_info_channel.WidthHandled] at hc
  cases hsign : c.sign with
  | false =>
    rw [hsign, if_neg Bool.false_ne_true] at hc
    by_cases hlt : c.shift + c.bits_used < 8 * c.storage_bytes
    · exact habove hlt (by rw [iio_info_channel.value, hsign, if_pos rfl])
    have h64 : c.bits_used = 64 := by omega
    refine ⟨63, by omega, ?_⟩
    rw [iio_info_channel.value, iio_info_channel.meaning, hsign, if_pos rfl, if_neg Bool.false_ne_true, h64,
      show c.shift = 0 by omega]
    decide
  | true =>
    rw [hsign, if_pos rfl] at hc
    obtain ⟨hmem, hfull⟩ := not_or.mp hc
    simp only [List.mem_cons, List.not_mem_nil, or_false, not_or] at hmem
    by_cases h1 : c.bits_used = 1
    · refine ⟨c.shift, by omega, ?_⟩
      rw [iio_info_channel.value, iio_info_channel.meaning, hsign, if_neg (by simp), if_pos (by omega),
        if_pos rfl, h1, field, Nat.div_self (Nat.two_pow_pos _)]
      decide
    · obtain ⟨b, hb⟩ : ∃ b, c.bits_used = b + 1 := ⟨c.bits_used - 1, by omega⟩
      refine habove (by omega) ?_
      have hclear : ¬ 2 ^ c.bits_used / 2 ^ (c.bits_used - 1) % 2 = 1 := by
        rw [Nat.pow_div (by omega) (by decide), show c.bits_used - (c.bits_used - 1) = 1 by omega]
        decide
      have hnot : ¬ c.bits_used ∈ [8, 16, 32, 64] := by
        simp only [List.mem_cons, List.not_mem_nil, or_false, not_or]
        omega
      rw [iio_info_channel.value, hsign, if_neg (by simp), if_neg (by omega),
        if_neg (not_or_intro hnot hclear)]

end Channel

/-! ### The place of the element -/

theorem wordAt_lt (c : iio_info_channel) (data : ℕ → BitVec 8) (off : ℕ) :
    c.wordAt data off < 2 ^ (8 * c.storage_bytes) := by
  rw [pow_mul]
  exact word_lt c.big_endian fun k _ => (data (off + k)).isLt

/-- Scan data in which the channel's word at `off` has a single bit. -/
def iio_info_channel.singleBit (c : iio_info_channel) (off x : ℕ) (i : ℕ) : BitVec 8 :=
  BitVec.ofNat 8 (single c.big_endian c.storage_bytes off x i)

theorem wordAt_singleBit (c : iio_info_channel) (off x off' : ℕ) :
    c.wordAt (c.singleBit off x) off' =
      word c.big_endian c.storage_bytes fun k => single c.big_endian c.storage_bytes off x (off' + k) := by
  rw [iio_info_channel.wordAt]
  congr 1
  funext k
  exact Nat.mod_eq_of_lt (single_lt _ _ _ _ _)

theorem value_even (c : iio_info_channel) {n : ℕ} (h : 2 ∣ n) : (2 : ℤ) ∣ c.value n := by
  rw [iio_info_channel.value]
  split_ifs with hsign h1
  · exact signed_even (by decide) h
  · exact dvd_zero 2
  · exact signed_even (by omega) ((Nat.dvd_mod_iff (dvd_pow_self 2 (by omega))).mpr h)
  · exact signed_even (by decide) h

theorem meaning_lowest {c : iio_info_channel} (h : 1 ≤ c.bits_used) :
    c.meaning (2 ^ c.shift) = 1 ∨ c.meaning (2 ^ c.shift) = -1 := by
  have hlt : 1 < 2 ^ c.bits_used := Nat.one_lt_two_pow (by omega)
  have hfield : field (2 ^ c.shift) c.shift c.bits_used = 1 := by
    rw [field, Nat.div_self (Nat.two_pow_pos _), Nat.mod_eq_of_lt hlt]
  rw [iio_info_channel.meaning, hfield, signed]
  split_ifs with hsign hle
  · have htwo : (2 : ℤ) ^ c.bits_used = 2 := by
      have : 2 ^ c.bits_used = 2 := by omega
      exact_mod_cast this
    right
    rw [htwo]
    rfl
  · left; rfl
  · left; rfl

theorem meaning_no_bits {c : iio_info_channel} (h : c.bits_used = 0) (w w' : ℕ) :
    c.meaning w = c.meaning w' := by
  simp only [iio_info_channel.meaning, field, h, pow_zero, Nat.mod_one]

/-- A channel is read right from `off`, its element being at `el`, when its width is handled and the two
    are the same. -/
theorem value_wordAt_iff {c : iio_info_channel} (hpos : 1 ≤ c.storage_bytes) (hs : c.storage_bytes ≤ 8)
    (hbits : c.shift + c.bits_used ≤ 8 * c.storage_bytes) (hshift : c.shift < 64) (off el : ℕ) :
    (∀ data, c.value (c.wordAt data off / 2 ^ c.shift) = c.meaning (c.wordAt data el)) ↔
      c.WidthHandled ∧ (off = el ∨ c.bits_used = 0) := by
  constructor
  · intro h
    have hplace : off = el ∨ c.bits_used = 0 := by
      by_contra hnot
      obtain ⟨hne, h0⟩ := not_or.mp hnot
      have hx : c.shift < 8 * c.storage_bytes := by omega
      have heq := h (c.singleBit el c.shift)
      rw [wordAt_singleBit, wordAt_singleBit, word_single_self _ hx] at heq
      have heven : (2 : ℤ) ∣ c.meaning (2 ^ c.shift) := by
        rw [← heq]
        refine value_even c ?_
        obtain hzero | ⟨y, hy, hword⟩ := word_single_other c.big_endian hx hne
        · rw [hzero, Nat.zero_div]
          exact dvd_zero 2
        · rw [hword]
          rcases Nat.lt_or_gt_of_ne hy with hlt | hgt
          · rw [Nat.div_eq_of_lt (Nat.pow_lt_pow_right (by decide) hlt)]
            exact dvd_zero 2
          · rw [Nat.pow_div hgt.le (by decide)]
            exact dvd_pow_self 2 (by omega)
      rcases meaning_lowest (c := c) (by omega) with hone | hone <;>
        rw [hone] at heven <;> revert heven <;> decide
    refine ⟨?_, hplace⟩
    by_contra hc
    obtain ⟨x, hx, hne⟩ := exists_bit hs hbits hshift hpos hc
    have heq := h (c.singleBit off x)
    rw [wordAt_singleBit, word_single_self _ hx] at heq
    refine hne (heq.trans ?_)
    rcases hplace with rfl | h0
    · rw [wordAt_singleBit, word_single_self _ hx]
    · exact meaning_no_bits h0 _ _
  · rintro ⟨hc, hplace⟩ data
    rw [value_eq_meaning hs hbits hc (wordAt_lt c data off)]
    rcases hplace with rfl | h0
    · rfl
    · exact meaning_no_bits h0 _ _

/-! ### The whole scan -/

/-- The loop writes each channel's value to the entry of its index. -/
theorem decode_get {channelInfo : List iio_info_channel} {data : ℕ → BitVec 8} {rest : List iio_info_channel}
    {stack channelData : ℕ → ℤ} (h : decode channelInfo data rest stack = some channelData) :
    (∀ i, i ∉ rest.map (·.index) → channelData i = stack i) ∧
      ((rest.map (·.index)).Nodup → ∀ c ∈ rest,
        decodeChannel channelInfo data c = some (channelData c.index)) := by
  induction rest generalizing stack with
  | nil =>
    rw [decode, Option.some_inj] at h
    exact ⟨fun i _ => by rw [h], fun _ c hc => absurd hc List.not_mem_nil⟩
  | cons c rest ih =>
    rw [decode] at h
    obtain ⟨val, hval, h⟩ := Option.bind_eq_some_iff.mp h
    obtain ⟨hframe, hvals⟩ := ih h
    rw [List.map_cons]
    refine ⟨fun i hi => ?_, fun hnodup => ?_⟩
    · obtain ⟨hne, hnot⟩ := not_or.mp (List.mem_cons.not.mp hi)
      rw [hframe i hnot, Function.update_of_ne hne]
    · obtain ⟨hnot, hnodup⟩ := List.nodup_cons.mp hnodup
      have hhead : channelData c.index = val := by rw [hframe _ hnot, Function.update_self]
      intro c' hc'
      rcases List.mem_cons.mp hc' with rfl | hc'
      · rw [hval, hhead]
      · exact hvals hnodup c' hc'

theorem decode_isSome_iff {channelInfo : List iio_info_channel} {data : ℕ → BitVec 8}
    {rest : List iio_info_channel} {stack : ℕ → ℤ} :
    (decode channelInfo data rest stack).isSome ↔ ∀ c ∈ rest, (decodeChannel channelInfo data c).isSome := by
  induction rest generalizing stack with
  | nil => simp [decode]
  | cons c rest ih =>
    rw [decode, List.forall_mem_cons]
    cases hval : decodeChannel channelInfo data c with
    | none => simp
    | some val => simpa using ih

theorem decodeChannel_isSome_iff {c : iio_info_channel} (hbits : c.bits_used ≤ 64)
    (channelInfo : List iio_info_channel) (data : ℕ → BitVec 8) :
    (decodeChannel channelInfo data c).isSome ↔ c.shift < 64 := by
  rw [decodeChannel]
  by_cases hshift : 64 ≤ c.shift
  · rw [if_pos hshift]
    exact iff_of_false Bool.false_ne_true (by omega)
  · rw [if_neg hshift, assigned_eq hbits]
    exact iff_of_true rfl (by omega)

/-- Three axes whose elements are of one size and in use to the last bit. -/
def leftAligned : List iio_info_channel :=
  [⟨"in_accel_x", 0, 2, 14, 2, false, true⟩, ⟨"in_accel_y", 1, 2, 14, 2, false, true⟩,
    ⟨"in_accel_z", 2, 2, 14, 2, false, true⟩]

/-- Twelve bits in two bytes. -/
def illuminance : iio_info_channel := ⟨"in_illuminance", 0, 2, 12, 0, false, false⟩

def proximity : iio_info_channel := ⟨"in_proximity", 0, 1, 8, 0, false, false⟩
def magn_x : iio_info_channel := ⟨"in_magn_x", 1, 2, 16, 0, false, true⟩

end ImxHal.Sensor.Scan
