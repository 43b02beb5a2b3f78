import ImxHal.Schemes.Interning
import ImxHal.Hwc3.Layer

/-! @src display/hwcomposer3/DisplayConfig.cpp (addConfigGroups, hashCombine), display/hwcomposer3/DisplayConfig.h |
    name:Config groups | scheme:interning | family:hash map

    Configs that differ in the vsync period only are to share a group. The groups are handed out through
    an `unordered_map` whose equality predicate compares as an order does, `<` on the first field that
    differs:

        key        1920×1080   1920×1080   1280×720
        stored                 a           a, b
        same a k               a < b ? no  a < c ? no
        group      0           1           2

    Nothing is less than itself, so a config never finds its equal; what it can find, in its bucket, is a
    config that is less. -/

namespace ImxHal.Hwc3.ConfigGroups
open ImxHal.Interning ImxHal.Hwc3.Frame

structure DisplayConfig where
  mId : ℤ
  mWidth : ℤ
  mHeight : ℤ
  mDpiX : ℤ
  mDpiY : ℤ
  mVsyncPeriodNanos : ℤ
  mConfigGroup : ℤ
  deriving DecidableEq

/-- One step of a hash; `hasher` is `std::hash<int32_t>`. -/
def hashCombine (hasher : ℤ → UInt64) (hash : UInt64) (value : ℤ) : UInt64 :=
  hash ^^^ (hasher value + 0x9e3779b9 + (hash <<< (6 : UInt64)) + (hash >>> (2 : UInt64)))

def ConfigForGroupHash (hasher : ℤ → UInt64) (config : DisplayConfig) : UInt64 :=
  let hash := hashCombine hasher 0 config.mWidth
  let hash := hashCombine hasher hash config.mHeight
  let hash := hashCombine hasher hash config.mDpiX
  hashCombine hasher hash config.mDpiY

def ConfigForGroupEq (a b : DisplayConfig) : Bool :=
  if a.mWidth ≠ b.mWidth then a.mWidth < b.mWidth
  else if a.mHeight ≠ b.mHeight then a.mHeight < b.mHeight
  else if a.mDpiX ≠ b.mDpiX then a.mDpiX < b.mDpiX
  else a.mDpiY < b.mDpiY

/-- `configToConfigGroup`, for any layout of its buckets. -/
abbrev GroupMap (hasher : ℤ → UInt64) := Buckets DisplayConfig ℤ (ConfigForGroupHash hasher)

/-- The group of a new node: the size of the map as an `int32_t`. -/
def newGroup (size : ℕ) : ℤ := i32 size

/-- The groups are read off a map that starts empty. -/
def addConfigGroups {hasher : ℤ → UInt64} (t : GroupMap hasher) (configs : List DisplayConfig) :
    List DisplayConfig :=
  (intern t ConfigForGroupEq newGroup [] configs).map fun e => { e.1 with mConfigGroup := e.2 }

/-- Similar in all attributes except for the vsync period. -/
def Similar (a b : DisplayConfig) : Prop :=
  a.mWidth = b.mWidth ∧ a.mHeight = b.mHeight ∧ a.mDpiX = b.mDpiX ∧ a.mDpiY = b.mDpiY

instance (a b : DisplayConfig) : Decidable (Similar a b) :=
  inferInstanceAs (Decidable (_ ∧ _))

/-- Two configs of the list share a group exactly when they are similar. -/
def Grouped (configs : List DisplayConfig) : Prop :=
  configs.Pairwise fun a b => a.mConfigGroup = b.mConfigGroup ↔ Similar a b

/-- The predicate of the map is an order: it does not hold between similar configs. -/
theorem not_similar_of_eq (a b : DisplayConfig) (h : ConfigForGroupEq a b = true) :
    ¬ Similar a b := by
  rintro ⟨hw, hh, hx, hy⟩
  simp [ConfigForGroupEq, hw, hh, hx, hy] at h

/-- The groups leave the other attributes as they are. -/
theorem grouped_iff_tells {hasher : ℤ → UInt64} (t : GroupMap hasher) (configs : List DisplayConfig) :
    Grouped (addConfigGroups t configs) ↔
      Tells Similar (intern t ConfigForGroupEq newGroup [] configs) := by
  rw [Grouped, addConfigGroups, List.pairwise_map]
  rfl

/-- The groups are right exactly when for every two configs the later one does not come upon the
    earlier one as a lesser config in its bucket, and the two are similar only where the numbers of
    new groups come round again, after `2 ^ 32` of them. -/
theorem grouped_addConfigGroups_iff {hasher : ℤ → UInt64} (t : GroupMap hasher)
    (configs : List DisplayConfig) :
    Grouped (addConfigGroups t configs) ↔
      ∀ i j a b, i < j → configs[i]? = some a → configs[j]? = some b →
        (newGroup i = newGroup j ↔ Similar a b) ∧
          ((a, newGroup i) ∈ t.bucket (numbered newGroup 0 (configs.take j)) b →
            ConfigForGroupEq a b = false) := by
  rw [grouped_iff_tells]
  exact tells_iff not_similar_of_eq configs

/-- One size at 60 Hz and at 30 Hz. -/
def twoRates : List DisplayConfig :=
  [⟨0, 1920, 1080, 320, 320, 16666666, 0⟩, ⟨1, 1920, 1080, 320, 320, 33333333, 0⟩]

/-- The two are put into groups 0 and 1, whatever the hashes and the buckets are. -/
theorem addConfigGroups_twoRates {hasher : ℤ → UInt64} (t : GroupMap hasher) :
    ¬ Grouped (addConfigGroups t twoRates) := by
  rw [grouped_iff_tells, tells_iff not_similar_of_eq]
  intro h
  have hpair := h 0 1 _ _ Nat.zero_lt_one rfl rfl
  exact absurd (hpair.1.mpr (by decide)) (by decide)

theorem addConfigGroups_misgroups :
    ¬ ∀ (hasher : ℤ → UInt64) (t : GroupMap hasher) (configs : List DisplayConfig),
      Grouped (addConfigGroups t configs) :=
  fun h => addConfigGroups_twoRates (Buckets.byHash _ _ _) (h (fun _ => 0) _ _)

end ImxHal.Hwc3.ConfigGroups
