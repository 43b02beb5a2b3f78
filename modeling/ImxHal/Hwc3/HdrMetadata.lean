import ImxHal.Schemes.Run
import ImxHal.Schemes.Links
import ImxHal.Hwc3.Common

/-! @src display/hwcomposer3/DrmClient.cpp (setHdrMetadata), display/hwcomposer3/DrmDisplay.cpp
    (setHdrMetadataBlobId) | name:HDR metadata blobs | scheme:run | family:resource ownership

    The HDR metadata of a display is a property blob of the kernel, remembered with its content:

        set A      no entry ──▶ create blob ──▶ entry (A, blob)
        set A      entry (A, blob)              nothing to do
        set B      entry (A, blob) ──▶ create blob' ──▶ entry (B, blob')       blob is lost
        NULL       entry (A, blob) ──▶ erase ──▶ [] makes (0, 0) ──▶ destroy 0  blob is lost

    Only the first two rows keep one blob for each display. -/

namespace ImxHal.Hwc3.Hdr
open ImxHal.Run ImxHal.Links

/-- The metadata set last and its blob; `{}` of an `operator[]` is the zeroed one with blob 0. -/
structure HdrMetadata (μ : Type) where
  prev : μ
  blobId : ℕ

/-- The client with the blobs of the kernel. `live b` is the display the blob `b` was created for, and
    `badDestroys` holds the ids that were destroyed without being live. -/
structure Client (μ : Type) where
  mDisplays : List ℕ
  mHdrMetadatas : ℕ → Option (HdrMetadata μ)
  mHdrMetadataBlobId : ℕ → ℕ
  live : ℕ → Option ℕ
  badDestroys : List ℕ

variable {μ : Type}

/-- The kernel hands out any id that is not 0 and not in use, or refuses. -/
def drmModeCreatePropertyBlob (c : Client μ) (displayId : ℕ) (pick : Option ℕ) :
    Option (ℕ × Client μ) :=
  match pick with
  | none => none
  | some blobId =>
    if blobId = 0 ∨ (c.live blobId).isSome then none
    else some (blobId, { c with live := Function.update c.live blobId (some displayId) })

def drmModeDestroyPropertyBlob (c : Client μ) (blobId : ℕ) : Client μ :=
  if (c.live blobId).isSome then { c with live := Function.update c.live blobId none }
  else { c with badDestroys := blobId :: c.badDestroys }

/-- `mHdrMetadatas[displayId]`: a missing entry is made with zeroes. -/
def entryAt [Inhabited μ] (c : Client μ) (displayId : ℕ) : HdrMetadata μ × Client μ :=
  match c.mHdrMetadatas displayId with
  | some e => (e, c)
  | none => (⟨default, 0⟩, { c with
      mHdrMetadatas := Function.update c.mHdrMetadatas displayId (some ⟨default, 0⟩) })

def setHdrMetadataBlobId (c : Client μ) (displayId blobId : ℕ) : Client μ :=
  { c with mHdrMetadataBlobId := Function.update c.mHdrMetadataBlobId displayId blobId }

/-- The end of `setHdrMetadata` for a metadata that is not set yet. -/
def createHdrMetadata (c : Client μ) (displayId : ℕ) (metadata : μ) (pick : Option ℕ) :
    Error × Client μ :=
  match drmModeCreatePropertyBlob c displayId pick with
  | none => (.NoResources, c)
  | some (blobId, c) =>
    let c := { c with
      mHdrMetadatas := Function.update c.mHdrMetadatas displayId (some ⟨metadata, blobId⟩) }
    (.None, setHdrMetadataBlobId c displayId blobId)

/-- The branch of a NULL metadata with an entry: the entry is erased BEFORE its blob id is read. -/
def clearHdrMetadata [Inhabited μ] (c : Client μ) (displayId : ℕ) : Client μ :=
  let c := { c with mHdrMetadatas := Function.update c.mHdrMetadatas displayId none }
  let (e, c) := entryAt c displayId
  setHdrMetadataBlobId (drmModeDestroyPropertyBlob c e.blobId) displayId 0

def Client.setHdrMetadata [DecidableEq μ] [Inhabited μ] (c : Client μ) (displayId : ℕ)
    (metadata : Option μ) (pick : Option ℕ) : Error × Client μ :=
  if displayId ∉ c.mDisplays then (.BadDisplay, c)
  else
    match c.mHdrMetadatas displayId, metadata with
    | some _, none => (.None, clearHdrMetadata c displayId)
    | some e, some metadata =>
      if e.prev = metadata then (.None, c) else createHdrMetadata c displayId metadata pick
    | none, none => (.None, c)
    | none, some metadata => createHdrMetadata c displayId metadata pick

/-! ### Runs -/

structure Call (μ : Type) where
  displayId : ℕ
  metadata : Option μ
  pick : Option ℕ

def step [DecidableEq μ] [Inhabited μ] (c : Client μ) (a : Call μ) : Client μ :=
  (c.setHdrMetadata a.displayId a.metadata a.pick).2

/-- Every display has at most one live blob, only live blobs have been destroyed, and a NULL call
    leaves its display without entry and without blob. -/
def Kept (_ : Client μ) (a : Call μ) (c : Client μ) : Prop :=
  (∀ b b' d, c.live b = some d → c.live b' = some d → b = b') ∧ c.badDestroys = [] ∧
    (a.metadata = none → c.mHdrMetadatas a.displayId = none ∧ ∀ b, c.live b ≠ some a.displayId)

/-- The blob that the kernel would create for the call. -/
def grants (c : Client μ) (pick : Option ℕ) : Bool :=
  match pick with
  | none => false
  | some blobId => blobId ≠ 0 && (c.live blobId).isNone

/-- A call on a display that has metadata sets the same metadata again, or is refused a blob for
    another one; it never clears. -/
def SetsOnce (c : Client μ) (a : Call μ) : Prop :=
  ∀ e, a.displayId ∈ c.mDisplays → c.mHdrMetadatas a.displayId = some e →
    ∃ metadata, a.metadata = some metadata ∧ (e.prev = metadata ∨ grants c a.pick = false)

/-! ### One call -/

/-- A creation is refused, or adds a new blob with its entry. -/
theorem create_cases (c : Client μ) (displayId : ℕ) (metadata : μ) (pick : Option ℕ) :
    (grants c pick = false ∧ (createHdrMetadata c displayId metadata pick).2 = c) ∨
      ∃ b, grants c pick = true ∧ b ≠ 0 ∧ c.live b = none ∧
        (createHdrMetadata c displayId metadata pick).2 = { c with
          live := Function.update c.live b (some displayId)
          mHdrMetadatas := Function.update c.mHdrMetadatas displayId (some ⟨metadata, b⟩)
          mHdrMetadataBlobId := Function.update c.mHdrMetadataBlobId displayId b } := by
  rcases pick with _ | b
  · exact Or.inl ⟨rfl, rfl⟩
  · by_cases h : b = 0 ∨ (c.live b).isSome
    · refine Or.inl ⟨?_, ?_⟩
      · rcases h with rfl | h
        · simp [grants]
        · simp [grants, Option.isNone_eq_false_iff.mpr h]
      · simp [createHdrMetadata, drmModeCreatePropertyBlob, h]
    · obtain ⟨hne, hfree⟩ := not_or.mp h
      have hnone : c.live b = none := by simpa using hfree
      refine Or.inr ⟨b, by simp [grants, hne, hnone], hne, hnone, ?_⟩
      simp [createHdrMetadata, drmModeCreatePropertyBlob, h, setHdrMetadataBlobId]

/-- What a call can do. -/
inductive Called [Inhabited μ] (c : Client μ) (a : Call μ) : Client μ → Prop
  | same (h : a.metadata = none → a.displayId ∉ c.mDisplays ∨ c.mHdrMetadatas a.displayId = none)
      (hc : SetsOnce c a) : Called c a c
  | created (b : ℕ) (metadata : μ) (hm : a.metadata = some metadata) (hd : a.displayId ∈ c.mDisplays)
      (hb : b ≠ 0) (hfree : c.live b = none) (hg : grants c a.pick = true)
      (hnew : ∀ e, c.mHdrMetadatas a.displayId = some e → e.prev ≠ metadata) :
      Called c a { c with
        live := Function.update c.live b (some a.displayId)
        mHdrMetadatas := Function.update c.mHdrMetadatas a.displayId (some ⟨metadata, b⟩)
        mHdrMetadataBlobId := Function.update c.mHdrMetadataBlobId a.displayId b }
  | cleared (e : HdrMetadata μ) (hm : a.metadata = none) (hd : a.displayId ∈ c.mDisplays)
      (he : c.mHdrMetadatas a.displayId = some e) : Called c a (clearHdrMetadata c a.displayId)

/-- A creation for metadata that is not set yet. -/
theorem called_create [Inhabited μ] {c : Client μ} {d : ℕ} {metadata : μ} {pick : Option ℕ}
    (hd : d ∈ c.mDisplays) (hnew : ∀ e, c.mHdrMetadatas d = some e → e.prev ≠ metadata) :
    Called c ⟨d, some metadata, pick⟩ (createHdrMetadata c d metadata pick).2 := by
  rcases create_cases c d metadata pick with ⟨hg, heq⟩ | ⟨b, hg, hb, hfree, heq⟩
  · rw [heq]
    exact .same (fun h => by cases h) (fun e _ _ => ⟨metadata, rfl, Or.inr hg⟩)
  · rw [heq]
    exact .created b metadata rfl hd hb hfree hg hnew

theorem step_called [DecidableEq μ] [Inhabited μ] (c : Client μ) (a : Call μ) :
    Called c a (step c a) := by
  obtain ⟨d, metadata, pick⟩ := a
  simp only [step, Client.setHdrMetadata]
  by_cases hd : d ∈ c.mDisplays
  swap
  · rw [if_pos hd]
    exact .same (fun _ => Or.inl hd) (fun _ hin _ => absurd hin hd)
  rw [if_neg (not_not.mpr hd)]
  rcases he : c.mHdrMetadatas d with _ | e <;> rcases metadata with _ | metadata <;> simp only
  · exact .same (fun _ => Or.inr he) (fun e _ h => absurd (he.symm.trans h) (by simp))
  · exact called_create hd fun e h => absurd (he.symm.trans h) (by simp)
  · exact .cleared e rfl hd he
  · split
    · next hprev =>
      refine .same (fun h => by cases h) (fun e' _ he' => ⟨metadata, rfl, Or.inl ?_⟩)
      obtain rfl := Option.some.inj (he.symm.trans he')
      exact hprev
    · next hprev =>
      refine called_create hd fun e' he' => ?_
      obtain rfl := Option.some.inj (he.symm.trans he')
      exact hprev

/-! ### The invariant -/

/-- Entries and live blobs are in bijection. -/
structure Inv (c : Client μ) : Prop where
  entry : ∀ d e, c.mHdrMetadatas d = some e → d ∈ c.mDisplays ∧ c.live e.blobId = some d
  owner : ∀ b d, c.live b = some d → ∃ e, c.mHdrMetadatas d = some e ∧ e.blobId = b
  zero : c.live 0 = none
  bad : c.badDestroys = []

theorem Inv.unique {c : Client μ} (hc : Inv c) {b b' d : ℕ} (h : c.live b = some d)
    (h' : c.live b' = some d) : b = b' := by
  obtain ⟨e, he, rfl⟩ := hc.owner b d h
  obtain ⟨e', he', rfl⟩ := hc.owner b' d h'
  rw [Option.some.inj (he.symm.trans he')]

theorem created_inv {c : Client μ} {b d : ℕ} {metadata : μ} (hc : Inv c) (hd : d ∈ c.mDisplays)
    (hb : b ≠ 0) (hfree : c.live b = none) (hnone : c.mHdrMetadatas d = none) :
    Inv { c with
      live := Function.update c.live b (some d)
      mHdrMetadatas := Function.update c.mHdrMetadatas d (some ⟨metadata, b⟩)
      mHdrMetadataBlobId := Function.update c.mHdrMetadataBlobId d b } where
  entry := by
    intro d' e he
    rcases update_some_cases he with ⟨rfl, h⟩ | ⟨hne, he⟩
    · obtain rfl := Option.some.inj h
      exact ⟨hd, Function.update_self _ _ _⟩
    · obtain ⟨hin, hlive⟩ := hc.entry d' e he
      have hother : e.blobId ≠ b := by
        rintro rfl
        exact absurd (hfree.symm.trans hlive) (by simp)
      exact ⟨hin, (Function.update_of_ne hother _ _).trans hlive⟩
  owner := by
    intro b' d' hb'
    rcases update_some_cases hb' with ⟨rfl, h⟩ | ⟨hne, hb'⟩
    · obtain rfl := Option.some.inj h
      exact ⟨_, Function.update_self _ _ _, rfl⟩
    · obtain ⟨e, he, rfl⟩ := hc.owner b' d' hb'
      have hother : d' ≠ d := by
        rintro rfl
        exact absurd (hnone.symm.trans he) (by simp)
      exact ⟨e, (Function.update_of_ne hother _ _).trans he, rfl⟩
  zero := (Function.update_of_ne hb.symm _ _).trans hc.zero
  bad := hc.bad

/-- Clearing destroys the blob of the empty entry that its own read has made. -/
theorem clear_bad [Inhabited μ] {c : Client μ} (hc : Inv c) (d : ℕ) :
    (clearHdrMetadata c d).badDestroys = [0] := by
  simp [clearHdrMetadata, entryAt, drmModeDestroyPropertyBlob, setHdrMetadataBlobId, hc.zero, hc.bad]

/-- A call that sets once keeps entries and blobs together. -/
theorem Called.kept [Inhabited μ] {c c' : Client μ} {a : Call μ} (h : Called c a c') (hc : Inv c)
    (hs : SetsOnce c a) : Inv c' ∧ Kept c a c' := by
  rcases h with ⟨hnull, -⟩ | ⟨b, metadata, hm, hd, hb, hfree, hg, hnew⟩ | ⟨e, hm, hd, he⟩
  · refine ⟨hc, fun b b' d => hc.unique, hc.bad, fun hm => ?_⟩
    have hnone : c.mHdrMetadatas a.displayId = none := by
      rcases hnull hm with hd | hnone
      · rcases he : c.mHdrMetadatas a.displayId with _ | e
        · rfl
        · exact absurd (hc.entry _ e he).1 hd
      · exact hnone
    refine ⟨hnone, fun b hb => ?_⟩
    obtain ⟨e, he, -⟩ := hc.owner b _ hb
    exact absurd (hnone.symm.trans he) (by simp)
  · have hnone : c.mHdrMetadatas a.displayId = none := by
      rcases he : c.mHdrMetadatas a.displayId with _ | e
      · rfl
      obtain ⟨metadata', hm', hprev | hg'⟩ := hs e hd he
      · obtain rfl := Option.some.inj (hm.symm.trans hm')
        exact absurd hprev (hnew e he)
      · exact absurd (hg.symm.trans hg') (by decide)
    have hnext := @created_inv μ c b a.displayId metadata hc hd hb hfree hnone
    exact ⟨hnext, fun b b' d => hnext.unique, hnext.bad, fun hnull => absurd (hm.symm.trans hnull) (by simp)⟩
  · obtain ⟨metadata, hm', -⟩ := hs e hd he
    exact absurd (hm.symm.trans hm') (by simp)

/-- A second blob beside the first, or the destroyed blob 0, breaks the promise. -/
theorem Called.setsOnce [Inhabited μ] {c c' : Client μ} {a : Call μ} (h : Called c a c') (hc : Inv c)
    (hk : Kept c a c') : SetsOnce c a := by
  rcases h with ⟨-, hs⟩ | ⟨b, metadata, hm, hd, hb, hfree, hg, hnew⟩ | ⟨e, hm, hd, he⟩
  · exact hs
  · intro e _ he
    have hlive := (hc.entry _ e he).2
    have hother : e.blobId ≠ b := by
      rintro rfl
      exact absurd (hfree.symm.trans hlive) (by simp)
    refine absurd (hk.1 e.blobId b a.displayId ?_ (Function.update_self _ _ _)) hother
    exact (Function.update_of_ne hother _ _).trans hlive
  · exact absurd ((clear_bad hc a.displayId).symm.trans hk.2.1) (by simp)

/-- A client before any metadata is set. -/
def fresh (displays : List ℕ) : Client μ := ⟨displays, fun _ => none, fun _ => 0, fun _ => none, []⟩

theorem fresh_inv (displays : List ℕ) : Inv (fresh displays : Client μ) where
  entry := fun _ _ h => by cases h
  owner := fun _ _ h => by cases h
  zero := rfl
  bad := rfl

/-- CORRECT: over every sequence of calls each display has one blob at most, only live blobs are
    destroyed and a NULL call leaves nothing behind, exactly if no call clears metadata that is set or
    replaces it by another. -/
theorem blobs_kept_iff [DecidableEq μ] [Inhabited μ] (displays : List ℕ) (as : List (Call μ)) :
    Always step Kept (fresh displays) as ↔ Meets step SetsOnce (fresh displays) as := by
  refine always_iff_meets (fun c a (hc : Inv c) hs => ?_) (fun c a hc hk => ?_) as _
    (fresh_inv displays)
  · exact (step_called c a).kept hc hs
  · exact (step_called c a).setsOnce hc hk

/-- Metadata is set and cleared: the kernel is asked to destroy blob 0, the blob stays, and the display
    has an entry. -/
theorem cleared_leaks :
    let c := run step (fresh [1]) [⟨1, some 7, some 5⟩, ⟨1, none, none⟩]
    c.badDestroys = [0] ∧ c.live 5 = some 1 ∧ (c.mHdrMetadatas 1).isSome = true := by
  decide


end ImxHal.Hwc3.Hdr
