import ImxHal.Schemes.Run
import ImxHal.Schemes.Links
import ImxHal.Hwc3.DeviceComposer

/-! @src display/hwcomposer3/DeviceComposer.cpp (preComposition, onLayerDestroy) |
    name:Precomposition cache | scheme:run | family:caches

    The scaled or converted copy of a layer's buffer is cached with the id of the buffer it was first
    made from, and is taken again for that id:

        A   no entry            ──▶ new buffer, A written     originBufferId = A
        B   entry (A), it fits  ──▶ same buffer, B written    originBufferId = A
        A   entry (A)           ──▶ same buffer as it is:     shows B

    Whether a returned buffer is right is a question about the last write to each of its pixels. -/

namespace ImxHal.Hwc3.G2d
open ImxHal.Run ImxHal.Links

/-- What a layer needs in place of its buffer, and the picture it needs it from. -/
structure Asked where
  r : Request
  inBufInfo : HandleInfo
  content : ℕ

def asks (b : Board) (l : Layer) (handle : Option Handle) : Option Asked :=
  if l.mCompositionType ≠ .DEVICE then none
  else handle.bind fun h => h.info.bind fun info => (request b l info).map fun r => ⟨r, info, h.content⟩

/-- The pixels of the copy that the layer shows: all of a scaled one, the crop of a converted one. -/
def Asked.used (q : Asked) (l : Layer) : Rect :=
  match q.r.cachedBufferType with
  | .SCALING => whole q.r.dstW q.r.dstH
  | .CSC => rectIntersect (whole q.inBufInfo.width q.inBufInfo.height) l.mSourceCrop

/-- What these pixels have to come from. -/
def Asked.expected (q : Asked) (l : Layer) : Origin :=
  match q.r.cachedBufferType with
  | .SCALING => .scaled q.content l.mSourceCrop q.r.dstW q.r.dstH
  | .CSC => .converted q.content

/-- The write that the call makes into a buffer, if it makes one. -/
def Asked.write (q : Asked) (b : Board) (env : Env) (l : Layer) (out : HandleInfo) : List Write :=
  (written b env.ok l q.content q.r q.inBufInfo out).toList

/-- What the cache has for a layer. -/
inductive Cached where
  | hit (e : G2dInterBuffer)
  | reuse (e : G2dInterBuffer)
  | new
  deriving DecidableEq

def Composer.cachedFor (c : Composer) (l : Layer) (q : Asked) : Cached :=
  match c.mG2dCachedBuffers l.mId with
  | none => .new
  | some e =>
    if e.originBufferId = q.inBufInfo.buffer_id then .hit e else if q.r.fits e.info then .reuse e else .new

/-- The composer with the writes into the cached buffer of every layer since it was allocated, the
    latest first. `got` is what the last call returned. -/
structure Caching where
  composer : Composer
  log : ℕ → List Write
  got : Option G2dInterBuffer

inductive Act where
  | preComposition (env : Env) (l : Layer) (handle : Option Handle)
  | onLayerDestroy (id : ℕ)

/-- The writes into the buffer of the layer after the call. -/
def Caching.logged (s : Caching) (b : Board) (env : Env) (l : Layer) (q : Asked) : List Write :=
  match s.composer.cachedFor l q with
  | .hit _ => s.log l.mId
  | .reuse e => q.write b env l e.info ++ s.log l.mId
  | .new =>
    match env.alloc with
    | none => []
    | some out => q.write b env l out

def act (b : Board) (s : Caching) : Act → Caching
  | .preComposition env l handle =>
    let (got, composer) := s.composer.preComposition b env l handle
    ⟨composer,
      match asks b l handle with
      | none => s.log
      | some q => Function.update s.log l.mId (s.logged b env l q),
      got⟩
  | .onLayerDestroy id => { s with composer := s.composer.onLayerDestroy id, got := none }

/-- The origin that the latest write over a pixel gave it. -/
def lastWrite (log : List Write) (x y : ℤ) : Option Origin :=
  (log.find? fun w => decide (w.region.Covers x y)).map Write.origin

/-- A returned buffer holds the scaled or converted content of the buffer and crop of this call. -/
def HoldsOwn (b : Board) (_ : Caching) (a : Act) (t : Caching) : Prop :=
  match a with
  | .preComposition _ l handle => ∀ q e, asks b l handle = some q → t.got = some e →
      ∀ x y, (q.used l).Covers x y → t.composer.memory e.hnd x y = some (q.expected l)
  | .onLayerDestroy _ => True

/-- Every pixel that the layer shows was last written from this content (and, scaled, from this crop
    to this size): by an earlier call when the entry has the id of the buffer, else by this call, or,
    where this call writes nothing into a buffer that it reuses, by an earlier one. -/
def WrittenOwn (b : Board) (s : Caching) : Act → Prop
  | .preComposition env l handle => ∀ q, asks b l handle = some q → ∀ x y, (q.used l).Covers x y →
      match s.composer.cachedFor l q with
      | .hit _ => lastWrite (s.log l.mId) x y = some (q.expected l)
      | .reuse e => lastWrite (q.write b env l e.info ++ s.log l.mId) x y = some (q.expected l)
      | .new => ∀ out, env.alloc = some out →
          lastWrite (q.write b env l out) x y = some (q.expected l)
  | .onLayerDestroy _ => True

/-! ### One call -/

theorem preComposition_asks (c : Composer) (b : Board) (env : Env) (l : Layer)
    (handle : Option Handle) : c.preComposition b env l handle
      = match asks b l handle with
        | none => (none, c)
        | some q => c.convert b env l q.content q.r q.inBufInfo := by
  unfold Composer.preComposition asks
  split
  · rfl
  · rcases handle with _ | ⟨_ | info, content⟩
    · rfl
    · rfl
    · simp only [Option.bind_some]
      rcases request b l info with _ | r <;> rfl

/-- What a call can do for a layer that needs another buffer. -/
inductive Converted (b : Board) (env : Env) (c : Composer) (l : Layer) (q : Asked) :
    Cached → Option G2dInterBuffer × Composer → Prop
  | hit (e : G2dInterBuffer) (he : c.mG2dCachedBuffers l.mId = some e) :
      Converted b env c l q (.hit e) (some e, c)
  | reuse (e : G2dInterBuffer) (he : c.mG2dCachedBuffers l.mId = some e) :
      Converted b env c l q (.reuse e)
        (some e, c.write e.hnd (written b env.ok l q.content q.r q.inBufInfo e.info))
  | refused (hn : env.alloc = none) : Converted b env c l q .new (none, c.erase l.mId)
  | allocated (out : HandleInfo) (ho : env.alloc = some out) :
      Converted b env c l q .new ((c.erase l.mId).allocate b env l q.content q.r q.inBufInfo)

theorem erase_of_none {c : Composer} {id : ℕ} (h : c.mG2dCachedBuffers id = none) : c.erase id = c := by
  rw [Composer.erase, ← h, Function.update_eq_self]

theorem convert_converted (b : Board) (env : Env) (c : Composer) (l : Layer) (q : Asked) :
    Converted b env c l q (c.cachedFor l q) (c.convert b env l q.content q.r q.inBufInfo) := by
  have hnew : Converted b env c l q .new
      ((c.erase l.mId).allocate b env l q.content q.r q.inBufInfo) := by
    rcases ho : env.alloc with _ | out
    · have heq : (c.erase l.mId).allocate b env l q.content q.r q.inBufInfo = (none, c.erase l.mId) := by
        simp only [Composer.allocate, ho]
      rw [heq]
      exact .refused ho
    · exact .allocated out ho
  rw [Composer.cachedFor, Composer.convert]
  rcases he : c.mG2dCachedBuffers l.mId with _ | e
  · rw [erase_of_none he] at hnew
    exact hnew
  · simp only
    split
    · exact .hit e he
    · split
      · exact .reuse e he
      · exact hnew

/-! ### Memory and writes -/

/-- A write over what was written before. -/
theorem memory_write {c : Composer} {hnd : ℕ} {log : List Write} (w : Option Write)
    (h : ∀ x y, c.memory hnd x y = lastWrite log x y) (x y : ℤ) :
    (c.write hnd w).memory hnd x y = lastWrite (w.toList ++ log) x y := by
  rcases w with _ | w
  · exact h x y
  · simp only [Composer.write, Function.update_self, Option.toList_some, List.singleton_append,
      lastWrite, List.find?_cons]
    by_cases hc : w.region.Covers x y
    · simp [hc]
    · simp only [hc, if_false, decide_false]
      exact h x y

theorem memory_write_of_ne {c : Composer} {hnd h : ℕ} (w : Option Write) (hne : h ≠ hnd) :
    (c.write hnd w).memory h = c.memory h := by
  rcases w with _ | w
  · rfl
  · exact Function.update_of_ne hne _ _

@[simp] theorem write_cached (c : Composer) (hnd : ℕ) (w : Option Write) :
    (c.write hnd w).mG2dCachedBuffers = c.mG2dCachedBuffers := by
  cases w <;> rfl

@[simp] theorem write_solid (c : Composer) (hnd : ℕ) (w : Option Write) :
    (c.write hnd w).mSolidColorBuffer = c.mSolidColorBuffer := by
  cases w <;> rfl

@[simp] theorem write_nextHandle (c : Composer) (hnd : ℕ) (w : Option Write) :
    (c.write hnd w).nextHandle = c.nextHandle := by
  cases w <;> rfl

/-- The buffer of a layer holds what was written into it, no two layers share one, and a buffer that is
    not handed out yet is blank. -/
structure Logged (c : Composer) (log : ℕ → List Write) : Prop where
  holds : ∀ id e, c.mG2dCachedBuffers id = some e →
    ∀ x y, c.memory e.hnd x y = lastWrite (log id) x y
  inUse : ∀ id e, c.mG2dCachedBuffers id = some e → e.hnd < c.nextHandle
  apart : ∀ id id' e e', c.mG2dCachedBuffers id = some e → c.mG2dCachedBuffers id' = some e' →
    e.hnd = e'.hnd → id = id'
  blank : ∀ h, c.nextHandle ≤ h → ∀ x y, c.memory h x y = none

theorem logged_congr {c : Composer} {log log' : ℕ → List Write} (h : Logged c log)
    (heq : ∀ id e, c.mG2dCachedBuffers id = some e → log' id = log id) : Logged c log' :=
  ⟨fun id e he => heq id e he ▸ h.holds id e he, h.inUse, h.apart, h.blank⟩

/-- Erasing an entry leaves the buffers of the other layers. -/
theorem erase_logged {c : Composer} {log : ℕ → List Write} (h : Logged c log) (id : ℕ) :
    Logged (c.erase id) log := by
  have hold : ∀ {id' e}, (c.erase id).mG2dCachedBuffers id' = some e →
      c.mG2dCachedBuffers id' = some e := by
    intro id' e he
    rcases update_some_cases he with ⟨-, hnone⟩ | ⟨-, he⟩
    · cases hnone
    · exact he
  exact ⟨fun id' e he => h.holds id' e (hold he), fun id' e he => h.inUse id' e (hold he),
    fun id' id'' e e' he he' => h.apart id' id'' e e' (hold he) (hold he'), h.blank⟩

/-- Writing into the buffer of a layer adds to its log. -/
theorem write_logged {c : Composer} {log : ℕ → List Write} (h : Logged c log) {id : ℕ}
    {e : G2dInterBuffer} (he : c.mG2dCachedBuffers id = some e) (w : Option Write) :
    Logged (c.write e.hnd w) (Function.update log id (w.toList ++ log id)) where
  holds := by
    intro id' e' he' x y
    rw [write_cached] at he'
    by_cases hid : id' = id
    · subst hid
      obtain rfl := Option.some.inj (he.symm.trans he')
      rw [Function.update_self]
      exact memory_write w (h.holds _ _ he) x y
    · have hne : e'.hnd ≠ e.hnd := fun heq => hid (h.apart _ _ _ _ he' he heq)
      rw [memory_write_of_ne w hne, Function.update_of_ne hid]
      exact h.holds _ _ he' x y
  inUse := by
    intro id' e' he'
    rw [write_nextHandle]
    exact h.inUse id' e' (by rwa [write_cached] at he')
  apart := by
    intro id' id'' e' e'' he' he''
    rw [write_cached] at he' he''
    exact h.apart id' id'' e' e'' he' he''
  blank := by
    intro hnd hle x y
    rw [write_nextHandle] at hle
    have hlt := h.inUse id e he
    rw [memory_write_of_ne w (by omega)]
    exact h.blank hnd hle x y

/-- A new buffer is blank but for what is written into it. -/
theorem emplace_logged {c : Composer} {log : ℕ → List Write} (h : Logged c log) {e : G2dInterBuffer}
    (hnew : e.hnd = c.nextHandle) (w : Option Write) :
    Logged (c.emplace e w) (Function.update log e.layerId w.toList) where
  holds := by
    intro id e' he x y
    rcases update_some_cases he with ⟨rfl, heq⟩ | ⟨hid, he⟩
    · obtain rfl := Option.some.inj heq
      rw [Function.update_self, ← List.append_nil w.toList]
      exact memory_write w (h.blank _ (le_of_eq hnew.symm)) x y
    · have hne : e'.hnd ≠ e.hnd := hnew ▸ Nat.ne_of_lt (h.inUse id e' he)
      rw [Function.update_of_ne hid, ← h.holds id e' he x y]
      exact congrFun (congrFun (memory_write_of_ne w hne) x) y
  inUse := by
    intro id e' he
    rcases update_some_cases he with ⟨-, heq⟩ | ⟨-, he⟩
    · obtain rfl := Option.some.inj heq
      rw [hnew]
      exact Nat.lt_succ_self _
    · exact Nat.lt_succ_of_lt (h.inUse id e' he)
  apart := by
    intro id id' e₁ e₂ h₁ h₂ heq
    rcases update_some_cases h₁ with ⟨rfl, hself⟩ | ⟨-, h₁⟩ <;>
      rcases update_some_cases h₂ with ⟨rfl, hself'⟩ | ⟨-, h₂⟩
    · rfl
    · obtain rfl := Option.some.inj hself
      exact absurd (h.inUse id' e₂ h₂) (by rw [← heq, hnew]; exact lt_irrefl _)
    · obtain rfl := Option.some.inj hself'
      exact absurd (h.inUse id e₁ h₁) (by rw [heq, hnew]; exact lt_irrefl _)
    · exact h.apart id id' e₁ e₂ h₁ h₂ heq
  blank := by
    intro hnd hle x y
    have hlt : c.nextHandle < hnd := hle
    rw [← h.blank hnd (le_of_lt hlt) x y]
    exact congrFun (congrFun (memory_write_of_ne w (hnew ▸ Nat.ne_of_gt hlt)) x) y

/-- The call makes its own copy rightly: libyuv or OpenCL succeeds, where it is used, and a scaled picture
    is of a 32 bit format, or is a whole YV12 one. -/
def Asked.copies (q : Asked) (b : Board) (env : Env) (l : Layer) : Prop :=
  match q.r.cachedBufferType with
  | .SCALING => env.ok = true ∧ (q.inBufInfo.format = RGBA_8888 ∨ q.inBufInfo.format = RGBX_8888 ∨
      q.inBufInfo.format = BGRA_8888 ∨ (q.inBufInfo.format = YV12 ∧
        l.mSourceCrop = whole q.inBufInfo.width q.inBufInfo.height))
  | .CSC => b.oclValid = true → env.ok = true

/-- Into a buffer of the size asked for, a call writes its own content to the pixels that the layer
    shows exactly if it makes its copy rightly. -/
theorem write_own_iff {q : Asked} {b : Board} {env : Env} {l : Layer} {out : HandleInfo} {x y : ℤ}
    (hw : out.width = q.r.dstW) (hh : out.height = q.r.dstH) (hc : (q.used l).Covers x y) :
    lastWrite (q.write b env l out) x y = some (q.expected l) ↔ q.copies b env l := by
  rw [Asked.write, Asked.expected, Asked.copies, written]
  cases ht : q.r.cachedBufferType with
  | SCALING =>
    simp only [Asked.used, ht] at hc
    cases hok : env.ok with
    | false => simp [lastWrite]
    | true =>
      by_cases h32 : q.inBufInfo.format = RGBA_8888 ∨ q.inBufInfo.format = RGBX_8888 ∨
          q.inBufInfo.format = BGRA_8888
      · have hany : q.inBufInfo.format = RGBA_8888 ∨ q.inBufInfo.format = RGBX_8888 ∨
            q.inBufInfo.format = BGRA_8888 ∨ (q.inBufInfo.format = YV12 ∧
              l.mSourceCrop = whole q.inBufInfo.width q.inBufInfo.height) :=
          h32.imp_right fun h => h.imp_right Or.inl
        simp [lastWrite, h32, hc, hany]
      · obtain ⟨h₁, h₂, h₃⟩ : _ ∧ _ ∧ _ := by simpa only [not_or] using h32
        by_cases hy : q.inBufInfo.format = YV12
        · -- the whole picture, at the size of the buffer
          rw [Bool.not_true, if_neg Bool.false_ne_true, if_neg h32, if_pos hy, hw, hh, or_iff_right h₁,
            or_iff_right h₂, or_iff_right h₃, and_iff_right hy]
          simp [lastWrite, hc, eq_comm]
        · simp [lastWrite, h₁, h₂, h₃, hy]
  | CSC =>
    simp only [Asked.used, ht, covers_rectIntersect] at hc
    cases hv : b.oclValid <;> cases hok : env.ok <;> simp [lastWrite, hc.1, hc.2]

/-! ### Runs -/

/-- A call logs what it writes, and returns the buffer of the layer unless none can be allocated. -/
theorem convert_logged {b : Board} {env : Env} {s : Caching} {l : Layer} {q : Asked}
    (h : Logged s.composer s.log) :
    let r := s.composer.convert b env l q.content q.r q.inBufInfo
    Logged r.2 (Function.update s.log l.mId (s.logged b env l q)) ∧
      (∀ e, r.1 = some e → r.2.mG2dCachedBuffers l.mId = some e) ∧
      (r.1 = none ↔ s.composer.cachedFor l q = .new ∧ env.alloc = none) := by
  have hc := convert_converted b env s.composer l q
  rw [Caching.logged]
  generalize s.composer.cachedFor l q = k at hc
  generalize s.composer.convert b env l q.content q.r q.inBufInfo = r at hc
  rcases hc with ⟨e, he⟩ | ⟨e, he⟩ | hn | ⟨out, ho⟩
  · refine ⟨?_, fun e' he' => ?_, by simp⟩
    · simp only [Function.update_eq_self]
      exact h
    · obtain rfl := Option.some.inj he'
      exact he
  · refine ⟨write_logged h he _, fun e' he' => ?_, by simp⟩
    obtain rfl := Option.some.inj he'
    rw [write_cached]
    exact he
  · refine ⟨?_, fun e he => (by cases he), by simp [hn]⟩
    refine logged_congr (erase_logged h l.mId) fun id e he => ?_
    rcases update_some_cases he with ⟨-, hnone⟩ | ⟨hid, -⟩
    · cases hnone
    · exact Function.update_of_ne hid _ _
  · simp only [Composer.allocate, ho]
    refine ⟨emplace_logged (erase_logged h l.mId) rfl _, fun e he => ?_, by simp⟩
    obtain rfl := Option.some.inj he
    exact Function.update_self _ _ _

/-- The condition in terms of the log after the call. -/
theorem writtenOwn_iff (b : Board) (s : Caching) (env : Env) (l : Layer) (handle : Option Handle) :
    WrittenOwn b s (.preComposition env l handle) ↔ ∀ q, asks b l handle = some q →
      ¬ (s.composer.cachedFor l q = .new ∧ env.alloc = none) → ∀ x y, (q.used l).Covers x y →
        lastWrite (s.logged b env l q) x y = some (q.expected l) := by
  refine forall_congr' fun q => forall_congr' fun _ => ?_
  rw [Caching.logged]
  rcases s.composer.cachedFor l q with e | e | _
  · simp
  · simp
  · rcases ho : env.alloc with _ | out <;> simp

/-- A call keeps the log, and holds its own content exactly if it was written last. -/
theorem act_holds_iff (b : Board) (s : Caching) (a : Act) (h : Logged s.composer s.log) :
    Logged (act b s a).composer (act b s a).log ∧ (HoldsOwn b s a (act b s a) ↔ WrittenOwn b s a) := by
  cases a with
  | onLayerDestroy id => exact ⟨erase_logged h id, Iff.rfl⟩
  | preComposition env l handle =>
    rw [writtenOwn_iff]
    simp only [act, HoldsOwn]
    rw [preComposition_asks]
    rcases asks b l handle with _ | q
    · exact ⟨h, iff_of_true (fun q e hq => by cases hq) fun q hq => by cases hq⟩
    · obtain ⟨hlog, hgot, hnone⟩ := @convert_logged b env s l q h
      refine ⟨hlog, ?_⟩
      have hm : ∀ e, (s.composer.convert b env l q.content q.r q.inBufInfo).1 = some e → ∀ x y,
          (s.composer.convert b env l q.content q.r q.inBufInfo).2.memory e.hnd x y
            = lastWrite (s.logged b env l q) x y := by
        intro e he x y
        rw [hlog.holds _ _ (hgot e he), Function.update_self]
      constructor
      · intro hheld q' hq' hne x y hc
        obtain rfl := Option.some.inj hq'
        obtain ⟨e, he⟩ := Option.ne_none_iff_exists'.mp fun hno => hne (hnone.mp hno)
        rw [← hm e he]
        exact hheld q e rfl he x y hc
      · intro hw q' e hq' he x y hc
        obtain rfl := Option.some.inj hq'
        rw [hm e he]
        refine hw q rfl (fun hno => ?_) x y hc
        rw [hnone.mpr hno] at he
        cases he

/-- A composer that has cached nothing. -/
def Caching.new : Caching := ⟨Composer.new, fun _ => [], none⟩

theorem new_logged : Logged Caching.new.composer Caching.new.log :=
  ⟨fun id e he => (by cases he), fun id e he => (by cases he), fun id id' e e' he => (by cases he),
    fun h _ x y => rfl⟩

/-- CORRECT: over every sequence of frames and layer destructions, a returned buffer holds the scaled or
    converted content of the buffer and crop of the call, exactly if every pixel that the layer shows was
    last written from them. -/
theorem holds_own_iff (b : Board) (as : List Act) :
    Always (act b) (HoldsOwn b) Caching.new as ↔ Meets (act b) (WrittenOwn b) Caching.new as :=
  always_iff_meets
    (fun s a (hs : Logged s.composer s.log) hw =>
      ⟨(act_holds_iff b s a hs).1, (act_holds_iff b s a hs).2.mpr hw⟩)
    (fun s a hs hh => (act_holds_iff b s a hs).2.mp hh) as _ new_logged

/-- Buffers A, B and A again: the third frame is given the picture of B. -/
theorem third_frame_shows_second :
    let b : Board := ⟨.G2D_FORMAT_CONVERSION, true⟩
    let env : Env := ⟨some ⟨64, 64, YCbCr_420_SP, 0, 9⟩, true⟩
    let l : Layer := ⟨1, none, .DEVICE, .NONE, false, 255, ⟨0, 0, 64, 64⟩, ⟨0, 0, 64, 64⟩, []⟩
    let A : Handle := ⟨some ⟨64, 64, P010_TILED, 0, 1⟩, 11⟩
    let B : Handle := ⟨some ⟨64, 64, P010_TILED, 0, 2⟩, 22⟩
    let s := run (act b) Caching.new [.preComposition env l (some A), .preComposition env l (some B),
      .preComposition env l (some A)]
    s.got.map (fun e => s.composer.memory e.hnd 0 0) = some (some (.converted 22)) := by
  decide

end ImxHal.Hwc3.G2d
