import VMQemuVGA.IOKit
import VMQemuVGA.Lib.Ledger
import VMQemuVGA.Lib.Session

/-! # What the capability probes call

`VMOpenGLBridge` finds out what the host can do by trying: it creates contexts,
surfaces, shaders and so on, and gives them back. How the accelerator, the shader
manager and the allocator answer is open. -/

namespace VMQemuVGA
namespace GLProbe

/-- An `IOReturn` that is handed on, other than `kIOReturnSuccess`. -/
abbrev Failure := UInt32

def kIOReturnNoMemory : Failure := 0xE00002BD
def kIOReturnNoDevice : Failure := 0xE00002C0
def kIOReturnBadArgument : Failure := 0xE00002C2
def kIOReturnUnsupported : Failure := 0xE00002C7

/-- A call fails, or it succeeds with the id or the address it hands out. Of a call
that hands out nothing, and of a yes, the number is of no meaning. -/
abbrev Answer := Except Failure Nat

/-- `VM3DSurfaceFormat`. -/
inductive SurfaceFormat where
  | A8R8G8B8
  | X8R8G8B8
  | R5G6B5
  | D24S8
  deriving DecidableEq, Repr

/-- What is set of a `VM3DSurfaceInfo` before `create3DSurface`. -/
structure SurfaceWish where
  width : Nat
  height : Nat
  format : SurfaceFormat
  mipLevels : Nat := 0
  deriving DecidableEq, Repr

structure TextureDesc where
  format : SurfaceFormat
  width : Nat
  height : Nat
  depth : Nat
  bindFlags : Nat
  deriving DecidableEq, Repr

/-- `VMShaderType`. -/
inductive ShaderType where
  | vertex
  | fragment
  | geometry
  | tessellationControl
  | tessellationEvaluation
  | compute
  deriving DecidableEq, Repr

/-- `VIRTIO_GPU_FEATURE_VIRGL` -/
def featureVirgl : Nat := 1 <<< 0
/-- `VIRTIO_GPU_FEATURE_RESOURCE_BLOB` -/
def featureResourceBlob : Nat := 1 <<< 3
/-- `VIRTIO_GPU_FEATURE_CONTEXT_INIT` -/
def featureContextInit : Nat := 1 <<< 4
/-- `VIRTIO_GPU_FEATURE_3D` -/
def feature3D : Nat := featureVirgl

inductive Call where
  | supports3D
  | supportsFeature (feature : Nat)
  | getShaderManager
  | create3DContext
  | destroy3DContext (context : Nat)
  | create3DSurface (context : Nat) (info : SurfaceWish)
  | destroy3DSurface (context surface : Nat)
  | present3DSurface (context surface : Nat)
  | createFramebuffer (context width height : Nat) (color depth : SurfaceFormat)
  | beginRenderPass (context framebuffer : Nat)
  | endRenderPass (context : Nat)
  | createTexture (context : Nat) (desc : TextureDesc)
  | updateTexture (context texture : Nat) (region : List Nat)
  | bindTexture (context unit texture : Nat)
  | compileShader (context : Nat) (type : ShaderType)
  | destroyShader (context shader : Nat)
  | createShaderProgram (context : Nat) (shaders : List Nat)
  | useShaderProgram (context program : Nat)
  | drawPrimitives (context primitive count first : Nat)
  | clearColorBuffer (context : Nat)
  | enableDepthTest (context : Nat)
  | submit3DCommands (context descriptor : Nat)
  | ioMalloc (size : Nat)
  | ioFree (address size : Nat)
  | withAddress (address length : Nat)
  | release (descriptor : Nat)
  /-- The flags of OpenGL 3.0 and 3.2 are stored, and with each of them that of vertex
  array objects and that of uniform buffer objects. -/
  | setSupports (gl30 gl32 : Bool)
  deriving DecidableEq, Repr

abbrev Probe := Session Call Answer

/-- How a probe ends. -/
abbrev Verdict := Except Failure Unit

/-- A question with yes or no, or for a pointer that may be null. -/
def holds (c : Call) : Probe Bool := do
  match ← Session.ask c with
  | .ok _ => return true
  | .error _ => return false

/-! ## The books -/

inductive Resource where
  | context (id : Nat)
  | surface (context id : Nat)
  | framebuffer (context id : Nat)
  | texture (context id : Nat)
  | shader (context id : Nat)
  | program (context id : Nat)
  | block (address size : Nat)
  | descriptor (address : Nat)
  deriving DecidableEq, Repr

/-- There is no call that takes these back. -/
def Resource.lasting : Resource → Bool
  | .framebuffer .. | .texture .. | .program .. => true
  | _ => false

namespace Call

/-- What the call hands out when it succeeds. -/
def creates : Call → Option (Nat → Resource)
  | create3DContext => some .context
  | create3DSurface context _ => some (.surface context)
  | createFramebuffer context .. => some (.framebuffer context)
  | createTexture context _ => some (.texture context)
  | compileShader context _ => some (.shader context)
  | createShaderProgram context _ => some (.program context)
  | ioMalloc size => some fun address => .block address size
  | withAddress .. => some .descriptor
  | _ => none

/-- What the call takes back, whatever it answers. -/
def takes : Call → Option Resource
  | destroy3DContext context => some (.context context)
  | destroy3DSurface context surface => some (.surface context surface)
  | destroyShader context shader => some (.shader context shader)
  | ioFree address size => some (.block address size)
  | release descriptor => some (.descriptor descriptor)
  | _ => none

/-- The calls that create what lasts. -/
def createsLasting : Call → Bool
  | createFramebuffer .. | createTexture .. | createShaderProgram .. => true
  | _ => false

def entry (c : Call) (r : Answer) : Option (Entry Resource) :=
  match c.takes, c.creates, r with
  | some x, _, _ => some (.release x)
  | none, some f, .ok id => some (.acquire (f id))
  | none, _, _ => none

/-- The answer, if a descriptor of 128 bytes was asked for. -/
def wideDescriptor : Call → Answer → Option Bool
  | withAddress _ length, r => if length = 128 then some r.isOk else none
  | _, _ => none

theorem lasting_of_takes {c : Call} {x : Resource} (h : c.takes = some x) :
    x.lasting = false := by
  cases c <;> cases h <;> rfl

theorem createsLasting_of_takes {c : Call} {x : Resource} (h : c.takes = some x) :
    c.createsLasting = false := by
  cases c <;> cases h <;> rfl

theorem createsLasting_of_creates_eq_none {c : Call} (h : c.creates = none) :
    c.createsLasting = false := by
  cases c <;> cases h <;> rfl

theorem lasting_of_creates {c : Call} {f : Nat → Resource} (h : c.creates = some f) (id : Nat) :
    (f id).lasting = c.createsLasting := by
  cases c <;> cases h <;> rfl

end Call

/-- What a run acquired and released, in order. -/
def entries (calls : List (Call × Answer)) : List (Entry Resource) :=
  calls.filterMap fun e => e.1.entry e.2

/-- The probe gives back what it obtained, each thing once, and nothing else. -/
def ResourceNeutral {α : Type} (p : Probe α) (answers : Nat → Answer) : Prop :=
  Neutral (entries (p.run answers).1)

/-! ## What is asked of the answers -/

/-- No framebuffer, texture or shader program was handed out. -/
def LastingRefused (calls : List (Call × Answer)) : Prop :=
  ∀ e ∈ calls, e.1.createsLasting = true → e.2.isOk = false

instance (calls : List (Call × Answer)) : Decidable (LastingRefused calls) :=
  inferInstanceAs (Decidable (∀ e ∈ calls, _))

/-- Whether the descriptors of 128 bytes were handed out, in the order in which they
were asked for. -/
def wideDescriptors (calls : List (Call × Answer)) : List Bool :=
  calls.filterMap fun e => e.1.wideDescriptor e.2

/-! ## The monitor -/

abbrev Tally := Ledger Resource Bool

/-- What a call does to the ledger of all that does not last. -/
def book (l : Tally) (c : Call) (r : Answer) : Tally :=
  match c.entry r with
  | some (.acquire x) => if x.lasting then l else l.acquire x
  | some (.release x) => l.release x
  | none => l

/-- The ledger, with remarks on the descriptors of 128 bytes if `watch` is set. -/
def see (watch : Bool) (l : Tally) (c : Call) (r : Answer) : Tally :=
  match c.wideDescriptor r with
  | some b => if watch then (book l c r).note b else book l c r
  | none => book l c r

theorem noted_book (l : Tally) (c : Call) (r : Answer) : (book l c r).noted = l.noted := by
  unfold book
  cases c.entry r with
  | none => rfl
  | some e =>
      cases e with
      | acquire x =>
          dsimp only
          split
          · rfl
          · rfl
      | release x => exact Ledger.noted_release l x

theorem noted_see (l : Tally) (c : Call) (r : Answer) :
    (see true l c r).noted = l.noted ++ (c.wideDescriptor r).toList := by
  unfold see
  cases c.wideDescriptor r with
  | none => simpa using noted_book l c r
  | some b => simpa [Ledger.note] using noted_book l c r

/-- The remarks of the monitor are the answers it was to watch. -/
theorem noted_foldl_see (calls : List (Call × Answer)) (l : Tally) :
    (calls.foldl (fun l e => see true l e.1 e.2) l).noted = l.noted ++ wideDescriptors calls := by
  induction calls generalizing l with
  | nil => simp [wideDescriptors]
  | cons e calls ih =>
      rw [List.foldl_cons, ih, noted_see, wideDescriptors, wideDescriptors, List.filterMap_cons]
      cases e.1.wideDescriptor e.2 with
      | none => simp
      | some b => simp

/-- The full books hold what lasts besides what the monitor holds. -/
structure Carried (lasting : Multiset Resource) (full l : Tally) : Prop where
  lasts : ∀ x ∈ lasting, x.lasting = true
  held : full.held = lasting + l.held
  excess : full.excess = l.excess

section
variable {watch : Bool} {lasting : Multiset Resource} {full l : Tally}

theorem Carried.note (h : Carried lasting full l) (b : Bool) : Carried lasting full (l.note b) :=
  ⟨h.lasts, h.held, h.excess⟩

/-- The remarks change nothing that is held. -/
theorem Carried.see {c : Call} {r : Answer} (h : Carried lasting full (book l c r)) :
    Carried lasting full (see watch l c r) := by
  unfold GLProbe.see
  cases c.wideDescriptor r with
  | none => exact h
  | some b =>
      cases watch with
      | true => exact h.note b
      | false => exact h

theorem Carried.acquire (h : Carried lasting full l) (x : Resource) :
    Carried lasting (full.acquire x) (l.acquire x) where
  lasts := h.lasts
  held := by simp [Ledger.acquire, h.held]
  excess := h.excess

theorem Carried.acquire_lasting (h : Carried lasting full l) {x : Resource}
    (hx : x.lasting = true) : Carried (x ::ₘ lasting) (full.acquire x) l where
  lasts := by
    intro y hy
    rcases Multiset.mem_cons.mp hy with rfl | hy
    · exact hx
    · exact h.lasts y hy
  held := by simp [Ledger.acquire, h.held]
  excess := h.excess

/-- What a call takes back does not last, so the monitor knows it too. -/
theorem Carried.release (h : Carried lasting full l) {x : Resource} (hx : x.lasting = false) :
    Carried lasting (full.release x) (l.release x) := by
  have hnot : x ∉ lasting := by
    intro hmem
    rw [h.lasts x hmem] at hx
    cases hx
  have hiff : x ∈ full.held ↔ x ∈ l.held := by
    rw [h.held, Multiset.mem_add]
    exact or_iff_right hnot
  by_cases hmem : x ∈ l.held
  · rw [Ledger.release, Ledger.release, if_pos hmem, if_pos (hiff.mpr hmem)]
    refine ⟨h.lasts, ?_, h.excess⟩
    show full.held.erase x = lasting + l.held.erase x
    rw [h.held, Multiset.erase_add_right_pos lasting hmem]
  · rw [Ledger.release_of_notMem hmem, Ledger.release_of_notMem fun h => hmem (hiff.mp h)]
    exact ⟨h.lasts, by simp [Ledger.add, h.held], by simp [Ledger.add, h.excess]⟩

variable (watch) in
theorem Carried.step (h : Carried lasting full l) (c : Call) (r : Answer) :
    ∃ more, Carried more (full.enters (c.entry r).toList) (GLProbe.see watch l c r) ∧
      (more = 0 ↔ lasting = 0 ∧ (c.createsLasting = true → r.isOk = false)) := by
  cases htakes : c.takes with
  | some x =>
      have hentry : c.entry r = some (.release x) := by simp [Call.entry, htakes]
      refine ⟨lasting, .see ?_, by simp [Call.createsLasting_of_takes htakes]⟩
      rw [book, hentry]
      exact h.release (Call.lasting_of_takes htakes)
  | none =>
      cases hcreates : c.creates with
      | none =>
          have hentry : c.entry r = none := by simp [Call.entry, htakes, hcreates]
          refine ⟨lasting, .see ?_, ?_⟩
          · rw [book, hentry]
            exact h
          · simp [Call.createsLasting_of_creates_eq_none hcreates]
      | some f =>
          cases r with
          | error ret =>
              have hentry : c.entry (.error ret) = none := by simp [Call.entry, htakes, hcreates]
              refine ⟨lasting, .see ?_, by simp [Except.isOk, Except.toBool]⟩
              rw [book, hentry]
              exact h
          | ok id =>
              have hentry : c.entry (.ok id) = some (.acquire (f id)) := by
                simp [Call.entry, htakes, hcreates]
              have hlasts := Call.lasting_of_creates hcreates id
              cases hc : c.createsLasting with
              | true =>
                  rw [hc] at hlasts
                  refine ⟨f id ::ₘ lasting, .see ?_, by simp [Except.isOk, Except.toBool]⟩
                  simp only [book, hentry, hlasts]
                  exact h.acquire_lasting hlasts
              | false =>
                  rw [hc] at hlasts
                  refine ⟨lasting, .see ?_, by simp⟩
                  simp only [book, hentry, hlasts]
                  exact h.acquire (f id)

variable (watch) in
theorem Carried.run (h : Carried lasting full l) (calls : List (Call × Answer)) :
    ∃ more, Carried more (full.enters (entries calls))
        (calls.foldl (fun l e => GLProbe.see watch l e.1 e.2) l) ∧
      (more = 0 ↔ lasting = 0 ∧ LastingRefused calls) := by
  induction calls generalizing lasting full l with
  | nil => exact ⟨lasting, h, by simp [LastingRefused]⟩
  | cons e calls ih =>
      obtain ⟨mid, hmid, hmid0⟩ := h.step watch e.1 e.2
      obtain ⟨more, hmore, hmore0⟩ := ih hmid
      refine ⟨more, ?_, ?_⟩
      · rw [entries, List.filterMap_cons]
        cases hentry : e.1.entry e.2 with
        | none =>
            rw [hentry] at hmore
            exact hmore
        | some x =>
            rw [hentry] at hmore
            exact hmore
      · rw [hmore0, hmid0]
        simp [LastingRefused, and_assoc]

end

theorem wp_ask {watch : Bool} {c : Call} {post : Answer → Tally → Prop} {s : Tally} :
    Session.wp (see watch) (.ask c) post s ↔
      (∀ ret, post (.error ret) (see watch s c (.error ret))) ∧
        ∀ id, post (.ok id) (see watch s c (.ok id)) := by
  constructor
  · intro h
    exact ⟨fun ret => h (.error ret), fun id => h (.ok id)⟩
  · rintro ⟨herror, hok⟩ r
    cases r with
    | error ret => exact herror ret
    | ok id => exact hok id

theorem wp_ask_andThen {α : Type} {watch : Bool} {c : Call} {f : Answer → Probe α}
    {post : α → Tally → Prop} {s : Tally}
    (herror : ∀ ret, Session.wp (see watch) (f (.error ret)) post (see watch s c (.error ret)))
    (hok : ∀ id, Session.wp (see watch) (f (.ok id)) post (see watch s c (.ok id))) :
    Session.wp (see watch) (.ask c >>= f) post s :=
  Session.wp_bind.mpr (wp_ask.mpr ⟨herror, hok⟩)

/-- A run is neutral if nothing lasting was handed out, and the monitor is left with
nothing. -/
theorem neutral_entries_iff (watch : Bool) (calls : List (Call × Answer)) :
    Neutral (entries calls) ↔ LastingRefused calls ∧
      (calls.foldl (fun l e => see watch l e.1 e.2) Ledger.blank).held = 0 ∧
      (calls.foldl (fun l e => see watch l e.1 e.2) Ledger.blank).excess = 0 := by
  have hblank : Carried 0 Ledger.blank Ledger.blank := ⟨nofun, rfl, rfl⟩
  obtain ⟨more, hmore, hzero⟩ := hblank.run watch calls
  have hsum (a b : Multiset Resource) : a + b = 0 ↔ a = 0 ∧ b = 0 := by
    rw [← Multiset.card_eq_zero, Multiset.card_add, Nat.add_eq_zero_iff]
    simp
  rw [Ledger.neutral_iff Bool, hmore.held, hmore.excess, hsum, hzero]
  simp [and_assoc]

end GLProbe
end VMQemuVGA
