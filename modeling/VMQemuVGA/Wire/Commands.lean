import VMQemuVGA.Lib.Bytes
import VMQemuVGA.Lib.Codec

/-! # The structures of `virtio_gpu.h`

The commands the driver sends, laid out as their structures are: every field lies where
the one before it ends, and numbers have their lowest byte first. -/

namespace VMQemuVGA
namespace VirtioGpu

open Codec (word long byte hasSize_word hasSize_long hasSize_byte)

/-! ## Numbers -/

theorem encode_word (w : UInt32) : word.encode w = wordBytes w.toNat := by
  show (Codec.le 4).encode w.toFin = _
  rw [Codec.encode_le]
  simp [Codec.bytesLE, wordBytes, Nat.shiftRight_eq_div_pow, Nat.div_div_eq_div_mul]

theorem encode_long (w : UInt64) :
    long.encode w = wordBytes w.toNat ++ wordBytes (w.toNat >>> 32) := by
  show (Codec.le 8).encode w.toFin = _
  rw [Codec.encode_le]
  simp [Codec.bytesLE, wordBytes, Nat.shiftRight_eq_div_pow, Nat.div_div_eq_div_mul]

theorem encode_bytes {n : Nat} (v : List.Vector UInt8 n) : (byte.array n).encode v = v.1 :=
  List.flatMap_singleton' v.1

/-! ## Types of commands -/

/-- `virtio_gpu_ctrl_type`, as far as the driver sends it. -/
inductive CtrlType where
  | resourceCreate2D
  | resourceUnref
  | setScanout
  | resourceFlush
  | transferToHost2D
  | resourceAttachBacking
  | resourceDetachBacking
  | getCapsetInfo
  | getCapset
  | ctxCreate
  | ctxDestroy
  | ctxAttachResource
  | ctxDetachResource
  | resourceCreate3D
  | transferToHost3D
  | transferFromHost3D
  | submit3D
  | updateCursor
  | moveCursor
  deriving DecidableEq, Repr

namespace CtrlType

def code : CtrlType → UInt32
  | resourceCreate2D => 0x0101
  | resourceUnref => 0x0102
  | setScanout => 0x0103
  | resourceFlush => 0x0104
  | transferToHost2D => 0x0105
  | resourceAttachBacking => 0x0106
  | resourceDetachBacking => 0x0107
  | getCapsetInfo => 0x0108
  | getCapset => 0x0109
  | ctxCreate => 0x0200
  | ctxDestroy => 0x0201
  | ctxAttachResource => 0x0202
  | ctxDetachResource => 0x0203
  | resourceCreate3D => 0x0204
  | transferToHost3D => 0x0205
  | transferFromHost3D => 0x0206
  | submit3D => 0x0207
  | updateCursor => 0x0300
  | moveCursor => 0x0301

def all : List CtrlType :=
  [resourceCreate2D, resourceUnref, setScanout, resourceFlush, transferToHost2D,
    resourceAttachBacking, resourceDetachBacking, getCapsetInfo, getCapset, ctxCreate, ctxDestroy,
    ctxAttachResource, ctxDetachResource, resourceCreate3D, transferToHost3D, transferFromHost3D,
    submit3D, updateCursor, moveCursor]

def ofCode (code : UInt32) : Option CtrlType := all.find? fun t => t.code == code

theorem ofCode_eq_some (code : UInt32) (t : CtrlType) :
    ofCode code = some t ↔ t.code = code := by
  constructor
  · intro h
    simpa using List.find?_some h
  · rintro rfl
    cases t <;> rfl

def codec : Codec CtrlType := word.restrict ofCode code ofCode_eq_some

theorem hasSize_codec : codec.HasSize 4 := fun t => hasSize_word t.code

end CtrlType

/-! ## Headers -/

/-- `virtio_gpu_ctrl_hdr`. -/
structure CtrlHdr where
  type : CtrlType
  flags : UInt32
  fenceId : UInt64
  ctxId : UInt32
  ringIdx : UInt8
  padding : List.Vector UInt8 3
  deriving DecidableEq

namespace CtrlHdr

def codec : Codec CtrlHdr :=
  (CtrlType.codec.pair (word.pair (long.pair (word.pair (byte.pair (byte.array 3)))))).iso
    { toFun := fun (type, flags, fenceId, ctxId, ringIdx, padding) =>
        ⟨type, flags, fenceId, ctxId, ringIdx, padding⟩
      invFun := fun h => (h.type, h.flags, h.fenceId, h.ctxId, h.ringIdx, h.padding)
      left_inv := fun _ => rfl
      right_inv := fun _ => rfl }

theorem hasSize_codec : codec.HasSize 24 :=
  (CtrlType.hasSize_codec.pair (hasSize_word.pair (hasSize_long.pair (hasSize_word.pair
    (hasSize_byte.pair (hasSize_byte.array 3)))))).iso _

/-- A header that is zero but for its type and context. -/
def zeroed (type : CtrlType) (ctx : UInt32) : CtrlHdr where
  type := type
  flags := 0
  fenceId := 0
  ctxId := ctx
  ringIdx := 0
  padding := .replicate 3 0

/-- `initializeCommandHeader`, with `m_fence_id` before and after. -/
def initializeCommandHeader (fence : UInt64) (type : CtrlType) (ctx : UInt32) (useFence : Bool) :
    CtrlHdr × UInt64 :=
  let ringIdx := if type = .updateCursor ∨ type = .moveCursor then 1 else 0
  if useFence then
    (⟨type, 2 ||| 1, fence + 1, ctx, ringIdx, .replicate 3 0⟩, fence + 1)
  else (⟨type, 2, 0, ctx, ringIdx, .replicate 3 0⟩, fence)

end CtrlHdr

/-! ## Bodies -/

/-- `virtio_gpu_rect`. -/
structure Rect where
  x : UInt32
  y : UInt32
  width : UInt32
  height : UInt32
  deriving DecidableEq

def Rect.codec : Codec Rect :=
  (word.pair (word.pair (word.pair word))).iso
    { toFun := fun (x, y, width, height) => ⟨x, y, width, height⟩
      invFun := fun r => (r.x, r.y, r.width, r.height)
      left_inv := fun _ => rfl
      right_inv := fun _ => rfl }

theorem Rect.hasSize_codec : codec.HasSize 16 :=
  (hasSize_word.pair (hasSize_word.pair (hasSize_word.pair hasSize_word))).iso _

/-- `virtio_gpu_box`. -/
structure Box where
  x : UInt32
  y : UInt32
  z : UInt32
  w : UInt32
  h : UInt32
  d : UInt32
  deriving DecidableEq

def Box.codec : Codec Box :=
  (word.pair (word.pair (word.pair (word.pair (word.pair word))))).iso
    { toFun := fun (x, y, z, w, h, d) => ⟨x, y, z, w, h, d⟩
      invFun := fun b => (b.x, b.y, b.z, b.w, b.h, b.d)
      left_inv := fun _ => rfl
      right_inv := fun _ => rfl }

theorem Box.hasSize_codec : codec.HasSize 24 :=
  (hasSize_word.pair (hasSize_word.pair (hasSize_word.pair (hasSize_word.pair (hasSize_word.pair
    hasSize_word))))).iso _

/-- `virtio_gpu_mem_entry`. -/
structure MemEntry where
  addr : UInt64
  length : UInt32
  padding : UInt32
  deriving DecidableEq

def MemEntry.codec : Codec MemEntry :=
  (long.pair (word.pair word)).iso
    { toFun := fun (addr, length, padding) => ⟨addr, length, padding⟩
      invFun := fun e => (e.addr, e.length, e.padding)
      left_inv := fun _ => rfl
      right_inv := fun _ => rfl }

theorem MemEntry.hasSize_codec : codec.HasSize 16 :=
  (hasSize_long.pair (hasSize_word.pair hasSize_word)).iso _

structure ResourceCreate2D where
  resourceId : UInt32
  format : UInt32
  width : UInt32
  height : UInt32
  deriving DecidableEq

def ResourceCreate2D.codec : Codec ResourceCreate2D :=
  (word.pair (word.pair (word.pair word))).iso
    { toFun := fun (resourceId, format, width, height) => ⟨resourceId, format, width, height⟩
      invFun := fun c => (c.resourceId, c.format, c.width, c.height)
      left_inv := fun _ => rfl
      right_inv := fun _ => rfl }

theorem ResourceCreate2D.hasSize_codec : codec.HasSize 16 :=
  (hasSize_word.pair (hasSize_word.pair (hasSize_word.pair hasSize_word))).iso _

structure ResourceCreate3D where
  resourceId : UInt32
  target : UInt32
  format : UInt32
  bind : UInt32
  width : UInt32
  height : UInt32
  depth : UInt32
  arraySize : UInt32
  lastLevel : UInt32
  nrSamples : UInt32
  flags : UInt32
  padding : UInt32
  deriving DecidableEq

def ResourceCreate3D.codec : Codec ResourceCreate3D :=
  (word.pair (word.pair (word.pair (word.pair (word.pair (word.pair (word.pair (word.pair (word.pair
    (word.pair (word.pair word))))))))))).iso
    { toFun := fun (resourceId, target, format, bind, width, height, depth, arraySize, lastLevel,
          nrSamples, flags, padding) =>
        ⟨resourceId, target, format, bind, width, height, depth, arraySize, lastLevel, nrSamples,
          flags, padding⟩
      invFun := fun c => (c.resourceId, c.target, c.format, c.bind, c.width, c.height, c.depth,
        c.arraySize, c.lastLevel, c.nrSamples, c.flags, c.padding)
      left_inv := fun _ => rfl
      right_inv := fun _ => rfl }

theorem ResourceCreate3D.hasSize_codec : codec.HasSize 48 :=
  (hasSize_word.pair (hasSize_word.pair (hasSize_word.pair (hasSize_word.pair (hasSize_word.pair
    (hasSize_word.pair (hasSize_word.pair (hasSize_word.pair (hasSize_word.pair (hasSize_word.pair
    (hasSize_word.pair hasSize_word))))))))))).iso _

/-- `virtio_gpu_resource_unref`, `virtio_gpu_resource_detach_backing` and
`virtio_gpu_ctx_resource`. -/
structure ResourceOnly where
  resourceId : UInt32
  padding : UInt32
  deriving DecidableEq

def ResourceOnly.codec : Codec ResourceOnly :=
  (word.pair word).iso
    { toFun := fun (resourceId, padding) => ⟨resourceId, padding⟩
      invFun := fun c => (c.resourceId, c.padding)
      left_inv := fun _ => rfl
      right_inv := fun _ => rfl }

theorem ResourceOnly.hasSize_codec : codec.HasSize 8 :=
  (hasSize_word.pair hasSize_word).iso _

structure SetScanout where
  r : Rect
  scanoutId : UInt32
  resourceId : UInt32
  deriving DecidableEq

def SetScanout.codec : Codec SetScanout :=
  (Rect.codec.pair (word.pair word)).iso
    { toFun := fun (r, scanoutId, resourceId) => ⟨r, scanoutId, resourceId⟩
      invFun := fun c => (c.r, c.scanoutId, c.resourceId)
      left_inv := fun _ => rfl
      right_inv := fun _ => rfl }

theorem SetScanout.hasSize_codec : codec.HasSize 24 :=
  (Rect.hasSize_codec.pair (hasSize_word.pair hasSize_word)).iso _

structure ResourceFlush where
  r : Rect
  resourceId : UInt32
  padding : UInt32
  deriving DecidableEq

def ResourceFlush.codec : Codec ResourceFlush :=
  (Rect.codec.pair (word.pair word)).iso
    { toFun := fun (r, resourceId, padding) => ⟨r, resourceId, padding⟩
      invFun := fun c => (c.r, c.resourceId, c.padding)
      left_inv := fun _ => rfl
      right_inv := fun _ => rfl }

theorem ResourceFlush.hasSize_codec : codec.HasSize 24 :=
  (Rect.hasSize_codec.pair (hasSize_word.pair hasSize_word)).iso _

structure TransferToHost2D where
  r : Rect
  offset : UInt64
  resourceId : UInt32
  padding : UInt32
  deriving DecidableEq

def TransferToHost2D.codec : Codec TransferToHost2D :=
  (Rect.codec.pair (long.pair (word.pair word))).iso
    { toFun := fun (r, offset, resourceId, padding) => ⟨r, offset, resourceId, padding⟩
      invFun := fun c => (c.r, c.offset, c.resourceId, c.padding)
      left_inv := fun _ => rfl
      right_inv := fun _ => rfl }

theorem TransferToHost2D.hasSize_codec : codec.HasSize 32 :=
  (Rect.hasSize_codec.pair (hasSize_long.pair (hasSize_word.pair hasSize_word))).iso _

/-- `virtio_gpu_transfer_to_host_3d`, for both directions. -/
structure TransferHost3D where
  box : Box
  offset : UInt64
  resourceId : UInt32
  level : UInt32
  stride : UInt32
  layerStride : UInt32
  deriving DecidableEq

def TransferHost3D.codec : Codec TransferHost3D :=
  (Box.codec.pair (long.pair (word.pair (word.pair (word.pair word))))).iso
    { toFun := fun (box, offset, resourceId, level, stride, layerStride) =>
        ⟨box, offset, resourceId, level, stride, layerStride⟩
      invFun := fun c => (c.box, c.offset, c.resourceId, c.level, c.stride, c.layerStride)
      left_inv := fun _ => rfl
      right_inv := fun _ => rfl }

theorem TransferHost3D.hasSize_codec : codec.HasSize 48 :=
  (Box.hasSize_codec.pair (hasSize_long.pair (hasSize_word.pair (hasSize_word.pair
    (hasSize_word.pair hasSize_word))))).iso _

/-- `virtio_gpu_resource_attach_backing` with its entries. -/
structure ResourceAttachBacking where
  resourceId : UInt32
  nrEntries : UInt32
  entries : List.Vector MemEntry nrEntries.toNat

def ResourceAttachBacking.codec : Codec ResourceAttachBacking :=
  ((word.pair word).sigma fun x => MemEntry.codec.array x.2.toNat).iso
    { toFun := fun c => ⟨c.1.1, c.1.2, c.2⟩
      invFun := fun c => ⟨(c.resourceId, c.nrEntries), c.entries⟩
      left_inv := fun _ => rfl
      right_inv := fun _ => rfl }

theorem ResourceAttachBacking.encode_eq (c : ResourceAttachBacking) : codec.encode c =
    word.encode c.resourceId ++ (word.encode c.nrEntries ++
      c.entries.1.flatMap MemEntry.codec.encode) := List.append_assoc _ _ _

theorem ResourceAttachBacking.length_encode (c : ResourceAttachBacking) :
    (codec.encode c).length = 8 + c.nrEntries.toNat * 16 := by
  have hentries : (c.entries.1.flatMap MemEntry.codec.encode).length = c.nrEntries.toNat * 16 :=
    MemEntry.hasSize_codec.array c.nrEntries.toNat c.entries
  rw [encode_eq, List.length_append, List.length_append, hasSize_word, hasSize_word, hentries,
    ← Nat.add_assoc]

structure GetCapsetInfo where
  capsetIndex : UInt32
  padding : UInt32
  deriving DecidableEq

def GetCapsetInfo.codec : Codec GetCapsetInfo :=
  (word.pair word).iso
    { toFun := fun (capsetIndex, padding) => ⟨capsetIndex, padding⟩
      invFun := fun c => (c.capsetIndex, c.padding)
      left_inv := fun _ => rfl
      right_inv := fun _ => rfl }

theorem GetCapsetInfo.hasSize_codec : codec.HasSize 8 :=
  (hasSize_word.pair hasSize_word).iso _

structure GetCapset where
  capsetId : UInt32
  capsetVersion : UInt32
  deriving DecidableEq

def GetCapset.codec : Codec GetCapset :=
  (word.pair word).iso
    { toFun := fun (capsetId, capsetVersion) => ⟨capsetId, capsetVersion⟩
      invFun := fun c => (c.capsetId, c.capsetVersion)
      left_inv := fun _ => rfl
      right_inv := fun _ => rfl }

theorem GetCapset.hasSize_codec : codec.HasSize 8 :=
  (hasSize_word.pair hasSize_word).iso _

structure CtxCreate where
  nlen : UInt32
  contextInit : UInt32
  debugName : List.Vector UInt8 64

def CtxCreate.codec : Codec CtxCreate :=
  (word.pair (word.pair (byte.array 64))).iso
    { toFun := fun (nlen, contextInit, debugName) => ⟨nlen, contextInit, debugName⟩
      invFun := fun c => (c.nlen, c.contextInit, c.debugName)
      left_inv := fun _ => rfl
      right_inv := fun _ => rfl }

theorem CtxCreate.hasSize_codec : codec.HasSize 72 :=
  (hasSize_word.pair (hasSize_word.pair (hasSize_byte.array 64))).iso _

/-- `virtio_gpu_cmd_submit` with its commands. -/
structure CmdSubmit where
  size : UInt32
  padding : UInt32
  commands : List.Vector UInt8 size.toNat

def CmdSubmit.codec : Codec CmdSubmit :=
  ((word.pair word).sigma fun x => byte.array x.1.toNat).iso
    { toFun := fun c => ⟨c.1.1, c.1.2, c.2⟩
      invFun := fun c => ⟨(c.size, c.padding), c.commands⟩
      left_inv := fun _ => rfl
      right_inv := fun _ => rfl }

theorem CmdSubmit.encode_eq (c : CmdSubmit) :
    codec.encode c = word.encode c.size ++ (word.encode c.padding ++ c.commands.1) := by
  rw [← encode_bytes c.commands]
  exact List.append_assoc _ _ _

theorem CmdSubmit.length_encode (c : CmdSubmit) : (codec.encode c).length = 8 + c.size.toNat := by
  rw [encode_eq, List.length_append, List.length_append, hasSize_word, hasSize_word, c.commands.2,
    ← Nat.add_assoc]

/-- `virtio_gpu_update_cursor` with its `virtio_gpu_cursor_pos`. -/
structure UpdateCursor where
  scanoutId : UInt32
  x : UInt32
  y : UInt32
  posPadding : UInt32
  resourceId : UInt32
  hotX : UInt32
  hotY : UInt32
  padding : UInt32
  deriving DecidableEq

def UpdateCursor.codec : Codec UpdateCursor :=
  (word.pair (word.pair (word.pair (word.pair (word.pair (word.pair (word.pair word))))))).iso
    { toFun := fun (scanoutId, x, y, posPadding, resourceId, hotX, hotY, padding) =>
        ⟨scanoutId, x, y, posPadding, resourceId, hotX, hotY, padding⟩
      invFun := fun c =>
        (c.scanoutId, c.x, c.y, c.posPadding, c.resourceId, c.hotX, c.hotY, c.padding)
      left_inv := fun _ => rfl
      right_inv := fun _ => rfl }

theorem UpdateCursor.hasSize_codec : codec.HasSize 32 :=
  (hasSize_word.pair (hasSize_word.pair (hasSize_word.pair (hasSize_word.pair (hasSize_word.pair
    (hasSize_word.pair (hasSize_word.pair hasSize_word))))))).iso _

/-! ## Commands -/

/-- What follows the header. -/
def Body : CtrlType → Type
  | .resourceCreate2D => ResourceCreate2D
  | .resourceCreate3D => ResourceCreate3D
  | .resourceUnref | .resourceDetachBacking | .ctxAttachResource | .ctxDetachResource =>
      ResourceOnly
  | .setScanout => SetScanout
  | .resourceFlush => ResourceFlush
  | .transferToHost2D => TransferToHost2D
  | .transferToHost3D | .transferFromHost3D => TransferHost3D
  | .resourceAttachBacking => ResourceAttachBacking
  | .getCapsetInfo => GetCapsetInfo
  | .getCapset => GetCapset
  | .ctxCreate => CtxCreate
  | .ctxDestroy => Unit
  | .submit3D => CmdSubmit
  | .updateCursor | .moveCursor => UpdateCursor

def Body.codec : (t : CtrlType) → Codec (Body t)
  | .resourceCreate2D => ResourceCreate2D.codec
  | .resourceCreate3D => ResourceCreate3D.codec
  | .resourceUnref | .resourceDetachBacking | .ctxAttachResource | .ctxDetachResource =>
      ResourceOnly.codec
  | .setScanout => SetScanout.codec
  | .resourceFlush => ResourceFlush.codec
  | .transferToHost2D => TransferToHost2D.codec
  | .transferToHost3D | .transferFromHost3D => TransferHost3D.codec
  | .resourceAttachBacking => ResourceAttachBacking.codec
  | .getCapsetInfo => GetCapsetInfo.codec
  | .getCapset => GetCapset.codec
  | .ctxCreate => CtxCreate.codec
  | .ctxDestroy => Codec.empty
  | .submit3D => CmdSubmit.codec
  | .updateCursor | .moveCursor => UpdateCursor.codec

/-- `sizeof` the structure without its header, and what is behind it. -/
def Body.size : (t : CtrlType) → Body t → Nat
  | .resourceCreate2D, _ => 16
  | .resourceCreate3D, _ => 48
  | .resourceUnref, _ | .resourceDetachBacking, _ | .ctxAttachResource, _
  | .ctxDetachResource, _ => 8
  | .setScanout, _ | .resourceFlush, _ => 24
  | .transferToHost2D, _ => 32
  | .transferToHost3D, _ | .transferFromHost3D, _ => 48
  | .resourceAttachBacking, (c : ResourceAttachBacking) => 8 + c.nrEntries.toNat * 16
  | .getCapsetInfo, _ | .getCapset, _ => 8
  | .ctxCreate, _ => 72
  | .ctxDestroy, _ => 0
  | .submit3D, (c : CmdSubmit) => 8 + c.size.toNat
  | .updateCursor, _ | .moveCursor, _ => 32

theorem Body.length_encode (t : CtrlType) (b : Body t) :
    ((Body.codec t).encode b).length = b.size := by
  cases t with
  | resourceCreate2D => exact ResourceCreate2D.hasSize_codec b
  | resourceCreate3D => exact ResourceCreate3D.hasSize_codec b
  | resourceUnref => exact ResourceOnly.hasSize_codec b
  | resourceDetachBacking => exact ResourceOnly.hasSize_codec b
  | ctxAttachResource => exact ResourceOnly.hasSize_codec b
  | ctxDetachResource => exact ResourceOnly.hasSize_codec b
  | setScanout => exact SetScanout.hasSize_codec b
  | resourceFlush => exact ResourceFlush.hasSize_codec b
  | transferToHost2D => exact TransferToHost2D.hasSize_codec b
  | transferToHost3D => exact TransferHost3D.hasSize_codec b
  | transferFromHost3D => exact TransferHost3D.hasSize_codec b
  | resourceAttachBacking => exact ResourceAttachBacking.length_encode b
  | getCapsetInfo => exact GetCapsetInfo.hasSize_codec b
  | getCapset => exact GetCapset.hasSize_codec b
  | ctxCreate => exact CtxCreate.hasSize_codec b
  | ctxDestroy => exact Codec.hasSize_empty b
  | submit3D => exact CmdSubmit.length_encode b
  | updateCursor => exact UpdateCursor.hasSize_codec b
  | moveCursor => exact UpdateCursor.hasSize_codec b

/-- A command whose body is what its header says. -/
structure Command where
  hdr : CtrlHdr
  body : Body hdr.type

namespace Command

def codec : Codec Command :=
  (CtrlHdr.codec.sigma fun h => Body.codec h.type).iso
    { toFun := fun c => ⟨c.1, c.2⟩
      invFun := fun c => ⟨c.hdr, c.body⟩
      left_inv := fun _ => rfl
      right_inv := fun _ => rfl }

/-- What the host makes of the bytes of a chain; `none` if they are no command it knows, or
not all of one. -/
def ofBytes (bytes : List UInt8) : Option Command := codec.read bytes

def toBytes (c : Command) : List UInt8 := codec.encode c

theorem toBytes_eq (c : Command) :
    c.toBytes = CtrlHdr.codec.encode c.hdr ++ (Body.codec c.hdr.type).encode c.body := rfl

/-- `sizeof` the structure, and what is behind it. -/
theorem length_toBytes (c : Command) : c.toBytes.length = 24 + c.body.size := by
  rw [toBytes_eq, List.length_append, CtrlHdr.hasSize_codec, Body.length_encode]

/-- The host reads the commands that the bytes begin with, and no others. -/
theorem ofBytes_eq_some {bytes : List UInt8} {c : Command} :
    ofBytes bytes = some c ↔ c.toBytes <+: bytes := Codec.read_eq_some

theorem ofBytes_toBytes (c : Command) (rest : List UInt8) : ofBytes (c.toBytes ++ rest) = some c :=
  codec.read_encode_append c rest

/-- Of a command that is cut off, the host reads nothing. -/
theorem ofBytes_take {k : Nat} (c : Command) (h : k < c.toBytes.length) :
    ofBytes (c.toBytes.take k) = none := codec.read_take c h

end Command

end VirtioGpu
end VMQemuVGA
