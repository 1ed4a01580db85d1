import VMQemuVGA.IOKit
import VMQemuVGA.Lib.CommandStream

/-! # The virgl format

What `virgl_protocol.h` fixes about command buffers: the opcodes, the header
macro, the sizes, and how floats become words. A word is a natural number below
2^32. -/

namespace VMQemuVGA

/-- The object types the translator uses. -/
inductive VirglObject where
  | null
  | vertexElements
  deriving DecidableEq, Repr

/-- `enum virgl_object_type`. -/
def VirglObject.code : VirglObject → Nat
  | .null => 0
  | .vertexElements => 5

/-- A command as its encoder means it. The commands on objects have their
object type and handle. -/
inductive VirglCommand where
  | createObject (object : VirglObject) (handle : Nat)
  | bindObject (object : VirglObject) (handle : Nat)
  | setViewportState
  | setFramebufferState
  | setVertexBuffers
  | clear
  | drawVbo
  | resourceInlineWrite
  deriving DecidableEq, Repr

namespace VirglCommand

/-- `enum virgl_context_cmd`. -/
def opcode : VirglCommand → Nat
  | .createObject .. => 1
  | .bindObject .. => 2
  | .setViewportState => 4
  | .setFramebufferState => 5
  | .setVertexBuffers => 6
  | .clear => 7
  | .drawVbo => 8
  | .resourceInlineWrite => 9

/-- What belongs in bits 8 to 15 of the header. -/
def objectType : VirglCommand → Nat
  | .createObject object _ => object.code
  | .bindObject object _ => object.code
  | _ => VirglObject.null.code

/-- The handle a command on an object starts its payload with. -/
def handle? : VirglCommand → Option Nat
  | .createObject _ handle => some handle
  | .bindObject _ handle => some handle
  | _ => none

theorem opcode_lt (c : VirglCommand) : c.opcode < 256 := by
  cases c <;> simp [opcode]

/-- The buffer is one command, the intended one, in the documented format. -/
def Decodes (c : VirglCommand) (buffer : List Nat) : Prop :=
  ∃ p, CommandStream.decode buffer = some [p] ∧ p.opcode = c.opcode ∧ p.kind = c.objectType ∧
    (c.handle?.isSome → c.objectType ≠ 0 ∧ p.payload.head? = c.handle?)

end VirglCommand

/-! ## Headers -/

/-- `VIRGL_CMD_HDR`: `(len << 16) | cmd` in 32 bits. -/
def virglCmdHdr (cmd len : Nat) : Nat := ((len <<< 16) % u32) ||| cmd

/-- The length loses its high bits, and the object type is never set. -/
theorem virglCmdHdr_eq {cmd : Nat} (h : cmd < 65536) (len : Nat) :
    virglCmdHdr cmd len = len % 65536 * 65536 + cmd := by
  have hshift : (len <<< 16) % u32 = (len % 65536) <<< 16 := by
    rw [Nat.shiftLeft_eq, Nat.shiftLeft_eq]
    show len * 2 ^ 16 % (2 ^ 16 * 2 ^ 16) = _
    exact Nat.mul_mod_mul_right ..
  have hor := Nat.shiftLeft_add_eq_or_of_lt (i := 16) h (len % 65536)
  rw [virglCmdHdr, hshift, ← hor, Nat.shiftLeft_eq]

/-! ## Constants -/

def pipeClearDepth : Nat := 1
def pipeClearStencil : Nat := 2
def pipeClearColor0 : Nat := 4

def virglTargetBuffer : Nat := 0
def virglBindVertexBuffer : Nat := 16
def virglFormatR8G8B8A8Unorm : Nat := 67
def pipeFormatR32G32B32A32Float : Nat := 3

def virglClearSize : Nat := 9
def virglDrawVboSize : Nat := 12
def virglSetFramebufferStateSize : Nat := 11
def virglInlineWriteHdrSize : Nat := 12

def pipePrimTriangles : Nat := 4

/-! ## Floats -/

def virglPackFloat (f : Float32) : Nat := f.toBits.toNat

/-- `virgl_pack_double`: the low word, then the high one. -/
def virglPackDouble (d : Float) : Nat × Nat := (d.toBits.toNat % u32, d.toBits.toNat / u32)

end VMQemuVGA
