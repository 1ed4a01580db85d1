import VMQemuVGA.Lib.Machine
import VMQemuVGA.Lib.RefCount
import VMQemuVGA.IOKit

/-! # `VMCommandBuffer` and `VMCommandBufferPool`

A command buffer records commands until it is reset. The pool hands buffers out, takes
them back, and keeps those that are back for reuse; buffers are counted by reference. -/

namespace VMQemuVGA

/-! ## Command buffers -/

/-- `VMCommandBufferState`. A buffer begins in the first state, and no operation that is
there takes it to another. -/
inductive CommandBufferState where
  | initial
  | recording
  | executable
  | pending
  | invalid
  deriving DecidableEq, Repr

/-- The types of the commands that are recorded. -/
inductive GPUCommandType where
  | draw
  | dispatch
  deriving DecidableEq, Repr

/-- `VMCommandHeader`, without the flags, which are zero. -/
structure CommandHeader where
  type : GPUCommandType
  size : Nat
  sequence : Nat
  deriving DecidableEq, Repr

structure ResourceBinding where
  bindingPoint : Nat
  resourceId : Nat
  resourceType : Nat
  deriving DecidableEq, Repr

structure VMCommandBuffer where
  state : CommandBufferState
  commands : List CommandHeader
  resources : List ResourceBinding
  currentSize : Nat
  commandCount : Nat
  maxCommands : Nat
  deriving DecidableEq, Repr

/-- The return codes of a recording. -/
inductive RecordReturn where
  | success
  | notPermitted
  | noSpace
  | noMemory
  deriving DecidableEq, Repr

/-- What the allocations of a recording get. -/
structure RecordEnv where
  /-- `IOMalloc` -/
  alloc : Bool
  /-- room in the array, which grows -/
  room : Bool
  deriving DecidableEq, Repr

namespace VMCommandBuffer

/-- What `init` makes. -/
def fresh : VMCommandBuffer := ⟨.initial, [], [], 0, 0, 256⟩

def reset (c : VMCommandBuffer) : IOReturn × VMCommandBuffer :=
  if c.state = .pending then (.busy, c)
  else
    (.success,
      { c with commands := [], resources := [], currentSize := 0, commandCount := 0,
               state := .initial })

/-- The body of `addDrawCommand` and `addComputeCommand`. Nobody looks whether the array
has taken the command. Two things are left out: the descriptor is copied behind the 16 bytes
that were allocated, and the array is given the raw block as if it were an object. -/
def addCommand (type : GPUCommandType) (size : Nat) (env : RecordEnv) (c : VMCommandBuffer) :
    RecordReturn × VMCommandBuffer :=
  if c.state ≠ .initial then (.notPermitted, c)
  else if c.commandCount ≥ c.maxCommands then (.noSpace, c)
  else if env.alloc = false then (.noMemory, c)
  else
    let command : CommandHeader := ⟨type, size, c.commandCount⟩
    let commands := if env.room = true then c.commands ++ [command] else c.commands
    (.success,
      { c with commands, commandCount := c.commandCount + 1, currentSize := c.currentSize + size })

/-- A `VMDrawCommandDescriptor` has four words. -/
def addDrawCommand : RecordEnv → VMCommandBuffer → RecordReturn × VMCommandBuffer :=
  addCommand .draw 16

def addComputeCommand : RecordEnv → VMCommandBuffer → RecordReturn × VMCommandBuffer :=
  addCommand .dispatch 16

def addResourceBinding (binding : ResourceBinding) (env : RecordEnv) (c : VMCommandBuffer) :
    RecordReturn × VMCommandBuffer :=
  if c.state ≠ .initial then (.notPermitted, c)
  else if env.alloc = false then (.noMemory, c)
  else (.success, if env.room = true then { c with resources := c.resources ++ [binding] } else c)

end VMCommandBuffer

/-! ## Arrays of objects -/

/-- An `OSArray`. When it is full it grows, to a multiple of its increment. -/
structure ObjectArray where
  objects : List Nat
  capacity : Nat
  increment : Nat
  deriving DecidableEq, Repr

namespace ObjectArray

def withCapacity (n : Nat) : ObjectArray := ⟨[], n, if n = 0 then 16 else n⟩

/-- `setObject`, which needs memory only to grow. -/
def setObject (b : Nat) (memory : Bool) (a : ObjectArray) : Bool × ObjectArray :=
  if a.objects.length < a.capacity then (true, { a with objects := a.objects ++ [b] })
  else if memory = true then
    (true,
      { a with objects := a.objects ++ [b],
               capacity := (a.objects.length / a.increment + 1) * a.increment })
  else (false, a)

end ObjectArray

/-! ## The pool -/

/-- The pool and the buffers it has made, with their reference counts. -/
structure VMCommandBufferPool where
  available : ObjectArray
  active : ObjectArray
  maxBuffers : Nat
  buffers : Nat → VMCommandBuffer
  refs : Nat → Nat
  made : Nat

/-- What a call on the pool gets: memory for a new buffer, and for an array that grows. -/
structure BufferEnv where
  buffer : Bool
  array : Bool
  deriving DecidableEq, Repr

namespace VMCommandBufferPool

def init (maxBuffers : Nat) : VMCommandBufferPool where
  available := .withCapacity maxBuffers
  active := .withCapacity maxBuffers
  maxBuffers
  buffers := fun _ => .fresh
  refs := fun _ => 0
  made := 0

def retain (b : Nat) (p : VMCommandBufferPool) : VMCommandBufferPool :=
  { p with refs := RefCount.retain p.refs b }

def release (b : Nat) (p : VMCommandBufferPool) : VMCommandBufferPool :=
  { p with refs := RefCount.release p.refs b }

/-- `VMCommandBuffer::withAccelerator`. The reference is the caller's. -/
def withAccelerator (p : VMCommandBufferPool) : VMCommandBufferPool :=
  { p with
    buffers := Function.update p.buffers p.made .fresh
    refs := RefCount.retain p.refs p.made
    made := p.made + 1 }

/-- `m_available_buffers->setObject`; an array holds a reference to what it takes. -/
def setAvailable (b : Nat) (memory : Bool) (p : VMCommandBufferPool) : VMCommandBufferPool :=
  let r := p.available.setObject b memory
  if r.1 = true then { p with available := r.2 }.retain b else p

/-- `m_active_buffers->setObject`. -/
def setActive (b : Nat) (memory : Bool) (p : VMCommandBufferPool) : VMCommandBufferPool :=
  let r := p.active.setObject b memory
  if r.1 = true then { p with active := r.2 }.retain b else p

/-- `m_available_buffers->removeObject(0)`, where `b` is the first. -/
def removeAvailable (b : Nat) (p : VMCommandBufferPool) : VMCommandBufferPool :=
  { p with available := { p.available with objects := p.available.objects.tail } }.release b

/-- `m_active_buffers->removeObject` at the first place of `b`. -/
def removeActive (b : Nat) (p : VMCommandBufferPool) : VMCommandBufferPool :=
  { p with active := { p.active with objects := p.active.objects.erase b } }.release b

def modifyBuffer (b : Nat) (f : VMCommandBuffer → VMCommandBuffer) (p : VMCommandBufferPool) :
    VMCommandBufferPool :=
  { p with buffers := Function.update p.buffers b (f (p.buffers b)) }

/-- `none` is `kIOReturnNoSpace`; `outBuffer` says that there is a place for the result. -/
def allocateCommandBuffer (outBuffer : Bool) (env : BufferEnv) (p : VMCommandBufferPool) :
    Except IOReturn Nat × VMCommandBufferPool :=
  if outBuffer = false then (.error .badArgument, p)
  else
    match p.available.objects with
    | b :: _ => (.ok b, ((p.retain b).removeAvailable b).setActive b env.array)
    | [] =>
        if p.active.objects.length < p.maxBuffers ∧ env.buffer = true then
          (.ok p.made, p.withAccelerator.setActive p.made env.array)
        else (.error .noSpace, p)

/-- The caller's reference is released with the buffer, and `reset` may refuse. -/
def releaseCommandBuffer (buffer : Option Nat) (memory : Bool) (p : VMCommandBufferPool) :
    IOReturn × VMCommandBufferPool :=
  match buffer with
  | none => (.badArgument, p)
  | some b =>
      let p := if b ∈ p.active.objects then p.removeActive b else p
      (.success, ((p.modifyBuffer b fun c => c.reset.2).setAvailable b memory).release b)

/-- Both arrays let go of their buffers. -/
def resetPool (p : VMCommandBufferPool) : IOReturn × VMCommandBufferPool :=
  (.success,
    { p with
      available := { p.available with objects := [] }
      active := { p.active with objects := [] }
      refs := p.active.objects.foldl RefCount.release
        (p.available.objects.foldl RefCount.release p.refs) })

end VMCommandBufferPool
end VMQemuVGA
