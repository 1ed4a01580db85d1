import VMQemuVGA.Lib.Locked
import VMQemuVGA.IOKit

/-! # The graphics device control service

`VMVirtIOAGDC` with every public operation and the selectors of its user client, as far
as they read and write its fields. `m_lock` is an `IOLock`, which is not recursive, and
some operations call others that take it. What goes into the registry is left out. -/

namespace VMQemuVGA

/-! ## Records -/

structure AGDCDisplayMetrics where
  version : UInt32
  width : UInt32
  height : UInt32
  refreshRate : UInt32
  pixelFormat : UInt32
  colorDepth : UInt32
  pixelClock : UInt32
  flags : UInt32
  deriving DecidableEq, Repr

structure AGDCServiceInfo where
  version : UInt32
  serviceType : UInt32
  deviceId : UInt32
  vendorId : UInt32
  capabilities : UInt32
  serviceName : String
  deriving DecidableEq, Repr

/-- What `getAGDCInformation` copies out, as much of it as the buffer takes. -/
structure AGDCInformation where
  version : UInt32
  vendorId : UInt32
  deviceId : UInt32
  agdcVersion : UInt32
  capabilities : UInt32
  status : UInt32
  deriving DecidableEq, Repr

def kAGDCServiceComposite : UInt32 := 3
def kAGDCCapDisplayMetrics : UInt32 := 0x00000001
def kAGDCCapModeSwitch : UInt32 := 0x00000002
def kAGDCCapPowerManagement : UInt32 := 0x00000004
def kAGDCCap3DAcceleration : UInt32 := 0x00000008
def kAGDCCapVirtualGPU : UInt32 := 0x00000010

/-- The capabilities in the service info and out of `getAGDCCapabilities`. -/
def agdcCapabilities : UInt32 :=
  kAGDCCapDisplayMetrics ||| kAGDCCapModeSwitch ||| kAGDCCapPowerManagement |||
    kAGDCCap3DAcceleration ||| kAGDCCapVirtualGPU

/-- `sizeof(AGDCDisplayMetrics)`, `sizeof(AGDCServiceInfo)` and
`sizeof(AGDCInformation)`. -/
def agdcDisplayMetricsSize : Nat := 64
def agdcServiceInfoSize : Nat := 148
def agdcInformationSize : Nat := 64

structure VMVirtIOAGDC where
  /-- `m_framebuffer` and `m_gpu_device` are set -/
  framebuffer : Bool
  gpuDevice : Bool
  agdcRegistered : Bool
  displayMetricsValid : Bool
  displayMetrics : AGDCDisplayMetrics
  serviceInfo : AGDCServiceInfo
  agdcServiceId : UInt32
  powerStateOn : Bool
  deriving DecidableEq, Repr

/-- The class of the provider `start` is called with. -/
inductive AgdcProvider where
  | framebuffer
  | gpuDevice
  | other
  deriving DecidableEq, Repr

namespace VMVirtIOAGDC

def init : VMVirtIOAGDC where
  framebuffer := false
  gpuDevice := false
  agdcRegistered := false
  displayMetricsValid := false
  displayMetrics := ⟨0, 0, 0, 0, 0, 0, 0, 0⟩
  serviceInfo := ⟨0, 0, 0, 0, 0, ""⟩
  agdcServiceId := 0
  powerStateOn := false

/-! ## Operations -/

variable (s : VMVirtIOAGDC)

def populateServiceInfo : VMVirtIOAGDC :=
  { s with
    serviceInfo :=
      ⟨1, kAGDCServiceComposite, 0x1050, 0x1AF4, agdcCapabilities, "VMVirtIOGPU AGDC Service"⟩ }

def initializeAGDCService : Traced VMVirtIOAGDC IOReturn :=
  .locked <| .plain
    { s.populateServiceInfo with
      displayMetrics :=
        ⟨1, 1024, 768, 60, 0x20, 32, 65000, kAGDCCapDisplayMetrics ||| kAGDCCap3DAcceleration⟩
      displayMetricsValid := true
      agdcServiceId := 0x1AF4 } .success

def registerWithGPUWrangler : Traced VMVirtIOAGDC IOReturn :=
  .plain { s with agdcRegistered := true } .success

def unregisterFromGPUWrangler : Traced VMVirtIOAGDC IOReturn :=
  .locked <| .plain { s with agdcRegistered := false } .success

def updateDisplayMetrics : Traced VMVirtIOAGDC IOReturn :=
  .locked <| .plain
    { s with
      displayMetrics :=
        { s.displayMetrics with flags := s.displayMetrics.flags ||| kAGDCCapDisplayMetrics } }
    .success

/-- `superStarts`: `IOService::start` returned true. -/
def start (superStarts : Bool) (provider : AgdcProvider) : Traced VMVirtIOAGDC Bool :=
  if !superStarts then .plain s false
  else
    let s :=
      { s with
        framebuffer := decide (provider = .framebuffer)
        gpuDevice := decide (provider = .gpuDevice) }
    if provider = .other then .plain s false
    else
      (initializeAGDCService s).andThen fun s _ =>
        (registerWithGPUWrangler s).andThen fun s _ => .plain s true

def stop : Traced VMVirtIOAGDC Unit :=
  if s.agdcRegistered then s.unregisterFromGPUWrangler.done else .plain s ()

def getDisplayMetrics (metrics : Bool) :
    Traced VMVirtIOAGDC (IOReturn × Option AGDCDisplayMetrics) :=
  if !metrics then .plain s (.badArgument, none)
  else if !s.displayMetricsValid then .locked <| .plain s (.notReady, none)
  else
    .locked <| s.updateDisplayMetrics.andThen fun s _ =>
      .plain s (.success, some s.displayMetrics)

def setDisplayMode (width height refreshRate : UInt32) : Traced VMVirtIOAGDC IOReturn :=
  .locked <| .plain
    { s with
      displayMetrics :=
        { s.displayMetrics with
          width := width
          height := height
          refreshRate := refreshRate
          pixelClock := width * height * refreshRate / 1000 } }
    .success

def getServiceInfo (info : Bool) : Traced VMVirtIOAGDC (IOReturn × Option AGDCServiceInfo) :=
  if !info then .plain s (.badArgument, none)
  else .locked <| .plain s (.success, some s.serviceInfo)

def enableAGDCService (enable : Bool) : Traced VMVirtIOAGDC IOReturn :=
  if enable && !s.agdcRegistered then
    .locked <| s.registerWithGPUWrangler.andThen fun s result => .plain s result
  else if !enable && s.agdcRegistered then
    .locked <| s.unregisterFromGPUWrangler.andThen fun s result => .plain s result
  else .locked <| .plain s .success

def registerAGDCService (serviceType : UInt32) : Traced VMVirtIOAGDC IOReturn :=
  (Traced.locked <| .plain
    { s with serviceInfo := { s.serviceInfo with serviceType := serviceType } } ()).andThen
      fun s _ => s.registerWithGPUWrangler

def getAGDCCapabilities (capabilities : Bool) : Traced VMVirtIOAGDC (IOReturn × Option UInt32) :=
  if !capabilities then .plain s (.badArgument, none)
  else .plain s (.success, some agdcCapabilities)

def getAGDCDeviceInfo (vendorId deviceId : Bool) :
    Traced VMVirtIOAGDC (IOReturn × Option (UInt32 × UInt32)) :=
  if !vendorId || !deviceId then .plain s (.badArgument, none)
  else .plain s (.success, some (0x1AF4, 0x1050))

def requestDisplayBounds (width height : Bool) :
    Traced VMVirtIOAGDC (IOReturn × Option (UInt32 × UInt32)) :=
  if !width || !height then .plain s (.badArgument, none)
  else .locked <| .plain s (.success, some (s.displayMetrics.width, s.displayMetrics.height))

def notifyDisplayChange (_changeType : UInt32) : Traced VMVirtIOAGDC IOReturn :=
  s.updateDisplayMetrics.andThen fun s _ => .plain s .success

def validateDisplayConfiguration (width height : UInt32) : Traced VMVirtIOAGDC IOReturn :=
  if width < 640 ∨ 4096 < width ∨ height < 480 ∨ 3072 < height then .plain s .badArgument
  else .plain s .success

/-- `superRet`: what `IOService::setPowerState` returned. -/
def setPowerState (powerState : Nat) (superRet : IOReturn) : Traced VMVirtIOAGDC IOReturn :=
  (Traced.locked <| .plain { s with powerStateOn := decide (powerState ≠ 0) } ()).andThen
    fun s _ => .plain s superRet

/-- `bufferSize`: what `buffer_size` points to, if it and `buffer` are given. -/
def getAGDCDebugInfo (bufferSize : Option Nat) :
    Traced VMVirtIOAGDC (IOReturn × Option AGDCServiceInfo) :=
  match bufferSize with
  | none => .plain s (.badArgument, none)
  | some size =>
      if size < agdcServiceInfoSize then .plain s (.badArgument, none)
      else .locked <| .plain s (.success, some s.serviceInfo)

/-- The bytes copied, and the record they are the first of. -/
def getAGDCInformation (infoBuffer : Bool) (bufferSize : UInt32) :
    Traced VMVirtIOAGDC (IOReturn × Option (Nat × AGDCInformation)) :=
  if !infoBuffer && decide (0 < bufferSize) then .plain s (.badArgument, none)
  else if bufferSize = 0 then .plain s (.success, none)
  else
    .locked <| .plain s (.success,
      some (min bufferSize.toNat agdcInformationSize,
        ⟨1, 0x1AF4, 0x1050, 1, kAGDCCapDisplayMetrics ||| kAGDCCap3DAcceleration, 1⟩))

def acquireMap (map : Bool) : Traced VMVirtIOAGDC IOReturn :=
  if !map then .plain s .badArgument else .plain s .success

def releaseMap : Traced VMVirtIOAGDC IOReturn := .plain s .success

def locateServiceDependencies : Traced VMVirtIOAGDC IOReturn :=
  if !s.framebuffer && !s.gpuDevice then .plain s .notReady else .plain s .success

end VMVirtIOAGDC

/-! ## Calls -/

inductive AgdcOp where
  | start (superStarts : Bool) (provider : AgdcProvider)
  | stop
  | getDisplayMetrics (metrics : Bool)
  | setDisplayMode (width height refreshRate : UInt32)
  | getServiceInfo (info : Bool)
  | enableAGDCService (enable : Bool)
  | registerAGDCService (serviceType : UInt32)
  | getAGDCCapabilities (capabilities : Bool)
  | getAGDCDeviceInfo (vendorId deviceId : Bool)
  | requestDisplayBounds (width height : Bool)
  | notifyDisplayChange (changeType : UInt32)
  | validateDisplayConfiguration (width height : UInt32)
  | setPowerState (powerState : Nat) (superRet : IOReturn)
  | getAGDCDebugInfo (bufferSize : Option Nat)
  | getAGDCInformation (infoBuffer : Bool) (bufferSize : UInt32)
  | acquireMap (map : Bool)
  | releaseMap
  | locateServiceDependencies
  deriving DecidableEq, Repr

/-- A call of a started user client. `dispatched`: `IOUserClient::externalMethod` found
the counts as the table of the selectors has them. -/
structure AgdcRequest where
  selector : Nat
  dispatched : Bool
  scalarInput : List UInt64
  scalarOutputCount : Nat
  structureOutput : Bool
  structureOutputSize : UInt32
  deriving DecidableEq, Repr

/-- The operation the handler of the selector calls; `none` where it returns at once. -/
def AgdcRequest.forwarded (r : AgdcRequest) : Option AgdcOp :=
  if !r.dispatched then none
  else
    match r.selector with
    | 0 =>
        if !r.structureOutput || decide (r.structureOutputSize.toNat < agdcDisplayMetricsSize) then
          none
        else some (.getDisplayMetrics true)
    | 1 =>
        match r.scalarInput with
        | width :: height :: refreshRate :: _ =>
            some (.setDisplayMode width.toUInt32 height.toUInt32 refreshRate.toUInt32)
        | _ => none
    | 2 =>
        if !r.structureOutput || decide (r.structureOutputSize.toNat < agdcServiceInfoSize) then
          none
        else some (.getServiceInfo true)
    | 3 => if r.scalarOutputCount < 1 then none else some (.getAGDCCapabilities true)
    | 4 =>
        if !r.structureOutput || decide (r.structureOutputSize.toNat < 32) then none
        else some (.getAGDCInformation true r.structureOutputSize)
    | _ => none

inductive AgdcCall where
  | service (op : AgdcOp)
  | client (request : AgdcRequest)
  deriving DecidableEq, Repr

/-- What the call comes to. -/
def AgdcCall.op : AgdcCall → Option AgdcOp
  | .service op => some op
  | .client request => request.forwarded

namespace VMVirtIOAGDC

def perform (s : VMVirtIOAGDC) : AgdcOp → Traced VMVirtIOAGDC Unit
  | .start superStarts provider => (s.start superStarts provider).done
  | .stop => s.stop
  | .getDisplayMetrics metrics => (s.getDisplayMetrics metrics).done
  | .setDisplayMode width height refreshRate => (s.setDisplayMode width height refreshRate).done
  | .getServiceInfo info => (s.getServiceInfo info).done
  | .enableAGDCService enable => (s.enableAGDCService enable).done
  | .registerAGDCService serviceType => (s.registerAGDCService serviceType).done
  | .getAGDCCapabilities capabilities => (s.getAGDCCapabilities capabilities).done
  | .getAGDCDeviceInfo vendorId deviceId => (s.getAGDCDeviceInfo vendorId deviceId).done
  | .requestDisplayBounds width height => (s.requestDisplayBounds width height).done
  | .notifyDisplayChange changeType => (s.notifyDisplayChange changeType).done
  | .validateDisplayConfiguration width height => (s.validateDisplayConfiguration width height).done
  | .setPowerState powerState superRet => (s.setPowerState powerState superRet).done
  | .getAGDCDebugInfo bufferSize => (s.getAGDCDebugInfo bufferSize).done
  | .getAGDCInformation infoBuffer bufferSize => (s.getAGDCInformation infoBuffer bufferSize).done
  | .acquireMap map => (s.acquireMap map).done
  | .releaseMap => s.releaseMap.done
  | .locateServiceDependencies => s.locateServiceDependencies.done

end VMVirtIOAGDC
end VMQemuVGA
