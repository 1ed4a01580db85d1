import VMQemuVGA.Lib.Lookaside
import VMQemuVGA.Lib.Machine
import VMQemuVGA.IOSurface.Store

/-! # `VMIOSurfaceManager`

The surfaces, with the two caches that answer in front of them and the clients
they are shared with. The caches hold bare pointers: an operation may be handed
the address of an object that no longer exists. What it does then is not known,
and `wild` records that it happened. -/

namespace VMQemuVGA

/-! ## The discovery cache -/

/-- A slot of `g_surface_cache` in use. -/
structure DiscoveryEntry where
  surfaceId : Nat
  object : Nat
  lastAccessTime : Nat
  deriving DecidableEq, Repr

/-- `g_surface_cache` and what is kept along with it. -/
structure Discovery where
  entries : List DiscoveryEntry
  totalLookups : Nat
  cacheHits : Nat
  cacheMisses : Nat
  sequentialAccessCount : Nat
  randomAccessCount : Nat
  lastAccessed : Nat
  /-- `g_sequential_prediction_window` -/
  window : Nat
  deriving DecidableEq, Repr

/-- The index of the first of the smallest numbers. -/
def lruIndex (times : List Nat) : Nat :=
  (times.zipIdx.foldl (fun best t => if t.1 < best.1 then t else best) (times.headD 0, 0)).2

namespace Discovery

def start : Discovery := ⟨[], 0, 0, 0, 0, 0, 0, 8⟩

/-- Ids the cache and the dictionary are asked for. -/
def Searched (id : Nat) : Prop := 0 < id ∧ id ≤ 0x7FFFFFFF

instance (id : Nat) : Decidable (Searched id) :=
  inferInstanceAs (Decidable (0 < id ∧ id ≤ 0x7FFFFFFF))

def looked (d : Discovery) : Discovery := { d with totalLookups := inc32 d.totalLookups }

def missed (d : Discovery) : Discovery := { d with cacheMisses := inc32 d.cacheMisses }

/-- The access after its predecessor is sequential. -/
def counted (id : Nat) (d : Discovery) : Discovery :=
  if d.lastAccessed = id - 1 then
    { d with sequentialAccessCount := inc32 d.sequentialAccessCount }
  else { d with randomAccessCount := inc32 d.randomAccessCount }

/-- The first entry of `id` was used. -/
def touched (now id : Nat) (d : Discovery) : Discovery :=
  { d with
    entries := d.entries.modify (d.entries.findIdx fun e => e.surfaceId = id)
      fun e => { e with lastAccessTime := now }
    cacheHits := inc32 d.cacheHits }

/-- After many sequential accesses the next surface enters the cache, too. -/
def prefetched (now id : Nat) (map : Nat → Option Nat) (d : Discovery) : Discovery :=
  if d.sequentialAccessCount > d.randomAccessCount * 2 % u32 ∧ id + 1 < id + d.window ∧
      d.entries.length < 64 then
    match map (id + 1) with
    | none => d
    | some a => { d with entries := d.entries ++ [⟨id + 1, a, now⟩] }
  else d

/-- A new entry, in the place of the least recently used one if need be. -/
def inserted (now id a : Nat) (d : Discovery) : Discovery :=
  if d.entries.length < 64 then { d with entries := d.entries ++ [⟨id, a, now⟩] }
  else
    { d with entries :=
        d.entries.set (lruIndex (d.entries.map DiscoveryEntry.lastAccessTime)) ⟨id, a, now⟩ }

/-- Every 500 lookups the prediction window is adjusted. -/
def adapted (d : Discovery) : Discovery :=
  if d.totalLookups > 0 ∧ d.totalLookups % 500 = 0 then
    if d.cacheHits > d.cacheMisses * 3 % u32 then
      if d.window < 16 then { d with window := d.window + 1 } else d
    else if d.cacheMisses > d.cacheHits * 2 % u32 then
      if d.window > 4 then { d with window := d.window - 1 } else d
    else d
  else d

/-- `findSurface`, over the entries of `m_surface_map`. -/
def findSurface (now id : Nat) (map : Nat → Option Nat) (d : Discovery) : Option Nat × Discovery :=
  if Searched id then
    match d.entries.find? fun e => e.surfaceId = id with
    | some e => (some e.object, { (d.looked.touched now id).counted id with lastAccessed := id })
    | none =>
        match map id with
        | none =>
            (none, { (d.looked.prefetched now id map).missed with lastAccessed := id })
        | some a =>
            (some a, { (((d.looked.prefetched now id map).inserted now id a).counted id).adapted
              with lastAccessed := id })
  else (none, d.looked.missed)

end Discovery

/-! ## The property cache -/

/-- A slot of `g_property_cache` in use. -/
structure PropertyEntry where
  surfaceId : Nat
  descriptor : IOSurfaceDescriptor
  lastAccessTime : Nat
  isValidated : Bool
  needsRefresh : Bool
  deriving DecidableEq, Repr

namespace PropertyEntry

/-- The first entry of `id` that counts. -/
def lookup (id : Nat) (cache : List PropertyEntry) : Option PropertyEntry :=
  cache.find? fun e => e.surfaceId = id && e.isValidated

def modifyFirst (id : Nat) (f : PropertyEntry → PropertyEntry) (cache : List PropertyEntry) :
    List PropertyEntry :=
  cache.modify (cache.findIdx fun e => e.surfaceId = id && e.isValidated) f

def insert (now id : Nat) (d : IOSurfaceDescriptor) (cache : List PropertyEntry) :
    List PropertyEntry :=
  if cache.length < 128 then cache ++ [⟨id, d, now, true, false⟩]
  else cache.set (lruIndex (cache.map lastAccessTime)) ⟨id, d, now, true, false⟩

/-- The part of `getSurfaceDescriptor` behind the surface it has found; `own` is
what that surface says. -/
def serve (now id : Nat) (own : IOSurfaceDescriptor) (cache : List PropertyEntry) :
    IOSurfaceDescriptor × List PropertyEntry :=
  match lookup id cache with
  | none => (own, insert now id own cache)
  | some e =>
      if e.needsRefresh then
        (own, insert now id own (modifyFirst id (fun e => { e with needsRefresh := false }) cache))
      else (e.descriptor, modifyFirst id (fun e => { e with lastAccessTime := now }) cache)

end PropertyEntry

/-! ## Clients and sharing -/

structure ClientInfo where
  surfaceCount : Nat
  active : Bool
  deriving DecidableEq, Repr

structure SurfaceSharing where
  surfaceId : Nat
  ownerClientId : Nat
  sharedClientId : Nat
  active : Bool
  deriving DecidableEq, Repr

structure ClientTable where
  /-- `m_next_client_id` and `m_released_client_ids`; `next` is the id that
  `++m_next_client_id` gives -/
  clientIds : IdPool
  clientMap : Nat → Option ClientInfo
  sharedSurfaces : Option (List SurfaceSharing)

/-- What `registerClient` gets from the kernel. -/
structure ClientEnv where
  /-- `m_clients` and `m_client_map` -/
  tables : Bool
  /-- `IOMalloc` of the record -/
  info : Bool
  /-- `OSData::withBytes` -/
  data : Bool
  /-- `m_client_map` has room or grows -/
  stored : Bool
  /-- the array and the number in `releaseClientId` -/
  number : Bool

namespace ClientTable

def start : ClientTable := ⟨⟨1, []⟩, fun _ => none, none⟩

/-- The entries of `m_shared_surfaces`. -/
def sharings (t : ClientTable) : List SurfaceSharing := t.sharedSurfaces.getD []

def findClient (id : Nat) (t : ClientTable) : Option ClientInfo :=
  if id = 0 then none else t.clientMap id

/-- The id that the next client draws. -/
def nextId (t : ClientTable) : Nat := (t.clientIds.allocate u32).1

def releaseClientId (number : Bool) (id : Nat) (ids : IdPool) : IdPool :=
  if id = 0 then ids else if number then ids.release id else ids

def registerClient (env : ClientEnv) (t : ClientTable) : Except IOReturn Nat × ClientTable :=
  if env.tables = false then (.error .noMemory, t)
  else
    let (id, ids) := t.clientIds.allocate u32
    if env.info = false ∨ env.data = false then
      (.error .noMemory, { t with clientIds := releaseClientId env.number id ids })
    else
      (.ok id, { t with
        clientIds := ids
        clientMap := if env.stored then Function.update t.clientMap id (some ⟨0, true⟩)
          else t.clientMap })

def unregisterClient (number : Bool) (id : Nat) (t : ClientTable) : IOReturn × ClientTable :=
  if id = 0 then (.badArgument, t)
  else
    match t.clientMap id with
    | none => (.notFound, t)
    | some info =>
        if info.surfaceCount > 0 then
          (.success, { t with
            clientMap := Function.update t.clientMap id (some { info with active := false }) })
        else
          (.success, { t with
            clientIds := releaseClientId number id t.clientIds
            clientMap := Function.update t.clientMap id none })

/-- The clients of a list that are there and for which the entry is allocated. -/
def granted (targets : List (Nat × Bool)) (t : ClientTable) : List Nat :=
  (targets.filter fun p => (t.findClient p.1).isSome && p.2).map Prod.fst

/-- The loop of `shareSurface`. -/
def share (id : Nat) (targets : List (Nat × Bool)) (t : ClientTable) : ClientTable :=
  { t with
    sharedSurfaces := some (t.sharings ++ (t.granted targets).map fun c => ⟨id, 0, c, true⟩) }

/-- The entry says that `client` may use surface `id`. -/
def grants (client id : Nat) (e : SurfaceSharing) : Bool :=
  e.active && e.surfaceId = id && (e.ownerClientId = client || e.sharedClientId = client)

/-- The first entry that says so no longer does. -/
def revoke (client id : Nat) (t : ClientTable) : ClientTable :=
  { t with
    sharedSurfaces := t.sharedSurfaces.map fun entries =>
      entries.modify (entries.findIdx (grants client id)) fun e => { e with active := false } }

def unshareSurface (id client : Nat) (t : ClientTable) : IOReturn × ClientTable :=
  if id = 0 ∨ client = 0 then (.badArgument, t)
  else if t.sharings.any (grants client id) then (.success, t.revoke client id)
  else (.notFound, t)

end ClientTable

/-! ## The manager -/

structure IOSurfaceConfig where
  /-- `m_supports_yuv_surfaces` -/
  yuv : Bool
  /-- `updateSurfaceDescriptor` finds the records it takes the objects for -/
  inPlace : Bool

structure IOSurfaceManager where
  store : SurfaceStore
  discovery : Discovery
  /-- `g_property_cache` -/
  properties : List PropertyEntry
  clients : ClientTable
  /-- an object was used that does not exist -/
  wild : Bool

namespace IOSurfaceManager

def start : IOSurfaceManager := ⟨.start, .start, [], .start, false⟩

def findSurface (now id : Nat) (m : IOSurfaceManager) : Option Nat × IOSurfaceManager :=
  let r := m.discovery.findSurface now id m.store.surfaceMap
  (r.1, { m with discovery := r.2 })

/-- An operation on the record of the surface with an id. -/
def onSurface {β : Type} (now id : Nat) (stop : IOReturn → β)
    (op : Nat → SurfaceStore → β × SurfaceStore) (m : IOSurfaceManager) : β × IOSurfaceManager :=
  match m.findSurface now id with
  | (none, m) => (stop .notFound, m)
  | (some a, m) =>
      if m.store.live a then ((op a m.store).1, { m with store := (op a m.store).2 })
      else (stop .error, { m with wild := true })

def createSurface (cfg : IOSurfaceConfig) (d : IOSurfaceDescriptor) (env : CreateEnv)
    (m : IOSurfaceManager) : Except IOReturn Nat × IOSurfaceManager :=
  ((m.store.createSurface cfg.yuv d env).1,
    { m with store := (m.store.createSurface cfg.yuv d env).2 })

def destroySurface (now id : Nat) (number : Bool) (m : IOSurfaceManager) :
    IOReturn × IOSurfaceManager :=
  if id = 0 then (.badArgument, m)
  else m.onSurface now id (fun r => r) fun a s => s.destroySurface number id a

def lockSurface (now id : Nat) (readOnly : Bool) (m : IOSurfaceManager) :
    Except IOReturn Nat × IOSurfaceManager :=
  m.onSurface now id .error fun a s => s.lockSurface now readOnly a

def unlockSurface (now id : Nat) (m : IOSurfaceManager) : IOReturn × IOSurfaceManager :=
  m.onSurface now id (fun r => r) fun a s => s.unlockSurface now a

def lockSurfacePlane (now id plane : Nat) (m : IOSurfaceManager) :
    Except IOReturn Nat × IOSurfaceManager :=
  if plane ≥ 4 then (.error .badArgument, m)
  else m.onSurface now id .error fun a s => s.lockSurfacePlane now plane a

def unlockSurfacePlane (now id plane : Nat) (m : IOSurfaceManager) : IOReturn × IOSurfaceManager :=
  if plane ≥ 4 then (.badArgument, m)
  else m.onSurface now id (fun r => r) fun a s => s.unlockSurfacePlane now plane a

def getSurfaceDescriptor (cfg : IOSurfaceConfig) (now id : Nat) (m : IOSurfaceManager) :
    Except IOReturn IOSurfaceDescriptor × IOSurfaceManager :=
  if id = 0 then (.error .badArgument, m)
  else
    match m.findSurface now id with
    | (none, m) => (.error .notFound, m)
    | (some a, m) =>
        if m.store.live a then
          let r := PropertyEntry.serve now id ((m.store.records a).descriptor.describe cfg.yuv)
            m.properties
          (.ok r.1, { m with properties := r.2 })
        else (.error .error, { m with wild := true })

/-- The second lookup follows the first; both records are read. -/
def convertSurfaceFormat (cfg : IOSurfaceConfig) (now now' source dest : Nat)
    (format : PixelFormat) (m : IOSurfaceManager) : IOReturn × IOSurfaceManager :=
  if source = 0 ∨ dest = 0 then (.badArgument, m)
  else if source = dest then (.success, m)
  else if format.validate cfg.yuv ≠ .success then (format.validate cfg.yuv, m)
  else
    match m.findSurface now source with
    | (none, m) => (.notFound, m)
    | (some a, m) =>
        match m.findSurface now' dest with
        | (none, m) => (.notFound, m)
        | (some b, m) =>
            if m.store.live a && m.store.live b then
              let r := m.store.convertSurfaceFormat now' format a b
              (r.1, { m with store := r.2 })
            else (.error, { m with wild := true })

def updateSurfaceDescriptor (cfg : IOSurfaceConfig) (id : Nat) (d : IOSurfaceDescriptor)
    (buffer : Option Nat) (m : IOSurfaceManager) : IOReturn × IOSurfaceManager :=
  let r := m.store.updateSurfaceDescriptor cfg.inPlace id d buffer
  (r.1, { m with store := r.2 })

def evictUnusedSurfaces (now limit : Nat) (enough : Bool) (m : IOSurfaceManager) :
    IOReturn × IOSurfaceManager :=
  let r := m.store.evictUnusedSurfaces now limit enough
  (r.1, { m with store := r.2 })

/-- `shouldEvictSurface`, for the record a lookup has found. -/
def shouldEvict (now : Nat) (v : VMIOSurface) : Bool :=
  !v.busy && decide (v.refCount ≤ 1) && decide (sub64 now v.lastAccessTime > 10000000000)

/-- The loop of `compactSurfaceMemory`, from the end of the array. A surface it
would destroy makes it wait for the lock it holds: then it does not return. -/
def compact (clock : Nat → Nat) : List Nat → IOSurfaceManager → Option IOSurfaceManager
  | [], m => some m
  | a :: rest, m =>
      let now := clock rest.length
      match m.findSurface now (m.store.records a).surfaceId with
      | (none, m) => compact clock rest m
      | (some b, m) =>
          if m.store.live b then
            if shouldEvict now (m.store.records b) && (m.store.records a).lockCount = 0 &&
                decide ((m.store.records a).refCount ≤ 1) then none
            else compact clock rest m
          else compact clock rest { m with wild := true }

def compactSurfaceMemory (clock : Nat → Nat) (m : IOSurfaceManager) : Option IOSurfaceManager :=
  compact clock m.store.surfaces.reverse m

def registerClient (env : ClientEnv) (m : IOSurfaceManager) :
    Except IOReturn Nat × IOSurfaceManager :=
  ((m.clients.registerClient env).1, { m with clients := (m.clients.registerClient env).2 })

def unregisterClient (number : Bool) (id : Nat) (m : IOSurfaceManager) :
    IOReturn × IOSurfaceManager :=
  ((m.clients.unregisterClient number id).1,
    { m with clients := (m.clients.unregisterClient number id).2 })

/-- `descId` is the id in the sharing descriptor, `targets` its list of clients,
each with the outcome of the allocations for it; `array` is that of
`m_shared_surfaces`. -/
def shareSurface (now id descId : Nat) (targets : Option (List (Nat × Bool))) (array : Bool)
    (m : IOSurfaceManager) : IOReturn × IOSurfaceManager :=
  if id = 0 then (.badArgument, m)
  else if descId ≠ id then (.badArgument, m)
  else
    match m.findSurface now id with
    | (none, m) => (.notFound, m)
    | (some _, m) =>
        if m.clients.sharedSurfaces = none ∧ array = false then (.noMemory, m)
        else (.success, { m with clients := m.clients.share id (targets.getD []) })

def unshareSurface (id client : Nat) (m : IOSurfaceManager) : IOReturn × IOSurfaceManager :=
  ((m.clients.unshareSurface id client).1,
    { m with clients := (m.clients.unshareSurface id client).2 })

def canClientAccessSurface (now client id : Nat) (m : IOSurfaceManager) : Bool × IOSurfaceManager :=
  if client = 0 ∨ id = 0 then (false, m)
  else if m.clients.findClient client = none then (false, m)
  else
    match m.findSurface now id with
    | (none, m) => (false, m)
    | (some _, m) => (m.clients.sharings.any (ClientTable.grants client id), m)

end IOSurfaceManager

/-! ## Runs -/

inductive ManagerCall where
  | createSurface (d : IOSurfaceDescriptor) (env : CreateEnv)
  | destroySurface (now id : Nat) (number : Bool)
  | findSurface (now id : Nat)
  | getSurfaceDescriptor (now id : Nat)
  | convertSurfaceFormat (now now' source dest : Nat) (format : PixelFormat)
  | lockSurface (now id : Nat) (readOnly : Bool)
  | unlockSurface (now id : Nat)
  | lockSurfacePlane (now id plane : Nat)
  | unlockSurfacePlane (now id plane : Nat)
  | updateSurfaceDescriptor (id : Nat) (d : IOSurfaceDescriptor) (buffer : Option Nat)
  | evictUnusedSurfaces (now limit : Nat) (enough : Bool)
  | compactSurfaceMemory (clock : Nat → Nat)
  | registerClient (env : ClientEnv)
  | unregisterClient (id : Nat) (number : Bool)
  | shareSurface (now id descId : Nat) (targets : Option (List (Nat × Bool))) (array : Bool)
  | unshareSurface (id client : Nat)
  | canClientAccessSurface (now client id : Nat)

namespace IOSurfaceManager

/-- The addresses the kernel hands out are not in use. -/
def Possible (cfg : IOSurfaceConfig) (m : IOSurfaceManager) : ManagerCall → Prop
  | .createSurface _ env =>
      (∀ b ∈ env.buffer, m.store.buffers b = none) ∧ ∀ a ∈ env.data, m.store.live a = false
  | .updateSurfaceDescriptor id _ buffer =>
      ∀ b ∈ buffer,
        SurfaceStore.freeBuffer m.store.buffers (m.store.replaced cfg.inPlace id) b = none
  | _ => True

instance (cfg : IOSurfaceConfig) (m : IOSurfaceManager) : ∀ c, Decidable (m.Possible cfg c)
  | .createSurface _ env =>
      inferInstanceAs (Decidable ((∀ b ∈ env.buffer, m.store.buffers b = none) ∧
        ∀ a ∈ env.data, m.store.live a = false))
  | .updateSurfaceDescriptor id _ buffer =>
      inferInstanceAs (Decidable (∀ b ∈ buffer,
        SurfaceStore.freeBuffer m.store.buffers (m.store.replaced cfg.inPlace id) b = none))
  | .destroySurface .. | .findSurface .. | .getSurfaceDescriptor .. | .convertSurfaceFormat ..
  | .lockSurface .. | .unlockSurface .. | .lockSurfacePlane .. | .unlockSurfacePlane ..
  | .evictUnusedSurfaces .. | .compactSurfaceMemory .. | .registerClient ..
  | .unregisterClient .. | .shareSurface .. | .unshareSurface .. | .canClientAccessSurface .. =>
      isTrue trivial

/-- The state a call leaves behind, where it returns. -/
def after (cfg : IOSurfaceConfig) (m : IOSurfaceManager) : ManagerCall → Option IOSurfaceManager
  | .createSurface d env => some (m.createSurface cfg d env).2
  | .destroySurface now id number => some (m.destroySurface now id number).2
  | .findSurface now id => some (m.findSurface now id).2
  | .getSurfaceDescriptor now id => some (m.getSurfaceDescriptor cfg now id).2
  | .convertSurfaceFormat now now' source dest format =>
      some (m.convertSurfaceFormat cfg now now' source dest format).2
  | .lockSurface now id readOnly => some (m.lockSurface now id readOnly).2
  | .unlockSurface now id => some (m.unlockSurface now id).2
  | .lockSurfacePlane now id plane => some (m.lockSurfacePlane now id plane).2
  | .unlockSurfacePlane now id plane => some (m.unlockSurfacePlane now id plane).2
  | .updateSurfaceDescriptor id d buffer => some (m.updateSurfaceDescriptor cfg id d buffer).2
  | .evictUnusedSurfaces now limit enough => some (m.evictUnusedSurfaces now limit enough).2
  | .compactSurfaceMemory clock => m.compactSurfaceMemory clock
  | .registerClient env => some (m.registerClient env).2
  | .unregisterClient id number => some (m.unregisterClient number id).2
  | .shareSurface now id descId targets array =>
      some (m.shareSurface now id descId targets array).2
  | .unshareSurface id client => some (m.unshareSurface id client).2
  | .canClientAccessSurface now client id => some (m.canClientAccessSurface now client id).2

def step (cfg : IOSurfaceConfig) (m : IOSurfaceManager) (c : ManagerCall) :
    Option IOSurfaceManager :=
  if m.Possible cfg c then m.after cfg c else none

def machine (cfg : IOSurfaceConfig) : Machine IOSurfaceManager ManagerCall where
  init := start
  step := step cfg

end IOSurfaceManager

end VMQemuVGA
