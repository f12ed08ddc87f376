import Omni.Machine.Info

/-!
# The pollers of `poll.go`

Each `machinePollFunction` mutates `*Info` in place and returns an `error`; here it is a
function from the `Remote` it reads and the `Info` it starts from to the `Info` it leaves
behind and the error it returns (`none` is `nil`).  Writes made before an error stay in
`Info`, as they do in Go.

The definitions follow the Go bodies statement by statement: the list pollers reset
their slice before the scan and `append` in the callback, `pollAddresses` rebuilds
`Addresses` inside the callback of each matching `NodeAddress`, and `pollExtensions`
stores a fresh schematic before it calls `talos.GetSchematicID`.  The registry
`allPollers` and the dispatcher `poll` close the module.
-/

namespace Omni
namespace Machine

open Net

/-- `forEachResource`, modelled from the spec: the callback runs on each delivered
resource in order, the first error a callback returns ends the scan, and a scan that
runs through its items returns its own fault. -/
def forEachResource {α σ : Type} (scan : Scan α) (callback : α → σ → σ × Option Error)
    (s : σ) : σ × Option Error :=
  loop scan.items s
where
  /-- The iteration over the delivered resources. -/
  loop : List α → σ → σ × Option Error
    | [], s => (s, scan.fault)
    | r :: rs, s =>
      match callback r s with
      | (s', some err) => (s', some err)
      | (s', none) => loop rs s'

/-- `pollVersion`.  A failed call has a nil response, whose `GetMessages()` is empty, so
an `Unimplemented` failure returns `nil` without a write. -/
def pollVersion (remote : Remote) (info : Info) : Info × Option Error :=
  match remote.version with
  | .error err =>
    if statusCode err ≠ codeUnimplemented then (info, some err) else (info, none)
  | .ok versionResp =>
    (versionResp.messages.foldl
      (fun info msg => { info with talosVersion := some msg.tag, arch := some msg.arch })
      info, none)

/-- `pollHostname`. -/
def pollHostname (remote : Remote) (info : Info) : Info × Option Error :=
  forEachResource remote.hostnameStatuses
    (fun r info => ({ info with hostname := some r.hostname, domainname := some r.domainname }, none))
    info

/-- `filterAddresses`. -/
def filterAddresses (maintenanceMode : Bool) : NodeAddress → Bool :=
  if maintenanceMode then fun r => r.id == nodeAddressCurrentID
  else fun r => r.id == filteredNodeAddressID nodeAddressCurrentID nodeAddressFilterNoK8s

/-- `pollAddresses`: the matching `NodeAddress` rebuilds `Addresses` without the
SideroLink addresses. -/
def pollAddresses (remote : Remote) (info : Info) : Info × Option Error :=
  forEachResource remote.nodeAddresses
    (fun r info =>
      let skip :=
        if info.maintenanceMode then r.id ≠ nodeAddressCurrentID
        else r.id ≠ filteredNodeAddressID nodeAddressCurrentID nodeAddressFilterNoK8s
      if skip then (info, none)
      else
        (r.addresses.foldl
          (fun info addr =>
            if isULA addr.addr ulaSideroLink then info
            else { info with addresses := info.addresses ++ [addr.toString] })
          { info with addresses := [] }, none))
    info

/-- `filterRoutes`. -/
def filterRoutes (r : RouteStatus) : Bool :=
  r.destination.isZero && r.gateway.isValid && r.scope == scopeGlobal

/-- `pollRoutes`. -/
def pollRoutes (remote : Remote) (info : Info) : Info × Option Error :=
  forEachResource remote.routeStatuses
    (fun r info =>
      if r.destination.isZero && r.gateway.isValid && r.scope == scopeGlobal then
        ({ info with defaultGateways := info.defaultGateways ++ [r.gateway.toString] }, none)
      else (info, none))
    { info with defaultGateways := [] }

/-- `filterNetworkLinks`. -/
def filterNetworkLinks (r : LinkStatus) : Bool := r.physical

/-- Go's conversion `uint32(x)` of an `int`: the value modulo `2^32`. -/
def goUint32 (x : Int) : UInt32 := (x % 4294967296).toNat.toUInt32

/-- The entry `pollNetworkLinks` appends for a link. -/
def networkLinkStatus (r : LinkStatus) : NetworkLinkStatus where
  linuxName := r.id
  hardwareAddress := hardwareAddrString r.hardwareAddr
  speedMbps := goUint32 r.speedMegabits
  linkUp := r.linkState
  description := r.vendor ++ " " ++ r.product

/-- `pollNetworkLinks`. -/
def pollNetworkLinks (remote : Remote) (info : Info) : Info × Option Error :=
  forEachResource remote.linkStatuses
    (fun r info =>
      if !r.physical then (info, none)
      else ({ info with networkLinks := info.networkLinks ++ [networkLinkStatus r] }, none))
    { info with networkLinks := [] }

/-- The entry `pollProcessors` appends for a processor. -/
def processorStatus (r : Processor) : ProcessorStatus where
  coreCount := r.coreCount
  threadCount := r.threadCount
  frequency := r.maxSpeed
  manufacturer := r.manufacturer
  description := r.manufacturer ++ " " ++ r.productName

/-- `pollProcessors`. -/
def pollProcessors (remote : Remote) (info : Info) : Info × Option Error :=
  forEachResource remote.processors
    (fun r info =>
      if r.coreCount == 0 || r.maxSpeed == 0 then (info, none)
      else ({ info with processors := info.processors ++ [processorStatus r] }, none))
    { info with processors := [] }

/-- The entry `pollMemory` appends for a memory module. -/
def memoryModuleStatus (r : MemoryModule) : MemoryModuleStatus where
  sizeMb := r.size
  description := r.manufacturer

/-- `pollMemory`. -/
def pollMemory (remote : Remote) (info : Info) : Info × Option Error :=
  forEachResource remote.memoryModules
    (fun r info =>
      if r.size == 0 then (info, none)
      else ({ info with memoryModules := info.memoryModules ++ [memoryModuleStatus r] }, none))
    { info with memoryModules := [] }

/-- The value `pollPlatformMetadata` stores for a platform metadata resource. -/
def platformMetadataStatus (r : PlatformMetadata) : PlatformMetadataStatus where
  platform := r.platform
  hostname := r.hostname
  region := r.region
  zone := r.zone
  instanceType := r.instanceType
  instanceId := r.instanceID
  providerId := r.providerID
  spot := r.spot

/-- `pollPlatformMetadata`. -/
def pollPlatformMetadata (remote : Remote) (info : Info) : Info × Option Error :=
  forEachResource remote.platformMetadata
    (fun r info => ({ info with platformMetadata := some (platformMetadataStatus r) }, none))
    info

/-- The entry `pollDisks` appends for a disk. -/
def blockDevice (disk : Disk) : BlockDevice where
  size := disk.size
  model := disk.model
  linuxName := disk.deviceName
  name := disk.name
  serial := disk.serial
  uuid := disk.uuid
  wwid := disk.wwid
  type := disk.type
  busPath := disk.busPath
  systemDisk := disk.systemDisk

/-- `pollDisks`: `Blockdevices` is reset before the call. -/
def pollDisks (remote : Remote) (info : Info) : Info × Option Error :=
  let info := { info with blockdevices := [] }
  match remote.disks with
  | .error err => (info, some err)
  | .ok disksResp =>
    (disksResp.messages.foldl
      (fun info msg =>
        msg.disks.foldl
          (fun info disk => { info with blockdevices := info.blockdevices ++ [blockDevice disk] })
          info)
      info, none)

/-- The image labels of a parsed blob: `Labels`, or `LegacyLabels` when `Labels` is nil. -/
def ImageLabels.chosen (imageLabels : ImageLabels) : Option StrMap :=
  match imageLabels.labels with
  | none => imageLabels.legacyLabels
  | some labels => some labels

theorem ImageLabels.chosen_eq_or (imageLabels : ImageLabels) :
    imageLabels.chosen = imageLabels.labels.or imageLabels.legacyLabels := by
  unfold ImageLabels.chosen
  cases imageLabels.labels <;> rfl

/-- The mask of `pollMeta`: every key of the machine labels is deleted from the image
labels when both maps are non-nil. -/
def maskLabels : Option StrMap → Option MachineLabels → Option StrMap
  | some labels, some machineLabels =>
    some (machineLabels.labels.keys.foldl (fun labels k => labels.erase k) labels)
  | labels, _ => labels

/-- `pollMeta`. -/
def pollMeta (omnimeta : Omnimeta) (remote : Remote) (info : Info) : Info × Option Error :=
  forEachResource remote.metaKeys
    (fun metaKey info =>
      if metaKey.id ≠ metaKeyTagToID omnimeta.labelsMeta then (info, none)
      else
        match omnimeta.parseLabels metaKey.value with
        | .error err => (info, some err)
        | .ok imageLabels =>
          ({ info with imageLabels := maskLabels imageLabels.chosen info.machineLabels }, none))
    info

/-- `pollExtensions`: the fresh schematic is stored before `talos.GetSchematicID` runs,
and `Id` takes the returned string whatever the error. -/
def pollExtensions (remote : Remote) (info : Info) : Info × Option Error :=
  let (id, err) := remote.schematicID
  match err with
  | none => ({ info with schematic := some { id := id, invalid := false } }, none)
  | some err =>
    if err = .invalidSchematic then ({ info with schematic := some { id := id, invalid := true } }, none)
    else ({ info with schematic := some { id := id, invalid := false } }, some err)

/-- The poller function a name of `allPollers` stands for. -/
def PollerName.run (omnimeta : Omnimeta) : PollerName → Remote → Info → Info × Option Error
  | .version => pollVersion
  | .disks => pollDisks
  | .hostname => pollHostname
  | .routes => pollRoutes
  | .addresses => pollAddresses
  | .networkLinks => pollNetworkLinks
  | .processors => pollProcessors
  | .memory => pollMemory
  | .platformMetadata => pollPlatformMetadata
  | .meta => pollMeta omnimeta
  | .extensions => pollExtensions

/-- A Go map from poller keys to poller functions. -/
abbrev PollerMap := AList (fun _ : String => PollerName)

/-- `resourcePollers`, keyed by the Talos resource types. -/
def resourcePollers : PollerMap :=
  List.toAList
    [⟨"HostnameStatuses.net.talos.dev", .hostname⟩,
     ⟨"RouteStatuses.net.talos.dev", .routes⟩,
     ⟨"NodeAddresses.net.talos.dev", .addresses⟩,
     ⟨"LinkStatuses.net.talos.dev", .networkLinks⟩,
     ⟨"Processors.hardware.talos.dev", .processors⟩,
     ⟨"MemoryModules.hardware.talos.dev", .memory⟩,
     ⟨"PlatformMetadatas.talos.dev", .platformMetadata⟩,
     ⟨"MetaKeys.runtime.talos.dev", .meta⟩,
     ⟨"ExtensionStatuses.runtime.talos.dev", .extensions⟩]

/-- `machinePollers`. -/
def machinePollers : PollerMap :=
  List.toAList [⟨"version", .version⟩, ⟨"disks", .disks⟩]

/-- `merged`: a clone of `m1` into which `maps.Copy` writes every entry of `m2`. -/
def merged (m1 m2 : PollerMap) : PollerMap :=
  m2.foldl (fun res k v => res.insert k v) m1

/-- `allPollers`. -/
def allPollers : PollerMap := merged resourcePollers machinePollers

/-- `poll`: an unknown name panics, here the `error` branch with the panic's text. -/
def poll (omnimeta : Omnimeta) (poller : String) (remote : Remote) (info : Info) :
    Except String (Info × Option Error) :=
  match allPollers.lookup poller with
  | none => .error ("unknown poller " ++ poller.quote)
  | some f => .ok (f.run omnimeta remote info)

end Machine
end Omni
