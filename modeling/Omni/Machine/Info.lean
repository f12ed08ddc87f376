import Omni.Machine.Remote

/-!
# The collector's `Info` and the part each poller owns

`Info` is the in-memory snapshot a machine task fills in.  Each poller of `poll.go`
writes its own fields of it, and the eleven write sets are pairwise disjoint:

* `version`: `TalosVersion`, `Arch`;  `disks`: `Blockdevices`;
* `hostname`: `Hostname`, `Domainname`;  `routes`: `DefaultGateways`;
* `addresses`: `Addresses`;  `networkLinks`: `NetworkLinks`;
* `processors`: `Processors`;  `memory`: `MemoryModules`;
* `platformMetadata`: `PlatformMetadata`;  `meta`: `ImageLabels`;
* `extensions`: `Schematic`.

`MaintenanceMode` and `MachineLabels` are written by the task's owner, never by a poller.

This module gives each poller its part as a type `PollerName.Part` with a getter
`Info.part` and a setter `Info.setPart`, and proves the laws of these lenses once: the
frame facts that every later result about the pollers is assembled from.  Slices are
lists, so Go's nil slice and empty slice are the same value here; no poller tells them
apart.
-/

namespace Omni
namespace Machine

/-- `specs.MachineStatusSpec_NetworkStatus_NetworkLinkStatus`. -/
structure NetworkLinkStatus where
  linuxName : String
  hardwareAddress : String
  speedMbps : UInt32
  linkUp : Bool
  description : String
deriving DecidableEq, Repr

/-- `specs.MachineStatusSpec_HardwareStatus_Processor`. -/
structure ProcessorStatus where
  coreCount : UInt32
  threadCount : UInt32
  frequency : UInt32
  description : String
  manufacturer : String
deriving DecidableEq, Repr

/-- `specs.MachineStatusSpec_HardwareStatus_MemoryModule`. -/
structure MemoryModuleStatus where
  sizeMb : UInt32
  description : String
deriving DecidableEq, Repr

/-- `specs.MachineStatusSpec_HardwareStatus_BlockDevice`. -/
structure BlockDevice where
  size : UInt64
  model : String
  linuxName : String
  name : String
  serial : String
  uuid : String
  wwid : String
  type : String
  busPath : String
  systemDisk : Bool
deriving DecidableEq, Repr

/-- `specs.MachineStatusSpec_PlatformMetadata`. -/
structure PlatformMetadataStatus where
  platform : String
  hostname : String
  region : String
  zone : String
  instanceType : String
  instanceId : String
  providerId : String
  spot : Bool
deriving DecidableEq, Repr

/-- `specs.MachineStatusSpec_Schematic`. -/
structure SchematicStatus where
  id : String
  invalid : Bool
deriving DecidableEq, Repr

/-- An `omni.MachineLabels` resource, of which the pollers read the metadata labels. -/
structure MachineLabels where
  labels : StrMap
deriving DecidableEq

/-- The collector's `Info`; the defaults are Go's zero value. -/
structure Info where
  talosVersion : Option String := none
  arch : Option String := none
  hostname : Option String := none
  domainname : Option String := none
  addresses : List String := []
  defaultGateways : List String := []
  networkLinks : List NetworkLinkStatus := []
  processors : List ProcessorStatus := []
  memoryModules : List MemoryModuleStatus := []
  blockdevices : List BlockDevice := []
  platformMetadata : Option PlatformMetadataStatus := none
  schematic : Option SchematicStatus := none
  imageLabels : Option StrMap := none
  maintenanceMode : Bool := false
  machineLabels : Option MachineLabels := none
deriving DecidableEq

/-- The eleven poller functions of `allPollers`. -/
inductive PollerName where
  | version | disks | hostname | routes | addresses | networkLinks
  | processors | memory | platformMetadata | meta | extensions
deriving DecidableEq, Repr

/-- The type of the fields a poller writes. -/
@[reducible] def PollerName.Part : PollerName → Type
  | .version => Option String × Option String
  | .disks => List BlockDevice
  | .hostname => Option String × Option String
  | .routes => List String
  | .addresses => List String
  | .networkLinks => List NetworkLinkStatus
  | .processors => List ProcessorStatus
  | .memory => List MemoryModuleStatus
  | .platformMetadata => Option PlatformMetadataStatus
  | .meta => Option StrMap
  | .extensions => Option SchematicStatus

namespace Info

/-- The fields poller `p` writes. -/
def part : (p : PollerName) → Info → p.Part
  | .version, s => (s.talosVersion, s.arch)
  | .disks, s => s.blockdevices
  | .hostname, s => (s.hostname, s.domainname)
  | .routes, s => s.defaultGateways
  | .addresses, s => s.addresses
  | .networkLinks, s => s.networkLinks
  | .processors, s => s.processors
  | .memory, s => s.memoryModules
  | .platformMetadata, s => s.platformMetadata
  | .meta, s => s.imageLabels
  | .extensions, s => s.schematic

/-- Replace the fields poller `p` writes. -/
def setPart : (p : PollerName) → p.Part → Info → Info
  | .version, a, s => { s with talosVersion := a.1, arch := a.2 }
  | .disks, a, s => { s with blockdevices := a }
  | .hostname, a, s => { s with hostname := a.1, domainname := a.2 }
  | .routes, a, s => { s with defaultGateways := a }
  | .addresses, a, s => { s with addresses := a }
  | .networkLinks, a, s => { s with networkLinks := a }
  | .processors, a, s => { s with processors := a }
  | .memory, a, s => { s with memoryModules := a }
  | .platformMetadata, a, s => { s with platformMetadata := a }
  | .meta, a, s => { s with imageLabels := a }
  | .extensions, a, s => { s with schematic := a }

variable {p q : PollerName} {s : Info}

@[simp] theorem part_setPart (a : p.Part) : (s.setPart p a).part p = a := by
  cases p <;> rfl

@[simp] theorem setPart_part : s.setPart p (s.part p) = s := by
  cases p <;> rfl

@[simp] theorem setPart_setPart (a b : p.Part) : (s.setPart p a).setPart p b = s.setPart p b := by
  cases p <;> rfl

@[simp] theorem maintenanceMode_setPart (a : p.Part) :
    (s.setPart p a).maintenanceMode = s.maintenanceMode := by
  cases p <;> rfl

@[simp] theorem machineLabels_setPart (a : p.Part) :
    (s.setPart p a).machineLabels = s.machineLabels := by
  cases p <;> rfl

/-- Writing one poller's part leaves every other poller's part alone. -/
theorem part_setPart_of_ne (h : p ≠ q) (b : q.Part) : (s.setPart q b).part p = s.part p := by
  cases p <;> cases q <;> first | rfl | exact absurd rfl h

/-- Writes to the parts of two different pollers commute. -/
theorem setPart_comm (h : p ≠ q) (a : p.Part) (b : q.Part) :
    (s.setPart p a).setPart q b = (s.setPart q b).setPart p a := by
  cases p <;> cases q <;> first | rfl | exact absurd rfl h

end Info

/-- An `Info` that has seen a machine before: a version, two gateways, an address, a disk
and a processor, none of which `Remote.sample` reports now. -/
def Info.observed : Info where
  talosVersion := some "v1.6.4"
  arch := some "arm64"
  hostname := some "talos-0"
  addresses := ["10.5.0.2/24"]
  defaultGateways := ["10.5.0.1", "10.5.0.254"]
  processors := [⟨2, 2, 2400, "QEMU", "QEMU"⟩]
  blockdevices := [⟨21474836480, "", "/dev/vda", "vda", "", "", "", "HDD", "", true⟩]

end Machine
end Omni
