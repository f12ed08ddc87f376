import Omni.Net.Netip
import Mathlib.Data.List.AList

/-!
# What the pollers read from a machine

A poller of `poll.go` reads the remote machine through the Talos client: two unary RPCs
(`Version`, `Disks`), resource listings through `forEachResource`, and
`talos.GetSchematicID`.  A `Remote` is one answer to every such question, so each
poller becomes a function of a `Remote` and of the `Info` it updates.

`forEachResource` itself is not part of the excerpt.  A listing is modelled from the
spec ("each scans matching resources") as a `Scan`: the resources delivered, in
iteration order, and then the error that ended the scan, if any.  A listing that fails
before its first resource is the scan with no items; a scan that fails part-way keeps
the resources delivered before the fault.

The resource specs keep the fields the pollers read, with the Go types they have in
Talos machinery (`uint32` as `UInt32`, `int` as `Int`).  `client/pkg/meta` is not part
of the excerpt either: its `LabelsMeta` tag, `ParseLabels` and `CanSetMetaKey` are the
fields of `Omnimeta`, a parameter of everything that calls them.
-/

namespace Omni
namespace Machine

open Net

/-- A Go `error` as the pollers tell them apart: a gRPC status, Talos'
`ErrInvalidSchematic`, or any other error. -/
inductive Error where
  | status (code : UInt32) (message : String)
  | invalidSchematic
  | other (message : String)
deriving DecidableEq, Repr

/-- `codes.Unimplemented`. -/
def codeUnimplemented : UInt32 := 12

/-- `codes.Unknown`. -/
def codeUnknown : UInt32 := 2

/-- `client.StatusCode`: the code of a status error, `codes.Unknown` otherwise. -/
def statusCode : Error → UInt32
  | .status code _ => code
  | _ => codeUnknown

/-- A Go `map[string]string`. -/
abbrev StrMap := AList (fun _ : String => String)

/-- One remote listing: the resources delivered, then the error that ended it. -/
structure Scan (α : Type) where
  items : List α
  fault : Option Error

/-- `network.HostnameStatusSpec`. -/
structure HostnameStatus where
  hostname : String
  domainname : String
deriving DecidableEq, Repr

/-- `nethelpers.ScopeGlobal` (`RT_SCOPE_UNIVERSE`). -/
def scopeGlobal : UInt8 := 0

/-- `network.RouteStatusSpec`. -/
structure RouteStatus where
  destination : Prefix
  gateway : Addr
  scope : UInt8
deriving DecidableEq

/-- A `network.NodeAddress`: its ID and the prefixes of its spec. -/
structure NodeAddress where
  id : String
  addresses : List Prefix
deriving DecidableEq

/-- `network.NodeAddressCurrentID`. -/
def nodeAddressCurrentID : String := "current"

/-- `k8s.NodeAddressFilterNoK8s`. -/
def nodeAddressFilterNoK8s : String := "no-k8s"

/-- `network.FilteredNodeAddressID`. -/
def filteredNodeAddressID (kind filterID : String) : String := kind ++ "-" ++ filterID

/-- `nethelpers.LinkEther`, the ARP hardware type of an Ethernet link. -/
def linkEther : UInt16 := 1

/-- A `network.LinkStatus`: its ID and the fields of its spec the pollers read. -/
structure LinkStatus where
  id : String
  type : UInt16
  kind : String
  hardwareAddr : List UInt8
  speedMegabits : Int
  linkState : Bool
  vendor : String
  product : String
deriving DecidableEq

/-- `LinkStatusSpec.Physical`: an Ethernet link that is not a virtual link kind. -/
def LinkStatus.physical (r : LinkStatus) : Bool :=
  r.type == linkEther && r.kind == ""

/-- `hardware.ProcessorSpec`. -/
structure Processor where
  coreCount : UInt32
  threadCount : UInt32
  maxSpeed : UInt32
  manufacturer : String
  productName : String
deriving DecidableEq

/-- `hardware.MemoryModuleSpec`. -/
structure MemoryModule where
  size : UInt32
  manufacturer : String
deriving DecidableEq

/-- `runtime.PlatformMetadataSpec`. -/
structure PlatformMetadata where
  platform : String
  hostname : String
  region : String
  zone : String
  instanceType : String
  instanceID : String
  providerID : String
  spot : Bool
deriving DecidableEq, Repr

/-- A `runtime.MetaKey`: its ID and the value of its spec. -/
structure MetaKey where
  id : String
  value : String
deriving DecidableEq

/-- `runtime.MetaKeyTagToID`: the tag as `0x` and two lowercase hex digits. -/
def metaKeyTagToID (tag : UInt8) : String :=
  "0x" ++ String.mk [Nat.digitChar (tag.toNat / 16), Nat.digitChar (tag.toNat % 16)]

/-- A `VersionResponse` message, as `GetVersion().GetTag()` and `GetVersion().GetArch()`
read it (both empty when the version is nil). -/
structure VersionMessage where
  tag : String
  arch : String

/-- `machine.VersionResponse`. -/
structure VersionResponse where
  messages : List VersionMessage

/-- `storage.Disk`; `type` is the text `GetType().String()` gives. -/
structure Disk where
  size : UInt64
  model : String
  deviceName : String
  name : String
  serial : String
  uuid : String
  wwid : String
  type : String
  busPath : String
  systemDisk : Bool

/-- A `DisksResponse` message. -/
structure DisksMessage where
  disks : List Disk

/-- `storage.DisksResponse`. -/
structure DisksResponse where
  messages : List DisksMessage

/-- `meta.ImageLabels`: the two maps of the labels blob, each possibly nil. -/
structure ImageLabels where
  labels : Option StrMap
  legacyLabels : Option StrMap

/-- The functions and the tag of `client/pkg/meta` that the excerpt calls. -/
structure Omnimeta where
  labelsMeta : UInt8
  parseLabels : String → Except Error ImageLabels
  canSetMetaKey : Int → Bool

/-- Everything the pollers read from one machine.  A failed unary RPC has no response;
`schematicID` is both results of `talos.GetSchematicID`. -/
structure Remote where
  version : Except Error VersionResponse
  disks : Except Error DisksResponse
  hostnameStatuses : Scan HostnameStatus
  routeStatuses : Scan RouteStatus
  nodeAddresses : Scan NodeAddress
  linkStatuses : Scan LinkStatus
  processors : Scan Processor
  memoryModules : Scan MemoryModule
  platformMetadata : Scan PlatformMetadata
  metaKeys : Scan MetaKey
  schematicID : String × Option Error

/-- A `client/pkg/meta` whose parser reads every blob as a document without labels. -/
def Omnimeta.blank : Omnimeta where
  labelsMeta := 0x0c
  parseLabels := fun _ => .ok ⟨none, none⟩
  canSetMetaKey := fun _ => true

/-- A machine that answers every call successfully and has no resources. -/
def Remote.idle : Remote where
  version := .ok ⟨[]⟩
  disks := .ok ⟨[]⟩
  hostnameStatuses := ⟨[], none⟩
  routeStatuses := ⟨[], none⟩
  nodeAddresses := ⟨[], none⟩
  linkStatuses := ⟨[], none⟩
  processors := ⟨[], none⟩
  memoryModules := ⟨[], none⟩
  platformMetadata := ⟨[], none⟩
  metaKeys := ⟨[], none⟩
  schematicID := ("", none)

/-- A machine that answers every call successfully: one version message, one disk, a
hostname, a default route by `192.168.0.1` next to an on-link route, and the `no-k8s`
node address with a LAN and a SideroLink prefix. -/
def Remote.sample : Remote where
  version := .ok ⟨[⟨"v1.7.0", "amd64"⟩]⟩
  disks := .ok ⟨[⟨[⟨10737418240, "QEMU HARDDISK", "/dev/sda", "sda", "", "", "", "HDD", "", true⟩]⟩]⟩
  hostnameStatuses := ⟨[⟨"talos-1", "local"⟩], none⟩
  routeStatuses := ⟨[⟨Prefix.zeroValue, .v4 0xc0a80001, scopeGlobal⟩,
    ⟨Prefix.prefixFrom (.v4 0xc0a80000) 24, .zero, scopeGlobal⟩], none⟩
  nodeAddresses := ⟨[⟨"current-no-k8s", [Prefix.prefixFrom (.v4 0xc0a8000a) 24,
    Prefix.prefixFrom (.v6 0xfd00000000000003 1 "") 64]⟩], none⟩
  linkStatuses := ⟨[], none⟩
  processors := ⟨[⟨4, 8, 3000, "Intel", "Xeon"⟩], none⟩
  memoryModules := ⟨[⟨8192, "Samsung"⟩], none⟩
  platformMetadata := ⟨[], none⟩
  metaKeys := ⟨[], none⟩
  schematicID := ("376567988ad370138ad8b2698212367b8edcb69b5fd68c80be1f2ec7d603b4ba", none)

end Machine
end Omni
