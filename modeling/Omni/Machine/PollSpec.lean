import Omni.Machine.Poll

/-!
# Each poller, as a write to its own part of `Info`

`PollerName.step` says in closed form what a poller does: from the remote, the two
read-only fields (`MaintenanceMode`, `MachineLabels`) and its own old part, it computes
its new part and its error.  The main result of the module, `PollerName.run_eq`, is
that every poller of `poll.go` is exactly that step applied to its part, with the rest
of `Info` untouched.  Everything later about the pollers (order independence,
re-polling, failures, filters, invariants) is read off `step` through this one theorem.

The proof goes through two lemmas about `forEachResource`: a callback that never fails
is a left fold, and a callback that only touches one part of `Info` lifts to a scan of
that part alone.
-/

namespace Omni
namespace Machine

open Net

section ForEach

variable {α σ : Type} (scan : Scan α)

/-- A scan whose callback never fails is a left fold over the delivered resources,
ending with the scan's own fault. -/
theorem forEachResource_pure (f : α → σ → σ) (s : σ) :
    forEachResource scan (fun r s => (f r s, none)) s =
      (scan.items.foldl (fun s r => f r s) s, scan.fault) := by
  unfold forEachResource
  induction scan.items generalizing s with
  | nil => rfl
  | cons r rs ih => exact ih (f r s)

/-- A callback that reads and writes only part `p` of `Info` lifts: the scan over `Info`
is the scan over that part, written back into `Info`. -/
theorem forEachResource_setPart (p : PollerName) (s : Info)
    (callback : α → Info → Info × Option Error) (partCallback : α → p.Part → p.Part × Option Error)
    (hcb : ∀ r a, callback r (s.setPart p a) =
      (s.setPart p (partCallback r a).1, (partCallback r a).2))
    (a : p.Part) :
    forEachResource scan callback (s.setPart p a) =
      (s.setPart p (forEachResource scan partCallback a).1,
        (forEachResource scan partCallback a).2) := by
  unfold forEachResource
  induction scan.items generalizing a with
  | nil => rfl
  | cons r rs ih =>
    simp only [forEachResource.loop, hcb]
    rcases partCallback r a with ⟨b, _ | e⟩ <;> simp [ih]

/-- A fold whose step only touches part `p` of `Info` is a fold over that part. -/
theorem foldl_setPart (p : PollerName) (s : Info) (f : Info → α → Info) (g : p.Part → α → p.Part)
    (hf : ∀ a r, f (s.setPart p a) r = s.setPart p (g a r)) (items : List α) (a : p.Part) :
    items.foldl f (s.setPart p a) = s.setPart p (items.foldl g a) := by
  induction items generalizing a with
  | nil => rfl
  | cons r rs ih => simp only [List.foldl_cons, hf, ih]

/-- `forEachResource_setPart` from the whole `Info`. -/
theorem forEachResource_part (p : PollerName) (s : Info)
    (callback : α → Info → Info × Option Error) (partCallback : α → p.Part → p.Part × Option Error)
    (hcb : ∀ r a, callback r (s.setPart p a) =
      (s.setPart p (partCallback r a).1, (partCallback r a).2)) :
    forEachResource scan callback s =
      (s.setPart p (forEachResource scan partCallback (s.part p)).1,
        (forEachResource scan partCallback (s.part p)).2) := by
  simpa using forEachResource_setPart scan p s callback partCallback hcb (s.part p)

/-- `foldl_setPart` from the whole `Info`. -/
theorem foldl_part (p : PollerName) (s : Info) (f : Info → α → Info) (g : p.Part → α → p.Part)
    (hf : ∀ a r, f (s.setPart p a) r = s.setPart p (g a r)) (items : List α) :
    items.foldl f s = s.setPart p (items.foldl g (s.part p)) := by
  simpa using foldl_setPart p s f g hf items (s.part p)

end ForEach

section Overwrite

variable {α β : Type} (d : α → Option (Except Error β))

/-- A scan callback that skips a resource (`none`), fails with an error, or overwrites
the part with a value of the resource's own. -/
def overwriteCallback (r : α) (a : β) : β × Option Error :=
  match d r with
  | none => (a, none)
  | some (.error err) => (a, some err)
  | some (.ok v) => (v, none)

/-- The values an overwrite scan writes, in order, up to its first failure, and the
error it returns. -/
def overwriteHistory (scan : Scan α) : List β × Option Error :=
  forEachResource scan
    (fun r vs =>
      match d r with
      | none => (vs, none)
      | some (.error err) => (vs, some err)
      | some (.ok v) => (vs ++ [v], none))
    []

/-- An overwrite scan ends with the last value it wrote, or its start value, and its error
does not depend on the start value. -/
theorem forEachResource_overwrite (scan : Scan α) (a : β) :
    forEachResource scan (overwriteCallback d) a =
      ((overwriteHistory d scan).1.getLastD a, (overwriteHistory d scan).2) := by
  unfold overwriteHistory forEachResource
  suffices h : ∀ (vs : List β) (a : β),
      forEachResource.loop scan (overwriteCallback d) scan.items (vs.getLastD a) =
        (((forEachResource.loop scan _ scan.items vs).1.getLastD a),
          (forEachResource.loop scan _ scan.items vs).2) from h [] a
  induction scan.items with
  | nil => intro vs a; rfl
  | cons r rs ih =>
    intro vs a
    simp only [forEachResource.loop, overwriteCallback]
    rcases d r with _ | err | v
    · exact ih vs a
    · rfl
    · simpa [List.getLastD_eq_getLast?] using ih (vs ++ [v]) a

end Overwrite

/-- Taking the last value twice is taking it once. -/
@[simp] theorem getLastD_getLastD {β : Type} (l : List β) (a : β) :
    l.getLastD (l.getLastD a) = l.getLastD a := by
  cases l <;> rfl

section Folds

variable {α β : Type}

/-- An append loop guarded by `c` builds the filtered, mapped list. -/
theorem foldl_append_if (c : α → Bool) (g : α → β) (items : List α) (acc : List β) :
    items.foldl (fun acc r => if c r then acc ++ [g r] else acc) acc =
      acc ++ (items.filter c).map g := by
  induction items generalizing acc with
  | nil => simp
  | cons r rs ih => cases h : c r <;> simp [h, ih]

/-- The same loop written as Go writes it, skipping the resources `c` rejects. -/
theorem foldl_skip_append (c : α → Bool) (g : α → β) (items : List α) (acc : List β) :
    items.foldl (fun acc r => if c r then acc else acc ++ [g r]) acc =
      acc ++ (items.filter fun r => !c r).map g := by
  induction items generalizing acc with
  | nil => simp
  | cons r rs ih => cases h : c r <;> simp [h, ih]

/-- An unguarded append loop maps every resource. -/
theorem foldl_append_each (g : α → β) (items : List α) (acc : List β) :
    items.foldl (fun acc r => acc ++ [g r]) acc = acc ++ items.map g := by
  induction items generalizing acc with
  | nil => simp
  | cons r rs ih => simp [ih]

/-- A loop that appends a whole list per resource concatenates them. -/
theorem foldl_append_map (h : α → List β) (items : List α) (acc : List β) :
    items.foldl (fun acc r => acc ++ h r) acc = acc ++ (items.map h).flatten := by
  induction items generalizing acc with
  | nil => simp
  | cons r rs ih => simp [ih]

/-- An overwrite loop guarded by `c` keeps the value of the last accepted resource. -/
theorem foldl_overwrite_if (c : α → Bool) (v : α → β) (items : List α) (a : β) :
    items.foldl (fun a r => if c r then v r else a) a = ((items.filter c).map v).getLastD a := by
  induction items generalizing a with
  | nil => rfl
  | cons r rs ih =>
    cases h : c r <;>
      simp only [List.foldl_cons, List.filter_cons, h, ite_true, ite_false, Bool.false_eq_true,
        List.map_cons, List.getLastD_cons, ih]

/-- An overwrite loop keeps the value of the last resource, or the start value. -/
theorem foldl_overwrite (g : α → β) (items : List α) (a : β) :
    items.foldl (fun _ r => g r) a = (items.map g).getLastD a := by
  induction items generalizing a with
  | nil => rfl
  | cons r rs ih => simp only [List.foldl_cons, List.map_cons, List.getLastD_cons, ih]

end Folds

/-- The addresses of a `NodeAddress` that `pollAddresses` keeps, as strings. -/
def sideroLinkFree (addresses : List Prefix) : List String :=
  (addresses.filter fun addr => !isULA addr.addr ulaSideroLink).map Prefix.toString

/-- The inner loop of `pollAddresses` rebuilds `Addresses` from the non-SideroLink
prefixes. -/
theorem sideroLinkFree_loop (t : Info) (addresses : List Prefix) :
    addresses.foldl
        (fun info addr =>
          if isULA addr.addr ulaSideroLink then info
          else { info with addresses := info.addresses ++ [addr.toString] })
        (t.setPart .addresses []) =
      t.setPart .addresses (sideroLinkFree addresses) := by
  rw [foldl_setPart .addresses t _
      (fun acc addr => if isULA addr.addr ulaSideroLink then acc else acc ++ [addr.toString])
      (fun _ _ => by split <;> simp_all only [ite_true, ite_false]; rfl),
    foldl_skip_append]
  rfl

/-- The skip test written inline in `pollAddresses` is the negation of `filterAddresses`. -/
theorem pollAddresses_skip_iff (maintenanceMode : Bool) (r : NodeAddress) :
    (if maintenanceMode then r.id ≠ nodeAddressCurrentID
      else r.id ≠ filteredNodeAddressID nodeAddressCurrentID nodeAddressFilterNoK8s) ↔
      filterAddresses maintenanceMode r = false := by
  cases maintenanceMode <;> simp [filterAddresses]

/-- `pollProcessors` keeps a processor with non-zero core count and speed. -/
def keepProcessor (r : Processor) : Bool := !(r.coreCount == 0 || r.maxSpeed == 0)

/-- `pollMemory` keeps a module of non-zero size. -/
def keepMemoryModule (r : MemoryModule) : Bool := !(r.size == 0)

/-- What `pollMeta` decides for one meta key: skip it, fail with the parse error, or
write the masked image labels. -/
def metaDecision (omnimeta : Omnimeta) (machineLabels : Option MachineLabels) (metaKey : MetaKey) :
    Option (Except Error (Option StrMap)) :=
  if metaKey.id ≠ metaKeyTagToID omnimeta.labelsMeta then none
  else some ((omnimeta.parseLabels metaKey.value).map fun imageLabels =>
    maskLabels imageLabels.chosen machineLabels)

/-- What `pollExtensions` stores and returns for the two results of
`talos.GetSchematicID`. -/
def schematicResult : String × Option Error → Option SchematicStatus × Option Error
  | (id, none) => (some { id := id, invalid := false }, none)
  | (id, some err) =>
    if err = .invalidSchematic then (some { id := id, invalid := true }, none)
    else (some { id := id, invalid := false }, some err)

/-- What poller `p` does to its own part: the new part and the returned error, from the
remote, the read-only fields `MaintenanceMode` and `MachineLabels`, and the old part. -/
def PollerName.step (omnimeta : Omnimeta) (remote : Remote) (maintenanceMode : Bool)
    (machineLabels : Option MachineLabels) : (p : PollerName) → p.Part → p.Part × Option Error
  | .version, a =>
    match remote.version with
    | .error err => (a, if statusCode err ≠ codeUnimplemented then some err else none)
    | .ok resp => ((resp.messages.map fun m => (some m.tag, some m.arch)).getLastD a, none)
  | .disks, _ =>
    match remote.disks with
    | .error err => ([], some err)
    | .ok resp => (((resp.messages.map (·.disks)).flatten).map blockDevice, none)
  | .hostname, a =>
    ((remote.hostnameStatuses.items.map fun r => (some r.hostname, some r.domainname)).getLastD a,
      remote.hostnameStatuses.fault)
  | .routes, _ =>
    ((remote.routeStatuses.items.filter filterRoutes).map (·.gateway.toString),
      remote.routeStatuses.fault)
  | .addresses, a =>
    (((remote.nodeAddresses.items.filter (filterAddresses maintenanceMode)).map
        fun r => sideroLinkFree r.addresses).getLastD a,
      remote.nodeAddresses.fault)
  | .networkLinks, _ =>
    ((remote.linkStatuses.items.filter filterNetworkLinks).map networkLinkStatus,
      remote.linkStatuses.fault)
  | .processors, _ =>
    ((remote.processors.items.filter keepProcessor).map processorStatus, remote.processors.fault)
  | .memory, _ =>
    ((remote.memoryModules.items.filter keepMemoryModule).map memoryModuleStatus,
      remote.memoryModules.fault)
  | .platformMetadata, a =>
    ((remote.platformMetadata.items.map fun r => some (platformMetadataStatus r)).getLastD a,
      remote.platformMetadata.fault)
  | .meta, a =>
    forEachResource remote.metaKeys (overwriteCallback (metaDecision omnimeta machineLabels)) a
  | .extensions, _ => schematicResult remote.schematicID

/-- Poller `p`'s step run on `s`: its part replaced by the step's new part, with the
step's error. -/
def PollerName.spec (omnimeta : Omnimeta) (p : PollerName) (remote : Remote) (s : Info) :
    Info × Option Error :=
  let r := p.step omnimeta remote s.maintenanceMode s.machineLabels (s.part p)
  (s.setPart p r.1, r.2)

section Equations

variable (omnimeta : Omnimeta) (remote : Remote) (s : Info)

theorem pollVersion_eq : pollVersion remote s = PollerName.spec omnimeta .version remote s := by
  simp only [pollVersion, PollerName.spec, PollerName.step]
  cases remote.version with
  | error err => by_cases h : statusCode err = codeUnimplemented <;> simp [h]
  | ok resp =>
    dsimp only
    rw [← foldl_overwrite, foldl_part .version s _ (fun _ m => (some m.tag, some m.arch)) fun _ _ => rfl]

theorem pollHostname_eq : pollHostname remote s = PollerName.spec omnimeta .hostname remote s := by
  simp only [pollHostname, PollerName.spec, PollerName.step]
  rw [forEachResource_part _ .hostname s _ (fun r _ => ((some r.hostname, some r.domainname), none))
    fun _ _ => rfl, forEachResource_pure, foldl_overwrite]

theorem pollAddresses_eq :
    pollAddresses remote s = PollerName.spec omnimeta .addresses remote s := by
  simp only [pollAddresses, PollerName.spec, PollerName.step]
  rw [forEachResource_part _ .addresses s _
      (fun r a => (if filterAddresses s.maintenanceMode r then sideroLinkFree r.addresses else a, none))
      (fun r a => ?_),
    forEachResource_pure, foldl_overwrite_if]
  dsimp only
  rw [Info.maintenanceMode_setPart]
  by_cases hf : filterAddresses s.maintenanceMode r
  · rw [if_neg (by simpa [pollAddresses_skip_iff] using hf), if_pos hf,
      ← @Info.setPart_setPart .addresses s a]
    exact congrArg (·, none) (sideroLinkFree_loop (s.setPart .addresses a) r.addresses)
  · rw [if_pos (by simpa [pollAddresses_skip_iff] using hf), if_neg hf]

theorem pollRoutes_eq : pollRoutes remote s = PollerName.spec omnimeta .routes remote s := by
  simp only [pollRoutes, PollerName.spec, PollerName.step]
  refine (forEachResource_setPart _ .routes s _
    (fun r a => (if filterRoutes r then a ++ [r.gateway.toString] else a, none))
    (fun r a => ?_) []).trans ?_
  · unfold filterRoutes
    split <;> simp_all only [ite_true, ite_false] <;> rfl
  · rw [forEachResource_pure, foldl_append_if]
    rfl

theorem pollNetworkLinks_eq :
    pollNetworkLinks remote s = PollerName.spec omnimeta .networkLinks remote s := by
  simp only [pollNetworkLinks, PollerName.spec, PollerName.step]
  refine (forEachResource_setPart _ .networkLinks s _
    (fun r a => (if !r.physical then a else a ++ [networkLinkStatus r], none))
    (fun r a => ?_) []).trans ?_
  · split <;> simp_all only [ite_true, ite_false]; rfl
  · rw [forEachResource_pure, foldl_skip_append]
    simp only [Bool.not_not]
    rfl

theorem pollProcessors_eq :
    pollProcessors remote s = PollerName.spec omnimeta .processors remote s := by
  simp only [pollProcessors, PollerName.spec, PollerName.step]
  refine (forEachResource_setPart _ .processors s _
    (fun r a => (if r.coreCount == 0 || r.maxSpeed == 0 then a else a ++ [processorStatus r], none))
    (fun r a => ?_) []).trans ?_
  · split <;> simp_all only [ite_true, ite_false]; rfl
  · rw [forEachResource_pure, foldl_skip_append]
    rfl

theorem pollMemory_eq : pollMemory remote s = PollerName.spec omnimeta .memory remote s := by
  simp only [pollMemory, PollerName.spec, PollerName.step]
  refine (forEachResource_setPart _ .memory s _
    (fun r a => (if r.size == 0 then a else a ++ [memoryModuleStatus r], none))
    (fun r a => ?_) []).trans ?_
  · split <;> simp_all only [ite_true, ite_false]; rfl
  · rw [forEachResource_pure, foldl_skip_append]
    rfl

theorem pollPlatformMetadata_eq :
    pollPlatformMetadata remote s = PollerName.spec omnimeta .platformMetadata remote s := by
  simp only [pollPlatformMetadata, PollerName.spec, PollerName.step]
  rw [forEachResource_part _ .platformMetadata s _
      (fun r _ => (some (platformMetadataStatus r), none)) fun _ _ => rfl,
    forEachResource_pure, foldl_overwrite]

theorem pollDisks_eq : pollDisks remote s = PollerName.spec omnimeta .disks remote s := by
  simp only [pollDisks, PollerName.spec, PollerName.step]
  cases remote.disks with
  | error err => rfl
  | ok resp =>
    dsimp only
    refine congrArg (·, none) ((foldl_setPart .disks s
      (fun info (msg : DisksMessage) => msg.disks.foldl
        (fun info disk => { info with blockdevices := info.blockdevices ++ [blockDevice disk] }) info)
      (fun a msg => a ++ msg.disks.map blockDevice) (fun a msg => ?_) _ []).trans ?_)
    · dsimp only
      rw [foldl_setPart .disks s _ (fun acc disk => acc ++ [blockDevice disk]) (fun _ _ => rfl),
        foldl_append_each]
    · rw [foldl_append_map]
      simp [List.map_flatten, Function.comp_def]

theorem pollMeta_eq : pollMeta omnimeta remote s = PollerName.spec omnimeta .meta remote s := by
  simp only [pollMeta, PollerName.spec, PollerName.step]
  refine forEachResource_part _ .meta s _ _ fun r a => ?_
  unfold overwriteCallback metaDecision
  split
  · rfl
  · cases omnimeta.parseLabels r.value <;> rfl

theorem pollExtensions_eq :
    pollExtensions remote s = PollerName.spec omnimeta .extensions remote s := by
  obtain ⟨_, _, _, _, _, _, _, _, _, _, id, _ | err⟩ := remote
  · rfl
  · by_cases h : err = .invalidSchematic <;>
      simp [pollExtensions, PollerName.spec, PollerName.step, schematicResult, h] <;> rfl

end Equations

/-- Every poller of `allPollers` is its `step` on its own part: it writes nothing else
and reads nothing of `Info` but its part, `MaintenanceMode` and `MachineLabels`. -/
theorem PollerName.run_eq (omnimeta : Omnimeta) (p : PollerName) (remote : Remote) (s : Info) :
    p.run omnimeta remote s = p.spec omnimeta remote s := by
  cases p
  · exact pollVersion_eq omnimeta remote s
  · exact pollDisks_eq omnimeta remote s
  · exact pollHostname_eq omnimeta remote s
  · exact pollRoutes_eq omnimeta remote s
  · exact pollAddresses_eq omnimeta remote s
  · exact pollNetworkLinks_eq omnimeta remote s
  · exact pollProcessors_eq omnimeta remote s
  · exact pollMemory_eq omnimeta remote s
  · exact pollPlatformMetadata_eq omnimeta remote s
  · exact pollMeta_eq omnimeta remote s
  · exact pollExtensions_eq omnimeta remote s

/-- The key of each poller in `allPollers`: the Talos resource type it watches, or the
name of its RPC. -/
def PollerName.key : PollerName → String
  | .version => "version"
  | .disks => "disks"
  | .hostname => "HostnameStatuses.net.talos.dev"
  | .routes => "RouteStatuses.net.talos.dev"
  | .addresses => "NodeAddresses.net.talos.dev"
  | .networkLinks => "LinkStatuses.net.talos.dev"
  | .processors => "Processors.hardware.talos.dev"
  | .memory => "MemoryModules.hardware.talos.dev"
  | .platformMetadata => "PlatformMetadatas.talos.dev"
  | .meta => "MetaKeys.runtime.talos.dev"
  | .extensions => "ExtensionStatuses.runtime.talos.dev"

/-- `merged` keeps all nine resource pollers and adds the two RPC pollers. -/
theorem allPollers_entries :
    allPollers.entries =
      [.disks, .version, .hostname, .routes, .addresses, .networkLinks, .processors, .memory,
        .platformMetadata, .meta, .extensions].map fun p => ⟨p.key, p⟩ := by
  decide

/-- `allPollers` holds each of the eleven pollers, under its own key only. -/
theorem allPollers_lookup_eq_some_iff (k : String) (p : PollerName) :
    allPollers.lookup k = some p ↔ k = p.key := by
  rw [← Option.mem_def, AList.mem_lookup_iff, allPollers_entries]
  cases p <;> simp [PollerName.key]

/-- `poll` runs the poller registered under the name it is given. -/
theorem poll_key (omnimeta : Omnimeta) (p : PollerName) (remote : Remote) (s : Info) :
    poll omnimeta p.key remote s = .ok (p.run omnimeta remote s) := by
  simp [poll, (allPollers_lookup_eq_some_iff p.key p).2 rfl]

end Machine
end Omni
