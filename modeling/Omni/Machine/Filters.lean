import Omni.Machine.PollSpec

/-!
# What the filters let through

`poll.go` states its resource filters twice: once as the standalone predicates
`filterAddresses`, `filterRoutes` and `filterNetworkLinks`, and once as the checks
written inline in the pollers.  Through `PollerName.run_eq` the pollers are read here
against the standalone predicates:

* `pollRoutes` collects the gateways of the routes `filterRoutes` accepts, in order;
* `pollNetworkLinks` appends one entry per link `filterNetworkLinks` accepts, in order;
* `pollAddresses` keeps the addresses of the last accepted `NodeAddress`;

so a resource the filter rejects never changes `Info` (`pollers_read_accepted_only`).

The second half reads `pollMeta`: with distinct meta key IDs and a successful scan, the
labels key alone decides `ImageLabels`, which is the parsed map with the user's machine
label keys deleted (`pollMeta_imageLabels`).  Go maps are unordered, so the statement is
about lookups and nil-ness, which is all a Go map shows.
-/

namespace Omni
namespace Machine

open Net

section Lists

variable (remote : Remote) (s : Info)

/-- `DefaultGateways` after `pollRoutes`: the gateways of the accepted routes. -/
theorem pollRoutes_defaultGateways :
    (pollRoutes remote s).1.defaultGateways =
      (remote.routeStatuses.items.filter filterRoutes).map (·.gateway.toString) := by
  rw [pollRoutes_eq Omnimeta.blank]
  rfl

/-- `NetworkLinks` after `pollNetworkLinks`: one entry per accepted link. -/
theorem pollNetworkLinks_networkLinks :
    (pollNetworkLinks remote s).1.networkLinks =
      (remote.linkStatuses.items.filter filterNetworkLinks).map networkLinkStatus := by
  rw [pollNetworkLinks_eq Omnimeta.blank]
  rfl

/-- `Addresses` after `pollAddresses`: the SideroLink-free addresses of the last accepted
`NodeAddress`, or the old value when none is accepted. -/
theorem pollAddresses_addresses :
    (pollAddresses remote s).1.addresses =
      ((remote.nodeAddresses.items.filter (filterAddresses s.maintenanceMode)).map
        fun r => sideroLinkFree r.addresses).getLastD s.addresses := by
  rw [pollAddresses_eq Omnimeta.blank]
  rfl

end Lists

/-- The three filtered pollers against the standalone filters.  `pollRoutes` collects
the gateways of the routes `filterRoutes` accepts and `pollNetworkLinks` one entry per
link `filterNetworkLinks` accepts, carrying the link's ID, both in order; and two remotes
whose accepted resources agree give the same `Info` under each of the three pollers,
whether the scans fail or not. -/
theorem pollers_read_accepted_only (s : Info) (remote remote' : Remote) :
    (pollRoutes remote s).1.defaultGateways =
        (remote.routeStatuses.items.filter filterRoutes).map (·.gateway.toString) ∧
      (pollNetworkLinks remote s).1.networkLinks =
        (remote.linkStatuses.items.filter filterNetworkLinks).map networkLinkStatus ∧
      (pollNetworkLinks remote s).1.networkLinks.map (·.linuxName) =
        (remote.linkStatuses.items.filter filterNetworkLinks).map (·.id) ∧
      (remote.routeStatuses.items.filter filterRoutes =
          remote'.routeStatuses.items.filter filterRoutes →
        (pollRoutes remote s).1 = (pollRoutes remote' s).1) ∧
      (remote.linkStatuses.items.filter filterNetworkLinks =
          remote'.linkStatuses.items.filter filterNetworkLinks →
        (pollNetworkLinks remote s).1 = (pollNetworkLinks remote' s).1) ∧
      (remote.nodeAddresses.items.filter (filterAddresses s.maintenanceMode) =
          remote'.nodeAddresses.items.filter (filterAddresses s.maintenanceMode) →
        (pollAddresses remote s).1 = (pollAddresses remote' s).1) := by
  refine ⟨pollRoutes_defaultGateways remote s, pollNetworkLinks_networkLinks remote s, ?_,
    fun h => ?_, fun h => ?_, fun h => ?_⟩
  · simp only [pollNetworkLinks_networkLinks, List.map_map]
    rfl
  · simp only [pollRoutes_eq Omnimeta.blank, PollerName.spec, PollerName.step, h]
  · simp only [pollNetworkLinks_eq Omnimeta.blank, PollerName.spec, PollerName.step, h]
  · simp only [pollAddresses_eq Omnimeta.blank, PollerName.spec, PollerName.step, h]

theorem pollRoutes_rejected_route_ignored :
    (pollRoutes Remote.idle {}).1 =
      (pollRoutes { Remote.idle with
        routeStatuses := ⟨[⟨Prefix.prefixFrom (.v4 0x0a000000) 8, .zero, 0⟩], none⟩ } {}).1 :=
  (pollers_read_accepted_only {} Remote.idle _).2.2.2.1 (by decide)

section Meta

/-- Deleting a list of keys from a map deletes exactly those keys. -/
theorem lookup_foldl_erase (keys : List String) (labels : StrMap) (k : String) :
    (keys.foldl (fun labels k => labels.erase k) labels).lookup k =
      if k ∈ keys then none else labels.lookup k := by
  induction keys generalizing labels with
  | nil => simp
  | cons k' ks ih =>
    rw [List.foldl_cons, ih]
    by_cases hk : k = k'
    · subst hk
      simp [AList.lookup_erase]
    · by_cases hks : k ∈ ks <;> simp [hk, hks, AList.lookup_erase_ne hk]

/-- `maskLabels` keeps a nil map nil and a non-nil map non-nil. -/
@[simp] theorem isSome_maskLabels (labels : Option StrMap) (machineLabels : Option MachineLabels) :
    (maskLabels labels machineLabels).isSome = labels.isSome := by
  cases labels <;> cases machineLabels <;> rfl

/-- A key of the masked map is absent when the machine labels have it, and keeps its value
otherwise. -/
theorem lookup_maskLabels (labels : Option StrMap) (machineLabels : Option MachineLabels)
    (k : String) :
    (maskLabels labels machineLabels).bind (·.lookup k) =
      if machineLabels.any (fun ml => k ∈ ml.labels) then none else labels.bind (·.lookup k) := by
  cases labels with
  | none => cases machineLabels <;> simp [maskLabels]
  | some labels =>
    cases machineLabels with
    | none => rfl
    | some ml => simp [maskLabels, lookup_foldl_erase, AList.mem_keys]

variable {α β : Type} (d : α → Option (Except Error β))

/-- A successful overwrite scan writes the value of every resource it does not skip. -/
theorem overwriteHistory_of_ok (scan : Scan α) (hok : (overwriteHistory d scan).2 = none) :
    (overwriteHistory d scan).1 = scan.items.filterMap fun r => (d r).bind Except.toOption := by
  unfold overwriteHistory forEachResource at *
  suffices h : ∀ vs, (forEachResource.loop scan _ scan.items vs).2 = none →
      (forEachResource.loop scan (fun r vs =>
        match d r with
        | none => (vs, none)
        | some (.error err) => (vs, some err)
        | some (.ok v) => (vs ++ [v], none)) scan.items vs).1 =
        vs ++ scan.items.filterMap fun r => (d r).bind Except.toOption from
    h [] hok
  induction scan.items with
  | nil => intro vs _; simp [forEachResource.loop]
  | cons r rs ih =>
    intro vs h
    simp only [forEachResource.loop] at h ⊢
    rcases hd : d r with _ | _ | v <;> simp only [hd] at h ⊢
    · simpa [hd] using ih vs h
    · exact absurd h (by simp)
    · simpa [hd, Except.toOption] using ih (vs ++ [v]) h

/-- Among resources with distinct keys, a selector that picks only the resource `x`
picks it once. -/
theorem filterMap_eq_singleton {γ : Type} (key : α → γ) (g : α → Option β) (l : List α) (x : α)
    (v : β) (hnodup : (l.map key).Nodup) (hx : x ∈ l) (hkey : ∀ r ∈ l, g r ≠ none → key r = key x)
    (hv : g x = some v) : l.filterMap g = [v] := by
  induction l with
  | nil => simp at hx
  | cons y ys ih =>
    rw [List.map_cons, List.nodup_cons] at hnodup
    have hout : ∀ r ∈ ys, key r = key y → False := fun r hr he =>
      hnodup.1 (List.mem_map.2 ⟨r, hr, he⟩)
    rcases List.mem_cons.1 hx with rfl | hx
    · rw [List.filterMap_cons_some hv, List.filterMap_eq_nil_iff.2]
      exact fun r hr => by_contra fun hg => hout r hr (hkey r (.tail _ hr) hg)
    · have hgy : g y = none := by_contra fun hg => hout x hx (hkey y (.head _) hg).symm
      rw [List.filterMap_cons_none hgy]
      exact ih hnodup.2 hx fun r hr => hkey r (.tail _ hr)

end Meta

/-- With distinct meta key IDs, a successful `pollMeta` over a list holding the labels key,
whose value parses, sets `ImageLabels` to the parsed `Labels`, or `LegacyLabels` when
`Labels` is nil, masked by `MachineLabels`: nil exactly when that map is nil, without every
key the user set, and with the parsed value for every other key. -/
theorem pollMeta_imageLabels (omnimeta : Omnimeta) (remote : Remote) (s : Info) (metaKey : MetaKey)
    (imageLabels : ImageLabels) (hids : (remote.metaKeys.items.map (·.id)).Nodup)
    (hmem : metaKey ∈ remote.metaKeys.items) (hid : metaKey.id = metaKeyTagToID omnimeta.labelsMeta)
    (hparse : omnimeta.parseLabels metaKey.value = .ok imageLabels)
    (hok : (pollMeta omnimeta remote s).2 = none) :
    (pollMeta omnimeta remote s).1.imageLabels =
        maskLabels (imageLabels.labels.or imageLabels.legacyLabels) s.machineLabels ∧
      ((pollMeta omnimeta remote s).1.imageLabels.isSome ↔
        (imageLabels.labels.or imageLabels.legacyLabels).isSome) ∧
      ∀ k, (pollMeta omnimeta remote s).1.imageLabels.bind (·.lookup k) =
        if s.machineLabels.any (fun ml => k ∈ ml.labels) then none
        else (imageLabels.labels.or imageLabels.legacyLabels).bind (·.lookup k) := by
  rw [← ImageLabels.chosen_eq_or]
  have hscan := forEachResource_overwrite (metaDecision omnimeta s.machineLabels) remote.metaKeys
    s.imageLabels
  rw [pollMeta_eq, PollerName.spec] at hok ⊢
  simp only [PollerName.step, Info.part, hscan] at hok ⊢
  have hhist : (overwriteHistory (metaDecision omnimeta s.machineLabels) remote.metaKeys).1 =
      [maskLabels imageLabels.chosen s.machineLabels] := by
    rw [overwriteHistory_of_ok _ _ hok]
    refine filterMap_eq_singleton (·.id) _ _ metaKey _ hids hmem (fun r _ hr => ?_) ?_
    · by_contra hne
      simp only at hne
      simp [metaDecision, ← hid, hne] at hr
    · simp [metaDecision, hid, hparse, Except.toOption, Except.map]
  have himage : (s.setPart .meta ((overwriteHistory (metaDecision omnimeta s.machineLabels)
      remote.metaKeys).1.getLastD s.imageLabels)).imageLabels =
      maskLabels imageLabels.chosen s.machineLabels := by
    rw [hhist]
    rfl
  rw [himage]
  exact ⟨rfl, by simp, lookup_maskLabels _ _⟩

/-- A blob with both maps: `Labels` is taken over `LegacyLabels`, and the user's `zone`
hides the image's. -/
theorem pollMeta_user_label_wins :
    let labels : StrMap := ((∅ : StrMap).insert "zone" "eu").insert "tier" "gold"
    let legacy : StrMap := (∅ : StrMap).insert "legacy" "yes"
    let omnimeta : Omnimeta := { Omnimeta.blank with parseLabels := fun _ => .ok ⟨some labels, some legacy⟩ }
    let remote : Remote := { Remote.idle with metaKeys := ⟨[⟨"0x0c", "blob"⟩, ⟨"0x0a", ""⟩], none⟩ }
    let s : Info := { Info.observed with machineLabels := some ⟨(∅ : StrMap).insert "zone" "us"⟩ }
    (pollMeta omnimeta remote s).2 = none ∧
      (pollMeta omnimeta remote s).1.imageLabels = maskLabels (some labels) s.machineLabels ∧
      ((pollMeta omnimeta remote s).1.imageLabels.isSome ↔ (some labels).isSome) ∧
      ∀ k, (pollMeta omnimeta remote s).1.imageLabels.bind (·.lookup k) =
        if s.machineLabels.any (fun ml => k ∈ ml.labels) then none else labels.lookup k :=
  ⟨by decide, pollMeta_imageLabels _ _ _ ⟨"0x0c", "blob"⟩ ⟨some _, some _⟩ (by decide) (by decide)
    (by decide) rfl (by decide)⟩

end Machine
end Omni
