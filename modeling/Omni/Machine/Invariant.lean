import Omni.Machine.PollSpec

/-!
# What every reachable `Info` satisfies

A machine task starts from Go's zero `Info`.  After that its pollers run in any order,
each against the remote as it is at that moment (so any of them may fail at any point
of its call or scan), and the task sets `MaintenanceMode` and `MachineLabels`, the two
fields no poller writes.  `runTask` is such a history.

`Info.Consistent` is what the filters of `pollProcessors`, `pollMemory` and
`pollAddresses` guarantee together: no processor without cores or speed, no empty
memory module, and every address the text of a prefix off the SideroLink range.  One
event keeps it (`Info.Consistent.apply`), so every history from the zero `Info` ends in
a consistent one (`runTask_consistent`).

The address clause is as the code has it: each entry is `String()` of a prefix whose
address passed `!IsULA`.  That is not "no entry is the text of a SideroLink prefix":
every invalid prefix prints as `invalid Prefix`, on a SideroLink address or not
(`invalid_prefix_text_reachable`).
-/

namespace Omni
namespace Machine

open Net

/-- One event of a machine task's life. -/
inductive TaskEvent where
  /-- A poller runs against the remote as it is at that moment. -/
  | poll (p : PollerName) (remote : Remote)
  /-- The task sets the fields it owns.  Modelled from the spec: `Info` is "mutated only
  by the owning task", which sets `MaintenanceMode` and `MachineLabels`. -/
  | own (maintenanceMode : Bool) (machineLabels : Option MachineLabels)

/-- The `Info` after one event. -/
def TaskEvent.apply (omnimeta : Omnimeta) : TaskEvent → Info → Info
  | .poll p remote, s => (p.run omnimeta remote s).1
  | .own maintenanceMode machineLabels, s =>
    { s with maintenanceMode := maintenanceMode, machineLabels := machineLabels }

/-- The `Info` after a history of events. -/
def runTask (omnimeta : Omnimeta) (events : List TaskEvent) (s : Info) : Info :=
  events.foldl (fun s e => e.apply omnimeta s) s

/-- What the pollers' filters keep out of `Info`. -/
structure Info.Consistent (s : Info) : Prop where
  processors_nonzero : ∀ pr ∈ s.processors, pr.coreCount ≠ 0 ∧ pr.frequency ≠ 0
  memoryModules_nonzero : ∀ m ∈ s.memoryModules, m.sizeMb ≠ 0
  addresses_off_sideroLink :
    ∀ a ∈ s.addresses, ∃ pfx : Prefix, isULA pfx.addr ulaSideroLink = false ∧ a = pfx.toString

theorem keepProcessor_iff (r : Processor) :
    keepProcessor r = true ↔ r.coreCount ≠ 0 ∧ r.maxSpeed ≠ 0 := by
  simp [keepProcessor]

theorem keepMemoryModule_iff (r : MemoryModule) : keepMemoryModule r = true ↔ r.size ≠ 0 := by
  simp [keepMemoryModule]

/-- Every address `sideroLinkFree` keeps is the text of a prefix off the SideroLink range. -/
theorem mem_sideroLinkFree {a : String} {addresses : List Prefix} (h : a ∈ sideroLinkFree addresses) :
    ∃ pfx : Prefix, isULA pfx.addr ulaSideroLink = false ∧ a = pfx.toString := by
  obtain ⟨pfx, hpfx, rfl⟩ := List.mem_map.1 h
  exact ⟨pfx, by simpa using (List.mem_filter.1 hpfx).2, rfl⟩

/-- An element of the last list of `l`, or of `d` when `l` is empty, is in `d` or in a
list of `l`. -/
theorem mem_getLastD {β : Type} {x : β} {l : List (List β)} {d : List β} (h : x ∈ l.getLastD d) :
    x ∈ d ∨ ∃ xs ∈ l, x ∈ xs := by
  rcases List.mem_cons.1 (List.getLastD_mem_cons l d) with hd | hl
  · exact .inl (hd ▸ h)
  · exact .inr ⟨_, hl, h⟩

namespace Info.Consistent

variable {omnimeta : Omnimeta} {s : Info}

/-- Go's zero `Info` has no processors, memory modules or addresses. -/
theorem zero : Info.Consistent {} :=
  ⟨by simp, by simp, by simp⟩

/-- One poll keeps `Info` consistent, whether it succeeds or fails. -/
theorem run (h : s.Consistent) (p : PollerName) (remote : Remote) :
    (p.run omnimeta remote s).1.Consistent := by
  rw [PollerName.run_eq, PollerName.spec]
  cases p
  case processors =>
    refine { h with processors_nonzero := fun pr hpr => ?_ }
    obtain ⟨r, hr, rfl⟩ := List.mem_map.1 hpr
    exact (keepProcessor_iff r).1 (List.mem_filter.1 hr).2
  case memory =>
    refine { h with memoryModules_nonzero := fun m hm => ?_ }
    obtain ⟨r, hr, rfl⟩ := List.mem_map.1 hm
    exact (keepMemoryModule_iff r).1 (List.mem_filter.1 hr).2
  case addresses =>
    refine { h with addresses_off_sideroLink := fun a ha => ?_ }
    rcases mem_getLastD ha with hold | ⟨xs, hxs, hxa⟩
    · exact h.addresses_off_sideroLink a hold
    · obtain ⟨r, -, rfl⟩ := List.mem_map.1 hxs
      exact mem_sideroLinkFree hxa
  all_goals exact ⟨h.1, h.2, h.3⟩

/-- One event keeps `Info` consistent. -/
theorem apply (h : s.Consistent) (e : TaskEvent) : (e.apply omnimeta s).Consistent := by
  cases e with
  | poll p remote => exact h.run p remote
  | own => exact ⟨h.1, h.2, h.3⟩

/-- A history of events keeps `Info` consistent. -/
theorem runTask (h : s.Consistent) (events : List TaskEvent) :
    (Machine.runTask omnimeta events s).Consistent := by
  induction events generalizing s with
  | nil => exact h
  | cons e es ih => exact ih (h.apply e)

end Info.Consistent

/-- From the zero `Info`, through any history of polls (each succeeding or failing at any
point) and settings of the task's own fields: every processor has cores and a speed,
every memory module a size, and every address is the text of a prefix whose address is
off the SideroLink range. -/
theorem runTask_consistent (omnimeta : Omnimeta) (events : List TaskEvent) :
    let s := runTask omnimeta events {}
    (∀ pr ∈ s.processors, pr.coreCount ≠ 0 ∧ pr.frequency ≠ 0) ∧
      (∀ m ∈ s.memoryModules, m.sizeMb ≠ 0) ∧
      ∀ a ∈ s.addresses, ∃ pfx : Prefix, isULA pfx.addr ulaSideroLink = false ∧ a = pfx.toString :=
  let h : (runTask omnimeta events {}).Consistent := Info.Consistent.zero.runTask events
  ⟨h.1, h.2, h.3⟩

/-- A node address reporting the zero prefix puts `invalid Prefix` into `Addresses`: the
text of every invalid prefix, the one on the SideroLink address `fd00:0:0:3::1` with 129
bits among them. -/
theorem invalid_prefix_text_reachable :
    let remote := { Remote.idle with nodeAddresses := ⟨[⟨"current-no-k8s", [Prefix.zeroValue]⟩], none⟩ }
    let sideroLink := Prefix.prefixFrom (.v6 0xfd00000000000003 1 "") 129
    isULA sideroLink.addr ulaSideroLink = true ∧
      sideroLink.toString ∈ (runTask Omnimeta.blank [.poll .addresses remote] {}).addresses := by
  decide

end Machine
end Omni
