import Omni.Machine.PollSpec

/-!
# Order, re-polling and failure of the pollers

Pollers finish in whatever order their watch events and timers fire.  From
`PollerName.run_eq` (each poller is its `step` on its own part of `Info`) this module
derives three facts about every poller and every remote:

* `PollerName.run_comm`: two different pollers commute, errors included;
* `PollerName.run_repoll`: re-polling an unchanged remote after a success changes
  nothing, and the list pollers' result does not depend on the old `Info` at all;
* `PollerName.run_failure_frame`: a failing poller changes nothing outside its own part,
  and `pollVersion` changes nothing at all when it fails or is `Unimplemented`.

The last result is as far as the code goes: the list pollers clear their slice before
the call or scan and `pollExtensions` stores a fresh schematic first, so a failed poll
can leave its own part reset (`pollDisks_failure_clears`).
-/

namespace Omni
namespace Machine

variable (omnimeta : Omnimeta) (remote : Remote)

/-- Running `p` after a write to another poller's part is running `p` first: `p` neither
reads that part nor writes it. -/
theorem PollerName.spec_setPart_of_ne {p q : PollerName} (h : p ≠ q) (s : Info) (b : q.Part) :
    p.spec omnimeta remote (s.setPart q b) =
      ((p.spec omnimeta remote s).1.setPart q b, (p.spec omnimeta remote s).2) := by
  simp only [PollerName.spec, Info.maintenanceMode_setPart, Info.machineLabels_setPart,
    Info.part_setPart_of_ne h, Info.setPart_comm h]

/-- Two different pollers of `allPollers`, run one after the other against the same
remote, end in the same `Info` in either order, and each returns the same error in
either order. -/
theorem PollerName.run_comm {p q : PollerName} (h : p ≠ q) (s : Info) :
    (q.run omnimeta remote (p.run omnimeta remote s).1).1 =
        (p.run omnimeta remote (q.run omnimeta remote s).1).1 ∧
      (p.run omnimeta remote (q.run omnimeta remote s).1).2 = (p.run omnimeta remote s).2 ∧
      (q.run omnimeta remote (p.run omnimeta remote s).1).2 = (q.run omnimeta remote s).2 := by
  simp only [PollerName.run_eq]
  obtain ⟨a, hpa⟩ : ∃ a, (p.spec omnimeta remote s).1 = s.setPart p a := ⟨_, rfl⟩
  obtain ⟨b, hqb⟩ : ∃ b, (q.spec omnimeta remote s).1 = s.setPart q b := ⟨_, rfl⟩
  simp only [hpa, hqb, PollerName.spec_setPart_of_ne omnimeta remote h,
    PollerName.spec_setPart_of_ne omnimeta remote (Ne.symm h), Info.setPart_comm h, and_self]

theorem PollerName.run_comm_version_disks :
    PollerName.version ≠ .disks ∧
      (PollerName.disks.run Omnimeta.blank Remote.sample
          (PollerName.version.run Omnimeta.blank Remote.sample Info.observed).1).1 =
        (PollerName.version.run Omnimeta.blank Remote.sample
          (PollerName.disks.run Omnimeta.blank Remote.sample Info.observed).1).1 ∧
      (PollerName.version.run Omnimeta.blank Remote.sample
          (PollerName.disks.run Omnimeta.blank Remote.sample Info.observed).1).2 =
        (PollerName.version.run Omnimeta.blank Remote.sample Info.observed).2 ∧
      (PollerName.disks.run Omnimeta.blank Remote.sample
          (PollerName.version.run Omnimeta.blank Remote.sample Info.observed).1).2 =
        (PollerName.disks.run Omnimeta.blank Remote.sample Info.observed).2 :=
  ⟨by decide, PollerName.run_comm Omnimeta.blank Remote.sample (by decide) Info.observed⟩

/-- A poller's error depends on the remote and the read-only fields only, never on its
old part. -/
theorem PollerName.step_err (p : PollerName) (maintenanceMode : Bool)
    (machineLabels : Option MachineLabels) (a b : p.Part) :
    (p.step omnimeta remote maintenanceMode machineLabels a).2 =
      (p.step omnimeta remote maintenanceMode machineLabels b).2 := by
  cases p <;> simp only [PollerName.step]
  case version => cases remote.version <;> rfl
  case meta => simp only [forEachResource_overwrite]

/-- A successful step, repeated on its own result, returns that result again. -/
theorem PollerName.step_repeat (p : PollerName) (maintenanceMode : Bool)
    (machineLabels : Option MachineLabels) (a : p.Part)
    (hok : (p.step omnimeta remote maintenanceMode machineLabels a).2 = none) :
    p.step omnimeta remote maintenanceMode machineLabels
        (p.step omnimeta remote maintenanceMode machineLabels a).1 =
      ((p.step omnimeta remote maintenanceMode machineLabels a).1, none) := by
  rw [← hok, Prod.ext_iff]
  refine ⟨?_, PollerName.step_err omnimeta remote p _ _ _ _⟩
  cases p <;> simp only [PollerName.step]
  case version => cases remote.version <;> simp only [getLastD_getLastD]
  case meta => simp only [forEachResource_overwrite, getLastD_getLastD]
  all_goals simp only [getLastD_getLastD]

/-- The list pollers rebuild their slice from the remote alone. -/
def PollerName.rebuildsPart : PollerName → Bool
  | .routes | .networkLinks | .processors | .memory | .disks => true
  | _ => false

/-- A list poller writes the same part whatever `Info` it starts from. -/
theorem PollerName.part_run_of_rebuildsPart {p : PollerName} (hp : p.rebuildsPart) (s t : Info) :
    (p.run omnimeta remote s).1.part p = (p.run omnimeta remote t).1.part p := by
  cases p <;> simp [PollerName.rebuildsPart] at hp <;> simp [PollerName.run_eq, PollerName.spec, PollerName.step]

/-- Re-polling an unchanged remote after a successful poll returns `nil` and leaves
`Info` as the first poll left it.  For `pollRoutes`, `pollNetworkLinks`,
`pollProcessors`, `pollMemory` and `pollDisks` the part written does not depend on the
`Info` the poll started from. -/
theorem PollerName.run_repoll (p : PollerName) (s : Info)
    (hok : (p.run omnimeta remote s).2 = none) :
    p.run omnimeta remote (p.run omnimeta remote s).1 = ((p.run omnimeta remote s).1, none) ∧
      (p.rebuildsPart → ∀ t : Info,
        (p.run omnimeta remote t).1.part p = (p.run omnimeta remote s).1.part p) := by
  refine ⟨?_, fun hp t => PollerName.part_run_of_rebuildsPart omnimeta remote hp t s⟩
  simp only [PollerName.run_eq] at hok ⊢
  have hrep := PollerName.step_repeat omnimeta remote p _ _ _ hok
  simp only [PollerName.spec, Info.part_setPart, Info.maintenanceMode_setPart,
    Info.machineLabels_setPart, Info.setPart_setPart] at hrep ⊢
  rw [hrep]

/-- Polling the routes of `Remote.sample` from an `Info` holding two stale gateways keeps
the gateway of the default route alone; polling again changes nothing, and a poll from the
zero `Info` writes the same gateways. -/
theorem PollerName.run_repoll_routes_stale :
    (PollerName.routes.run Omnimeta.blank Remote.sample Info.observed).2 = none ∧
      (PollerName.routes.run Omnimeta.blank Remote.sample Info.observed).1.defaultGateways =
        ["192.168.0.1"] ∧
      PollerName.routes.run Omnimeta.blank Remote.sample
          (PollerName.routes.run Omnimeta.blank Remote.sample Info.observed).1 =
        ((PollerName.routes.run Omnimeta.blank Remote.sample Info.observed).1, none) ∧
      (PollerName.routes.run Omnimeta.blank Remote.sample {}).1.part .routes =
        (PollerName.routes.run Omnimeta.blank Remote.sample Info.observed).1.part .routes :=
  have h := PollerName.run_repoll Omnimeta.blank Remote.sample .routes Info.observed rfl
  ⟨rfl, rfl, h.1, h.2 rfl {}⟩

/-- What a poll leaves behind: every field outside the poller's own part is unchanged,
whether the poll fails or not.  A failing `pollVersion` changes nothing at all, and a
`Version` call that fails with `Unimplemented` makes `pollVersion` return `nil` and
change nothing. -/
theorem PollerName.run_failure_frame (p : PollerName) (s : Info) :
    (p.run omnimeta remote s).1 = s.setPart p ((p.run omnimeta remote s).1.part p) ∧
      ((PollerName.version.run omnimeta remote s).2 ≠ none →
        (PollerName.version.run omnimeta remote s).1 = s) ∧
      (∀ err, remote.version = .error err → statusCode err = codeUnimplemented →
        PollerName.version.run omnimeta remote s = (s, none)) := by
  refine ⟨by simp [PollerName.run_eq, PollerName.spec], fun hfail => ?_, fun err hv hcode => ?_⟩
  · revert hfail
    simp only [PollerName.run, pollVersion]
    cases remote.version with
    | error err => by_cases h : statusCode err = codeUnimplemented <;> simp [h]
    | ok resp => simp
  · simp [PollerName.run, pollVersion, hv, hcode]

theorem pollVersion_unimplemented_keeps_info :
    PollerName.version.run Omnimeta.blank
        { Remote.sample with version := .error (.status 12 "unknown service machine.MachineService") }
        Info.observed =
      (Info.observed, none) :=
  (PollerName.run_failure_frame Omnimeta.blank _ .version Info.observed).2.2 _ rfl rfl

/-- `pollDisks` clears `Blockdevices` before it calls `Disks`, so a failing call leaves
the slice empty rather than as it was. -/
theorem pollDisks_failure_clears :
    let s : Info := { blockdevices := [⟨1, "", "sda", "", "", "", "", "HDD", "", true⟩] }
    let r := PollerName.disks.run Omnimeta.blank
      { Remote.idle with disks := .error (.status 14 "unavailable") } s
    r.2 ≠ none ∧ r.1 ≠ s := by
  decide

end Machine
end Omni
