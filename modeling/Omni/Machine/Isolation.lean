import Omni.Machine.Frame
import Omni.Machine.Invariant

/-!
# Each poller's part of `Info` depends only on its own polls

The spec has each resource poller "update a distinct slice of `Info`".  `PollerName.step`
says how far this goes for one call: a poller writes only its part, and reads only its
part, the remote, and, for `addresses` and `meta`, the task's `MaintenanceMode` and
`MachineLabels`.

Over a whole history of the task this is isolation.  The part of poller `p` after any
history is what the history's polls of `p` alone would make of it, with the task's own
settings in between when `p` reads them (`runTask_part_eq_filter`).  The proof carries
`Info.AgreeOn p`, agreement on what `p` writes and reads, along the history: an event
that concerns `p` keeps it when applied to both sides, and any other event keeps it when
applied to one side.

For the list pollers, which rebuild their slice from the remote alone, isolation gives
freshness: the slice after any history is what the last poll of that poller wrote
(`runTask_part_last_poll`).
-/

namespace Omni
namespace Machine

/-- Whether poller `p` reads the fields the task owns: `pollAddresses` reads
`MaintenanceMode` and `pollMeta` reads `MachineLabels`. -/
def PollerName.readsOwned : PollerName → Bool
  | .addresses | .meta => true
  | _ => false

/-- Whether an event can change poller `p`'s part or what `p` reads. -/
def TaskEvent.concerns (p : PollerName) : TaskEvent → Bool
  | .poll q _ => q == p
  | .own _ _ => p.readsOwned

/-- A poller that does not read the task's fields steps the same whatever they are. -/
theorem PollerName.step_of_not_readsOwned (omnimeta : Omnimeta) (remote : Remote)
    {p : PollerName} (hp : p.readsOwned = false) (maintenanceMode maintenanceMode' : Bool)
    (machineLabels machineLabels' : Option MachineLabels) (a : p.Part) :
    p.step omnimeta remote maintenanceMode machineLabels a =
      p.step omnimeta remote maintenanceMode' machineLabels' a := by
  cases p <;> first | rfl | cases hp

section Run

variable (omnimeta : Omnimeta) (remote : Remote) (s : Info)

@[simp] theorem runTask_nil : runTask omnimeta [] s = s := rfl

@[simp] theorem runTask_cons (e : TaskEvent) (events : List TaskEvent) :
    runTask omnimeta (e :: events) s = runTask omnimeta events (e.apply omnimeta s) := rfl

@[simp] theorem runTask_append (events events' : List TaskEvent) :
    runTask omnimeta (events ++ events') s = runTask omnimeta events' (runTask omnimeta events s) :=
  List.foldl_append _ _ _ _

theorem part_run_self (p : PollerName) :
    (p.run omnimeta remote s).1.part p =
      (p.step omnimeta remote s.maintenanceMode s.machineLabels (s.part p)).1 := by
  rw [PollerName.run_eq, PollerName.spec, Info.part_setPart]

theorem part_run_of_ne {p q : PollerName} (h : q ≠ p) :
    (q.run omnimeta remote s).1.part p = s.part p := by
  rw [PollerName.run_eq, PollerName.spec, Info.part_setPart_of_ne (Ne.symm h)]

@[simp] theorem maintenanceMode_run (q : PollerName) :
    (q.run omnimeta remote s).1.maintenanceMode = s.maintenanceMode := by
  rw [PollerName.run_eq, PollerName.spec, Info.maintenanceMode_setPart]

@[simp] theorem machineLabels_run (q : PollerName) :
    (q.run omnimeta remote s).1.machineLabels = s.machineLabels := by
  rw [PollerName.run_eq, PollerName.spec, Info.machineLabels_setPart]

/-- Setting the task's own fields changes no poller's part. -/
@[simp] theorem part_own (p : PollerName) (maintenanceMode : Bool)
    (machineLabels : Option MachineLabels) :
    ((TaskEvent.own maintenanceMode machineLabels).apply omnimeta s).part p = s.part p := by
  cases p <;> rfl

end Run

/-- Two `Info`s agree on what poller `p` writes, and on the task's fields when `p` reads
them. -/
structure Info.AgreeOn (p : PollerName) (s t : Info) : Prop where
  part : s.part p = t.part p
  owned : p.readsOwned → s.maintenanceMode = t.maintenanceMode ∧ s.machineLabels = t.machineLabels

namespace Info.AgreeOn

variable {omnimeta : Omnimeta} {p : PollerName} {s t : Info}

theorem refl (p : PollerName) (s : Info) : Info.AgreeOn p s s := ⟨rfl, fun _ => ⟨rfl, rfl⟩⟩

/-- An event that concerns `p`, applied to both sides, keeps the agreement. -/
theorem apply (h : Info.AgreeOn p s t) (e : TaskEvent) (he : e.concerns p) :
    Info.AgreeOn p (e.apply omnimeta s) (e.apply omnimeta t) := by
  cases e with
  | poll q remote =>
    obtain rfl : q = p := beq_iff_eq.1 he
    refine ⟨?_, fun hr => by simpa [TaskEvent.apply] using h.owned hr⟩
    simp only [TaskEvent.apply, part_run_self, h.part]
    cases hr : q.readsOwned
    · rw [PollerName.step_of_not_readsOwned omnimeta remote hr s.maintenanceMode t.maintenanceMode
        s.machineLabels t.machineLabels]
    · rw [(h.owned hr).1, (h.owned hr).2]
  | own maintenanceMode machineLabels =>
    exact ⟨by simpa using h.part, fun _ => ⟨rfl, rfl⟩⟩

/-- An event that does not concern `p`, applied to one side, keeps the agreement. -/
theorem skip (h : Info.AgreeOn p s t) (e : TaskEvent) (he : e.concerns p = false) :
    Info.AgreeOn p (e.apply omnimeta s) t := by
  cases e with
  | poll q remote =>
    have hq : q ≠ p := fun hqp => by simp [TaskEvent.concerns, hqp] at he
    exact ⟨(part_run_of_ne omnimeta remote s hq).trans h.part,
      fun hr => by simpa [TaskEvent.apply] using h.owned hr⟩
  | own maintenanceMode machineLabels =>
    exact ⟨by simpa using h.part, fun hr => absurd hr (by simpa [TaskEvent.concerns] using he)⟩

/-- The agreement is kept between a history and its events that concern `p`. -/
theorem runTask (h : Info.AgreeOn p s t) (events : List TaskEvent) :
    Info.AgreeOn p (Machine.runTask omnimeta events s)
      (Machine.runTask omnimeta (events.filter (·.concerns p)) t) := by
  induction events generalizing s t with
  | nil => exact h
  | cons e es ih =>
    by_cases he : e.concerns p
    · rw [List.filter_cons_of_pos he, runTask_cons, runTask_cons]
      exact ih (h.apply e he)
    · rw [List.filter_cons_of_neg he, runTask_cons]
      exact ih (h.skip e (by simpa using he))

end Info.AgreeOn

/-- After any history of a machine task, each poller's part of `Info` is what the
history's polls of that poller alone would make of it, together with the task's own
settings when the poller reads them: no poller's part depends on whether, when or against
what remote the other pollers ran, nor on whether they failed. -/
theorem runTask_part_eq_filter (omnimeta : Omnimeta) (events : List TaskEvent) (s : Info)
    (p : PollerName) :
    (runTask omnimeta events s).part p =
      (runTask omnimeta (events.filter (·.concerns p)) s).part p :=
  ((Info.AgreeOn.refl p s).runTask events).part

/-- A history none of whose events concerns `p` leaves `p`'s part as it was. -/
theorem runTask_part_of_not_concerns (omnimeta : Omnimeta) {p : PollerName} {events : List TaskEvent}
    (h : ∀ e ∈ events, e.concerns p = false) (s : Info) :
    (runTask omnimeta events s).part p = s.part p := by
  rw [((Info.AgreeOn.refl p s).runTask events).part,
    List.filter_eq_nil_iff.2 fun e he => by simp [h e he], runTask_nil]

/-- For the list pollers (`pollRoutes`, `pollNetworkLinks`, `pollProcessors`,
`pollMemory`, `pollDisks`), the slice of `Info` after any history is what the history's
last poll of that poller wrote, started from any `Info` at all: nothing that came before
that poll, of this poller or of another, and nothing after it, is left in the slice. -/
theorem runTask_part_last_poll (omnimeta : Omnimeta) {p : PollerName} (hp : p.rebuildsPart)
    (pre post : List TaskEvent) (remote : Remote) (hpost : ∀ r, TaskEvent.poll p r ∉ post)
    (s t : Info) :
    (runTask omnimeta (pre ++ .poll p remote :: post) s).part p =
      (p.run omnimeta remote t).1.part p := by
  have hconcerns : ∀ e ∈ post, e.concerns p = false := by
    intro e he
    cases e with
    | poll q r => exact beq_false_of_ne fun hq => hpost r (hq ▸ he)
    | own => cases p <;> first | rfl | cases hp
  rw [runTask_append, runTask_cons, runTask_part_of_not_concerns omnimeta hconcerns]
  exact PollerName.part_run_of_rebuildsPart omnimeta remote hp _ t

theorem runTask_part_last_poll_routes :
    PollerName.routes.rebuildsPart ∧
      (∀ r, TaskEvent.poll .routes r ∉ [.poll .disks Remote.sample, .own true none]) ∧
      (runTask Omnimeta.blank ([.poll .routes Remote.idle] ++ .poll .routes Remote.sample ::
          [.poll .disks Remote.sample, .own true none]) Info.observed).part .routes =
        (PollerName.routes.run Omnimeta.blank Remote.sample {}).1.part .routes :=
  ⟨rfl, fun r h => by simp at h,
    @runTask_part_last_poll Omnimeta.blank .routes rfl [.poll .routes Remote.idle]
      [.poll .disks Remote.sample, .own true none] Remote.sample (fun r h => by simp at h)
      Info.observed {}⟩

end Machine
end Omni
