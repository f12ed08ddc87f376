import Omni.Management.ServiceAccount

/-!
# Kubernetes upgrade pre-checks and manifest sync

Two handlers of `managementServer` act on a cluster's Kubernetes control plane.

`KubernetesUpgradePreChecks` reads the cluster's `KubernetesUpgradeStatus`, checks the
upgrade path from its last version, collects the first node IP of every control-plane
`ClusterMachineIdentity` of the cluster, and runs Talos' upgrade pre-checks on them.  A
failing pre-check is an answer (`Ok` false, the check log as `Reason`), not an RPC error.

`KubernetesSyncManifests` streams two phases to the client: one `MANIFEST` message per
result of `manifests.Sync`, then, unless the request is a dry run, one `ROLLOUT` message
per progress report of `manifests.WaitForRollout` on the manifests the sync did not skip.
It ends by touching the cluster's `KubernetesUpgradeStatus` (`triggerManifestResync`).

The Kubernetes and Talos runtimes, `upgrade.NewPath`, the checks, `manifests.Sync` and
`manifests.WaitForRollout` are not part of the excerpt: they are the fields of
`KubernetesEnv`, each a function of what the handler passes it.  The channel protocol
between the handler and the goroutine running `Sync` (or `WaitForRollout`) is modelled by
what it delivers: the goroutine sends every result on an unbuffered channel before its
error reaches the buffered one, so the loop receives the results in order and then the
error.  `sendFault n` is the error of the stream's `n`-th `Send`, counted from zero
across both phases.
-/

namespace Omni
namespace Management

/-- A Kubernetes object, by its content. -/
abbrev Manifest := String

/-- A `manifests.SyncResult`. -/
structure SyncResult where
  path : String
  object : Manifest
  diff : String
  skipped : Bool

/-- A `manifests.RolloutProgress`. -/
structure RolloutProgress where
  path : String
  object : Manifest

/-- The functions and constants outside the excerpt that the two handlers use; `none` is a
call that succeeds. -/
structure KubernetesEnv where
  /-- `runtime.LookupInterface` of the Kubernetes runtime. -/
  lookupKubernetes : Option Error
  /-- `GetKubeconfig` for a cluster. -/
  getKubeconfig : String → Option Error
  /-- `runtime.LookupInterface` of the Talos runtime. -/
  lookupTalos : Option Error
  /-- `GetClient` for a cluster. -/
  getClient : String → Option Error
  /-- `omnires.LabelCluster`. -/
  labelCluster : String
  /-- `omnires.LabelControlPlaneRole`. -/
  labelControlPlaneRole : String
  /-- The text of `upgrade.NewPath`'s error for two versions. -/
  newPath : String → String → Option String
  /-- `Path.IsSupported`. -/
  pathIsSupported : String → String → Bool
  /-- `Path.String`. -/
  pathString : String → String → String
  /-- `upgrade.NewChecks` for a cluster, a path and control-plane nodes, and then `Run`:
  the error of `NewChecks`, or the lines the checks log and the text of `Run`'s error. -/
  preChecks : String → String → String → List String → Except Error (List String × Option String)
  /-- `manifests.GetBootstrapManifests` for a cluster. -/
  getBootstrapManifests : String → Except Error (List Manifest)
  /-- `manifests.Sync` for a cluster, its manifests and the dry-run flag: the results it
  sends, and its error. -/
  sync : String → List Manifest → Bool → List SyncResult × Option Error
  /-- `yaml.Marshal` of an object. -/
  marshal : Manifest → Except Error String
  /-- `manifests.WaitForRollout` for a cluster and manifests: the progress it sends, and
  its error. -/
  waitForRollout : String → List Manifest → List RolloutProgress × Option Error

/-- `management.KubernetesUpgradePreChecksRequest`. -/
structure KubernetesUpgradePreChecksRequest where
  newVersion : String

/-- `management.KubernetesUpgradePreChecksResponse`. -/
structure KubernetesUpgradePreChecksResponse where
  ok : Bool
  reason : String
deriving DecidableEq

/-- The `for` loop over the control-plane machine identities: the first node IP of each
that has one. -/
def controlplaneNodes (cmis : List ClusterMachineIdentity) : List String :=
  cmis.foldl (fun nodes cmi =>
    match cmi.nodeIps with
    | [] => nodes
    | ip :: _ => nodes ++ [ip]) []

/-- The log buffer of the pre-checks: each logged line and its newline, then the failure. -/
def preChecksReason (log : List String) (err : String) : String :=
  String.join (log.map fun line => line ++ "\n") ++ "pre-checks failed: " ++ err ++ "\n"

/-- `KubernetesUpgradePreChecks`; `requestContext` is the cluster name of
`router.ExtractContext`, if there is a context. -/
def kubernetesUpgradePreChecks (env : KubernetesEnv) (call : Call)
    (requestContext : Option String) (req : KubernetesUpgradePreChecksRequest) (st : State) :
    Except Error KubernetesUpgradePreChecksResponse :=
  match authCheckGRPC call.check with
  | .error err => .error err
  | .ok _ =>
  match requestContext with
  | Option.none => .error (.status codeInvalidArgument "unable to extract request context")
  | some name =>
  match st.getKubernetesUpgradeStatus name with
  | Option.none => .error (.notFound (.kubernetesUpgradeStatus, name))
  | some upgradeStatus =>
  let currentVersion := upgradeStatus.lastUpgradeVersion
  if currentVersion = "" then
    .error (.status codeFailedPrecondition "current version is not known yet")
  else
  match env.newPath currentVersion req.newVersion with
  | some err => .error (.status codeInvalidArgument ("invalid upgrade path: " ++ err))
  | Option.none =>
  if !env.pathIsSupported currentVersion req.newVersion then
    .error (.status codeInvalidArgument
      ("unsupported upgrade path: " ++ env.pathString currentVersion req.newVersion))
  else
  match env.lookupKubernetes with
  | some err => .error err
  | Option.none =>
  match env.getKubeconfig name with
  | some err => .error (.wrapped "error getting kubeconfig" err)
  | Option.none =>
  match env.lookupTalos with
  | some err => .error err
  | Option.none =>
  match env.getClient name with
  | some err => .error (.wrapped "error getting talos client" err)
  | Option.none =>
  let cmis := st.clusterMachineIdentities.filter fun cmi =>
    labelEqual env.labelCluster name cmi.labels && labelExists env.labelControlPlaneRole cmi.labels
  match env.preChecks name currentVersion req.newVersion (controlplaneNodes cmis) with
  | .error err => .error err
  | .ok (_, Option.none) => .ok { ok := true, reason := "" }
  | .ok (log, some err) => .ok { ok := false, reason := preChecksReason log err }

/-- A sample environment: every runtime answers, every path is supported, the checks log
one line per node and pass, and `Sync` and `WaitForRollout` report every manifest. -/
def KubernetesEnv.sample : KubernetesEnv where
  lookupKubernetes := Option.none
  getKubeconfig _ := Option.none
  lookupTalos := Option.none
  getClient _ := Option.none
  labelCluster := "cluster"
  labelControlPlaneRole := "role-controlplane"
  newPath _ _ := Option.none
  pathIsSupported _ _ := true
  pathString fromVersion toVersion := fromVersion ++ " -> " ++ toVersion
  preChecks _ _ _ nodes := .ok (nodes.map fun node => "checked " ++ node, Option.none)
  getBootstrapManifests _ := .ok ["coredns", "kube-proxy"]
  sync _ manifests _ := (manifests.map fun m => ⟨m, m, "", false⟩, Option.none)
  marshal m := .ok m
  waitForRollout _ manifests := (manifests.map fun m => ⟨m, m⟩, Option.none)

/-- `management.KubernetesSyncManifestRequest`. -/
structure KubernetesSyncManifestRequest where
  dryRun : Bool

/-- `KubernetesSyncManifestResponse_ResponseType`. -/
inductive SyncResponseType where
  | manifest
  | rollout
deriving DecidableEq

/-- `management.KubernetesSyncManifestResponse`. -/
structure KubernetesSyncManifestResponse where
  responseType : SyncResponseType
  path : String
  object : String
  diff : String
  skipped : Bool
deriving DecidableEq

/-- The `syncLoop` of `KubernetesSyncManifests` from the stream's `n`-th `Send` on, over the
results `Sync` sends and then its error: the messages sent, the manifests to wait for, and
the error that ends the call (`none` when the loop breaks on `Sync`'s `nil`). -/
def syncLoop (env : KubernetesEnv) (sendFault : Nat → Option Error) (n : Nat) :
    List SyncResult → Option Error →
      List KubernetesSyncManifestResponse × List Manifest × Option Error
  | [], err => ([], [], err.map (.wrapped "failed to sync manifests"))
  | result :: rest, err =>
    match env.marshal result.object with
    | .error e => ([], [], some (.wrapped "failed to marshal object" e))
    | .ok obj =>
      match sendFault n with
      | some e => ([], [], some e)
      | Option.none =>
        let r := syncLoop env sendFault (n + 1) rest err
        ({ responseType := .manifest, path := result.path, object := obj, diff := result.diff,
            skipped := result.skipped } :: r.1,
          (if !result.skipped then [result.object] else []) ++ r.2.1, r.2.2)

/-- The `rolloutLoop` of `KubernetesSyncManifests` from the stream's `n`-th `Send` on: the
messages sent and the error that ends the call. -/
def rolloutLoop (env : KubernetesEnv) (sendFault : Nat → Option Error) (n : Nat) :
    List RolloutProgress → Option Error → List KubernetesSyncManifestResponse × Option Error
  | [], err => ([], err.map (.wrapped "failed to wait fo rollout"))
  | result :: rest, err =>
    match env.marshal result.object with
    | .error e => ([], some (.wrapped "failed to marshal object" e))
    | .ok obj =>
      match sendFault n with
      | some e => ([], some e)
      | Option.none =>
        let r := rolloutLoop env sendFault (n + 1) rest err
        ({ responseType := .rollout, path := result.path, object := obj, diff := "",
            skipped := false } :: r.1, r.2)

section Loops

variable (env : KubernetesEnv) (sendFault : Nat → Option Error)

/-- Every message of the manifest phase is a `MANIFEST` message. -/
theorem syncLoop_manifest (n : Nat) (results : List SyncResult) (err : Option Error) :
    ∀ m ∈ (syncLoop env sendFault n results err).1, m.responseType = .manifest := by
  induction results generalizing n with
  | nil => simp [syncLoop]
  | cons result rest ih =>
    rcases hm : env.marshal result.object with e | obj
    · simp [syncLoop, hm]
    rcases hs : sendFault n with _ | e
    · simp only [syncLoop, hm, hs, List.mem_cons, forall_eq_or_imp, true_and]
      exact ih (n + 1)
    · simp [syncLoop, hm, hs]

/-- A manifest phase that ends on `Sync`'s `nil` sent one message per result, for the
result's path, and waits for the objects of the results `Sync` did not skip. -/
theorem syncLoop_complete {n : Nat} {results : List SyncResult} {err : Option Error}
    (h : (syncLoop env sendFault n results err).2.2 = Option.none) :
    err = Option.none ∧
      (syncLoop env sendFault n results err).1.map (·.path) = results.map (·.path) ∧
      (syncLoop env sendFault n results err).2.1 =
        (results.filter fun r => !r.skipped).map (·.object) := by
  induction results generalizing n with
  | nil => simpa [syncLoop] using h
  | cons result rest ih =>
    rcases hm : env.marshal result.object with e | obj
    · simp [syncLoop, hm] at h
    rcases hs : sendFault n with _ | e
    · simp only [syncLoop, hm, hs] at h ⊢
      obtain ⟨herr, hpaths, hobjects⟩ := ih h
      refine ⟨herr, by simp [hpaths], ?_⟩
      cases hskip : result.skipped <;> simp [hskip, hobjects, List.filter_cons]
    · simp [syncLoop, hm, hs] at h

/-- Every message of the rollout phase is a `ROLLOUT` message. -/
theorem rolloutLoop_rollout (n : Nat) (progress : List RolloutProgress) (err : Option Error) :
    ∀ m ∈ (rolloutLoop env sendFault n progress err).1, m.responseType = .rollout := by
  induction progress generalizing n with
  | nil => simp [rolloutLoop]
  | cons result rest ih =>
    rcases hm : env.marshal result.object with e | obj
    · simp [rolloutLoop, hm]
    rcases hs : sendFault n with _ | e
    · simp only [rolloutLoop, hm, hs, List.mem_cons, forall_eq_or_imp, true_and]
      exact ih (n + 1)
    · simp [rolloutLoop, hm, hs]

/-- A rollout phase that ends on `WaitForRollout`'s `nil` sent one message per progress
report, for its path. -/
theorem rolloutLoop_complete {n : Nat} {progress : List RolloutProgress} {err : Option Error}
    (h : (rolloutLoop env sendFault n progress err).2 = Option.none) :
    err = Option.none ∧
      (rolloutLoop env sendFault n progress err).1.map (·.path) = progress.map (·.path) := by
  induction progress generalizing n with
  | nil => simpa [rolloutLoop] using h
  | cons result rest ih =>
    rcases hm : env.marshal result.object with e | obj
    · simp [rolloutLoop, hm] at h
    rcases hs : sendFault n with _ | e
    · simp only [rolloutLoop, hm, hs] at h ⊢
      obtain ⟨herr, hpaths⟩ := ih h
      exact ⟨herr, by simp [hpaths]⟩
    · simp [rolloutLoop, hm, hs] at h

end Loops

/-- The mutator of `triggerManifestResync`: set an annotation of a
`KubernetesUpgradeStatus`.  Annotations of other resources are not modelled. -/
def Resource.setAnnotation (key value : String) : Resource → Resource
  | .kubernetesUpgradeStatus r =>
    .kubernetesUpgradeStatus { r with annotations := r.annotations.insert key value }
  | r => r

theorem Resource.pointer_setAnnotation (key value : String) (r : Resource) :
    (r.setAnnotation key value).pointer = r.pointer := by
  cases r <;> rfl

/-- `triggerManifestResync` at Unix time `now`: a missing status is no error. -/
def triggerManifestResync (faults : Faults) (now : Int) (name : String) (st : State) :
    State × Option Error :=
  match st.update faults (.kubernetesUpgradeStatus, name)
      (Resource.setAnnotation "manifest-rollout" (toString now))
      (Resource.pointer_setAnnotation _ _) with
  | .error (.notFound _) => (st, Option.none)
  | .error err => (st, some (.wrapped "failed to update KubernetesUpgradeStatus" err))
  | .ok st' => (st', Option.none)

/-- The store's resources with the `manifest-rollout` annotation of the cluster's
`KubernetesUpgradeStatus` set to `now`. -/
def resynced (now : Int) (name : String) (resources : List Resource) : List Resource :=
  resources.map fun r =>
    if r.pointer = (.kubernetesUpgradeStatus, name) then
      r.setAnnotation "manifest-rollout" (toString now)
    else r

/-- Setting the annotation changes no resource of another type. -/
theorem mem_resynced {now : Int} {name : String} {resources : List Resource} {x : Resource}
    (hx : x.pointer.1 ≠ .kubernetesUpgradeStatus) : x ∈ resynced now name resources ↔ x ∈ resources := by
  simp only [resynced, List.mem_map]
  constructor
  · rintro ⟨r, hr, rfl⟩
    by_cases hptr : r.pointer = (.kubernetesUpgradeStatus, name)
    · rw [if_pos hptr, Resource.pointer_setAnnotation, hptr] at hx
      exact absurd rfl hx
    · rwa [if_neg hptr]
  · intro hmem
    refine ⟨x, hmem, ?_⟩
    rw [if_neg fun hptr => hx (by rw [hptr])]

/-- `triggerManifestResync` leaves the store as it was, or returns `nil` after setting the
annotation on the cluster's `KubernetesUpgradeStatus`, and nowhere else. -/
theorem triggerManifestResync_cases (faults : Faults) (now : Int) (name : String) (st : State) :
    (triggerManifestResync faults now name st).1 = st ∨
      (triggerManifestResync faults now name st).2 = Option.none ∧
        (triggerManifestResync faults now name st).1.resources = resynced now name st.resources := by
  unfold triggerManifestResync
  split
  · exact .inl rfl
  · exact .inl rfl
  · exact .inr ⟨rfl, (State.update_eq_ok.1 ‹_›).2.2⟩

/-- The two phases of `KubernetesSyncManifests`, from what `Sync` delivers on: the
messages the client receives, the error returned, and the store. -/
def syncPhases (env : KubernetesEnv) (faults : Faults) (sendFault : Nat → Option Error)
    (name : String) (synced : List SyncResult × Option Error) (dryRun : Bool) (now : Int)
    (st : State) : List KubernetesSyncManifestResponse × Option Error × State :=
  let manifestPhase := syncLoop env sendFault 0 synced.1 synced.2
  match manifestPhase.2.2 with
  | some err => (manifestPhase.1, some err, st)
  | Option.none =>
  if dryRun then
    let resync := triggerManifestResync faults now name st
    (manifestPhase.1, resync.2, resync.1)
  else
  let progress := env.waitForRollout name manifestPhase.2.1
  let rolloutPhase := rolloutLoop env sendFault manifestPhase.1.length progress.1 progress.2
  match rolloutPhase.2 with
  | some err => (manifestPhase.1 ++ rolloutPhase.1, some err, st)
  | Option.none =>
    let resync := triggerManifestResync faults now name st
    (manifestPhase.1 ++ rolloutPhase.1, resync.2, resync.1)

section Phases

variable (env : KubernetesEnv) (faults : Faults) (sendFault : Nat → Option Error) (name : String)
  (synced : List SyncResult × Option Error) (dryRun : Bool) (now : Int) (st : State)

/-- The client receives `MANIFEST` messages and then `ROLLOUT` messages, none of the latter
on a dry run.  A call that returns `nil` sent one `MANIFEST` message for each result of a
`Sync` that ended in `nil`, and, unless it was a dry run, one `ROLLOUT` message for each
progress report of a `WaitForRollout` on the objects `Sync` did not skip that ended in
`nil`. -/
theorem syncPhases_messages :
    ∃ manifests rollouts,
      (syncPhases env faults sendFault name synced dryRun now st).1 = manifests ++ rollouts ∧
      (∀ m ∈ manifests, m.responseType = .manifest) ∧
      (∀ m ∈ rollouts, m.responseType = .rollout) ∧ (dryRun = true → rollouts = []) ∧
      ((syncPhases env faults sendFault name synced dryRun now st).2.1 = Option.none →
        synced.2 = Option.none ∧ manifests.map (·.path) = synced.1.map (·.path) ∧
        (dryRun = false →
          (env.waitForRollout name ((synced.1.filter fun r => !r.skipped).map (·.object))).2 =
            Option.none ∧
          rollouts.map (·.path) =
            (env.waitForRollout name
              ((synced.1.filter fun r => !r.skipped).map (·.object))).1.map (·.path))) := by
  have hmanifest := syncLoop_manifest env sendFault 0 synced.1 synced.2
  rcases hsync : (syncLoop env sendFault 0 synced.1 synced.2).2.2 with _ | err
  case some =>
    simp only [syncPhases, hsync]
    exact ⟨_, [], (List.append_nil _).symm, hmanifest, by simp, fun _ => rfl, nofun⟩
  obtain ⟨herr, hpaths, hobjects⟩ := syncLoop_complete env sendFault hsync
  cases dryRun
  case true =>
    simp only [syncPhases, hsync, ite_true]
    exact ⟨_, [], (List.append_nil _).symm, hmanifest, by simp, fun _ => rfl,
      fun _ => ⟨herr, hpaths, nofun⟩⟩
  rw [← hobjects]
  rcases hroll : (rolloutLoop env sendFault (syncLoop env sendFault 0 synced.1 synced.2).1.length
    (env.waitForRollout name (syncLoop env sendFault 0 synced.1 synced.2).2.1).1
    (env.waitForRollout name (syncLoop env sendFault 0 synced.1 synced.2).2.1).2).2 with _ | err
  all_goals simp only [syncPhases, hsync, hroll, Bool.false_eq_true, ite_false]
  · exact ⟨_, _, rfl, hmanifest, rolloutLoop_rollout env sendFault _ _ _, nofun,
      fun _ => ⟨herr, hpaths, fun _ => rolloutLoop_complete env sendFault hroll⟩⟩
  · exact ⟨_, _, rfl, hmanifest, rolloutLoop_rollout env sendFault _ _ _, nofun, nofun⟩

/-- The phases leave the store as it was, or return `nil` after setting the annotation of
the cluster's `KubernetesUpgradeStatus`. -/
theorem syncPhases_store :
    (syncPhases env faults sendFault name synced dryRun now st).2.2 = st ∨
      (syncPhases env faults sendFault name synced dryRun now st).2.1 = Option.none ∧
        (syncPhases env faults sendFault name synced dryRun now st).2.2.resources =
          resynced now name st.resources := by
  rcases hsync : (syncLoop env sendFault 0 synced.1 synced.2).2.2 with _ | err
  case some =>
    simp only [syncPhases, hsync]
    exact .inl trivial
  cases dryRun
  case true =>
    simp only [syncPhases, hsync, ite_true]
    exact triggerManifestResync_cases faults now name st
  rcases hroll : (rolloutLoop env sendFault (syncLoop env sendFault 0 synced.1 synced.2).1.length
    (env.waitForRollout name (syncLoop env sendFault 0 synced.1 synced.2).2.1).1
    (env.waitForRollout name (syncLoop env sendFault 0 synced.1 synced.2).2.1).2).2 with _ | err
  all_goals simp only [syncPhases, hsync, hroll, Bool.false_eq_true, ite_false]
  · exact triggerManifestResync_cases faults now name st
  · exact .inl trivial

end Phases

/-- `KubernetesSyncManifests` at Unix time `now`: the messages the client receives, the
error returned, and the store. -/
def kubernetesSyncManifests (env : KubernetesEnv) (call : Call) (sendFault : Nat → Option Error)
    (requestContext : Option String) (req : KubernetesSyncManifestRequest) (now : Int)
    (st : State) : List KubernetesSyncManifestResponse × Option Error × State :=
  match authCheckGRPC call.check with
  | .error err => ([], some err, st)
  | .ok _ =>
  match requestContext with
  | Option.none => ([], some (.status codeInvalidArgument "unable to extract request context"), st)
  | some name =>
  match env.lookupKubernetes with
  | some err => ([], some err, st)
  | Option.none =>
  match env.getKubeconfig name with
  | some err => ([], some (.wrapped "failed to get kubeconfig" err), st)
  | Option.none =>
  match env.lookupTalos with
  | some err => ([], some err, st)
  | Option.none =>
  match env.getClient name with
  | some err => ([], some (.wrapped "failed to get talos client" err), st)
  | Option.none =>
  match env.getBootstrapManifests name with
  | .error err => ([], some (.wrapped "failed to get manifests" err), st)
  | .ok bootstrapManifests =>
  syncPhases env call.faults sendFault name (env.sync name bootstrapManifests req.dryRun)
    req.dryRun now st

/-- `KubernetesSyncManifests` either fails before `Sync`, sending nothing and leaving the
store alone, or runs the two phases on what `Sync` delivers for the request's cluster. -/
theorem kubernetesSyncManifests_cases (env : KubernetesEnv) (call : Call)
    (sendFault : Nat → Option Error) (requestContext : Option String)
    (req : KubernetesSyncManifestRequest) (now : Int) (st : State) :
    (∃ err, kubernetesSyncManifests env call sendFault requestContext req now st =
      ([], some err, st)) ∨
    ∃ name bootstrap, requestContext = some name ∧ env.getBootstrapManifests name = .ok bootstrap ∧
      kubernetesSyncManifests env call sendFault requestContext req now st =
        syncPhases env call.faults sendFault name (env.sync name bootstrap req.dryRun) req.dryRun
          now st := by
  unfold kubernetesSyncManifests
  repeat' split
  all_goals first | exact .inl ⟨_, rfl⟩ | exact .inr ⟨_, _, rfl, ‹_›, rfl⟩

/-- Whatever the caller, the runtimes, `Sync`, `WaitForRollout`, the client and the store
do: the client receives `MANIFEST` messages and then `ROLLOUT` messages, and none of the
latter on a dry run.  `nil` is returned only after one `MANIFEST` message went out for
each result of a `Sync` of the cluster's bootstrap manifests that ended in `nil`, and,
unless it was a dry run, one `ROLLOUT` message for each progress report of a
`WaitForRollout` that ended in `nil` on exactly the objects `Sync` did not skip, in order.
The store is left as it was, or, with `nil` returned, only the cluster's
`KubernetesUpgradeStatus` gets its `manifest-rollout` annotation. -/
theorem kubernetesSyncManifests_phases (env : KubernetesEnv) (call : Call)
    (sendFault : Nat → Option Error) (requestContext : Option String)
    (req : KubernetesSyncManifestRequest) (now : Int) (st : State) :
    ∃ manifests rollouts,
      (kubernetesSyncManifests env call sendFault requestContext req now st).1 =
        manifests ++ rollouts ∧
      (∀ m ∈ manifests, m.responseType = .manifest) ∧
      (∀ m ∈ rollouts, m.responseType = .rollout) ∧ (req.dryRun = true → rollouts = []) ∧
      ((kubernetesSyncManifests env call sendFault requestContext req now st).2.1 = Option.none →
        ∃ name bootstrap, requestContext = some name ∧
          env.getBootstrapManifests name = .ok bootstrap ∧
          (env.sync name bootstrap req.dryRun).2 = Option.none ∧
          manifests.map (·.path) = (env.sync name bootstrap req.dryRun).1.map (·.path) ∧
          (req.dryRun = false →
            (env.waitForRollout name (((env.sync name bootstrap req.dryRun).1.filter
              fun r => !r.skipped).map (·.object))).2 = Option.none ∧
            rollouts.map (·.path) = (env.waitForRollout name (((env.sync name bootstrap
              req.dryRun).1.filter fun r => !r.skipped).map (·.object))).1.map (·.path))) ∧
      ((kubernetesSyncManifests env call sendFault requestContext req now st).2.2 = st ∨
        (kubernetesSyncManifests env call sendFault requestContext req now st).2.1 = Option.none ∧
          ∃ name, requestContext = some name ∧
            (kubernetesSyncManifests env call sendFault requestContext req now st).2.2.resources =
              resynced now name st.resources) := by
  rcases kubernetesSyncManifests_cases env call sendFault requestContext req now st with
    ⟨err, h⟩ | ⟨name, bootstrap, hname, hboot, h⟩
  · rw [h]
    exact ⟨[], [], rfl, by simp, by simp, fun _ => rfl, nofun, .inl rfl⟩
  rw [h]
  obtain ⟨manifests, rollouts, hmsgs, hm, hr, hdry, hdone⟩ := syncPhases_messages env call.faults
    sendFault name (env.sync name bootstrap req.dryRun) req.dryRun now st
  refine ⟨manifests, rollouts, hmsgs, hm, hr, hdry,
    fun hnil => ⟨name, bootstrap, hname, hboot, hdone hnil⟩, ?_⟩
  rcases syncPhases_store env call.faults sendFault name (env.sync name bootstrap req.dryRun)
    req.dryRun now st with hst | ⟨hnil, hres⟩
  · exact .inl hst
  · exact .inr ⟨hnil, name, hname, hres⟩

/-- `KubernetesSyncManifests` leaves the store as it was, or returns `nil` after setting the
annotation of the cluster's `KubernetesUpgradeStatus`. -/
theorem kubernetesSyncManifests_store (env : KubernetesEnv) (call : Call)
    (sendFault : Nat → Option Error) (requestContext : Option String)
    (req : KubernetesSyncManifestRequest) (now : Int) (st : State) :
    (kubernetesSyncManifests env call sendFault requestContext req now st).2.2 = st ∨
      (kubernetesSyncManifests env call sendFault requestContext req now st).2.1 = Option.none ∧
        ∃ name, requestContext = some name ∧
          (kubernetesSyncManifests env call sendFault requestContext req now st).2.2.resources =
            resynced now name st.resources := by
  rcases kubernetesSyncManifests_cases env call sendFault requestContext req now st with
    ⟨err, h⟩ | ⟨name, bootstrap, hname, -, h⟩
  · rw [h]
    exact .inl rfl
  rw [h]
  rcases syncPhases_store env call.faults sendFault name (env.sync name bootstrap req.dryRun)
    req.dryRun now st with hst | ⟨hnil, hres⟩
  · exact .inl hst
  · exact .inr ⟨hnil, name, hname, hres⟩

/-- `KubernetesSyncManifests` writes no resource but the cluster's `KubernetesUpgradeStatus`. -/
theorem kubernetesSyncManifests_frame (env : KubernetesEnv) (call : Call)
    (sendFault : Nat → Option Error) (requestContext : Option String)
    (req : KubernetesSyncManifestRequest) (now : Int) {st : State} {x : Resource}
    (hx : x.pointer.1 ≠ .kubernetesUpgradeStatus) :
    x ∈ (kubernetesSyncManifests env call sendFault requestContext req now st).2.2.resources ↔
      x ∈ st.resources := by
  rcases kubernetesSyncManifests_store env call sendFault requestContext req now st with
    hst | ⟨-, name, -, hres⟩
  · rw [hst]
  · rw [hres, mem_resynced hx]

end Management
end Omni
