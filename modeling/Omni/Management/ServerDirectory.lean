import Omni.Management.Directory
import Omni.Management.Server

/-!
# The directory under the whole server

`CreateSchematic`, `KubernetesUpgradePreChecks` and `KubernetesSyncManifests` share the
store with the service-account handlers, but they never write a part of a service account:
`CreateSchematic` adds a schematic and `KubernetesSyncManifests` sets an annotation of a
`KubernetesUpgradeStatus`, so the identities, users and public keys stay as they were, in
order.  The directory, its invariant and the user IDs in use are read off those parts alone
(`State.directory_congr`, `State.DirectoryWF.congr`, `State.usesUserID_congr`).

So every call of the server is a `DirectoryStep` whose operation is the one of its
service-account call, if it is one, and over any interleaving of calls to every handler the
directory moves only by the service-account calls (`serveAll_directory`).
-/

namespace Omni
namespace Management

/-! ## Stores with the same parts of service accounts -/

/-- Selecting one kind of the parts of service accounts from the store, or from its parts of
service accounts, gives the same list. -/
theorem filterMap_filter_isAccount {α : Type} {assert : Resource → Option α} {c : α → Resource}
    (hc : ∀ r a, assert r = some a ↔ r = c a) (hacc : ∀ a, (c a).isAccount) (l : List Resource) :
    (l.filter Resource.isAccount).filterMap assert = l.filterMap assert := by
  induction l with
  | nil => rfl
  | cons r l ih =>
    cases hr : assert r with
    | none => by_cases hp : r.isAccount <;> simp [List.filter_cons, hp, hr, ih]
    | some a =>
      have hp : r.isAccount := (hc r a).1 hr ▸ hacc a
      simp [List.filter_cons, hp, hr, ih]

section Congr

variable {env : Env} {st st' : State}

/-- Two stores with the same parts of service accounts hold the same such resources. -/
theorem mem_of_filter_isAccount_eq
    (h : st'.resources.filter Resource.isAccount = st.resources.filter Resource.isAccount)
    {x : Resource} (hx : x.isAccount) : x ∈ st'.resources ↔ x ∈ st.resources := by
  simpa [List.mem_filter, hx] using congrArg (x ∈ ·) h

/-- Two stores with the same parts of service accounts have the same identities. -/
theorem identities_of_filter_isAccount_eq
    (h : st'.resources.filter Resource.isAccount = st.resources.filter Resource.isAccount) :
    st'.identities = st.identities := by
  have hc := @filterMap_filter_isAccount _ Resource.identity? Resource.identity
    (fun _ _ => Resource.identity?_eq_some) (fun _ => rfl)
  exact State.list_congr (by rw [← hc, h, hc])

/-- Two stores with the same parts of service accounts have the same public keys. -/
theorem publicKeys_of_filter_isAccount_eq
    (h : st'.resources.filter Resource.isAccount = st.resources.filter Resource.isAccount) :
    st'.publicKeys = st.publicKeys := by
  have hc := @filterMap_filter_isAccount _ Resource.publicKey? Resource.publicKey
    (fun _ _ => Resource.publicKey?_eq_some) (fun _ => rfl)
  exact State.list_congr (by rw [← hc, h, hc])

/-- Two stores with the same parts of service accounts have the same users. -/
theorem getUser_of_filter_isAccount_eq
    (h : st'.resources.filter Resource.isAccount = st.resources.filter Resource.isAccount)
    (id : String) : st'.getUser id = st.getUser id :=
  Option.ext fun user => by
    have hx : (Resource.user user).isAccount := rfl
    rw [Option.mem_def, Option.mem_def, State.getUser_eq_some, State.getUser_eq_some,
      mem_of_filter_isAccount_eq h hx]

/-- The directory is read off the parts of service accounts alone. -/
theorem State.directory_congr
    (h : st'.resources.filter Resource.isAccount = st.resources.filter Resource.isAccount) :
    st'.directory env = st.directory env := by
  rw [State.directory, State.directory, identities_of_filter_isAccount_eq h]
  congr 1
  funext identity
  simp only [State.accountOf, serviceAccountOf, publicKeys_of_filter_isAccount_eq h,
    getUser_of_filter_isAccount_eq h]

/-- The user IDs in use are read off the parts of service accounts alone. -/
theorem State.usesUserID_congr
    (h : st'.resources.filter Resource.isAccount = st.resources.filter Resource.isAccount)
    (v : String) : st'.UsesUserID env v ↔ st.UsesUserID env v := by
  have huses : ∀ x : Resource, x.usesUserID env v → x.isAccount := by
    intro x hx
    cases x <;> first | rfl | cases hx
  exact exists_congr fun x => ⟨fun ⟨hx, hv⟩ => ⟨(mem_of_filter_isAccount_eq h (huses x hv)).1 hx, hv⟩,
    fun ⟨hx, hv⟩ => ⟨(mem_of_filter_isAccount_eq h (huses x hv)).2 hx, hv⟩⟩

/-- The invariant is read off the parts of service accounts alone. -/
theorem State.DirectoryWF.congr (hwf : st.DirectoryWF env)
    (h : st'.resources.filter Resource.isAccount = st.resources.filter Resource.isAccount) :
    st'.DirectoryWF env where
  accounts := hwf.accounts.of_frame fun _ => mem_of_filter_isAccount_eq h
  named := identities_of_filter_isAccount_eq h ▸ hwf.named
  keyLabels := publicKeys_of_filter_isAccount_eq h ▸ hwf.keyLabels

end Congr

/-! ## The other handlers -/

/-- `CreateSchematic` keeps the parts of service accounts, in order. -/
theorem createSchematic_filter_isAccount {senv : SchematicEnv} {omnimeta : Machine.Omnimeta}
    {check : Except Error CheckResult} {call : Call} {req : CreateSchematicRequest}
    {iteration : List (Σ _ : UInt32, String)} {st : State} :
    (createSchematic senv omnimeta check call req iteration st).1.resources.filter Resource.isAccount =
      st.resources.filter Resource.isAccount := by
  rcases @createSchematic_store_cases senv omnimeta check call req iteration st _ _
    Prod.mk.eta.symm with h | ⟨_, _, _, -, -, -, -, h, -⟩
  · rw [h]
  · rw [h, List.filter_append, List.filter_singleton]
    exact List.append_nil _

/-- Setting the annotation of a `KubernetesUpgradeStatus` keeps the parts of service
accounts, in order. -/
theorem resynced_filter_isAccount (now : Int) (name : String) (l : List Resource) :
    (resynced now name l).filter Resource.isAccount = l.filter Resource.isAccount := by
  induction l with
  | nil => rfl
  | cons r l ih =>
    by_cases hr : r.pointer = (.kubernetesUpgradeStatus, name)
    · have hacc : r.isAccount = false := by simp [Resource.isAccount, hr, Kind.isAccount]
      have hacc' : (r.setAnnotation "manifest-rollout" (toString now)).isAccount = false := by
        rwa [Resource.isAccount, Resource.pointer_setAnnotation]
      simp only [resynced, List.map_cons, if_pos hr, List.filter_cons, hacc, hacc'] at ih ⊢
      exact ih
    · simp only [resynced, List.map_cons, if_neg hr, List.filter_cons] at ih ⊢
      rw [ih]

/-- `KubernetesSyncManifests` keeps the parts of service accounts, in order. -/
theorem kubernetesSyncManifests_filter_isAccount (env : KubernetesEnv) (call : Call)
    (sendFault : Nat → Option Error) (requestContext : Option String)
    (req : KubernetesSyncManifestRequest) (now : Int) (st : State) :
    (kubernetesSyncManifests env call sendFault requestContext req now st).2.2.resources.filter
        Resource.isAccount = st.resources.filter Resource.isAccount := by
  rcases kubernetesSyncManifests_store env call sendFault requestContext req now st with
    hst | ⟨-, name, -, hres⟩
  · rw [hst]
  · rw [hres, resynced_filter_isAccount]

/-! ## The server as steps on the directory -/

/-- The user ID a call of the server draws: the one `CreateServiceAccount` draws. -/
def ServerRequest.newUserID : ServerRequest → Option String
  | .serviceAccount req => req.newUserID
  | _ => none

/-- The operation of a call of the server: the one of its service-account call. -/
def ServerRequest.directoryOp (env : Env) (call : Call) : ServerRequest → Option DirectoryOp
  | .serviceAccount req => req.directoryOp env call
  | _ => none

/-- A call of the server is a service-account call, or keeps the parts of service accounts
and has no operation and no user ID. -/
theorem ServerRequest.apply_cases (env : ServerEnv) (call : Call) (req : ServerRequest)
    (st : State) :
    (∃ r, req = .serviceAccount r) ∨
      (req.apply env call st).resources.filter Resource.isAccount =
          st.resources.filter Resource.isAccount ∧
        req.newUserID = none ∧ req.directoryOp env.accounts call = none := by
  cases req with
  | serviceAccount r => exact .inl ⟨r, rfl⟩
  | createSchematic => exact .inr ⟨createSchematic_filter_isAccount, rfl, rfl⟩
  | kubernetesUpgradePreChecks => exact .inr ⟨rfl, rfl, rfl⟩
  | kubernetesSyncManifests sendFault requestContext req now =>
    exact .inr ⟨kubernetesSyncManifests_filter_isAccount env.kubernetes call sendFault
      requestContext req now st, rfl, rfl⟩

/-- The calls of the server, served one after another, are steps on the directory. -/
theorem ServerRequest.directoryStep (env : ServerEnv) :
    DirectoryStep env.accounts (fun (c : Call × ServerRequest) st => c.2.apply env c.1 st)
      (fun c => c.2.newUserID) (fun c => c.2.directoryOp env.accounts c.1)
      (fun c => ∀ id, c.1.faults (.destroy (.identity, id)) = none) where
  wf c st hallowed hwf := by
    rcases c.2.apply_cases env c.1 st with ⟨r, hr⟩ | ⟨h, -, -⟩
    · rw [hr]
      exact (Request.directoryStep env.accounts).wf (c.1, r) st hallowed hwf
    · exact hwf.congr h
  uses c st v huse := by
    rcases c.2.apply_cases env c.1 st with ⟨r, hr⟩ | ⟨h, -, -⟩
    · rw [hr] at huse ⊢
      exact (Request.directoryStep env.accounts).uses (c.1, r) st v huse
    · exact .inl ((State.usesUserID_congr h v).1 huse)
  directory c st hallowed hwf hfresh := by
    rcases c.2.apply_cases env c.1 st with ⟨r, hr⟩ | ⟨h, -, -⟩
    · rw [hr] at hfresh ⊢
      exact (Request.directoryStep env.accounts).directory (c.1, r) st hallowed hwf hfresh
    · exact .inl (State.directory_congr h)

/-- The whole server refines the directory.  `CreateSchematic`,
`KubernetesUpgradePreChecks` and `KubernetesSyncManifests` never change it, so from any
store that satisfies the invariant, through any interleaving of calls to every handler in
which any store write may fail except the `Destroy` of an `Identity` and whose
`CreateServiceAccount` calls draw distinct user IDs the store does not use, the directory
is the first one with a subsequence of the service-account calls' operations applied in
order, and `ListServiceAccounts` returns it to every caller who passes the role check. -/
theorem serveAll_directory (env : ServerEnv) (st : State) (hwf : st.DirectoryWF env.accounts)
    (calls : List (Call × ServerRequest))
    (hfault : ∀ c ∈ calls, ∀ id, c.1.faults (.destroy (.identity, id)) = none)
    (hnodup : (calls.filterMap fun c => c.2.newUserID).Nodup)
    (hunused : ∀ v ∈ calls.filterMap (fun c => c.2.newUserID), ¬ st.UsesUserID env.accounts v) :
    (∃ ops : List DirectoryOp, ops.Sublist (calls.filterMap fun c => c.2.directoryOp env.accounts c.1) ∧
      (serveAll env calls st).directory env.accounts =
        ops.foldl (fun d op => op.apply env.accounts d) (st.directory env.accounts)) ∧
    ∀ listCall r, authCheckGRPC listCall.check = .ok r →
      listServiceAccounts env.accounts listCall (serveAll env calls st) =
        .ok ⟨(serveAll env calls st).directory env.accounts⟩ :=
  ⟨(ServerRequest.directoryStep env).run calls hwf hfault hnodup hunused, fun _ _ hauth =>
    listServiceAccounts_eq_ok hauth
      ((ServerRequest.directoryStep env).run_wf calls hwf hfault).accounts.user_exists⟩

theorem serveAll_directory_sample :
    ∃ ops : List DirectoryOp,
      ops.Sublist (sampleServerCalls.filterMap fun c => c.2.directoryOp Env.sample c.1) ∧
        (serveAll ServerEnv.sample sampleServerCalls State.connected).directory Env.sample =
          ops.foldl (fun d op => op.apply Env.sample d) (State.connected.directory Env.sample) :=
  (serveAll_directory ServerEnv.sample State.connected
    (State.DirectoryWF.empty.congr (by decide)) sampleServerCalls
    (by simp [sampleServerCalls, Call.admin, Faults.none]) (by decide)
    (fun _ _ ⟨x, hx, hxv⟩ => by
      obtain rfl := List.mem_singleton.1 hx
      cases hxv)).1

end Management
end Omni
