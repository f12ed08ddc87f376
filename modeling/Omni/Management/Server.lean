import Omni.Management.Accounts
import Omni.Management.Schematic
import Omni.Management.Kubernetes

/-!
# The management server over whole runs

The handlers of `managementServer` share one store, `s.omniState`, and gRPC serves their
calls in any order.  `ServerRequest` is a call to any handler of the model, and
`serveAll` a run of such calls.

The handlers write disjoint parts of the store.  The service-account handlers touch only
identities, users and public keys (`Request.apply_frame`); `CreateSchematic` touches only
schematics (`createSchematic_frame`); `KubernetesSyncManifests` touches only the cluster's
`KubernetesUpgradeStatus` (`kubernetesSyncManifests_frame`), and
`KubernetesUpgradePreChecks` only reads.  So no handler breaks what another keeps, and none
writes the Omni connection parameters that `CreateSchematic` reads.

`State.SchematicsNamed` is what `CreateSchematic` keeps about schematics: each is stored
under the ID that `schematic.ID` gives a customization with its extensions.  It holds over
every run, and so does `State.AccountsWF` as long as no `Identity` destroy fails
(`serveAll_invariants`).

No handler removes a schematic, so `CreateSchematic` is safe to retry: once a call has
succeeded, the same request made again after any run of the server, its meta values visited
in any order, writes nothing and answers with the same PXE URL, as long as no two meta keys
agree modulo 256 (`serveAll_createSchematic_retry`).
-/

namespace Omni
namespace Management

/-- The resource types service accounts are made of. -/
def Kind.isAccount : Kind → Bool
  | .identity | .user | .publicKey => true
  | .connectionParams | .schematic | .kubernetesUpgradeStatus | .clusterMachineIdentity => false

/-- Whether a resource is part of a service account. -/
def Resource.isAccount (r : Resource) : Bool := r.pointer.1.isAccount

/-- A part of a service account has a kind that is not one of an account. -/
theorem Resource.kind_ne_of_isAccount {x : Resource} (hx : x.isAccount) {k : Kind}
    (hk : k.isAccount = false) : x.pointer.1 ≠ k := fun h => by
  simp only [Resource.isAccount, h, hk] at hx
  cases hx

/-- Adding resources that belong to service accounts keeps every other resource as it was. -/
theorem mem_append_of_isAccount {l added : List Resource} (hadded : ∀ r ∈ added, r.isAccount)
    {x : Resource} (hx : x.isAccount = false) : x ∈ l ++ added ↔ x ∈ l := by
  refine ⟨fun h => (List.mem_append.1 h).resolve_right fun hmem => ?_, List.mem_append_left _⟩
  rw [hadded x hmem] at hx
  cases hx

/-- `DestroyServiceAccount` only destroys parts of service accounts. -/
theorem isAccount_of_mem_destroyPointers {env : Env} {st : State} {identity : Identity}
    {ptr : Pointer} (h : ptr ∈ destroyPointers env st identity) : ptr.1.isAccount := by
  rcases mem_destroyPointers.1 h with ⟨_, _, _, rfl⟩ | rfl | rfl <;> rfl

section Frames

variable {env : Env} {call : Call} {st : State} {x : Resource}

theorem createServiceAccount_frame (newUserID : String) (req : CreateServiceAccountRequest)
    (hx : x.isAccount = false) :
    x ∈ (createServiceAccount env call newUserID req st).1.resources ↔ x ∈ st.resources := by
  rcases @createServiceAccount_cases env call newUserID req st _ _ Prod.mk.eta.symm with
    ⟨h, -⟩ | ⟨key, role, k, -, -, h, -⟩
  · rw [h]
  · rw [h]
    refine mem_append_of_isAccount (fun r hr => ?_) hx
    have hr := List.mem_of_mem_take hr
    simp only [createdResources, List.mem_cons, List.not_mem_nil, or_false] at hr
    rcases hr with rfl | rfl | rfl <;> rfl

theorem renewServiceAccount_frame (req : RenewServiceAccountRequest) (hx : x.isAccount = false) :
    x ∈ (renewServiceAccount env call req st).1.resources ↔ x ∈ st.resources := by
  rcases @renewServiceAccount_cases env call req st _ _ Prod.mk.eta.symm with
    ⟨h, -⟩ | ⟨_, _, _, _, _, h, _⟩
  · rw [h]
  · rw [h]
    exact mem_append_of_isAccount (fun r hr => by rw [List.mem_singleton.1 hr]; rfl) hx

theorem destroyServiceAccount_frame (req : DestroyServiceAccountRequest)
    (hx : x.isAccount = false) :
    x ∈ (destroyServiceAccount env call req st).1.resources ↔ x ∈ st.resources := by
  rcases destroyServiceAccount_cases env call req st with ⟨h, -⟩ | ⟨identity, -, -, h, -⟩
  · rw [h]
  · rw [h, mem_foldl_destroyCollecting]
    refine ⟨And.left, fun hmem => ⟨hmem, fun hp => ?_⟩⟩
    have := isAccount_of_mem_destroyPointers hp
    simp only [Resource.isAccount, this] at hx
    cases hx

/-- The service-account handlers keep every resource that is not part of a service
account, and add none. -/
theorem Request.apply_frame (req : Request) (hx : x.isAccount = false) :
    x ∈ (req.apply env call st).resources ↔ x ∈ st.resources := by
  cases req with
  | create newUserID req => exact createServiceAccount_frame newUserID req hx
  | renew req => exact renewServiceAccount_frame req hx
  | list => rfl
  | destroy req => exact destroyServiceAccount_frame req hx

/-- `CreateSchematic` keeps every resource that is not a schematic, and adds none. -/
theorem createSchematic_frame {senv : SchematicEnv} {omnimeta : Machine.Omnimeta}
    (check : Except Error CheckResult) (req : CreateSchematicRequest)
    (iteration : List (Σ _ : UInt32, String)) (hx : x.pointer.1 ≠ .schematic) :
    x ∈ (createSchematic senv omnimeta check call req iteration st).1.resources ↔
      x ∈ st.resources := by
  rcases @createSchematic_store_cases senv omnimeta check call req iteration st _ _
    Prod.mk.eta.symm with h | ⟨_, _, _, -, -, -, -, h, -⟩
  · rw [h]
  · rw [h, List.mem_append, List.mem_singleton]
    refine or_iff_left fun hs => hx ?_
    rw [hs]
    rfl

end Frames

/-- Every schematic of the store is stored under the ID that `schematic.ID` gives some
customization with the schematic's extensions. -/
def State.SchematicsNamed (senv : SchematicEnv) (st : State) : Prop :=
  ∀ s ∈ st.schematics, ∃ customization : Customization,
    senv.schematicID ⟨customization⟩ = .ok s.id ∧ customization.officialExtensions = s.extensions

namespace State.SchematicsNamed

variable {senv : SchematicEnv} {st st' : State}

/-- A store that gained no schematic keeps the invariant. -/
theorem of_frame (h : st.SchematicsNamed senv)
    (hframe : ∀ s, Resource.schematic s ∈ st'.resources → Resource.schematic s ∈ st.resources) :
    st'.SchematicsNamed senv :=
  fun s hs => h s (mem_schematics.2 (hframe s (mem_schematics.1 hs)))

theorem after_createSchematic (h : st.SchematicsNamed senv) (omnimeta : Machine.Omnimeta)
    (check : Except Error CheckResult) (call : Call) (req : CreateSchematicRequest)
    (iteration : List (Σ _ : UInt32, String)) :
    (createSchematic senv omnimeta check call req iteration st).1.SchematicsNamed senv := by
  rcases @createSchematic_store_cases senv omnimeta check call req iteration st _ _
    Prod.mk.eta.symm with hst | ⟨_, customization, _, -, hbuild, hid, -, hst, -⟩
  · rw [hst]
    exact h
  intro s hs
  rw [mem_schematics, hst, List.mem_append, List.mem_singleton] at hs
  rcases hs with hs | hs
  · exact h s (mem_schematics.2 hs)
  · cases hs
    exact ⟨customization, hid, buildCustomization_officialExtensions hbuild⟩

end State.SchematicsNamed

/-- The service-account invariant reads only identities and users, so a store with the
same parts of service accounts keeps it. -/
theorem State.AccountsWF.of_frame {env : Env} {st st' : State} (hwf : st.AccountsWF env)
    (h : ∀ x : Resource, x.isAccount → (x ∈ st'.resources ↔ x ∈ st.resources)) :
    st'.AccountsWF env := by
  have hi : ∀ i, i ∈ st'.identities ↔ i ∈ st.identities := fun i => by
    simpa using h (.identity i) rfl
  have hu : ∀ u, u ∈ st'.users ↔ u ∈ st.users := fun u => by simpa using h (.user u) rfl
  refine ⟨fun i hi' hsa => ?_, fun i hi' j hj => hwf.userId_injective i ((hi i).1 hi') j ((hi j).1 hj)⟩
  obtain ⟨u, hu', huid⟩ := hwf.user_exists i ((hi i).1 hi') hsa
  exact ⟨u, (hu u).2 hu', huid⟩

/-- What the handlers of the server need besides the store. -/
structure ServerEnv where
  accounts : Env
  schematic : SchematicEnv
  omnimeta : Machine.Omnimeta
  kubernetes : KubernetesEnv

/-- A call to one handler of the server that uses the store; `check` is
`auth.CheckGRPC`'s answer to `CreateSchematic`. -/
inductive ServerRequest where
  | serviceAccount (req : Request)
  | createSchematic (check : Except Error CheckResult) (req : CreateSchematicRequest)
      (iteration : List (Σ _ : UInt32, String))
  | kubernetesUpgradePreChecks (requestContext : Option String)
      (req : KubernetesUpgradePreChecksRequest)
  | kubernetesSyncManifests (sendFault : Nat → Option Error) (requestContext : Option String)
      (req : KubernetesSyncManifestRequest) (now : Int)

/-- The store after the server serves one call. -/
def ServerRequest.apply (env : ServerEnv) (call : Call) : ServerRequest → State → State
  | .serviceAccount req, st => req.apply env.accounts call st
  | .createSchematic check req iteration, st =>
    (Management.createSchematic env.schematic env.omnimeta check call req iteration st).1
  | .kubernetesUpgradePreChecks _ _, st => st
  | .kubernetesSyncManifests sendFault requestContext req now, st =>
    (Management.kubernetesSyncManifests env.kubernetes call sendFault requestContext req now st).2.2

/-- The store after the server serves a sequence of calls, one after another. -/
def serveAll (env : ServerEnv) (calls : List (Call × ServerRequest)) (st : State) : State :=
  calls.foldl (fun st c => c.2.apply env c.1 st) st

/-- No call writes a resource that is neither part of a service account, nor a schematic,
nor a `KubernetesUpgradeStatus`. -/
theorem ServerRequest.apply_frame (env : ServerEnv) (call : Call) (req : ServerRequest)
    {st : State} {x : Resource} (hx : x.isAccount = false) (hs : x.pointer.1 ≠ .schematic)
    (hk : x.pointer.1 ≠ .kubernetesUpgradeStatus) :
    x ∈ (req.apply env call st).resources ↔ x ∈ st.resources := by
  cases req with
  | serviceAccount req => exact Request.apply_frame req hx
  | createSchematic check req iteration => exact createSchematic_frame check req iteration hs
  | kubernetesUpgradePreChecks => rfl
  | kubernetesSyncManifests sendFault requestContext req now =>
    exact kubernetesSyncManifests_frame env.kubernetes call sendFault requestContext req now hk

theorem serveAll_frame (env : ServerEnv) (calls : List (Call × ServerRequest)) {st : State}
    {x : Resource} (hx : x.isAccount = false) (hs : x.pointer.1 ≠ .schematic)
    (hk : x.pointer.1 ≠ .kubernetesUpgradeStatus) :
    x ∈ (serveAll env calls st).resources ↔ x ∈ st.resources := by
  induction calls generalizing st with
  | nil => rfl
  | cons c cs ih => exact ih.trans (c.2.apply_frame env c.1 hx hs hk)

/-- No call destroys a schematic. -/
theorem ServerRequest.apply_schematic_mem (env : ServerEnv) (call : Call) (req : ServerRequest)
    {st : State} {s : SchematicResource} (hs : .schematic s ∈ st.resources) :
    .schematic s ∈ (req.apply env call st).resources := by
  cases req with
  | serviceAccount req => exact (@Request.apply_frame env.accounts call st (.schematic s) req rfl).2 hs
  | createSchematic check req iteration =>
    dsimp only [ServerRequest.apply]
    rcases @createSchematic_store_cases env.schematic env.omnimeta check call req iteration st _ _
      Prod.mk.eta.symm with h | ⟨_, _, _, -, -, -, -, h, -⟩
    · rwa [h]
    · rw [h]
      exact List.mem_append_left _ hs
  | kubernetesUpgradePreChecks => exact hs
  | kubernetesSyncManifests sendFault requestContext req now =>
    exact (@kubernetesSyncManifests_frame env.kubernetes call sendFault requestContext req now st
      (.schematic s) nofun).2 hs

theorem serveAll_schematic_mem (env : ServerEnv) (calls : List (Call × ServerRequest)) {st : State}
    {s : SchematicResource} (hs : .schematic s ∈ st.resources) :
    .schematic s ∈ (serveAll env calls st).resources := by
  induction calls generalizing st with
  | nil => exact hs
  | cons c cs ih => exact ih (c.2.apply_schematic_mem env c.1 hs)

/-- A schematic the store has, it keeps through any run. -/
theorem serveAll_getSchematic_isSome (env : ServerEnv) (calls : List (Call × ServerRequest))
    {st : State} {id : String} (h : (st.getSchematic id).isSome) :
    ((serveAll env calls st).getSchematic id).isSome := by
  obtain ⟨s, hs⟩ := Option.isSome_iff_exists.1 h
  obtain ⟨hmem, rfl⟩ := State.getSchematic_eq_some.1 hs
  exact Option.isSome_iff_exists.2 ⟨s, State.getSchematic_eq_some.2 ⟨serveAll_schematic_mem env calls hmem, rfl⟩⟩

/-- No run of the server changes the Omni connection parameters. -/
theorem serveAll_getConnectionParams (env : ServerEnv) (calls : List (Call × ServerRequest))
    (st : State) (id : String) :
    (serveAll env calls st).getConnectionParams id = st.getConnectionParams id := by
  have hframe : ∀ x : Resource, x.pointer = (.connectionParams, id) →
      (x ∈ (serveAll env calls st).resources ↔ x ∈ st.resources) := fun x hx =>
    serveAll_frame env calls (by simp [Resource.isAccount, hx, Kind.isAccount]) (by simp [hx])
      (by simp [hx])
  simp only [State.getConnectionParams, State.get_eq_of_frame hframe]

/-- Both invariants of the server's store. -/
structure State.ServerWF (env : ServerEnv) (st : State) : Prop where
  accounts : st.AccountsWF env.accounts
  schematics : st.SchematicsNamed env.schematic

namespace State.ServerWF

variable {env : ServerEnv} {st : State}

/-- One call keeps both invariants when it is not a failing `Identity` destroy. -/
theorem apply (h : st.ServerWF env) (call : Call) (req : ServerRequest)
    (hfault : ∀ id, call.faults (.destroy (.identity, id)) = none) :
    (req.apply env call st).ServerWF env := by
  cases req with
  | serviceAccount req =>
    exact ⟨h.accounts.after_serve [(call, req)] (by simpa using hfault),
      h.schematics.of_frame fun s hs => (@Request.apply_frame env.accounts call st (.schematic s) req rfl).1 hs⟩
  | createSchematic check req iteration =>
    exact ⟨h.accounts.of_frame fun x hx =>
        createSchematic_frame check req iteration (Resource.kind_ne_of_isAccount hx rfl),
      h.schematics.after_createSchematic env.omnimeta check call req iteration⟩
  | kubernetesUpgradePreChecks => exact h
  | kubernetesSyncManifests sendFault requestContext req now =>
    exact ⟨h.accounts.of_frame fun x hx =>
        kubernetesSyncManifests_frame env.kubernetes call sendFault requestContext req now
          (Resource.kind_ne_of_isAccount hx rfl),
      h.schematics.of_frame fun s hs =>
        (@kubernetesSyncManifests_frame env.kubernetes call sendFault requestContext req now st
          (.schematic s) nofun).1 hs⟩

theorem serveAll (h : st.ServerWF env) (calls : List (Call × ServerRequest))
    (hfault : ∀ c ∈ calls, ∀ id, c.1.faults (.destroy (.identity, id)) = none) :
    (Management.serveAll env calls st).ServerWF env := by
  induction calls generalizing st with
  | nil => exact h
  | cons c cs ih =>
    exact ih (h.apply c.1 c.2 (hfault c (.head _))) fun c' hc' => hfault c' (.tail _ hc')

end State.ServerWF

/-- The server with the sample environments. -/
def ServerEnv.sample : ServerEnv :=
  ⟨Env.sample, SchematicEnv.sample, Machine.Omnimeta.blank, KubernetesEnv.sample⟩

/-- A schematic, a service account, a manifest sync, and the same schematic with its meta
values visited in the other order. -/
def sampleServerCalls : List (Call × ServerRequest) :=
  [(Call.admin, .createSchematic (.ok ⟨"Operator"⟩) distinctKeysRequest
      distinctKeysRequest.metaValues.entries),
    (Call.admin, .serviceAccount (.create "u1" ⟨"ci", "Admin", false⟩)),
    (Call.admin, .kubernetesSyncManifests (fun _ => Option.none) (some "c1") ⟨false⟩ 1700000000),
    (Call.admin, .createSchematic (.ok ⟨"Operator"⟩) distinctKeysRequest
      distinctKeysRequest.metaValues.entries.reverse)]

/-- Through any interleaving of calls to the service-account handlers, `CreateSchematic`,
`KubernetesUpgradePreChecks` and `KubernetesSyncManifests`, in which any store write may
fail except the `Destroy` of an `Identity`: every service-account identity keeps the user
its `UserId` names and no two share one, every schematic stays stored under the ID
`schematic.ID` gives a customization with its extensions, and the Omni connection
parameters `CreateSchematic` reads never change. -/
theorem serveAll_invariants (env : ServerEnv) (st : State) (hwf : st.AccountsWF env.accounts)
    (hnamed : st.SchematicsNamed env.schematic) (calls : List (Call × ServerRequest))
    (hfault : ∀ c ∈ calls, ∀ id, c.1.faults (.destroy (.identity, id)) = none) :
    (serveAll env calls st).AccountsWF env.accounts ∧
      (serveAll env calls st).SchematicsNamed env.schematic ∧
      (serveAll env calls st).getConnectionParams env.schematic.configID =
        st.getConnectionParams env.schematic.configID := by
  obtain ⟨haccounts, hschematics⟩ := State.ServerWF.serveAll ⟨hwf, hnamed⟩ calls hfault
  exact ⟨haccounts, hschematics, serveAll_getConnectionParams env calls st _⟩

theorem serveAll_invariants_sample :
    (serveAll ServerEnv.sample sampleServerCalls State.connected).AccountsWF Env.sample ∧
      (serveAll ServerEnv.sample sampleServerCalls State.connected).SchematicsNamed
        SchematicEnv.sample ∧
      (serveAll ServerEnv.sample sampleServerCalls State.connected).getConnectionParams
          "siderolink" = State.connected.getConnectionParams "siderolink" :=
  serveAll_invariants ServerEnv.sample State.connected
    (State.AccountsWF.of_no_serviceAccounts fun i hi => by simp [State.connected] at hi)
    (fun s hs => by simp [State.connected] at hs) sampleServerCalls
    (by simp [sampleServerCalls, Call.admin, Faults.none])

/-- Once a `CreateSchematic` call has succeeded, the same request made again at any later
point, after any calls to the server's handlers in between, with its meta values visited in
any order of their own, writes nothing and succeeds with the same PXE URL, as long as no
two meta keys agree modulo 256.  The first call found every key allowed, so both orders
build the same customization; no handler removes a schematic and none changes the
connection parameters, so the retry finds the schematic the first call found or stored;
when the first call's `Create` failed with a conflict, the retry's does too. -/
theorem serveAll_createSchematic_retry (env : ServerEnv) (check : Except Error CheckResult)
    (call : Call) (req : CreateSchematicRequest) (iteration iteration' : List (Σ _ : UInt32, String))
    (hperm : iteration.Perm req.metaValues.entries) (hperm' : iteration'.Perm req.metaValues.entries)
    (hkeys : (req.metaValues.entries.map fun kv => kv.1.toUInt8).Nodup)
    (st : State) (resp : CreateSchematicResponse)
    (hfirst : (createSchematic env.schematic env.omnimeta check call req iteration st).2 = .ok resp)
    (calls : List (Call × ServerRequest)) :
    ∃ resp', createSchematic env.schematic env.omnimeta check call req iteration'
        (serveAll env calls (createSchematic env.schematic env.omnimeta check call req iteration st).1) =
      (serveAll env calls (createSchematic env.schematic env.omnimeta check call req iteration st).1,
        .ok resp') ∧ resp'.pxeUrl = resp.pxeUrl := by
  rcases h₁ : createSchematic env.schematic env.omnimeta check call req iteration st with ⟨st₁, res⟩
  rw [h₁] at hfirst
  subst hfirst
  obtain ⟨r, params, customization, schematicID, pxeURL, hcheck, hparams, hcustomization, hid, hurl,
    hpxe, hpath⟩ := createSchematic_ok_cases h₁
  -- the retry's order builds the first call's customization
  rw [createSchematic_perm env.schematic env.omnimeta check call _ hperm' hperm
    (fun kv hkv => buildCustomization_allowed hcustomization kv (hperm.symm.subset hkv)) hkeys]
  have hrun : serveAll env [(call, .createSchematic check req iteration)] st = st₁ := congrArg Prod.fst h₁
  have hparams₂ : (serveAll env calls st₁).getConnectionParams env.schematic.configID = some params := by
    rw [serveAll_getConnectionParams, ← hrun, serveAll_getConnectionParams, hparams]
  by_cases hfound : ((serveAll env calls st₁).getSchematic schematicID).isSome
  · exact ⟨_, createSchematic_of_found hcheck hparams₂ hcustomization hid hurl hfound, hpxe.symm⟩
  rcases hpath with ⟨hst, rfl, -⟩ | ⟨-, factoryID, hfactory, -, hcreated | ⟨ptr, hconflict, -⟩⟩
  · exact absurd (serveAll_getSchematic_isSome env calls hst) hfound
  · exact absurd (serveAll_getSchematic_isSome env calls (Option.isSome_iff_exists.2
      ⟨⟨schematicID, req.extensions⟩, State.getSchematic_eq_some.2 ⟨by simp [hcreated], rfl⟩⟩)) hfound
  · exact ⟨_, createSchematic_of_conflict hcheck hparams₂ hcustomization hid hurl
      (Option.not_isSome_iff_eq_none.1 hfound) hfactory hconflict, hpxe.symm⟩

theorem serveAll_createSchematic_retry_sample :
    ∃ resp', createSchematic ServerEnv.sample.schematic ServerEnv.sample.omnimeta (.ok ⟨"Operator"⟩)
        Call.admin distinctKeysRequest distinctKeysRequest.metaValues.entries.reverse
        (serveAll ServerEnv.sample sampleServerCalls
          (createSchematic ServerEnv.sample.schematic ServerEnv.sample.omnimeta (.ok ⟨"Operator"⟩)
            Call.admin distinctKeysRequest distinctKeysRequest.metaValues.entries State.connected).1) =
      (serveAll ServerEnv.sample sampleServerCalls
          (createSchematic ServerEnv.sample.schematic ServerEnv.sample.omnimeta (.ok ⟨"Operator"⟩)
            Call.admin distinctKeysRequest distinctKeysRequest.metaValues.entries State.connected).1,
        .ok resp') ∧ resp'.pxeUrl = "pxe/pxe/ba" :=
  serveAll_createSchematic_retry ServerEnv.sample (.ok ⟨"Operator"⟩) Call.admin distinctKeysRequest
    distinctKeysRequest.metaValues.entries distinctKeysRequest.metaValues.entries.reverse
    (List.Perm.refl _) (List.reverse_perm _) (by decide) State.connected ⟨"ba", "pxe/pxe/ba"⟩ rfl
    sampleServerCalls

end Management
end Omni
