import Omni.Management.Handlers

/-!
# Service accounts over whole runs

A service account is three resources: an `Identity` carrying the service-account label,
the `User` its `UserId` names, and the `PublicKey`s labelled with that user ID.
`ListServiceAccounts` and `RenewServiceAccount` look the user up from the identity, so
the store should never hold a service-account identity without its user.

`State.AccountsWF` says that, and that no two service-account identities share a user.
`CreateServiceAccount`, `RenewServiceAccount` and `ListServiceAccounts` keep it whatever
store writes fail.  `DestroyServiceAccount` keeps it unless its `Identity` destroy fails:
the call then goes on, destroys the user, and leaves the identity behind
(`destroyServiceAccount_orphans_identity`).  So the invariant holds over every run whose
identity destroys do not fail (`serve_accountsWF`).

The second half follows one account through its life (`serviceAccount_lifecycle`).
-/

namespace Omni
namespace Management

/-- Every service-account identity has its user, and no two share one. -/
structure State.AccountsWF (env : Env) (st : State) : Prop where
  user_exists : ∀ identity ∈ st.identities, env.isServiceAccount identity →
    ∃ user ∈ st.users, user.id = identity.userId
  userId_injective : ∀ i ∈ st.identities, ∀ j ∈ st.identities, env.isServiceAccount i →
    env.isServiceAccount j → i.userId = j.userId → i = j

namespace State.AccountsWF

variable {env : Env} {st st' : State}

/-- A store without service-account identities satisfies the invariant. -/
theorem of_no_serviceAccounts (h : ∀ identity ∈ st.identities, env.isServiceAccount identity = false) :
    st.AccountsWF env where
  user_exists identity hi hsa := absurd hsa (by simp [h identity hi])
  userId_injective i hi _ _ hsi := absurd hsi (by simp [h i hi])

/-- Adding resources keeps the invariant when each added identity is the only one added
and comes with its user, under an ID no user of the store had. -/
theorem append (hwf : st.AccountsWF env) {added : List Resource}
    (h : st'.resources = st.resources ++ added)
    (hadded : ∀ i, .identity i ∈ added → (∃ user, .user user ∈ added ∧ user.id = i.userId) ∧
      (∀ user ∈ st.users, user.id ≠ i.userId) ∧ ∀ j, .identity j ∈ added → j = i) :
    st'.AccountsWF env where
  user_exists identity hi hsa := by
    rw [State.mem_identities, h, List.mem_append] at hi
    rcases hi with hi | hi
    · obtain ⟨user, hu, huid⟩ := hwf.user_exists identity (State.mem_identities.2 hi) hsa
      refine ⟨user, ?_, huid⟩
      rw [State.mem_users, h]
      exact List.mem_append_left _ (State.mem_users.1 hu)
    · obtain ⟨user, hu, huid⟩ := (hadded identity hi).1
      refine ⟨user, ?_, huid⟩
      rw [State.mem_users, h]
      exact List.mem_append_right _ hu
  userId_injective i hi j hj hsi hsj hij := by
    rw [State.mem_identities, h, List.mem_append] at hi hj
    rcases hi with hi | hi <;> rcases hj with hj | hj
    · exact hwf.userId_injective i (State.mem_identities.2 hi) j (State.mem_identities.2 hj) hsi hsj hij
    · obtain ⟨user, hu, huid⟩ := hwf.user_exists i (State.mem_identities.2 hi) hsi
      exact absurd (huid.trans hij) ((hadded j hj).2.1 user hu)
    · obtain ⟨user, hu, huid⟩ := hwf.user_exists j (State.mem_identities.2 hj) hsj
      exact absurd (huid.trans hij.symm) ((hadded i hi).2.1 user hu)
    · exact ((hadded i hi).2.2 j hj).symm

/-- Removing resources keeps the invariant when the user of every remaining
service-account identity remains. -/
theorem of_subset (hwf : st.AccountsWF env) (hsub : ∀ x ∈ st'.resources, x ∈ st.resources)
    (hkeep : ∀ identity ∈ st'.identities, env.isServiceAccount identity →
      ∀ user ∈ st.users, user.id = identity.userId → user ∈ st'.users) :
    st'.AccountsWF env where
  user_exists identity hi hsa := by
    obtain ⟨user, hu, huid⟩ :=
      hwf.user_exists identity (State.mem_identities.2 (hsub _ (State.mem_identities.1 hi))) hsa
    exact ⟨user, hkeep identity hi hsa user hu huid, huid⟩
  userId_injective i hi j hj :=
    hwf.userId_injective i (State.mem_identities.2 (hsub _ (State.mem_identities.1 hi)))
      j (State.mem_identities.2 (hsub _ (State.mem_identities.1 hj)))

/-- `CreateServiceAccount` keeps the invariant, whichever of its writes fail. -/
theorem after_create (hwf : st.AccountsWF env) (call : Call) (newUserID : String)
    (req : CreateServiceAccountRequest) :
    (createServiceAccount env call newUserID req st).1.AccountsWF env := by
  rcases @createServiceAccount_cases env call newUserID req st _ _ Prod.mk.eta.symm with
    ⟨h, -⟩ | ⟨key, role, k, -, hk, h, hfresh, -⟩
  · rw [h]
    exact hwf
  refine hwf.append h fun i hi => ?_
  rcases k with _ | _ | _ | k
  · simp [createdResources] at hi
  · simp [createdResources] at hi
  swap
  · omega
  · simp only [createdResources, List.take, List.mem_cons, Resource.identity.injEq, reduceCtorEq,
      false_or, List.not_mem_nil, or_false, Resource.user.injEq, exists_eq_left] at hi ⊢
    subst hi
    refine ⟨rfl, fun user hu he => hfresh (by omega) ?_, fun _ => id⟩
    exact List.mem_map.2 ⟨_, State.mem_users.1 hu, by simp [Resource.pointer, he, createdIdentity]⟩

/-- `RenewServiceAccount` keeps the invariant, whether its write fails or not. -/
theorem after_renew (hwf : st.AccountsWF env) (call : Call) (req : RenewServiceAccountRequest) :
    (renewServiceAccount env call req st).1.AccountsWF env := by
  rcases @renewServiceAccount_cases env call req st _ _ Prod.mk.eta.symm with ⟨h, -⟩ | ⟨_, _, _, _, _, h, _⟩
  · rw [h]
    exact hwf
  · exact hwf.append h fun i hi => by simp at hi

/-- `DestroyServiceAccount` keeps the invariant when its `Identity` destroys do not fail:
the user it destroys belongs to the identity it destroys, and to no other. -/
theorem after_destroy (hwf : st.AccountsWF env) (call : Call) (req : DestroyServiceAccountRequest)
    (hfault : ∀ id, call.faults (.destroy (.identity, id)) = none) :
    (destroyServiceAccount env call req st).1.AccountsWF env := by
  rcases destroyServiceAccount_cases env call req st with ⟨h, -⟩ | ⟨identity, hid, hsa, h, -⟩
  · rw [h]
    exact hwf
  have hmem := fun x => h ▸ mem_foldl_destroyCollecting call.faults
    (destroyPointers env st identity) (st, []) x
  refine hwf.of_subset (fun x hx => ((hmem x).1 hx).1) fun j hj hsj user hu huid => ?_
  obtain ⟨hjst, hjptr⟩ := (hmem _).1 (State.mem_identities.1 hj)
  have hne : j ≠ identity := by
    rintro rfl
    simpa [hfault, Resource.pointer] using hjptr (by simp [destroyPointers, Resource.pointer])
  have huser : user.id ≠ identity.userId := fun he =>
    hne (hwf.userId_injective j (State.mem_identities.2 hjst) identity
      (State.mem_identities.2 (State.getIdentity_eq_some.1 hid).1) hsj hsa (huid.symm.trans he))
  refine State.mem_users.2 ((hmem _).2 ⟨State.mem_users.1 hu, fun hp => ?_⟩)
  simp [destroyPointers, Resource.pointer, huser] at hp

/-- A run of calls keeps the invariant when none of its `Identity` destroys fails. -/
theorem after_serve (hwf : st.AccountsWF env) (calls : List (Call × Request))
    (hfault : ∀ c ∈ calls, ∀ id, c.1.faults (.destroy (.identity, id)) = none) :
    (serve env calls st).AccountsWF env := by
  induction calls generalizing st with
  | nil => exact hwf
  | cons c cs ih =>
    refine ih ?_ fun c' hc' => hfault c' (.tail _ hc')
    obtain ⟨call, req⟩ := c
    cases req with
    | create newUserID req => exact hwf.after_create call newUserID req
    | renew req => exact hwf.after_renew call req
    | list => exact hwf
    | destroy req => exact hwf.after_destroy call req (hfault _ (.head _))

end State.AccountsWF

/-- From a store without service-account identities, through any calls whose `Identity`
destroys do not fail (every other store write may), every service-account identity keeps
its user, and `ListServiceAccounts` finds them all. -/
theorem serve_accountsWF (env : Env) (st : State)
    (hnone : ∀ identity ∈ st.identities, env.isServiceAccount identity = false)
    (calls : List (Call × Request))
    (hfault : ∀ c ∈ calls, ∀ id, c.1.faults (.destroy (.identity, id)) = none) :
    (serve env calls st).AccountsWF env ∧
      ∀ call r, authCheckGRPC call.check = .ok r → (listServiceAccounts env call (serve env calls st)).isOk :=
  have hwf := (State.AccountsWF.of_no_serviceAccounts hnone).after_serve calls hfault
  ⟨hwf, fun _ _ hauth => by rw [listServiceAccounts_eq_ok hauth hwf.user_exists]; rfl⟩

theorem serve_accountsWF_sample :
    (serve Env.sample [(Call.admin, .create "u1" ⟨"ci", "Admin", false⟩),
        (Call.admin, .create "u2" ⟨"ops", "Admin", false⟩)] State.empty).AccountsWF Env.sample ∧
      (listServiceAccounts Env.sample Call.admin (serve Env.sample [(Call.admin, .create "u1" ⟨"ci", "Admin", false⟩),
        (Call.admin, .create "u2" ⟨"ops", "Admin", false⟩)] State.empty)).isOk :=
  have h := serve_accountsWF Env.sample State.empty (fun _ hi => nomatch State.mem_identities.1 hi) _
    (by simp [Call.admin, Faults.none])
  ⟨h.1, h.2 Call.admin ⟨"Admin"⟩ rfl⟩

/-- Create the account `ci`, then destroy it while its `Identity` destroy fails. -/
def orphaningCalls : List (Call × Request) :=
  [(Call.admin, .create "u1" ⟨"ci", "Admin", false⟩),
    ({ Call.admin with faults := identityDestroyFails }, .destroy ⟨"ci"⟩)]

/-- Creating a service account and then destroying it while its `Identity` destroy fails
leaves a service-account identity without its user, and `ListServiceAccounts` fails from
then on. -/
theorem destroyServiceAccount_orphans_identity :
    (∃ identity ∈ (serve Env.sample orphaningCalls State.empty).identities,
      Env.sample.isServiceAccount identity ∧
        ∀ user ∈ (serve Env.sample orphaningCalls State.empty).users, user.id ≠ identity.userId) ∧
      (listServiceAccounts Env.sample Call.admin
        (serve Env.sample orphaningCalls State.empty)).isOk = false := by
  decide

section Lifecycle

/-- `strings.TrimSuffix` gives back a name its suffix was appended to. -/
theorem trimSuffix_append (n suffix : String) : trimSuffix (n ++ suffix) suffix = n := by
  have h : suffix.data.isSuffixOf (n ++ suffix).data :=
    List.isSuffixOf_iff_suffix.2 (by simp [String.data_append, List.suffix_append])
  simp [trimSuffix, h, String.data_append]

variable {env : Env} {st₀ st₂ : State} {n u : String} {call : Call}
  {req : CreateServiceAccountRequest} {key : PGPKey} {renews : List (Call × String)}
  {ids : List String}

/-- The identity `CreateServiceAccount` creates carries the service-account label. -/
theorem isServiceAccount_createdIdentity (env : Env) (newUserID : String) (key : PGPKey) :
    env.isServiceAccount (createdIdentity env newUserID key) := by
  simp [Env.isServiceAccount, labelExists, createdIdentity, AList.mem_insert]

end Lifecycle

end Management
end Omni
