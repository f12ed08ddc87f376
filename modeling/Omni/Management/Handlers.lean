import Omni.Management.ServiceAccount

/-!
# What each service-account handler does to the store

One lemma per handler says everything a call can do, failures included, in terms of the
resources it adds or removes:

* `createServiceAccount_cases`: nothing, or a prefix of the public key, the user and the
  identity of `createdResources`, the user's ID free before the call; all three exactly
  when the call succeeds;
* `renewServiceAccount_cases`: nothing, or one public key labelled with the user ID of
  the identity it found;
* `listServiceAccounts_eq_ok`: with every service-account identity's user present, the
  entries of all service-account identities;
* `destroyServiceAccount_cases`: nothing, or the destroys of `destroyPointers`, each of
  which fails only by a fault of its own, the call succeeding exactly when none fails;
  `foldl_destroyCollecting_resources` says which resources those destroys keep, in order.

`createServiceAccount_ok_cases` and `renewServiceAccount_ok_cases` add what a successful
call had passed: the role check, the key's validation and the role granted.
`destroyServiceAccount_errors` says what `DestroyServiceAccount` reports: every destroy that
failed, in order, each failing as it would have on the store the call started from, since
the destroys are at distinct pointers; so a service account whose user is gone is removed
and yet reported as `NotFound` for the user (`destroyServiceAccount_orphaned`).  The
invariants, the account lifecycle of `Omni.Management.Accounts` and the directory of
`Omni.Management.Directory` are read off these lemmas, never off the handlers' bodies.
-/

namespace Omni
namespace Management

/-- An identity carrying the service-account label. -/
def Env.isServiceAccount (env : Env) (identity : Identity) : Bool :=
  labelExists env.labelIdentityTypeServiceAccount identity.labels

section Create

/-- The public key `CreateServiceAccount` creates. -/
def createdPublicKey (env : Env) (newUserID : String) (key : PGPKey) (role : String) : PublicKey where
  id := key.id
  labels := (∅ : Labels).insert env.labelPublicKeyUserID newUserID
  publicKey := key.data
  expiration := key.expiration
  role := role
  confirmed := true
  identityEmail := key.username ++ env.serviceAccountNameSuffix

/-- The identity `CreateServiceAccount` creates. -/
def createdIdentity (env : Env) (newUserID : String) (key : PGPKey) : Identity where
  id := key.username ++ env.serviceAccountNameSuffix
  labels := ((∅ : Labels).insert env.labelIdentityUserID newUserID).insert
    env.labelIdentityTypeServiceAccount ""
  userId := newUserID

@[simp] theorem createdIdentity_id (env : Env) (newUserID : String) (key : PGPKey) :
    (createdIdentity env newUserID key).id = key.username ++ env.serviceAccountNameSuffix := rfl

@[simp] theorem createdIdentity_userId (env : Env) (newUserID : String) (key : PGPKey) :
    (createdIdentity env newUserID key).userId = newUserID := rfl

/-- The resources `CreateServiceAccount` creates, in order. -/
def createdResources (env : Env) (newUserID : String) (key : PGPKey) (role : String) :
    List Resource :=
  [.publicKey (createdPublicKey env newUserID key role), .user ⟨newUserID, role⟩,
    .identity (createdIdentity env newUserID key)]

/-- A call of `CreateServiceAccount` changes nothing and fails, or adds the first `k + 1`
of `createdResources` for the key it validated; once the user is added its ID was free, and
the call succeeds exactly when all three are added. -/
theorem createServiceAccount_cases {env : Env} {call : Call} {newUserID : String}
    {req : CreateServiceAccountRequest} {st st' : State} {res : Except Error CreateServiceAccountResponse}
    (h : createServiceAccount env call newUserID req st = (st', res)) :
    (st' = st ∧ res.isOk = false) ∨
      ∃ key role k, env.validatePGPPublicKey req.armoredPgpPublicKey = .ok key ∧ k < 3 ∧
        st'.resources = st.resources ++ (createdResources env newUserID key role).take (k + 1) ∧
        (1 ≤ k → (Kind.user, newUserID) ∉ st.resources.map Resource.pointer) ∧ (res.isOk ↔ k = 2) := by
  unfold createServiceAccount at h
  split at h
  · cases h; exact .inl ⟨rfl, rfl⟩
  split at h
  · cases h; exact .inl ⟨rfl, rfl⟩
  rename_i key hkey
  dsimp only at h
  split at h
  · cases h; exact .inl ⟨rfl, rfl⟩
  split at h
  · cases h; exact .inl ⟨rfl, rfl⟩
  rename_i role _
  split at h
  · cases h; exact .inl ⟨rfl, rfl⟩
  rename_i st1 h1
  have h1 := State.create_eq_ok.1 h1
  split at h
  · cases h
    exact .inr ⟨key, role, 0, hkey, by omega, h1.2.2, by omega, by simp⟩
  rename_i st2 h2
  have h2 := State.create_eq_ok.1 h2
  have hfresh : (Kind.user, newUserID) ∉ st.resources.map Resource.pointer := fun hm =>
    h2.2.1 (by rw [h1.2.2, List.map_append]; exact List.mem_append_left _ hm)
  split at h
  · cases h
    exact .inr ⟨key, role, 1, hkey, by omega, by rw [h2.2.2, h1.2.2, List.append_assoc]; rfl, fun _ => hfresh, by simp⟩
  rename_i st3 h3
  have h3 := State.create_eq_ok.1 h3
  cases h
  exact .inr ⟨key, role, 2, hkey, by omega, by rw [h3.2.2, h2.2.2, h1.2.2, List.append_assoc, List.append_assoc]; rfl, fun _ => hfresh, by simp⟩

/-- A successful `CreateServiceAccount`: the caller passed the role check, the key was
valid, the role was granted, and the call added all of `createdResources` with that role. -/
theorem createServiceAccount_ok_cases {env : Env} {call : Call} {newUserID : String}
    {req : CreateServiceAccountRequest} {st st' : State} {resp : CreateServiceAccountResponse}
    (h : createServiceAccount env call newUserID req st = (st', .ok resp)) :
    ∃ r key role, authCheckGRPC call.check = .ok r ∧
      env.validatePGPPublicKey req.armoredPgpPublicKey = .ok key ∧
      serviceAccountRole env r req = .ok role ∧
      st'.resources = st.resources ++ createdResources env newUserID key role := by
  unfold createServiceAccount at h
  repeat' (first | dsimp only at h | split at h)
  all_goals obtain ⟨rfl, h⟩ := Prod.mk.inj h
  all_goals cases h
  obtain ⟨-, -, h3⟩ := State.create_eq_ok.1 ‹State.create _ _ (.identity _) = .ok _›
  obtain ⟨-, -, h2⟩ := State.create_eq_ok.1 ‹State.create _ _ (.user _) = .ok _›
  obtain ⟨-, -, h1⟩ := State.create_eq_ok.1 ‹State.create _ _ (.publicKey _) = .ok _›
  refine ⟨_, _, _, ‹_›, ‹_›, ‹_›, ?_⟩
  rw [h3, h2, h1]
  simp [createdResources, createdPublicKey, createdIdentity]

end Create

section Renew

/-- The public key `RenewServiceAccount` creates for an identity and its user. -/
def renewedPublicKey (env : Env) (name : String) (identity : Identity) (user : User)
    (key : PGPKey) : PublicKey where
  id := key.id
  labels := (∅ : Labels).insert env.labelPublicKeyUserID identity.userId
  publicKey := key.data
  expiration := key.expiration
  role := user.role
  confirmed := true
  identityEmail := name

/-- A call of `RenewServiceAccount` changes nothing and fails, or finds the identity and
its user and adds one public key labelled with the user's ID. -/
theorem renewServiceAccount_cases {env : Env} {call : Call} {req : RenewServiceAccountRequest}
    {st st' : State} {res : Except Error RenewServiceAccountResponse}
    (h : renewServiceAccount env call req st = (st', res)) :
    (st' = st ∧ res.isOk = false) ∨
      ∃ identity user key, st.getIdentity (req.name ++ env.serviceAccountNameSuffix) = some identity ∧
        st.getUser identity.userId = some user ∧
        st'.resources = st.resources ++
          [.publicKey (renewedPublicKey env (req.name ++ env.serviceAccountNameSuffix) identity user key)] ∧
        res = .ok ⟨key.id⟩ := by
  unfold renewServiceAccount at h
  split at h
  · cases h; exact .inl ⟨rfl, rfl⟩
  dsimp only at h
  split at h
  · cases h; exact .inl ⟨rfl, rfl⟩
  rename_i identity hid
  split at h
  · cases h; exact .inl ⟨rfl, rfl⟩
  rename_i user huser
  split at h
  · cases h; exact .inl ⟨rfl, rfl⟩
  rename_i key _
  split at h
  · cases h; exact .inl ⟨rfl, rfl⟩
  rename_i st1 h1
  cases h
  exact .inr ⟨identity, user, key, hid, huser, (State.create_eq_ok.1 h1).2.2, rfl⟩

/-- A successful `RenewServiceAccount`: it found the identity and its user, the key was
valid, and the call added the key for them. -/
theorem renewServiceAccount_ok_cases {env : Env} {call : Call} {req : RenewServiceAccountRequest}
    {st st' : State} {resp : RenewServiceAccountResponse}
    (h : renewServiceAccount env call req st = (st', .ok resp)) :
    ∃ identity user key, st.getIdentity (req.name ++ env.serviceAccountNameSuffix) = some identity ∧
      st.getUser identity.userId = some user ∧
      env.validatePGPPublicKey req.armoredPgpPublicKey = .ok key ∧
      st'.resources = st.resources ++
        [.publicKey (renewedPublicKey env (req.name ++ env.serviceAccountNameSuffix) identity user key)] := by
  unfold renewServiceAccount at h
  repeat' (first | dsimp only at h | split at h)
  all_goals obtain ⟨rfl, h⟩ := Prod.mk.inj h
  all_goals cases h
  exact ⟨_, _, _, ‹_›, ‹_›, ‹_›, (State.create_eq_ok.1 ‹_›).2.2⟩

end Renew

section List

@[simp] theorem serviceAccountOf_name (env : Env) (st : State) (identity : Identity) (user : User) :
    (serviceAccountOf env st identity user).name =
      trimSuffix identity.id env.serviceAccountNameSuffix := rfl

/-- A `mapM` in `Except` whose every call succeeds is a `map`. -/
theorem mapM_eq_ok_map {α β ε : Type} (f : α → Except ε β) (g : α → β) :
    ∀ l : List α, (∀ a ∈ l, f a = .ok (g a)) → l.mapM f = .ok (l.map g)
  | [], _ => rfl
  | a :: l, h => by
    rw [List.mapM_cons, h a (.head _), mapM_eq_ok_map f g l fun b hb => h b (.tail _ hb)]
    rfl

/-- When every service-account identity's user is in the store, `ListServiceAccounts`
reports every service-account identity, in ID order, with its user. -/
theorem listServiceAccounts_eq_ok {env : Env} {call : Call} {st : State} {r : CheckResult}
    (hauth : authCheckGRPC call.check = .ok r)
    (husers : ∀ identity ∈ st.identities, env.isServiceAccount identity →
      ∃ user ∈ st.users, user.id = identity.userId) :
    listServiceAccounts env call st =
      .ok ⟨(st.identities.filter env.isServiceAccount).map fun identity =>
        serviceAccountOf env st identity ((st.getUser identity.userId).getD default)⟩ := by
  simp only [listServiceAccounts, hauth]
  rw [mapM_eq_ok_map _ _ _ fun identity hi => ?_]
  · rfl
  obtain ⟨hmem, hsa⟩ := List.mem_filter.1 hi
  obtain ⟨user, hu, huid⟩ := husers identity hmem hsa
  have huser : st.getUser identity.userId = some user :=
    State.getUser_eq_some.2 ⟨State.mem_users.1 hu, huid⟩
  simp [serviceAccountEntry, huser]

end List

section Destroy

/-- One destroy of `DestroyServiceAccount` keeps a resource unless it is at the pointer
and the write has no fault of its own. -/
theorem mem_destroyCollecting (faults : Faults) (acc : State × List Error) (ptr : Pointer)
    (x : Resource) :
    x ∈ (destroyCollecting faults acc ptr).1.resources ↔
      x ∈ acc.1.resources ∧ (x.pointer = ptr → (faults (.destroy ptr)).isSome) := by
  unfold destroyCollecting
  split
  · rename_i err herr
    refine ⟨fun hx => ⟨hx, fun hp => ?_⟩, fun h => h.1⟩
    unfold State.destroy at herr
    cases hf : faults (.destroy ptr)
    · simp only [hf] at herr
      rw [if_pos (hp ▸ List.mem_map_of_mem Resource.pointer hx)] at herr
      cases herr
    · rfl
  · rename_i st hst
    rw [State.mem_of_destroy_ok hst, (State.destroy_eq_ok.1 hst).1]
    simp

/-- A run of destroys keeps a resource unless its pointer is among them and its destroy
has no fault of its own. -/
theorem mem_foldl_destroyCollecting (faults : Faults) (ptrs : List Pointer)
    (acc : State × List Error) (x : Resource) :
    x ∈ (ptrs.foldl (destroyCollecting faults) acc).1.resources ↔
      x ∈ acc.1.resources ∧ (x.pointer ∈ ptrs → (faults (.destroy x.pointer)).isSome) := by
  induction ptrs generalizing acc with
  | nil => simp
  | cons ptr ptrs ih =>
    rw [List.foldl_cons, ih, mem_destroyCollecting]
    by_cases hp : x.pointer = ptr
    · subst hp
      simp only [List.mem_cons, true_or, forall_const]
      tauto
    · simp [hp, and_assoc]

/-- One destroy of `DestroyServiceAccount` removes the resource at its pointer unless the
write has a fault, and keeps the rest in order. -/
theorem destroyCollecting_resources (faults : Faults) (acc : State × List Error) (ptr : Pointer) :
    (destroyCollecting faults acc ptr).1.resources =
      acc.1.resources.filter fun x => x.pointer != ptr || (faults (.destroy ptr)).isSome := by
  unfold destroyCollecting
  split
  · rename_i err herr
    refine (List.filter_eq_self.2 fun x hx => ?_).symm
    unfold State.destroy at herr
    cases hf : faults (.destroy ptr)
    · simp only [hf] at herr
      have hp : ptr ∉ acc.1.resources.map Resource.pointer := fun hp => by
        rw [if_pos hp] at herr
        cases herr
      simp only [Option.isSome_none, Bool.or_false, bne_iff_ne, ne_eq]
      rintro rfl
      exact hp (List.mem_map_of_mem _ hx)
    · simp
  · rename_i st hst
    obtain ⟨hf, -, hres⟩ := State.destroy_eq_ok.1 hst
    simp [hres, hf]

/-- A run of destroys keeps, in order, the resources whose pointer it does not name or
whose destroy has a fault. -/
theorem foldl_destroyCollecting_resources (faults : Faults) (ptrs : List Pointer)
    (acc : State × List Error) :
    (ptrs.foldl (destroyCollecting faults) acc).1.resources =
      acc.1.resources.filter fun x =>
        !decide (x.pointer ∈ ptrs) || (faults (.destroy x.pointer)).isSome := by
  induction ptrs generalizing acc with
  | nil => simp
  | cons ptr ptrs ih =>
    rw [List.foldl_cons, ih, destroyCollecting_resources, List.filter_filter]
    refine List.filter_congr fun x _ => ?_
    by_cases hp : x.pointer = ptr
    · subst hp
      simp only [bne_self_eq_false, Bool.false_or, List.mem_cons, true_or, decide_True, Bool.not_true]
      cases (faults (.destroy x.pointer)).isSome <;> simp
    · simp [hp]

/-- What `DestroyServiceAccount` destroys for an identity, in order: the public keys
listed under its user ID with `LabelIdentityUserID`, the identity and its user. -/
def destroyPointers (env : Env) (st : State) (identity : Identity) : List Pointer :=
  (st.publicKeys.filter fun key => labelEqual env.labelIdentityUserID identity.userId key.labels).map
      (fun key => (.publicKey, key.id)) ++ [(.identity, identity.id), (.user, identity.userId)]

/-- `DestroyServiceAccount` destroys the keys labelled with the identity's user ID, the
identity and its user. -/
theorem mem_destroyPointers {env : Env} {st : State} {identity : Identity} {ptr : Pointer} :
    ptr ∈ destroyPointers env st identity ↔
      (∃ k, .publicKey k ∈ st.resources ∧
        k.labels.lookup env.labelIdentityUserID = some identity.userId ∧ (.publicKey, k.id) = ptr) ∨
      ptr = (.identity, identity.id) ∨ ptr = (.user, identity.userId) := by
  simp only [destroyPointers, List.mem_append, List.mem_map, List.mem_filter, State.mem_publicKeys,
    labelEqual, beq_iff_eq, List.mem_cons, List.mem_singleton, List.not_mem_nil, or_false, and_assoc]

/-- A key of the store is destroyed exactly when it carries the identity's user ID. -/
theorem publicKey_mem_destroyPointers {env : Env} {st : State} {identity : Identity}
    {k : PublicKey} (hk : .publicKey k ∈ st.resources) :
    (Kind.publicKey, k.id) ∈ destroyPointers env st identity ↔
      k.labels.lookup env.labelIdentityUserID = some identity.userId := by
  rw [mem_destroyPointers]
  refine ⟨?_, fun hlab => .inl ⟨k, hk, hlab, rfl⟩⟩
  rintro (⟨k', hk', hlab, hid⟩ | h | h)
  · rwa [Resource.publicKey.inj (State.eq_of_pointer_eq hk' hk hid)] at hlab
  all_goals cases h

/-- A call of `DestroyServiceAccount` changes nothing and fails, or finds a
service-account identity and runs the destroys of `destroyPointers`; it succeeds exactly
when none of them fails. -/
theorem destroyServiceAccount_cases (env : Env) (call : Call) (req : DestroyServiceAccountRequest)
    (st : State) :
    ((destroyServiceAccount env call req st).1 = st ∧ (destroyServiceAccount env call req st).2.isOk = false) ∨
      ∃ identity, st.getIdentity (req.name ++ env.serviceAccountNameSuffix) = some identity ∧
        labelExists env.labelIdentityTypeServiceAccount identity.labels ∧
        (destroyServiceAccount env call req st).1 =
          ((destroyPointers env st identity).foldl (destroyCollecting call.faults) (st, [])).1 ∧
        ((destroyServiceAccount env call req st).2.isOk ↔
          ((destroyPointers env st identity).foldl (destroyCollecting call.faults) (st, [])).2 = []) := by
  rcases hauth : authCheckGRPC call.check with err | authCheckResult
  · exact .inl (by simp [destroyServiceAccount, hauth])
  rcases hid : st.getIdentity (req.name ++ env.serviceAccountNameSuffix) with _ | identity
  · exact .inl (by simp [destroyServiceAccount, hauth, hid])
  by_cases hlabel : labelExists env.labelIdentityTypeServiceAccount identity.labels
  · refine .inr ⟨identity, rfl, hlabel, ?_⟩
    simp only [destroyServiceAccount, hauth, hid, hlabel, Bool.not_true, Bool.false_eq_true,
      ite_false, destroyPointers, List.foldl_append, List.foldl_map, List.foldl_cons, List.foldl_nil]
    generalize destroyCollecting call.faults _ (Kind.user, identity.userId) = acc
    rcases acc with ⟨st', _ | ⟨e, es⟩⟩ <;> simp
  · exact .inl (by simp [destroyServiceAccount, hauth, hid, hlabel])

/-- The error a `Destroy` at `ptr` returns on the store, if it fails. -/
def State.destroyError (st : State) (faults : Faults) (ptr : Pointer) : Option Error :=
  match st.destroy faults ptr with
  | .error err => some err
  | .ok _ => none

/-- A `Destroy` fails by its own fault, or with `NotFound` when nothing is at the pointer. -/
theorem State.destroyError_eq (st : State) (faults : Faults) (ptr : Pointer) :
    st.destroyError faults ptr = match faults (.destroy ptr) with
      | some err => some err
      | none => if ptr ∈ st.resources.map Resource.pointer then none else some (.notFound ptr) := by
  unfold State.destroyError State.destroy
  cases faults (.destroy ptr) with
  | none => by_cases h : ptr ∈ st.resources.map Resource.pointer <;> simp [h]
  | some err => rfl

/-- One destroy of `DestroyServiceAccount` appends its error, if it fails. -/
theorem destroyCollecting_snd (faults : Faults) (acc : State × List Error) (ptr : Pointer) :
    (destroyCollecting faults acc ptr).2 = acc.2 ++ (acc.1.destroyError faults ptr).toList := by
  unfold destroyCollecting State.destroyError
  split <;> simp [*]

/-- A destroy at one pointer does not change how a destroy at another would fail. -/
theorem destroyError_destroyCollecting {faults : Faults} {acc : State × List Error} {ptr q : Pointer}
    (hq : q ≠ ptr) :
    (destroyCollecting faults acc ptr).1.destroyError faults q = acc.1.destroyError faults q := by
  have hmem : q ∈ (destroyCollecting faults acc ptr).1.resources.map Resource.pointer ↔
      q ∈ acc.1.resources.map Resource.pointer := by
    simp only [List.mem_map, mem_destroyCollecting]
    exact exists_congr fun x => ⟨fun ⟨⟨hx, _⟩, hxq⟩ => ⟨hx, hxq⟩,
      fun ⟨hx, hxq⟩ => ⟨⟨hx, fun hp => absurd (hxq.symm.trans hp) hq⟩, hxq⟩⟩
  simp only [State.destroyError_eq, hmem]

/-- A run of destroys at distinct pointers collects, in order, the error each destroy
would return on the store the run started from. -/
theorem foldl_destroyCollecting_snd (faults : Faults) {ptrs : List Pointer} (hnodup : ptrs.Nodup)
    (acc : State × List Error) :
    (ptrs.foldl (destroyCollecting faults) acc).2 =
      acc.2 ++ ptrs.filterMap (acc.1.destroyError faults) := by
  induction ptrs generalizing acc with
  | nil => simp
  | cons ptr ptrs ih =>
    obtain ⟨hptr, hnodup⟩ := List.nodup_cons.1 hnodup
    rw [List.foldl_cons, ih hnodup, destroyCollecting_snd, List.filterMap_cons,
      List.filterMap_congr fun q hq => destroyError_destroyCollecting (ne_of_mem_of_not_mem hq hptr)]
    cases acc.1.destroyError faults ptr <;> simp

/-- The keys of the store are distinct. -/
theorem State.publicKeys_nodup (st : State) : st.publicKeys.Nodup :=
  (State.pairwise_lt_publicKeys st).imp fun h => ne_of_apply_ne PublicKey.id h.ne

/-- `DestroyServiceAccount` destroys each resource at most once. -/
theorem destroyPointers_nodup (env : Env) (st : State) (identity : Identity) :
    (destroyPointers env st identity).Nodup := by
  have hkeys : ((st.publicKeys.filter fun key =>
      labelEqual env.labelIdentityUserID identity.userId key.labels).map
        fun key => (Kind.publicKey, key.id)).Nodup :=
    List.Nodup.map_on (fun k hk k' hk' he => Resource.publicKey.inj (State.eq_of_pointer_eq
      (State.mem_publicKeys.1 (List.mem_of_mem_filter hk))
      (State.mem_publicKeys.1 (List.mem_of_mem_filter hk')) he)) ((State.publicKeys_nodup st).filter _)
  refine List.nodup_append.2 ⟨hkeys, by simp, fun p hp hq => ?_⟩
  obtain ⟨_, _, rfl⟩ := List.mem_map.1 hp
  simp at hq


/-- `DestroyServiceAccount` for a caller who passes the role check and a service account's
name: the destroys of `destroyPointers`, then `nil` or the errors they collected. -/
theorem destroyServiceAccount_eq {env : Env} {call : Call} {req : DestroyServiceAccountRequest}
    {st : State} {r : CheckResult} {identity : Identity} (hauth : authCheckGRPC call.check = .ok r)
    (hid : st.getIdentity (req.name ++ env.serviceAccountNameSuffix) = some identity)
    (hsa : labelExists env.labelIdentityTypeServiceAccount identity.labels) :
    destroyServiceAccount env call req st =
      (((destroyPointers env st identity).foldl (destroyCollecting call.faults) (st, [])).1,
        match ((destroyPointers env st identity).foldl (destroyCollecting call.faults) (st, [])).2 with
        | [] => .ok ()
        | errs => .error (.multi errs)) := by
  simp only [destroyServiceAccount, hauth, hid, hsa, Bool.not_true, Bool.false_eq_true, ite_false,
    destroyPointers, List.foldl_append, List.foldl_map, List.foldl_cons, List.foldl_nil]
  generalize destroyCollecting call.faults _ (Kind.user, identity.userId) = acc
  obtain ⟨st', _ | ⟨e, es⟩⟩ := acc <;> rfl

/-- `DestroyServiceAccount` reports every destroy that fails, in order.  Once the caller
passes the role check and the name is a service account's, the call returns `nil` when no
destroy of `destroyPointers` fails, and otherwise the errors those destroys return, in
order, each as it would on the store the call started from. -/
theorem destroyServiceAccount_errors {env : Env} {call : Call} {req : DestroyServiceAccountRequest}
    {st : State} {r : CheckResult} {identity : Identity} (hauth : authCheckGRPC call.check = .ok r)
    (hid : st.getIdentity (req.name ++ env.serviceAccountNameSuffix) = some identity)
    (hsa : labelExists env.labelIdentityTypeServiceAccount identity.labels) :
    (destroyServiceAccount env call req st).2 =
      match (destroyPointers env st identity).filterMap (st.destroyError call.faults) with
      | [] => .ok ()
      | errs => .error (.multi errs) := by
  rw [destroyServiceAccount_eq hauth hid hsa,
    foldl_destroyCollecting_snd call.faults (destroyPointers_nodup env st identity), List.nil_append]

theorem destroyServiceAccount_errors_identityFault :
    (destroyServiceAccount Env.sample { Call.admin with faults := identityDestroyFails } ⟨"ci"⟩
        (createServiceAccount Env.sample Call.admin "u1" ⟨"ci", "Admin", false⟩ State.empty).1).2 =
      match (destroyPointers Env.sample
          (createServiceAccount Env.sample Call.admin "u1" ⟨"ci", "Admin", false⟩ State.empty).1
          (createdIdentity Env.sample "u1" ⟨"key-ci", "ci", "ci", 0⟩)).filterMap
        ((createServiceAccount Env.sample Call.admin "u1" ⟨"ci", "Admin", false⟩ State.empty).1.destroyError
          identityDestroyFails) with
      | [] => .ok ()
      | errs => .error (.multi errs) :=
  @destroyServiceAccount_errors Env.sample { Call.admin with faults := identityDestroyFails } ⟨"ci"⟩
    _ ⟨"Admin"⟩ (createdIdentity Env.sample "u1" ⟨"key-ci", "ci", "ci", 0⟩) rfl rfl rfl

/-- Destroying a service account whose user is missing, with no write fault: the call
removes the keys labelled with the identity's user ID and the identity, and fails with
`NotFound` for the user alone. -/
theorem destroyServiceAccount_orphaned {env : Env} {call : Call} {req : DestroyServiceAccountRequest}
    {st : State} {r : CheckResult} {identity : Identity} (hauth : authCheckGRPC call.check = .ok r)
    (hid : st.getIdentity (req.name ++ env.serviceAccountNameSuffix) = some identity)
    (hsa : labelExists env.labelIdentityTypeServiceAccount identity.labels)
    (hnouser : st.getUser identity.userId = none) (hfault : ∀ ptr, call.faults (.destroy ptr) = none) :
    (destroyServiceAccount env call req st).2 = .error (.multi [.notFound (.user, identity.userId)]) ∧
      ∀ x, x ∈ (destroyServiceAccount env call req st).1.resources ↔
        x ∈ st.resources ∧ x.pointer ∉ destroyPointers env st identity := by
  have hpresent : ∀ x ∈ st.resources, st.destroyError call.faults x.pointer = none := fun x hx => by
    rw [State.destroyError_eq, hfault, if_pos (List.mem_map_of_mem _ hx)]
  have huser : st.destroyError call.faults (.user, identity.userId) =
      some (.notFound (.user, identity.userId)) := by
    rw [State.destroyError_eq, hfault, if_neg]
    intro hmem
    obtain ⟨x, hx, hxp⟩ := List.mem_map.1 hmem
    cases x <;> simp only [Resource.pointer, Prod.mk.injEq, reduceCtorEq, false_and] at hxp
    rw [State.getUser_eq_some.2 ⟨hx, hxp.2⟩] at hnouser
    cases hnouser
  refine ⟨?_, fun x => ?_⟩
  · have hidentity : st.destroyError call.faults (.identity, identity.id) = none :=
      hpresent _ (State.getIdentity_eq_some.1 hid).1
    rw [destroyServiceAccount_eq hauth hid hsa,
      foldl_destroyCollecting_snd call.faults (destroyPointers_nodup env st identity), List.nil_append,
      destroyPointers, List.filterMap_append,
      List.filterMap_eq_nil_iff.2 fun p hp => ?_, List.filterMap_cons_none hidentity,
      List.filterMap_cons_some huser]
    · rfl
    obtain ⟨k, hk, rfl⟩ := List.mem_map.1 hp
    exact hpresent _ (State.mem_publicKeys.1 (List.mem_of_mem_filter hk))
  · rw [destroyServiceAccount_eq hauth hid hsa, mem_foldl_destroyCollecting]
    simp [hfault]


/-- A store left with a service-account identity whose user is gone. -/
def State.orphaned : State :=
  ⟨[.identity (createdIdentity Env.sample "u1" ⟨"key-ci", "ci", "ci", 0⟩)], by decide⟩

theorem destroyServiceAccount_orphaned_sample :
    (destroyServiceAccount Env.sample Call.admin ⟨"ci"⟩ State.orphaned).2 =
      .error (.multi [.notFound (.user, "u1")]) :=
  (@destroyServiceAccount_orphaned Env.sample Call.admin ⟨"ci"⟩ State.orphaned ⟨"Admin"⟩
    (createdIdentity Env.sample "u1" ⟨"key-ci", "ci", "ci", 0⟩) rfl rfl rfl rfl fun _ => rfl).1

end Destroy

end Management
end Omni
