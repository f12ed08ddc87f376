import Omni.Management.Accounts

/-!
# The service-account directory

What a client sees of the service accounts is what `ListServiceAccounts` returns: each
service-account identity in ID order, named by its ID without the suffix, with the keys
labelled with its user's ID, in ID order, and its user's role.  `State.directory` is
that list, the abstract view of the store.

`listServiceAccounts_eq` says exactly when `ListServiceAccounts` returns it: always, unless
some service-account identity has no user, and then the call fails with `NotFound` for the
user of the first such identity in ID order.

The handlers act on the directory as list operations (`DirectoryOp`), which keep it in the
order `List` returns: `CreateServiceAccount` inserts an account with its one key at the
place of its identity's ID (the name followed by the suffix), `RenewServiceAccount` inserts
a key into the keys of the account of that name at the place of the key's ID,
`DestroyServiceAccount` removes the account of that name.  A call takes effect whole or not
at all, whichever of its writes fail, so over any run the directory is the first one with a
subsequence of the calls' operations applied in order (`serve_directory`).
`DirectoryStep` says what one step must do for this to hold over its runs, and
`DirectoryStep.run` proves it once for every such step.  Three facts about the store make it
so, and every handler keeps them (`State.DirectoryWF`): the service-account invariant
`State.AccountsWF`; the service-account identities are exactly the identities whose ID ends
with the suffix; and a key's `LabelIdentityUserID`, when it has one, agrees with its
`LabelPublicKeyUserID`.  Two facts about the run are needed as well: the user IDs
`CreateServiceAccount` draws are new, and no `Identity` destroy fails
(`destroyServiceAccount_orphans_identity` shows what happens otherwise).
-/

namespace Omni

namespace Management

/-- The entry `ListServiceAccounts` reports for an identity of the store. -/
def State.accountOf (env : Env) (st : State) (identity : Identity) : ServiceAccount :=
  serviceAccountOf env st identity ((st.getUser identity.userId).getD default)

/-- The service accounts of the store as `ListServiceAccounts` reports them. -/
def State.directory (env : Env) (st : State) : List ServiceAccount :=
  (st.identities.filter env.isServiceAccount).map (st.accountOf env)

/-- Whether `ListServiceAccounts` finds no user for an identity. -/
def State.userMissing (st : State) (identity : Identity) : Bool :=
  (st.getUser identity.userId).isNone

/-- The loop of `ListServiceAccounts` stops at the first identity without a user. -/
theorem mapM_serviceAccountEntry (env : Env) (st : State) (l : List Identity) :
    l.mapM (serviceAccountEntry env st) =
      match l.find? st.userMissing with
      | some identity => .error (.notFound (.user, identity.userId))
      | none => .ok (l.map (st.accountOf env)) := by
  induction l with
  | nil => rfl
  | cons identity l ih =>
    rw [List.mapM_cons]
    rcases hu : st.getUser identity.userId with _ | user
    · simp only [serviceAccountEntry, hu, List.find?_cons, State.userMissing, Option.isNone_none]
      rfl
    · simp only [serviceAccountEntry, hu, List.find?_cons, State.userMissing, Option.isNone_some, ih]
      cases List.find? st.userMissing l <;> simp only [State.accountOf, hu, Option.getD_some, List.map_cons] <;> rfl

/-- `ListServiceAccounts` for a caller who passes the role check, over any store: it fails
with `NotFound` for the user of the first service-account identity, in ID order, whose
user is missing, and otherwise returns the directory. -/
theorem listServiceAccounts_eq (env : Env) (call : Call) (st : State) (r : CheckResult)
    (hauth : authCheckGRPC call.check = .ok r) :
    listServiceAccounts env call st =
      match (st.identities.filter env.isServiceAccount).find? st.userMissing with
      | some identity => .error (.notFound (.user, identity.userId))
      | none => .ok ⟨st.directory env⟩ := by
  simp only [listServiceAccounts, hauth]
  change Except.map _ ((st.identities.filter env.isServiceAccount).mapM (serviceAccountEntry env st)) = _
  rw [mapM_serviceAccountEntry]
  cases (st.identities.filter env.isServiceAccount).find? st.userMissing <;> rfl

theorem listServiceAccounts_eq_orphaned :
    authCheckGRPC Call.admin.check = .ok ⟨"Admin"⟩ ∧
      listServiceAccounts Env.sample Call.admin (serve Env.sample orphaningCalls State.empty) =
        match ((serve Env.sample orphaningCalls State.empty).identities.filter
            Env.sample.isServiceAccount).find? (serve Env.sample orphaningCalls State.empty).userMissing with
        | some identity => .error (.notFound (.user, identity.userId))
        | none => .ok ⟨(serve Env.sample orphaningCalls State.empty).directory Env.sample⟩ :=
  ⟨rfl, listServiceAccounts_eq Env.sample Call.admin _ ⟨"Admin"⟩ rfl⟩

/-! ## The handlers as operations on the directory -/

/-- The key entry `ListServiceAccounts` reports for a key `validatePGPPublicKey` returned. -/
def PgpPublicKey.ofPGPKey (key : PGPKey) : PgpPublicKey := ⟨key.id, key.data, key.expiration⟩

/-- The ID of the identity an account is listed for: its name followed by the suffix. -/
def ServiceAccount.identityID (env : Env) (sa : ServiceAccount) : String :=
  sa.name ++ env.serviceAccountNameSuffix

/-- What a service-account call does to the directory when it takes effect. -/
inductive DirectoryOp where
  /-- A new account. -/
  | add (account : ServiceAccount)
  /-- A key, for the accounts of that name. -/
  | addKey (name : String) (key : PgpPublicKey)
  /-- The accounts of that name, removed. -/
  | remove (name : String)

/-- The directory after an operation: a new account goes where its identity's ID puts it
among the others, and a new key where its ID puts it among the account's keys. -/
def DirectoryOp.apply (env : Env) : DirectoryOp → List ServiceAccount → List ServiceAccount
  | .add account, d =>
    d.orderedInsert (fun a b => idLE (a.identityID env) (b.identityID env)) account
  | .addKey name key, d => d.map fun sa =>
      if sa.name = name then
        { sa with pgpPublicKeys := sa.pgpPublicKeys.orderedInsert (fun a b => idLE a.id b.id) key }
      else sa
  | .remove name, d => d.filter fun sa => sa.name != name

/-- The operation of a call, read off the caller and the request alone: the account
`CreateServiceAccount` adds, named by the validated key's username, with that key and the
role `serviceAccountRole` grants; the key `RenewServiceAccount` adds; the name
`DestroyServiceAccount` removes. -/
def Request.directoryOp (env : Env) (call : Call) : Request → Option DirectoryOp
  | .create _ req =>
    match authCheckGRPC call.check, env.validatePGPPublicKey req.armoredPgpPublicKey with
    | .ok authCheckResult, .ok key =>
      match serviceAccountRole env authCheckResult req with
      | .ok role => some (.add ⟨key.username, [PgpPublicKey.ofPGPKey key], role⟩)
      | .error _ => none
    | _, _ => none
  | .renew req =>
    match env.validatePGPPublicKey req.armoredPgpPublicKey with
    | .ok key => some (.addKey req.name (PgpPublicKey.ofPGPKey key))
    | .error _ => none
  | .list => none
  | .destroy req => some (.remove req.name)

/-- The user ID a `CreateServiceAccount` call draws. -/
def Request.newUserID : Request → Option String
  | .create newUserID _ => some newUserID
  | _ => none

/-- Whether an identity's ID ends with the service-account suffix. -/
def Env.hasServiceAccountSuffix (env : Env) (identity : Identity) : Bool :=
  env.serviceAccountNameSuffix.data.isSuffixOf identity.id.data

/-- Whether a resource uses a user ID: an identity as its `UserId`, a key as its
`LabelPublicKeyUserID`. -/
def Resource.usesUserID (env : Env) (v : String) : Resource → Bool
  | .identity i => i.userId == v
  | .publicKey k => k.labels.lookup env.labelPublicKeyUserID == some v
  | _ => false

/-- Whether some resource of the store uses a user ID. -/
def State.UsesUserID (env : Env) (st : State) (v : String) : Prop :=
  ∃ x ∈ st.resources, x.usesUserID env v

/-- What the store must satisfy for the handlers to act on the directory as operations. -/
structure State.DirectoryWF (env : Env) (st : State) : Prop where
  accounts : st.AccountsWF env
  named : ∀ identity ∈ st.identities,
    env.isServiceAccount identity = env.hasServiceAccountSuffix identity
  keyLabels : ∀ key ∈ st.publicKeys, ∀ v, key.labels.lookup env.labelIdentityUserID = some v →
    key.labels.lookup env.labelPublicKeyUserID = some v

/-! ## Appending and filtering resources -/

/-- Trimming a suffix the string has and putting it back gives the string. -/
theorem trimSuffix_append_suffix {s suffix : String} (h : suffix.data.isSuffixOf s.data) :
    trimSuffix s suffix ++ suffix = s := by
  obtain ⟨t, ht⟩ := List.isSuffixOf_iff_suffix.1 h
  simp only [trimSuffix, h, if_true]
  apply String.ext
  simp [String.data_append, ← ht]

/-- A string with the suffix trims to `n` exactly when it is `n` followed by the suffix. -/
theorem trimSuffix_eq_iff {s suffix n : String} (h : suffix.data.isSuffixOf s.data) :
    trimSuffix s suffix = n ↔ s = n ++ suffix :=
  ⟨fun hn => hn ▸ (trimSuffix_append_suffix h).symm, fun hs => hs ▸ trimSuffix_append n suffix⟩


/-- Under the service-account invariant, a service-account identity's user is found. -/
theorem State.AccountsWF.exists_getUser {env : Env} {st : State} (hwf : st.AccountsWF env)
    {identity : Identity} (hi : identity ∈ st.identities) (hsa : env.isServiceAccount identity) :
    ∃ user, st.getUser identity.userId = some user := by
  obtain ⟨user, hu, huid⟩ := hwf.user_exists identity hi hsa
  exact ⟨user, State.getUser_eq_some.2 ⟨State.mem_users.1 hu, huid⟩⟩

/-- Two service-account identities of the store have the same ID exactly when they have the
same user. -/
theorem State.AccountsWF.id_eq_iff_userId_eq {env : Env} {st : State} (hwf : st.AccountsWF env)
    {i j : Identity} (hi : i ∈ st.identities) (hj : j ∈ st.identities)
    (hsai : env.isServiceAccount i) (hsaj : env.isServiceAccount j) :
    i.id = j.id ↔ i.userId = j.userId := by
  constructor
  · intro he
    rw [Resource.identity.inj (State.eq_of_pointer_eq (State.mem_identities.1 hi)
      (State.mem_identities.1 hj) (by simp [Resource.pointer, he]))]
  · intro he
    rw [hwf.userId_injective i hi j hj hsai hsaj he]

/-- A service-account identity is listed under the name `n` exactly when its ID is `n`
followed by the suffix. -/
theorem State.DirectoryWF.name_eq_iff {env : Env} {st : State} (hwf : st.DirectoryWF env)
    {identity : Identity} (hi : identity ∈ st.identities) (hsa : env.isServiceAccount identity)
    {n : String} :
    trimSuffix identity.id env.serviceAccountNameSuffix = n ↔
      identity.id = n ++ env.serviceAccountNameSuffix :=
  trimSuffix_eq_iff ((hwf.named identity hi).symm.trans hsa)

section Append

variable {env : Env} {st st' : State} {added : List Resource}

/-- Appending resources with no identity keeps the identities. -/
theorem identities_of_append_none (h : st'.resources = st.resources ++ added)
    (hadded : ∀ i, .identity i ∉ added) : st'.identities = st.identities :=
  State.list_of_append_none h fun _ hr => Option.eq_none_iff_forall_not_mem.2 fun i hi =>
    hadded i (Resource.identity?_eq_some.1 hi ▸ hr)

/-- Appending resources with one identity: the filtered identities gain it, at its place
by ID, when the filter keeps it. -/
theorem filter_identities_of_append {i : Identity} (h : st'.resources = st.resources ++ added)
    (hadded : added.filterMap Resource.identity? = [i]) (p : Identity → Bool) :
    st'.identities.filter p =
      if p i then (st.identities.filter p).orderedInsert (fun a b => idLE a.id b.id) i
      else st.identities.filter p :=
  State.filter_list_of_append_one (fun _ _ => Resource.identity?_eq_some)
    (fun _ _ => Resource.pointer_of_identity?) h hadded p

/-- Appending resources with one key: the filtered keys gain it, at its place by ID, when
the filter keeps it. -/
theorem filter_publicKeys_of_append {k : PublicKey} (h : st'.resources = st.resources ++ added)
    (hadded : added.filterMap Resource.publicKey? = [k]) (p : PublicKey → Bool) :
    st'.publicKeys.filter p =
      if p k then (st.publicKeys.filter p).orderedInsert (fun a b => idLE a.id b.id) k
      else st.publicKeys.filter p :=
  State.filter_list_of_append_one (fun _ _ => Resource.publicKey?_eq_some)
    (fun _ _ => Resource.pointer_of_publicKey?) h hadded p

/-- Appending resources keeps every user. -/
theorem getUser_of_append (h : st'.resources = st.resources ++ added) {id : String} {user : User}
    (hu : st.getUser id = some user) : st'.getUser id = some user := by
  rw [State.getUser_eq_some] at hu ⊢
  exact ⟨h ▸ List.mem_append_left _ hu.1, hu.2⟩

/-- Appending resources with no key labelled with a user's ID keeps the entry of an
identity with that user. -/
theorem serviceAccountOf_of_append (h : st'.resources = st.resources ++ added) (identity : Identity)
    (user : User) (hkeys : ∀ key, .publicKey key ∈ added →
      key.labels.lookup env.labelPublicKeyUserID ≠ some user.id) :
    serviceAccountOf env st' identity user = serviceAccountOf env st identity user := by
  simp only [serviceAccountOf, State.publicKeys]
  rw [State.filter_list_of_append (fun _ _ => Resource.publicKey?_eq_some)
    (fun _ _ => Resource.pointer_of_publicKey?) h fun key hkey => by
      simpa [labelEqual] using hkeys key hkey]

/-- Appending resources keeps the entry of an identity whose user exists when no added key
is labelled with its user ID. -/
theorem accountOf_of_append (h : st'.resources = st.resources ++ added) {identity : Identity}
    {user : User} (hu : st.getUser identity.userId = some user)
    (hkeys : ∀ key, .publicKey key ∈ added →
      key.labels.lookup env.labelPublicKeyUserID ≠ some identity.userId) :
    st'.accountOf env identity = st.accountOf env identity := by
  have huid := (State.getUser_eq_some.1 hu).2
  simp only [State.accountOf, getUser_of_append h hu, hu, Option.getD_some]
  exact serviceAccountOf_of_append h identity user (huid ▸ hkeys)

/-- Appending resources with no identity and no key labelled with a service-account
identity's user ID keeps the directory. -/
theorem directory_of_append (hwf : st.AccountsWF env) (h : st'.resources = st.resources ++ added)
    (hidentities : ∀ i, .identity i ∉ added)
    (hkeys : ∀ key, .publicKey key ∈ added → ∀ identity ∈ st.identities, env.isServiceAccount identity →
      key.labels.lookup env.labelPublicKeyUserID ≠ some identity.userId) :
    st'.directory env = st.directory env := by
  rw [State.directory, identities_of_append_none h hidentities, State.directory]
  refine List.map_congr_left fun identity hi => ?_
  obtain ⟨hmem, hsa⟩ := List.mem_filter.1 hi
  obtain ⟨_, hget⟩ := hwf.exists_getUser hmem hsa
  exact accountOf_of_append h hget fun key hkey => hkeys key hkey identity hmem hsa

end Append

/-- Filtering the resources filters the identities. -/
theorem identities_of_filter {st st' : State} {p : Resource → Bool}
    (h : st'.resources = st.resources.filter p) :
    st'.identities = st.identities.filter fun i => p (.identity i) :=
  State.list_of_filter (fun _ _ => Resource.identity?_eq_some) (fun _ _ => Resource.pointer_of_identity?) h

/-- Filtering the resources filters the keys. -/
theorem publicKeys_of_filter {st st' : State} {p : Resource → Bool}
    (h : st'.resources = st.resources.filter p) :
    st'.publicKeys = st.publicKeys.filter fun k => p (.publicKey k) :=
  State.list_of_filter (fun _ _ => Resource.publicKey?_eq_some) (fun _ _ => Resource.pointer_of_publicKey?) h

/-- An identity whose ID is a name followed by the suffix has the suffix. -/
theorem Env.hasServiceAccountSuffix_of_id {env : Env} {identity : Identity} {n : String}
    (h : identity.id = n ++ env.serviceAccountNameSuffix) : env.hasServiceAccountSuffix identity := by
  simp [Env.hasServiceAccountSuffix, h, List.isSuffixOf_iff_suffix, String.data_append]

/-- The label set of a created key answers its user ID under `LabelIdentityUserID` only
when that is `LabelPublicKeyUserID`. -/
theorem lookup_insert_userID {env : Env} {u v : String}
    (h : ((∅ : Labels).insert env.labelPublicKeyUserID u).lookup env.labelIdentityUserID = some v) :
    ((∅ : Labels).insert env.labelPublicKeyUserID u).lookup env.labelPublicKeyUserID = some v := by
  by_cases hl : env.labelIdentityUserID = env.labelPublicKeyUserID
  · rw [hl] at h
    exact h
  · rw [AList.lookup_insert_ne hl] at h
    cases h

/-- The entry of the identity `CreateServiceAccount` created is the account of its
operation, when no key of the store was labelled with the new user ID before. -/
theorem accountOf_createdIdentity {env : Env} {st st' : State} {u role : String} {key : PGPKey}
    (hres : st'.resources = st.resources ++ createdResources env u key role)
    (hkeys : ∀ k ∈ st.publicKeys, k.labels.lookup env.labelPublicKeyUserID ≠ some u) :
    st'.accountOf env (createdIdentity env u key) =
      ⟨key.username, [PgpPublicKey.ofPGPKey key], role⟩ := by
  have huser : st'.getUser u = some ⟨u, role⟩ :=
    State.getUser_eq_some.2 ⟨by simp [hres, createdResources], rfl⟩
  have hold : st.publicKeys.filter (fun k => k.labels.lookup env.labelPublicKeyUserID == some u) = [] :=
    List.filter_eq_nil_iff.2 fun k hk => by simpa using hkeys k hk
  have hcreatedKey : labelEqual env.labelPublicKeyUserID u (createdPublicKey env u key role).labels := by
    simp only [labelEqual, createdPublicKey, AList.lookup_insert, beq_self_eq_true]
  have hadded : (createdResources env u key role).filterMap Resource.publicKey? =
      [createdPublicKey env u key role] := rfl
  rw [State.accountOf, createdIdentity_userId, huser, Option.getD_some]
  simp only [serviceAccountOf, labelEqual] at hold hcreatedKey ⊢
  rw [filter_publicKeys_of_append hres hadded, if_pos hcreatedKey, hold, createdIdentity_id,
    trimSuffix_append]
  rfl

/-! ## One call -/

/-- `CreateServiceAccount`, drawing a user ID the store does not use, leaves the directory
as it was or adds the account of its operation, whichever of its writes fail. -/
theorem createServiceAccount_directory {env : Env} {call : Call} {u : String}
    {req : CreateServiceAccountRequest} {st : State} (hwf : st.DirectoryWF env)
    (hfresh : ¬ st.UsesUserID env u) :
    (createServiceAccount env call u req st).1.directory env = st.directory env ∨
      ∃ op, (Request.create u req).directoryOp env call = some op ∧
        (createServiceAccount env call u req st).1.directory env = op.apply env (st.directory env) := by
  have hids : ∀ identity ∈ st.identities, identity.userId ≠ u := fun identity hi he =>
    hfresh ⟨_, State.mem_identities.1 hi, by simp [Resource.usesUserID, he]⟩
  have hkeys : ∀ key ∈ st.publicKeys, key.labels.lookup env.labelPublicKeyUserID ≠ some u :=
    fun key hk he => hfresh ⟨_, State.mem_publicKeys.1 hk, by simp [Resource.usesUserID, he]⟩
  -- a created key is labelled with the new user ID, which no identity of the store has
  have hnewKeys : ∀ key role key', .publicKey key' ∈ createdResources env u key role →
      ∀ identity ∈ st.identities, key'.labels.lookup env.labelPublicKeyUserID ≠ some identity.userId := by
    intro key role key' hk' identity hi he
    obtain rfl : key' = createdPublicKey env u key role := by simpa [createdResources] using hk'
    exact hids identity hi (Option.some.inj ((AList.lookup_insert _).symm.trans he)).symm
  rcases hcall : createServiceAccount env call u req st with ⟨st', _ | resp⟩
  · left
    rcases createServiceAccount_cases hcall with ⟨rfl, -⟩ | ⟨key, role, k, -, hk, hres, -, hok⟩
    · rfl
    have hk2 : k < 2 := by
      have : k ≠ 2 := fun h => by simp [h] at hok
      omega
    refine directory_of_append hwf.accounts hres (fun i hi => ?_)
      fun key' hk' identity hi _ => hnewKeys key role key' (List.mem_of_mem_take hk') identity hi
    obtain rfl | rfl : k = 0 ∨ k = 1 := by omega
    all_goals simp [createdResources] at hi
  · right
    obtain ⟨r, key, role, hauth, hkey, hrole, hres⟩ := createServiceAccount_ok_cases hcall
    refine ⟨.add ⟨key.username, [PgpPublicKey.ofPGPKey key], role⟩,
      by simp only [Request.directoryOp, hauth, hkey, hrole], ?_⟩
    have hidentities : (createdResources env u key role).filterMap Resource.identity? =
        [createdIdentity env u key] := rfl
    -- each account sits at its identity's ID
    have hid : ∀ i ∈ createdIdentity env u key :: st.identities.filter env.isServiceAccount,
        (st'.accountOf env i).identityID env = i.id := by
      refine List.forall_mem_cons.2 ⟨trimSuffix_append_suffix
        (Env.hasServiceAccountSuffix_of_id (createdIdentity_id env u key)), fun i hi => ?_⟩
      obtain ⟨hmem, hsa⟩ := List.mem_filter.1 hi
      exact trimSuffix_append_suffix ((hwf.named i hmem).symm.trans hsa)
    rw [State.directory, filter_identities_of_append hres hidentities,
      if_pos (isServiceAccount_createdIdentity env u key), map_orderedInsert_id _ hid,
      accountOf_createdIdentity hres hkeys, DirectoryOp.apply, State.directory]
    congr 1
    refine List.map_congr_left fun identity hi => ?_
    obtain ⟨hmem, hsa⟩ := List.mem_filter.1 hi
    obtain ⟨_, hget⟩ := hwf.accounts.exists_getUser hmem hsa
    exact accountOf_of_append hres hget fun key' hk' => hnewKeys key role key' hk' identity hmem

/-- `RenewServiceAccount` leaves the directory as it was or adds the validated key to the
account of the name. -/
theorem renewServiceAccount_directory {env : Env} {call : Call} {req : RenewServiceAccountRequest}
    {st : State} (hwf : st.DirectoryWF env) :
    (renewServiceAccount env call req st).1.directory env = st.directory env ∨
      ∃ op, (Request.renew req).directoryOp env call = some op ∧
        (renewServiceAccount env call req st).1.directory env = op.apply env (st.directory env) := by
  rcases hcall : renewServiceAccount env call req st with ⟨st', _ | resp⟩
  · left
    rcases renewServiceAccount_cases hcall with ⟨rfl, -⟩ | ⟨_, _, _, _, _, _, h⟩
    · rfl
    · cases h
  right
  obtain ⟨identity, user, key, hid, -, hkey, hres⟩ := renewServiceAccount_ok_cases hcall
  refine ⟨.addKey req.name (PgpPublicKey.ofPGPKey key), by simp only [Request.directoryOp, hkey], ?_⟩
  obtain ⟨hidmem, hidid⟩ := State.getIdentity_eq_some.1 hid
  have hsa : env.isServiceAccount identity := (hwf.named identity (State.mem_identities.2 hidmem)).trans
    (Env.hasServiceAccountSuffix_of_id hidid)
  have hnew : (renewedPublicKey env (req.name ++ env.serviceAccountNameSuffix) identity user
      key).labels.lookup env.labelPublicKeyUserID = some identity.userId := AList.lookup_insert _
  have hadded : [Resource.publicKey (renewedPublicKey env (req.name ++ env.serviceAccountNameSuffix)
      identity user key)].filterMap Resource.publicKey? =
      [renewedPublicKey env (req.name ++ env.serviceAccountNameSuffix) identity user key] := rfl
  dsimp only
  rw [State.directory, identities_of_append_none hres (by simp), DirectoryOp.apply,
    State.directory, List.map_map]
  refine List.map_congr_left fun j hj => ?_
  obtain ⟨hjmem, hjsa⟩ := List.mem_filter.1 hj
  obtain ⟨userj, hgetj⟩ := hwf.accounts.exists_getUser hjmem hjsa
  have huid := (State.getUser_eq_some.1 hgetj).2
  -- the account renewed is the one with the request's name
  have hname : trimSuffix j.id env.serviceAccountNameSuffix = req.name ↔ j.userId = identity.userId := by
    rw [hwf.name_eq_iff hjmem hjsa, ← hidid]
    exact hwf.accounts.id_eq_iff_userId_eq hjmem (State.mem_identities.2 hidmem) hjsa hsa
  simp only [Function.comp_apply, State.accountOf, getUser_of_append hres hgetj, hgetj,
    Option.getD_some, serviceAccountOf_name]
  simp only [serviceAccountOf]
  rw [filter_publicKeys_of_append hres hadded]
  simp only [labelEqual, hnew, huid]
  by_cases hj' : j.userId = identity.userId
  · rw [if_pos (hname.2 hj'), hj', beq_self_eq_true, if_pos rfl,
      @map_orderedInsert_id PublicKey PublicKey.id PgpPublicKey PgpPublicKey.id _ _ _ fun _ _ => rfl]
    rfl
  · rw [if_neg (mt hname.1 hj'), if_neg (by simpa using Ne.symm hj')]

/-- Destroying what `destroyPointers` names for a service-account identity, whichever of
those destroys fail, keeps the entry of every other service-account identity: its user and
its keys. -/
theorem accountOf_of_destroyPointers {env : Env} {st st' : State} {faults : Faults}
    {identity j : Identity} (hwf : st.DirectoryWF env) (hi : identity ∈ st.identities)
    (hsa : env.isServiceAccount identity)
    (hres : st'.resources = st.resources.filter fun x =>
      !decide (x.pointer ∈ destroyPointers env st identity) || (faults (.destroy x.pointer)).isSome)
    (hj : j ∈ st.identities) (hjsa : env.isServiceAccount j) (hjid : j.id ≠ identity.id) :
    st'.accountOf env j = st.accountOf env j := by
  obtain ⟨userj, hgetj⟩ := hwf.accounts.exists_getUser hj hjsa
  obtain ⟨hu, huid⟩ := State.getUser_eq_some.1 hgetj
  have hju : j.userId ≠ identity.userId := fun he =>
    hjid ((hwf.accounts.id_eq_iff_userId_eq hj hi hjsa hsa).2 he)
  have hgetj' : st'.getUser j.userId = some userj := by
    refine State.getUser_eq_some.2 ⟨?_, huid⟩
    rw [hres, List.mem_filter]
    exact ⟨hu, by simp [Resource.pointer, mem_destroyPointers, huid, hju]⟩
  simp only [State.accountOf, hgetj, hgetj', Option.getD_some, serviceAccountOf,
    publicKeys_of_filter hres, List.filter_filter]
  congr 2
  refine List.filter_congr fun k hk => ?_
  cases hlab : labelEqual env.labelPublicKeyUserID userj.id k.labels
  · rfl
  -- a key of `j`'s user is not one of `identity`'s, since the key's labels agree
  · have hnot : (Kind.publicKey, k.id) ∉ destroyPointers env st identity := fun hmem => by
      have hid' := hwf.keyLabels k hk _
        ((publicKey_mem_destroyPointers (State.mem_publicKeys.1 hk)).1 hmem)
      simp only [labelEqual, hid', beq_iff_eq, Option.some.injEq, huid] at hlab
      exact hju hlab.symm
    simp [Resource.pointer, hnot]

/-- `DestroyServiceAccount` with no failing `Identity` destroy leaves the directory as it
was or removes the account of the name, whichever of its other destroys fail. -/
theorem destroyServiceAccount_directory {env : Env} {call : Call}
    {req : DestroyServiceAccountRequest} {st : State} (hwf : st.DirectoryWF env)
    (hfault : ∀ id, call.faults (.destroy (.identity, id)) = none) :
    (destroyServiceAccount env call req st).1.directory env = st.directory env ∨
      (destroyServiceAccount env call req st).1.directory env =
        (DirectoryOp.remove req.name).apply env (st.directory env) := by
  rcases destroyServiceAccount_cases env call req st with ⟨h, -⟩ | ⟨identity, hid, hsa, hst, -⟩
  · exact .inl (by rw [h])
  right
  obtain ⟨hidmem, hidid⟩ := State.getIdentity_eq_some.1 hid
  generalize hst' : (destroyServiceAccount env call req st).1 = st' at hst ⊢
  have hres : st'.resources = st.resources.filter fun x =>
      !decide (x.pointer ∈ destroyPointers env st identity) ||
        (call.faults (.destroy x.pointer)).isSome := by
    rw [hst, foldl_destroyCollecting_resources]
  have hidentities : st'.identities = st.identities.filter fun j => j.id != identity.id := by
    rw [identities_of_filter hres]
    refine List.filter_congr fun j _ => ?_
    by_cases hj : j.id = identity.id <;> simp [Resource.pointer, hfault, mem_destroyPointers, hj]
  -- a service-account identity is removed exactly when it has the name
  have hname : ∀ j ∈ st.identities, env.isServiceAccount j →
      ((st.accountOf env j).name = req.name ↔ j.id = identity.id) := fun j hjmem hjsa => by
    rw [State.accountOf, serviceAccountOf_name, hwf.name_eq_iff hjmem hjsa, hidid]
  rw [State.directory, hidentities, DirectoryOp.apply, State.directory, List.filter_map,
    List.filter_filter, List.filter_filter]
  have hfilter : (st.identities.filter fun a =>
      ((fun sa => sa.name != req.name) ∘ st.accountOf env) a && env.isServiceAccount a) =
      st.identities.filter fun a => env.isServiceAccount a && a.id != identity.id :=
    List.filter_congr fun j hj => by
      cases hjsa : env.isServiceAccount j
      · simp
      · simp only [Function.comp, Bool.and_true, Bool.true_and]
        rw [Bool.eq_iff_iff, bne_iff_ne, bne_iff_ne]
        exact (hname j hj hjsa).not
  rw [hfilter]
  refine List.map_congr_left fun j hj => ?_
  obtain ⟨hjmem, hj'⟩ := List.mem_filter.1 hj
  simp only [Bool.and_eq_true, bne_iff_ne, ne_eq] at hj'
  exact accountOf_of_destroyPointers hwf (State.mem_identities.2 hidmem) hsa hres hjmem hj'.1 hj'.2

/-! ## The invariant -/

/-- `DestroyServiceAccount` only removes resources. -/
theorem mem_of_destroyServiceAccount {env : Env} {call : Call} {req : DestroyServiceAccountRequest}
    {st : State} {x : Resource} (hx : x ∈ (destroyServiceAccount env call req st).1.resources) :
    x ∈ st.resources := by
  rcases destroyServiceAccount_cases env call req st with ⟨h, -⟩ | ⟨identity, -, -, h, -⟩
  · rwa [h] at hx
  · rw [h, mem_foldl_destroyCollecting] at hx
    exact hx.1

namespace State.DirectoryWF

variable {env : Env} {st st' : State}

/-- The empty store satisfies the invariant. -/
theorem empty : State.empty.DirectoryWF env where
  accounts := .of_no_serviceAccounts nofun
  named := nofun
  keyLabels := nofun

/-- Adding identities named as the suffix says and keys whose labels agree keeps the
invariant, once the service-account invariant is known to hold after. -/
theorem append (hwf : st.DirectoryWF env) {added : List Resource}
    (h : st'.resources = st.resources ++ added) (haccounts : st'.AccountsWF env)
    (hnamed : ∀ i, .identity i ∈ added → env.isServiceAccount i = env.hasServiceAccountSuffix i)
    (hkeys : ∀ key, .publicKey key ∈ added → ∀ v, key.labels.lookup env.labelIdentityUserID = some v →
      key.labels.lookup env.labelPublicKeyUserID = some v) :
    st'.DirectoryWF env where
  accounts := haccounts
  named i hi := by
    rw [State.mem_identities, h, List.mem_append] at hi
    exact hi.elim (fun hi => hwf.named i (State.mem_identities.2 hi)) (hnamed i)
  keyLabels key hk := by
    rw [State.mem_publicKeys, h, List.mem_append] at hk
    exact hk.elim (fun hk => hwf.keyLabels key (State.mem_publicKeys.2 hk)) (hkeys key)

/-- Removing resources keeps the invariant, once the service-account invariant is known to
hold after. -/
theorem of_subset (hwf : st.DirectoryWF env) (hsub : ∀ x ∈ st'.resources, x ∈ st.resources)
    (haccounts : st'.AccountsWF env) : st'.DirectoryWF env where
  accounts := haccounts
  named i hi := hwf.named i (State.mem_identities.2 (hsub _ (State.mem_identities.1 hi)))
  keyLabels key hk := hwf.keyLabels key (State.mem_publicKeys.2 (hsub _ (State.mem_publicKeys.1 hk)))

/-- `CreateServiceAccount` keeps the invariant, whichever of its writes fail. -/
theorem after_create (hwf : st.DirectoryWF env) (call : Call) (newUserID : String)
    (req : CreateServiceAccountRequest) :
    (createServiceAccount env call newUserID req st).1.DirectoryWF env := by
  rcases @createServiceAccount_cases env call newUserID req st _ _ Prod.mk.eta.symm with
    ⟨h, -⟩ | ⟨key, role, k, -, -, h, -, -⟩
  · rw [h]
    exact hwf
  refine hwf.append h (hwf.accounts.after_create call newUserID req) (fun i hi => ?_)
    fun key' hk' v hv => ?_
  · simp only [createdResources, Resource.identity.injEq, reduceCtorEq] at hi
    obtain rfl : i = createdIdentity env newUserID key := by
      simpa using List.mem_of_mem_take hi
    rw [isServiceAccount_createdIdentity, Env.hasServiceAccountSuffix_of_id (createdIdentity_id _ _ _)]
  · obtain rfl : key' = createdPublicKey env newUserID key role := by
      simpa [createdResources] using List.mem_of_mem_take hk'
    exact lookup_insert_userID hv

/-- `RenewServiceAccount` keeps the invariant, whether its write fails or not. -/
theorem after_renew (hwf : st.DirectoryWF env) (call : Call) (req : RenewServiceAccountRequest) :
    (renewServiceAccount env call req st).1.DirectoryWF env := by
  rcases @renewServiceAccount_cases env call req st _ _ Prod.mk.eta.symm with
    ⟨h, -⟩ | ⟨_, _, _, -, -, h, -⟩
  · rw [h]
    exact hwf
  refine hwf.append h (hwf.accounts.after_renew call req) (fun i hi => by simp at hi)
    fun key' hk' v hv => ?_
  obtain rfl := List.mem_singleton.1 hk' |> Resource.publicKey.inj
  exact lookup_insert_userID hv

/-- `DestroyServiceAccount` keeps the invariant when its `Identity` destroys do not fail. -/
theorem after_destroy (hwf : st.DirectoryWF env) (call : Call) (req : DestroyServiceAccountRequest)
    (hfault : ∀ id, call.faults (.destroy (.identity, id)) = none) :
    (destroyServiceAccount env call req st).1.DirectoryWF env :=
  hwf.of_subset (fun _ => mem_of_destroyServiceAccount) (hwf.accounts.after_destroy call req hfault)

/-- Every call keeps the invariant when its `Identity` destroys do not fail. -/
theorem after_apply (hwf : st.DirectoryWF env) (call : Call) (req : Request)
    (hfault : ∀ id, call.faults (.destroy (.identity, id)) = none) :
    (req.apply env call st).DirectoryWF env := by
  cases req with
  | create newUserID req => exact hwf.after_create call newUserID req
  | renew req => exact hwf.after_renew call req
  | list => exact hwf
  | destroy req => exact hwf.after_destroy call req hfault

end State.DirectoryWF

/-! ## Runs -/

/-- A call puts no user ID to use that its store did not use, apart from the one
`CreateServiceAccount` draws. -/
theorem Request.usesUserID_apply {env : Env} {call : Call} {st : State} {v : String}
    (req : Request) (h : (req.apply env call st).UsesUserID env v) :
    st.UsesUserID env v ∨ req.newUserID = some v := by
  obtain ⟨x, hx, hxv⟩ := h
  cases req with
  | create u req =>
    rcases @createServiceAccount_cases env call u req st _ _ Prod.mk.eta.symm with
      ⟨h, -⟩ | ⟨key, role, k, -, -, h, -, -⟩
    · exact .inl ⟨x, h ▸ hx, hxv⟩
    rw [Request.apply, h, List.mem_append] at hx
    refine hx.imp (fun hx => ⟨x, hx, hxv⟩) fun hx => ?_
    have hkey : (createdPublicKey env u key role).labels.lookup env.labelPublicKeyUserID = some u :=
      AList.lookup_insert _
    obtain rfl | rfl | rfl : x = .publicKey (createdPublicKey env u key role) ∨
        x = .user ⟨u, role⟩ ∨ x = .identity (createdIdentity env u key) := by
      simpa [createdResources] using List.mem_of_mem_take hx
    · simp only [Resource.usesUserID, hkey, beq_iff_eq] at hxv
      exact hxv
    · cases hxv
    · exact congrArg some (beq_iff_eq.1 hxv)
  | renew req =>
    rcases @renewServiceAccount_cases env call req st _ _ Prod.mk.eta.symm with
      ⟨h, -⟩ | ⟨identity, user, key, hid, -, h, -⟩
    · exact .inl ⟨x, h ▸ hx, hxv⟩
    rw [Request.apply, h, List.mem_append] at hx
    refine .inl (hx.elim (fun hx => ⟨x, hx, hxv⟩) fun hx => ?_)
    obtain rfl := List.mem_singleton.1 hx
    have hkey : (renewedPublicKey env (req.name ++ env.serviceAccountNameSuffix) identity user
        key).labels.lookup env.labelPublicKeyUserID = some identity.userId := AList.lookup_insert _
    simp only [Resource.usesUserID, hkey, beq_iff_eq, Option.some.injEq] at hxv
    exact ⟨_, (State.getIdentity_eq_some.1 hid).1, by simp [Resource.usesUserID, hxv]⟩
  | list => exact .inl ⟨x, hx, hxv⟩
  | destroy req => exact .inl ⟨x, mem_of_destroyServiceAccount hx, hxv⟩

/-- One call on a store that satisfies the invariant, drawing a user ID the store does not
use and with no failing `Identity` destroy, leaves the directory as it was or applies its
operation to it. -/
theorem Request.apply_directory {env : Env} {call : Call} {st : State} (req : Request)
    (hwf : st.DirectoryWF env) (hfault : ∀ id, call.faults (.destroy (.identity, id)) = none)
    (hfresh : ∀ v, req.newUserID = some v → ¬ st.UsesUserID env v) :
    (req.apply env call st).directory env = st.directory env ∨
      ∃ op, req.directoryOp env call = some op ∧
        (req.apply env call st).directory env = op.apply env (st.directory env) := by
  cases req with
  | create u req => exact createServiceAccount_directory hwf (hfresh u rfl)
  | renew req => exact renewServiceAccount_directory hwf
  | list => exact .inl rfl
  | destroy req => exact (destroyServiceAccount_directory hwf hfault).imp_right fun h => ⟨_, rfl, h⟩

/-- What one step of a run must do for the whole run to act on the directory as its
steps' operations: keep the invariant, put to use no user ID but the one it draws, and leave
the directory as it was or apply its operation.  `allowed` is what a step asks of its call. -/
structure DirectoryStep {α : Type} (env : Env) (step : α → State → State)
    (newUserID : α → Option String) (op : α → Option DirectoryOp) (allowed : α → Prop) : Prop where
  wf : ∀ a st, allowed a → st.DirectoryWF env → (step a st).DirectoryWF env
  uses : ∀ a st v, (step a st).UsesUserID env v → st.UsesUserID env v ∨ newUserID a = some v
  directory : ∀ a st, allowed a → st.DirectoryWF env →
    (∀ v, newUserID a = some v → ¬ st.UsesUserID env v) →
    (step a st).directory env = st.directory env ∨
      ∃ o, op a = some o ∧ (step a st).directory env = o.apply env (st.directory env)

namespace DirectoryStep

variable {α : Type} {env : Env} {step : α → State → State} {newUserID : α → Option String}
  {op : α → Option DirectoryOp} {allowed : α → Prop}

/-- A run of allowed steps keeps the invariant. -/
theorem run_wf (h : DirectoryStep env step newUserID op allowed) (calls : List α) {st : State}
    (hwf : st.DirectoryWF env) (hallowed : ∀ a ∈ calls, allowed a) :
    (calls.foldl (fun st a => step a st) st).DirectoryWF env := by
  induction calls generalizing st with
  | nil => exact hwf
  | cons a as ih => exact ih (h.wf a st (hallowed a (.head _)) hwf) fun b hb => hallowed b (.tail _ hb)

/-- Over a run of allowed steps drawing distinct user IDs the first store does not use, the
directory is the first one with a subsequence of the steps' operations applied in order. -/
theorem run (h : DirectoryStep env step newUserID op allowed) (calls : List α) {st : State}
    (hwf : st.DirectoryWF env) (hallowed : ∀ a ∈ calls, allowed a)
    (hnodup : (calls.filterMap newUserID).Nodup)
    (hunused : ∀ v ∈ calls.filterMap newUserID, ¬ st.UsesUserID env v) :
    ∃ ops : List DirectoryOp, ops.Sublist (calls.filterMap op) ∧
      (calls.foldl (fun st a => step a st) st).directory env =
        ops.foldl (fun d o => o.apply env d) (st.directory env) := by
  induction calls generalizing st with
  | nil => exact ⟨[], .slnil, rfl⟩
  | cons a as ih =>
    have hallowed₀ := hallowed a (.head _)
    -- the rest of the run draws no user ID the first step used or drew
    have htail : (as.filterMap newUserID).Nodup ∧
        ∀ v ∈ as.filterMap newUserID, ¬ (step a st).UsesUserID env v := by
      rcases hu : newUserID a with _ | u <;>
        simp only [List.filterMap_cons, hu, List.nodup_cons, List.mem_cons] at hnodup hunused
      · exact ⟨hnodup, fun v hv huse => (h.uses a st v huse).elim (hunused v hv)
          fun he => nomatch hu.symm.trans he⟩
      · refine ⟨hnodup.2, fun v hv huse => (h.uses a st v huse).elim (hunused v (.inr hv))
          fun he => hnodup.1 ?_⟩
        rwa [Option.some.inj (hu.symm.trans he)]
    have hfresh : ∀ v, newUserID a = some v → ¬ st.UsesUserID env v := fun v hv =>
      hunused v (by simp [List.filterMap_cons, hv])
    obtain ⟨ops, hsub, hdir⟩ := ih (h.wf a st hallowed₀ hwf)
      (fun b hb => hallowed b (.tail _ hb)) htail.1 htail.2
    rcases h.directory a st hallowed₀ hwf hfresh with hsame | ⟨o, hop, hstep⟩
    · refine ⟨ops, ?_, by rw [List.foldl_cons, ← hsame]; exact hdir⟩
      rw [List.filterMap_cons]
      split
      · exact hsub
      · exact hsub.cons _
    · refine ⟨o :: ops, ?_, by simp only [List.foldl_cons]; rw [← hstep]; exact hdir⟩
      simp only [List.filterMap_cons, hop]
      exact hsub.cons₂ _

end DirectoryStep

/-- The service-account handlers, serving one call after another, are such steps. -/
theorem Request.directoryStep (env : Env) :
    DirectoryStep env (fun (c : Call × Request) st => c.2.apply env c.1 st) (fun c => c.2.newUserID)
      (fun c => c.2.directoryOp env c.1)
      (fun c => ∀ id, c.1.faults (.destroy (.identity, id)) = none) where
  wf c _ hallowed hwf := hwf.after_apply c.1 c.2 hallowed
  uses c _ _ h := c.2.usesUserID_apply h
  directory c _ hallowed hwf hfresh := c.2.apply_directory hwf hallowed hfresh

/-- The service-account handlers refine the directory.  From any store that satisfies the
invariant, through any calls whose `Identity` destroys do not fail and whose
`CreateServiceAccount` calls draw distinct user IDs the store does not use (every other
store write may fail), the directory is the first one with a subsequence of the calls'
operations applied in order, and `ListServiceAccounts` returns it to every caller who
passes the role check. -/
theorem serve_directory (env : Env) (st : State) (hwf : st.DirectoryWF env)
    (calls : List (Call × Request))
    (hfault : ∀ c ∈ calls, ∀ id, c.1.faults (.destroy (.identity, id)) = none)
    (hnodup : (calls.filterMap fun c => c.2.newUserID).Nodup)
    (hunused : ∀ v ∈ calls.filterMap (fun c => c.2.newUserID), ¬ st.UsesUserID env v) :
    (∃ ops : List DirectoryOp, ops.Sublist (calls.filterMap fun c => c.2.directoryOp env c.1) ∧
      (serve env calls st).directory env = ops.foldl (fun d op => op.apply env d) (st.directory env)) ∧
    ∀ listCall r, authCheckGRPC listCall.check = .ok r →
      listServiceAccounts env listCall (serve env calls st) = .ok ⟨(serve env calls st).directory env⟩ :=
  ⟨(Request.directoryStep env).run calls hwf hfault hnodup hunused, fun _ _ hauth =>
    listServiceAccounts_eq_ok hauth ((Request.directoryStep env).run_wf calls hwf hfault).accounts.user_exists⟩

/-- Create the account `ci`, renew it, create the account `ops`, then destroy `ci`. -/
def directoryCalls : List (Call × Request) :=
  [(Call.admin, .create "u1" ⟨"ci", "Admin", false⟩), (Call.admin, .renew ⟨"ci", "ci2"⟩),
    (Call.admin, .create "u2" ⟨"ops", "Admin", false⟩), (Call.admin, .destroy ⟨"ci"⟩)]

theorem serve_directory_sample :
    ∃ ops : List DirectoryOp, ops.Sublist (directoryCalls.filterMap fun c => c.2.directoryOp Env.sample c.1) ∧
      (serve Env.sample directoryCalls State.empty).directory Env.sample =
        ops.foldl (fun d op => op.apply Env.sample d) (State.empty.directory Env.sample) :=
  (serve_directory Env.sample State.empty .empty directoryCalls
    (by simp [directoryCalls, Call.admin, Faults.none]) (by decide)
    (fun _ _ ⟨_, hx, _⟩ => nomatch hx)).1

end Management
end Omni
