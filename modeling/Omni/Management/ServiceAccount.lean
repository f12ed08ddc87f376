import Omni.Management.Store

/-!
# The service-account handlers of `managementServer`

`CreateServiceAccount`, `RenewServiceAccount`, `ListServiceAccounts` and
`DestroyServiceAccount`, statement by statement.  A handler takes the store and returns
the store it leaves and its result; writes made before an error stay, as they do in Go.

What the handlers call outside the excerpt is a parameter: `auth.Check`'s answer for the
caller and the store's faults (`Call`), the uuid `CreateServiceAccount` draws, and `Env`:
the label keys and name suffix of `authres` and `pkgaccess`, `validatePGPPublicKey`,
`role.Parse` and `Role.Check`.  `%q` is `String.quote`, which agrees with Go's on
printable ASCII.  Calls are served one after another (`serve`).
-/

namespace Omni
namespace Management

/-- `auth.CheckResult`: the caller's role. -/
structure CheckResult where
  role : String
deriving DecidableEq

/-- How `auth.Check` fails: with `auth.ErrUnauthenticated`, with `auth.ErrUnauthorized`
(each with the error's text), or otherwise. -/
inductive CheckError where
  | unauthenticated (message : String)
  | unauthorized (message : String)
  | other (err : Error)

/-- A public key as `validatePGPPublicKey` returns it. -/
structure PGPKey where
  id : String
  username : String
  data : String
  expiration : Int
deriving DecidableEq

/-- The constants and functions outside the excerpt that the handlers use. -/
structure Env where
  /-- `pkgaccess.ServiceAccountNameSuffix`. -/
  serviceAccountNameSuffix : String
  /-- `authres.LabelPublicKeyUserID`. -/
  labelPublicKeyUserID : String
  /-- `authres.LabelIdentityUserID`. -/
  labelIdentityUserID : String
  /-- `authres.LabelIdentityTypeServiceAccount`. -/
  labelIdentityTypeServiceAccount : String
  /-- `validatePGPPublicKey` with the service-account lifetime limit. -/
  validatePGPPublicKey : String → Except Error PGPKey
  /-- `role.Parse`. -/
  parseRole : String → Except Error String
  /-- `Role.Check` of the caller's role against a requested one: the error's text. -/
  checkRole : String → String → Option String

/-- What one call meets besides the store: `auth.Check`'s answer and the store writes
that fail. -/
structure Call where
  check : Except CheckError CheckResult
  faults : Faults

/-- `authCheckGRPC`. -/
def authCheckGRPC (check : Except CheckError CheckResult) : Except Error CheckResult :=
  match check with
  | .error (.unauthenticated message) => .error (.status codeUnauthenticated message)
  | .error (.unauthorized message) => .error (.status codePermissionDenied message)
  | .error (.other err) => .error err
  | .ok authCheckResult => .ok authCheckResult

/-- `strings.TrimSuffix`. -/
def trimSuffix (s suffix : String) : String :=
  if suffix.data.isSuffixOf s.data then ⟨s.data.take (s.data.length - suffix.data.length)⟩ else s

/-- `management.CreateServiceAccountRequest`. -/
structure CreateServiceAccountRequest where
  armoredPgpPublicKey : String
  role : String
  useUserRole : Bool

/-- `management.CreateServiceAccountResponse`. -/
structure CreateServiceAccountResponse where
  publicKeyId : String
deriving DecidableEq

/-- `management.RenewServiceAccountRequest`. -/
structure RenewServiceAccountRequest where
  name : String
  armoredPgpPublicKey : String

/-- `management.RenewServiceAccountResponse`. -/
structure RenewServiceAccountResponse where
  publicKeyId : String
deriving DecidableEq

/-- `ListServiceAccountsResponse_ServiceAccount_PgpPublicKey`. -/
structure PgpPublicKey where
  id : String
  armored : String
  expiration : Int
deriving DecidableEq

/-- `ListServiceAccountsResponse_ServiceAccount`. -/
structure ServiceAccount where
  name : String
  pgpPublicKeys : List PgpPublicKey
  role : String
deriving DecidableEq

/-- `management.ListServiceAccountsResponse`. -/
structure ListServiceAccountsResponse where
  serviceAccounts : List ServiceAccount
deriving DecidableEq

/-- `management.DestroyServiceAccountRequest`. -/
structure DestroyServiceAccountRequest where
  name : String

/-- The role `CreateServiceAccount` gives the new key: the caller's with `UseUserRole`,
otherwise the requested one, which must parse and be within the caller's. -/
def serviceAccountRole (env : Env) (authCheckResult : CheckResult)
    (req : CreateServiceAccountRequest) : Except Error String :=
  if req.useUserRole then .ok authCheckResult.role
  else
    match env.parseRole req.role with
    | .error err => .error err
    | .ok reqRole =>
      match env.checkRole authCheckResult.role reqRole with
      | some message =>
        .error (.status codePermissionDenied
          ("not enough permissions to create service account with role " ++ req.role.quote ++
            ": " ++ message))
      | none => .ok req.role

/-- `CreateServiceAccount`: the public key, then the user, then the identity. -/
def createServiceAccount (env : Env) (call : Call) (newUserID : String)
    (req : CreateServiceAccountRequest) (st : State) :
    State × Except Error CreateServiceAccountResponse :=
  match authCheckGRPC call.check with
  | .error err => (st, .error err)
  | .ok authCheckResult =>
  match env.validatePGPPublicKey req.armoredPgpPublicKey with
  | .error err => (st, .error err)
  | .ok key =>
  let email := key.username ++ env.serviceAccountNameSuffix
  match st.get (.identity, email) with
  | some _ => (st, .error (.other ("service account " ++ email.quote ++ " already exists")))
  | none =>
  match serviceAccountRole env authCheckResult req with
  | .error err => (st, .error err)
  | .ok role =>
  let publicKeyResource : PublicKey :=
    { id := key.id, labels := (∅ : Labels).insert env.labelPublicKeyUserID newUserID,
      publicKey := key.data, expiration := key.expiration, role := role, confirmed := true,
      identityEmail := email }
  match st.create call.faults (.publicKey publicKeyResource) with
  | .error err => (st, .error err)
  | .ok st =>
  let user : User := { id := newUserID, role := publicKeyResource.role }
  match st.create call.faults (.user user) with
  | .error err => (st, .error err)
  | .ok st =>
  let identity : Identity :=
    { id := email, userId := user.id,
      labels := ((∅ : Labels).insert env.labelIdentityUserID newUserID).insert
        env.labelIdentityTypeServiceAccount "" }
  match st.create call.faults (.identity identity) with
  | .error err => (st, .error err)
  | .ok st => (st, .ok { publicKeyId := key.id })

/-- `RenewServiceAccount`: a new public key for the account's user. -/
def renewServiceAccount (env : Env) (call : Call) (req : RenewServiceAccountRequest)
    (st : State) : State × Except Error RenewServiceAccountResponse :=
  match authCheckGRPC call.check with
  | .error err => (st, .error err)
  | .ok _ =>
  let name := req.name ++ env.serviceAccountNameSuffix
  match st.getIdentity name with
  | none => (st, .error (.notFound (.identity, name)))
  | some identity =>
  match st.getUser identity.userId with
  | none => (st, .error (.notFound (.user, identity.userId)))
  | some user =>
  match env.validatePGPPublicKey req.armoredPgpPublicKey with
  | .error err => (st, .error err)
  | .ok key =>
  let publicKeyResource : PublicKey :=
    { id := key.id, labels := (∅ : Labels).insert env.labelPublicKeyUserID identity.userId,
      publicKey := key.data, expiration := key.expiration, role := user.role,
      confirmed := true, identityEmail := name }
  match st.create call.faults (.publicKey publicKeyResource) with
  | .error err => (st, .error err)
  | .ok st => (st, .ok { publicKeyId := key.id })

/-- The entry `ListServiceAccounts` reports for a service-account identity and its user. -/
def serviceAccountOf (env : Env) (st : State) (identity : Identity) (user : User) : ServiceAccount :=
  let publicKeyList :=
    st.publicKeys.filter fun key => labelEqual env.labelPublicKeyUserID user.id key.labels
  { name := trimSuffix identity.id env.serviceAccountNameSuffix,
    pgpPublicKeys := publicKeyList.map fun key =>
      { id := key.id, armored := key.publicKey, expiration := key.expiration },
    role := user.role }

/-- One iteration of `ListServiceAccounts`: the identity's user, then its entry. -/
def serviceAccountEntry (env : Env) (st : State) (identity : Identity) :
    Except Error ServiceAccount :=
  match st.getUser identity.userId with
  | none => .error (.notFound (.user, identity.userId))
  | some user => .ok (serviceAccountOf env st identity user)

/-- `ListServiceAccounts`: the first identity whose user is missing ends the call. -/
def listServiceAccounts (env : Env) (call : Call) (st : State) :
    Except Error ListServiceAccountsResponse :=
  match authCheckGRPC call.check with
  | .error err => .error err
  | .ok _ =>
    let identityList := st.identities.filter fun identity =>
      labelExists env.labelIdentityTypeServiceAccount identity.labels
    (identityList.mapM (serviceAccountEntry env st)).map fun serviceAccounts =>
      { serviceAccounts := serviceAccounts }

/-- One `Destroy` of `DestroyServiceAccount`: its error is appended to `destroyErr`, and
the call goes on. -/
def destroyCollecting (faults : Faults) (acc : State × List Error) (ptr : Pointer) :
    State × List Error :=
  match acc.1.destroy faults ptr with
  | .error err => (acc.1, acc.2 ++ [err])
  | .ok st => (st, acc.2)

/-- `DestroyServiceAccount`: the keys listed under the identity's user ID, then the
identity, then the user, each destroyed whatever became of the ones before. -/
def destroyServiceAccount (env : Env) (call : Call) (req : DestroyServiceAccountRequest)
    (st : State) : State × Except Error Unit :=
  match authCheckGRPC call.check with
  | .error err => (st, .error err)
  | .ok _ =>
  let name := req.name ++ env.serviceAccountNameSuffix
  match st.getIdentity name with
  | none => (st, .error (.status codeNotFound ("service account " ++ name.quote ++ " not found")))
  | some identity =>
  if !labelExists env.labelIdentityTypeServiceAccount identity.labels then
    (st, .error (.status codeNotFound ("service account " ++ req.name.quote ++ " not found")))
  else
  let pubKeys :=
    st.publicKeys.filter fun key => labelEqual env.labelIdentityUserID identity.userId key.labels
  let acc := pubKeys.foldl (fun acc pubKey => destroyCollecting call.faults acc (.publicKey, pubKey.id))
    (st, [])
  let acc := destroyCollecting call.faults acc (.identity, identity.id)
  let acc := destroyCollecting call.faults acc (.user, identity.userId)
  match acc.2 with
  | [] => (acc.1, .ok ())
  | destroyErr => (acc.1, .error (.multi destroyErr))

/-- A call to one of the four handlers. -/
inductive Request where
  | create (newUserID : String) (req : CreateServiceAccountRequest)
  | renew (req : RenewServiceAccountRequest)
  | list
  | destroy (req : DestroyServiceAccountRequest)

/-- The store after a handler serves a call. -/
def Request.apply (env : Env) (call : Call) : Request → State → State
  | .create newUserID req, st => (createServiceAccount env call newUserID req st).1
  | .renew req, st => (renewServiceAccount env call req st).1
  | .list, st => st
  | .destroy req, st => (destroyServiceAccount env call req st).1

/-- The store after a sequence of calls, served one after another. -/
def serve (env : Env) (calls : List (Call × Request)) (st : State) : State :=
  calls.foldl (fun st c => c.2.apply env c.1 st) st

/-- An `Env` for running the handlers: a validator that reads the armored text as the key's
username, and roles that always parse and check. -/
def Env.sample : Env where
  serviceAccountNameSuffix := "@serviceaccount"
  labelPublicKeyUserID := "user-id"
  labelIdentityUserID := "user-id"
  labelIdentityTypeServiceAccount := "type-service-account"
  validatePGPPublicKey armored :=
    .ok { id := "key-" ++ armored, username := armored, data := armored, expiration := 0 }
  parseRole := .ok
  checkRole _ _ := none

/-- An authenticated admin call whose writes do not fail. -/
def Call.admin : Call := { check := .ok ⟨"Admin"⟩, faults := Faults.none }

/-- The faults of a call whose `Identity` destroys fail. -/
def identityDestroyFails : Faults
  | .destroy (.identity, _) => some (.other "etcd unavailable")
  | _ => none

end Management
end Omni
