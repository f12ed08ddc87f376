import Omni.Management.ServiceAccount

/-!
# The configuration handlers of `managementServer`

`Kubeconfig`, `Talosconfig`, `Omniconfig` and `ValidateConfig` hand a client its
configuration files, or check one.  None of them touches the store beyond the access
policies `applyClusterAccessPolicy` reads; what they do is decide, from the caller and the
request, which runtime to ask and which error to return.

The runtimes, `auth.CheckGRPC`, the access-policy lookup, `role.Max`, `yaml.Marshal` and
`url.Parse` are not part of the excerpt: they are the fields of `ConfigEnv`, each a function
of what the handler passes it.  A request context is what `router.ExtractContext` returns,
`nil` or the cluster's name, and the role a context carries is an `Option String`.

Two facts hold whatever those functions do.  Outside a debug build `Talosconfig` never
serves the admin talosconfig: an `Admin` request fails with `PermissionDenied` once the
caller passes the check (`talosconfig_admin_release`).  And `generateDest` returns `nil`
only with a non-empty destination, while its second error names no destination at all,
since it formats the parsed URL that has just printed as empty (`generateDest_spec`).
-/

namespace Omni
namespace Management

/-- The configuration `generateConfig` marshals: one context of `omnictl`, its URL and the
caller's identity. -/
structure OmniconfigContext where
  url : String
  identity : String

/-- `ctlcfg.Config`: the contexts by name, and the current one. -/
structure OmniConfig where
  contexts : List (String × OmniconfigContext)
  context : String

/-- What the configuration handlers call outside the excerpt. -/
structure ConfigEnv where
  /-- `constants.IsDebugBuild`. -/
  isDebugBuild : Bool
  /-- `runtime.LookupInterface[omniAdmin]`: its error, or its `AdminTalosconfig`. -/
  omniAdmin : Except Error (String → Except Error String)
  /-- `runtime.LookupInterface[talosRuntime]`: its error, or its `GetTalosconfigRaw`. -/
  talosRuntime : Except Error (Option String → String → Except Error String)
  /-- `runtime.LookupInterface[oidcRuntime]`: its error, or its `GetOIDCKubeconfig`. -/
  oidcRuntime : Except Error (Option String → String → Except Error String)
  /-- `accesspolicy.RoleForCluster` on the store: the role the policies grant on a cluster. -/
  roleForCluster : String → Except Error String
  /-- `role.None`. -/
  roleNone : String
  /-- `role.Max`. -/
  roleMax : String → String → Except Error String
  /-- `auth.CheckGRPC` with `role.Reader` in a context carrying that role: the caller's
  identity. -/
  checkReader : Option String → Except Error String
  /-- `s.serviceAccountKubeconfig` for the request, in a context carrying that role. -/
  serviceAccountKubeconfig : Option String → Except Error String
  /-- `omnires.ValidateConfigPatch`: the error's text. -/
  validateConfigPatch : String → Option String
  /-- `yaml.Marshal`. -/
  marshal : OmniConfig → Except Error String
  /-- `url.Parse` and then `String` of the parsed URL. -/
  parseURL : String → Except Error String

/-- `applyClusterAccessPolicy`: the role of the returned context, which is the caller's own
context when the policies do not raise its role. -/
def applyClusterAccessPolicy (env : ConfigEnv) (clusterID : String) (ctxRole : Option String) :
    Except Error (Option String) :=
  match env.roleForCluster clusterID with
  | .error err => .error err
  | .ok clusterRole =>
    let userRole := ctxRole.getD env.roleNone
    match env.roleMax userRole clusterRole with
    | .error err => .error err
    | .ok newRole => if newRole = userRole then .ok ctxRole else .ok (some newRole)

/-- `Kubeconfig` for a request context and the role the caller's context carries; a
service-account request is `serviceAccountKubeconfig`'s. -/
def kubeconfig (env : ConfigEnv) (commonContext : Option String) (ctxRole : Option String)
    (serviceAccount : Bool) : Except Error String :=
  let clusterName := commonContext.getD ""
  match applyClusterAccessPolicy env clusterName ctxRole with
  | .error err => .error err
  | .ok ctxRole =>
    if serviceAccount then env.serviceAccountKubeconfig ctxRole else
    match env.checkReader ctxRole with
    | .error err => .error err
    | .ok identity =>
      match env.oidcRuntime with
      | .error err => .error err
      | .ok getOIDCKubeconfig => getOIDCKubeconfig commonContext identity

/-- `adminTalosconfig`. -/
def adminTalosconfig (env : ConfigEnv) (routerContext : Option String) : Except Error String :=
  if !env.isDebugBuild then .error (.status codePermissionDenied "not allowed") else
  match routerContext with
  | none => .error (.status codeInvalidArgument "cluster name is required")
  | some clusterName =>
    if clusterName = "" then .error (.status codeInvalidArgument "cluster name is required") else
    match env.omniAdmin with
    | .error err => .error err
    | .ok getAdminTalosconfig => getAdminTalosconfig clusterName

/-- `Talosconfig`, given `auth.CheckGRPC`'s answer with `role.Reader` (the caller's
identity) and the request context. -/
def talosconfig (env : ConfigEnv) (check : Except Error String) (routerContext : Option String)
    (admin : Bool) : Except Error String :=
  match check with
  | .error err => .error err
  | .ok identity =>
    if admin then adminTalosconfig env routerContext else
    match env.talosRuntime with
    | .error err => .error err
    | .ok getTalosconfigRaw => getTalosconfigRaw routerContext identity

/-- `generateConfig`. -/
def generateConfig (env : ConfigEnv) (identity contextURL : String) : Except Error String :=
  match env.marshal { contexts := [("default", ⟨contextURL, identity⟩)], context := "default" } with
  | .error err => .error (.wrapped "failed to marshal omnicfg" err)
  | .ok result => .ok result

/-- `Omniconfig`, given `auth.CheckGRPC`'s answer with a valid signature and
`s.omniconfigDest`. -/
def omniconfig (env : ConfigEnv) (check : Except Error String) (omniconfigDest : String) :
    Except Error String :=
  match check with
  | .error err => .error err
  | .ok identity => generateConfig env identity omniconfigDest

/-- `ValidateConfig`, given `auth.CheckGRPC`'s answer with a valid signature. -/
def validateConfig (env : ConfigEnv) (check : Except Error String) (config : String) :
    Except Error Unit :=
  match check with
  | .error err => .error err
  | .ok _ =>
    match env.validateConfigPatch config with
    | some err => .error (.status codeInvalidArgument err)
    | none => .ok ()

/-- `generateDest`.  The second error formats `parsedDest` with `%s`, which prints its
`String()`: the empty result. -/
def generateDest (env : ConfigEnv) (apiurl : String) : Except Error String :=
  match env.parseURL apiurl with
  | .error err => .error (.wrapped "incorrect destination" err)
  | .ok result =>
    if result = "" then .error (.other ("incorrect destination '" ++ result ++ "'")) else
    .ok result

/-- Outside a debug build `Talosconfig` never serves the admin talosconfig, whatever the
runtimes and the request context: an `Admin` request fails with the caller check's error, or
with `PermissionDenied` once the caller passes it. -/
theorem talosconfig_admin_release (env : ConfigEnv) (hrelease : env.isDebugBuild = false)
    (check : Except Error String) (routerContext : Option String) :
    talosconfig env check routerContext true =
      match check with
      | .error err => .error err
      | .ok _ => .error (.status codePermissionDenied "not allowed") := by
  cases check <;> simp [talosconfig, adminTalosconfig, hrelease]

/-- A release build with runtimes that would answer every call. -/
def ConfigEnv.release : ConfigEnv where
  isDebugBuild := false
  omniAdmin := .ok fun clusterName => .ok ("admin talosconfig of " ++ clusterName)
  talosRuntime := .ok fun _ identity => .ok ("talosconfig of " ++ identity)
  oidcRuntime := .ok fun _ identity => .ok ("kubeconfig of " ++ identity)
  roleForCluster _ := .ok "None"
  roleNone := "None"
  roleMax a _ := .ok a
  checkReader _ := .ok "operator"
  serviceAccountKubeconfig _ := .ok "service account kubeconfig"
  validateConfigPatch _ := none
  marshal _ := .ok "contexts: default"
  parseURL url := .ok url

example : talosconfig ConfigEnv.release (.ok "operator") (some "talos-default") true =
    .error (.status codePermissionDenied "not allowed") := rfl

/-- `generateDest` returns `nil` only with a non-empty destination, the URL as `url.Parse`
reads and prints it; an input that `url.Parse` accepts but prints as empty fails with the
text `incorrect destination ''`, whatever the input was. -/
theorem generateDest_spec (env : ConfigEnv) (apiurl : String) :
    (∀ dest, generateDest env apiurl = .ok dest → dest ≠ "" ∧ env.parseURL apiurl = .ok dest) ∧
      (env.parseURL apiurl = .ok "" →
        generateDest env apiurl = .error (.other "incorrect destination ''")) := by
  refine ⟨fun dest h => ?_, fun h => by simp [generateDest, h]⟩
  unfold generateDest at h
  rcases hparse : env.parseURL apiurl with err | result
  · simp [hparse] at h
  · by_cases hempty : result = ""
    · simp [hparse, hempty] at h
    · simp only [hparse, hempty, if_false, Except.ok.injEq] at h
      exact ⟨h ▸ hempty, h ▸ rfl⟩

end Management
end Omni
