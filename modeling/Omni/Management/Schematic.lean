import Omni.Management.ServiceAccount
import Omni.Machine.Remote

/-!
# `CreateSchematic`

`CreateSchematic` builds an image-factory `schematic.Customization` from the request and
the Omni connection parameters, derives the schematic ID from it, and registers the
schematic with the image factory and in the store unless the store already has it.

The meta values come from a Go map, `map[uint32]string`, which `range` visits in an order
chosen at run time: the handler takes that order as an argument (`iteration`), a
permutation of the map's entries.  Each key is checked with `meta.CanSetMetaKey` and then
truncated to `uint8`, and the collected values are sorted with `slices.SortFunc` by
descending key.

Go's standard library is not part of the excerpt.  `SortFunc` is what the call relies on:
the result is a permutation of the input, sorted by the comparator, and on at most twelve
elements it is `insertionSortCmpFunc`, the loop `pdqsortCmpFunc` runs on short slices.
`SortFunc.insertion` shows that these requirements can be met.  `schematic.ID`, the image
factory client and the PXE URL of the configuration are fields of `SchematicEnv`;
`meta.CanSetMetaKey` is the field of `Machine.Omnimeta`.

A call writes at most the one schematic, and only when the store lacks it
(`createSchematic_store_cases`); what a successful call read and did is
`createSchematic_ok_cases`.

When `CanSetMetaKey` accepts the keys and no two of them agree modulo 256, the order `range`
visits the map in does not matter: the customization holds the values sorted strictly by
descending key (`createSchematic_meta_order_independent`).  Nothing in the handler rejects
a key of 256 or more, and two keys that agree modulo 256 reach `SortFunc` with the same
`uint8` key, which insertion sort keeps in the order visited: the schematic ID then follows
the iteration order (`createSchematic_colliding_keys`).
-/

namespace Omni
namespace Management

/-- `schematic.MetaValue`. -/
structure MetaValue where
  key : UInt8
  value : String
deriving DecidableEq, Repr

/-- `schematic.Customization`: the fields `CreateSchematic` sets. -/
structure Customization where
  extraKernelArgs : List String
  officialExtensions : List String
  meta : List MetaValue
deriving DecidableEq, Repr

/-- `schematic.Schematic`. -/
structure Schematic where
  customization : Customization
deriving DecidableEq, Repr

/-- The comparator `CreateSchematic` passes to `slices.SortFunc`: larger keys first. -/
def metaCmp (a b : MetaValue) : Int :=
  if a.key < b.key then 1 else if a.key > b.key then -1 else 0

/-- One step of Go's `insertionSortCmpFunc`, on the sorted prefix kept last element first:
the new element moves left past every element it compares below. -/
def insertRev {α : Type} (cmp : α → α → Int) (x : α) : List α → List α
  | [] => [x]
  | y :: ys => if cmp x y < 0 then y :: insertRev cmp x ys else x :: y :: ys

/-- Go's `insertionSortCmpFunc` over a whole slice. -/
def insertionSortCmpFunc {α : Type} (cmp : α → α → Int) (l : List α) : List α :=
  (l.foldl (fun acc x => insertRev cmp x acc) []).reverse

theorem uint8_lt_iff_toNat_lt (a b : UInt8) : a < b ↔ a.toNat < b.toNat := Iff.rfl

/-- `metaCmp` puts `a` strictly before `b` exactly when `a` has the larger key. -/
theorem metaCmp_neg_iff (a b : MetaValue) : metaCmp a b < 0 ↔ b.key.toNat < a.key.toNat := by
  simp only [metaCmp, gt_iff_lt, uint8_lt_iff_toNat_lt]
  split_ifs <;> omega

theorem metaCmp_nonneg_iff (a b : MetaValue) : 0 ≤ metaCmp a b ↔ a.key.toNat ≤ b.key.toNat := by
  simp only [metaCmp, gt_iff_lt, uint8_lt_iff_toNat_lt]
  split_ifs <;> omega

section InsertionSort

variable {α : Type} (cmp : α → α → Int)

theorem insertRev_perm (x : α) (l : List α) : (insertRev cmp x l).Perm (x :: l) := by
  induction l with
  | nil => rfl
  | cons y ys ih =>
    unfold insertRev
    split
    · exact (ih.cons y).trans (List.Perm.swap x y ys)
    · rfl

theorem foldl_insertRev_perm (l acc : List α) :
    (l.foldl (fun acc x => insertRev cmp x acc) acc).Perm (l.reverse ++ acc) := by
  induction l generalizing acc with
  | nil => rfl
  | cons x xs ih =>
    simpa using (ih _).trans ((insertRev_perm cmp x acc).append_left _)

/-- Insertion sort only reorders. -/
theorem insertionSortCmpFunc_perm (l : List α) : (insertionSortCmpFunc cmp l).Perm l := by
  have h := foldl_insertRev_perm cmp l []
  rw [List.append_nil] at h
  exact (List.reverse_perm _).trans (h.trans (List.reverse_perm l))

end InsertionSort

/-- One insertion keeps the reversed prefix in ascending key order. -/
theorem insertRev_sorted (x : MetaValue) {l : List MetaValue}
    (h : l.Pairwise fun a b => a.key.toNat ≤ b.key.toNat) :
    (insertRev metaCmp x l).Pairwise fun a b => a.key.toNat ≤ b.key.toNat := by
  induction l with
  | nil => exact List.pairwise_singleton _ _
  | cons y ys ih =>
    obtain ⟨hy, hys⟩ := List.pairwise_cons.1 h
    unfold insertRev
    split
    case isTrue hlt =>
      rw [metaCmp_neg_iff] at hlt
      refine List.pairwise_cons.2 ⟨fun z hz => ?_, ih hys⟩
      rcases List.mem_cons.1 ((insertRev_perm metaCmp x ys).subset hz) with rfl | hz
      · exact hlt.le
      · exact hy z hz
    case isFalse hge =>
      rw [metaCmp_neg_iff, Nat.not_lt] at hge
      exact List.pairwise_cons.2 ⟨List.forall_mem_cons.2 ⟨hge, fun z hz => hge.trans (hy z hz)⟩, h⟩

theorem foldl_insertRev_sorted (l : List MetaValue) {acc : List MetaValue}
    (h : acc.Pairwise fun a b => a.key.toNat ≤ b.key.toNat) :
    (l.foldl (fun acc x => insertRev metaCmp x acc) acc).Pairwise
      fun a b => a.key.toNat ≤ b.key.toNat := by
  induction l generalizing acc with
  | nil => exact h
  | cons x xs ih => exact ih (insertRev_sorted x h)

/-- Insertion sort with `metaCmp` leaves no element that `metaCmp` puts before an earlier
one, the condition Go's `slices.IsSortedFunc` checks. -/
theorem insertionSortCmpFunc_sorted (l : List MetaValue) :
    (insertionSortCmpFunc metaCmp l).Pairwise fun a b => 0 ≤ metaCmp b a := by
  rw [insertionSortCmpFunc, List.pairwise_reverse]
  exact (foldl_insertRev_sorted l List.Pairwise.nil).imp (metaCmp_nonneg_iff _ _).2

/-- `slices.SortFunc` on `[]schematic.MetaValue`, as far as `CreateSchematic` relies on
it: a permutation, sorted by `metaCmp`, and insertion sort on at most twelve elements. -/
structure SortFunc where
  sortFunc : List MetaValue → (MetaValue → MetaValue → Int) → List MetaValue
  perm : ∀ l cmp, (sortFunc l cmp).Perm l
  sorted : ∀ l, (sortFunc l metaCmp).Pairwise fun a b => 0 ≤ metaCmp b a
  small : ∀ l cmp, l.length ≤ 12 → sortFunc l cmp = insertionSortCmpFunc cmp l

/-- Insertion sort at every length meets the contract. -/
def SortFunc.insertion : SortFunc where
  sortFunc l cmp := insertionSortCmpFunc cmp l
  perm l cmp := insertionSortCmpFunc_perm cmp l
  sorted := insertionSortCmpFunc_sorted
  small _ _ _ := rfl

/-- Two lists sorted by `metaCmp` with the same elements and no key twice are equal,
whatever sorted them. -/
theorem eq_of_sorted_of_perm {l₁ l₂ : List MetaValue}
    (h₁ : l₁.Pairwise fun a b => 0 ≤ metaCmp b a) (h₂ : l₂.Pairwise fun a b => 0 ≤ metaCmp b a)
    (hp : l₁.Perm l₂) (hkeys : (l₁.map MetaValue.key).Nodup) : l₁ = l₂ := by
  refine hp.eq_of_sorted (fun a b ha hb hab hba => ?_) h₁ h₂
  rw [metaCmp_nonneg_iff] at hab hba
  exact List.inj_on_of_nodup_map hkeys ha (hp.symm.subset hb) (UInt8.toNat.inj (by omega))

/-- A list sorted by `metaCmp` with no key twice is strictly descending by key. -/
theorem sorted_strict_of_nodup {l : List MetaValue} (h : l.Pairwise fun a b => 0 ≤ metaCmp b a)
    (hkeys : (l.map MetaValue.key).Nodup) : l.Pairwise fun a b => b.key < a.key := by
  refine (h.and (List.pairwise_map.1 hkeys)).imp fun ⟨hle, hne⟩ => ?_
  rw [metaCmp_nonneg_iff] at hle
  exact (uint8_lt_iff_toNat_lt _ _).2 (Nat.lt_of_le_of_ne hle fun heq => hne (UInt8.toNat.inj heq).symm)

/-- The functions and constants outside the excerpt that `CreateSchematic` uses. -/
structure SchematicEnv where
  /-- `slices.SortFunc`. -/
  sort : SortFunc
  /-- `siderolink.ConfigID`. -/
  configID : String
  /-- `Schematic.ID`. -/
  schematicID : Schematic → Except Error String
  /-- `config.Config.GetImageFactoryPXEBaseURL`. -/
  pxeBaseURL : Except Error String
  /-- `url.URL.JoinPath` followed by `String`. -/
  joinPath : String → List String → String
  /-- `client.New` on the image factory URL, then `SchematicCreate`. -/
  schematicCreate : Schematic → Except Error String

/-- `management.CreateSchematicRequest`. -/
structure CreateSchematicRequest where
  extraKernelArgs : List String
  extensions : List String
  metaValues : AList (fun _ : UInt32 => String)

/-- `management.CreateSchematicResponse`. -/
structure CreateSchematicResponse where
  schematicId : String
  pxeUrl : String
deriving DecidableEq

/-- The meta loop of `CreateSchematic`, over the map's entries in the order `range` visits
them: a key `CanSetMetaKey` rejects ends the call. -/
def collectMeta (omnimeta : Machine.Omnimeta) :
    List (Σ _ : UInt32, String) → List MetaValue → Except Error (List MetaValue)
  | [], acc => .ok acc
  | ⟨key, value⟩ :: rest, acc =>
    if !omnimeta.canSetMetaKey key.toNat then
      .error (.status codeInvalidArgument ("meta key " ++ Machine.metaKeyTagToID key.toUInt8 ++
        " is not allowed to be set in the schematic, as it's reserved by Talos"))
    else collectMeta omnimeta rest (acc ++ [{ key := key.toUInt8, value := value }])

/-- The value the meta loop appends for one map entry. -/
def MetaValue.ofEntry (kv : Σ _ : UInt32, String) : MetaValue :=
  { key := kv.1.toUInt8, value := kv.2 }

/-- When `CanSetMetaKey` accepts every key, the meta loop appends the entries in the order
`range` visits them, each key truncated to `uint8`. -/
theorem collectMeta_of_allowed (omnimeta : Machine.Omnimeta) {iteration : List (Σ _ : UInt32, String)}
    (acc : List MetaValue) (h : ∀ kv ∈ iteration, omnimeta.canSetMetaKey kv.1.toNat = true) :
    collectMeta omnimeta iteration acc = .ok (acc ++ iteration.map MetaValue.ofEntry) := by
  induction iteration generalizing acc with
  | nil => simp [collectMeta]
  | cons kv rest ih =>
    rw [List.forall_mem_cons] at h
    simp [collectMeta, h.1, ih _ h.2, MetaValue.ofEntry]

/-- The customization `CreateSchematic` hands to `schematic.ID`: the connection's kernel
arguments and the request's, the request's extensions, and the sorted meta values. -/
def buildCustomization (env : SchematicEnv) (omnimeta : Machine.Omnimeta)
    (params : ConnectionParams) (req : CreateSchematicRequest)
    (iteration : List (Σ _ : UInt32, String)) : Except Error Customization :=
  let customization : Customization :=
    { extraKernelArgs := params.args.splitOn " " ++ req.extraKernelArgs,
      officialExtensions := req.extensions, meta := [] }
  match collectMeta omnimeta iteration customization.meta with
  | .error err => .error err
  | .ok meta => .ok { customization with meta := env.sort.sortFunc meta metaCmp }

/-- A meta loop that ends with `nil` found every key it visited allowed. -/
theorem collectMeta_allowed {omnimeta : Machine.Omnimeta} :
    ∀ {iteration : List (Σ _ : UInt32, String)} {acc meta : List MetaValue},
      collectMeta omnimeta iteration acc = .ok meta →
        ∀ kv ∈ iteration, omnimeta.canSetMetaKey kv.1.toNat = true
  | [], _, _, _ => nofun
  | ⟨key, value⟩ :: rest, acc, meta, h => by
    simp only [collectMeta] at h
    split at h
    · cases h
    · rename_i hkey
      exact List.forall_mem_cons.2 ⟨by simpa using hkey, collectMeta_allowed h⟩

/-- When `CanSetMetaKey` accepts every key, the customization holds the kernel arguments,
the extensions, and the entries, keys truncated, as `SortFunc` orders them. -/
theorem buildCustomization_of_allowed (env : SchematicEnv) (omnimeta : Machine.Omnimeta)
    (params : ConnectionParams) (req : CreateSchematicRequest) {iteration : List (Σ _ : UInt32, String)}
    (h : ∀ kv ∈ iteration, omnimeta.canSetMetaKey kv.1.toNat = true) :
    buildCustomization env omnimeta params req iteration =
      .ok { extraKernelArgs := params.args.splitOn " " ++ req.extraKernelArgs,
            officialExtensions := req.extensions,
            meta := env.sort.sortFunc (iteration.map MetaValue.ofEntry) metaCmp } := by
  simp [buildCustomization, collectMeta_of_allowed omnimeta [] h]

/-- A customization was built only from keys `CanSetMetaKey` accepts. -/
theorem buildCustomization_allowed {env : SchematicEnv} {omnimeta : Machine.Omnimeta}
    {params : ConnectionParams} {req : CreateSchematicRequest}
    {iteration : List (Σ _ : UInt32, String)} {customization : Customization}
    (h : buildCustomization env omnimeta params req iteration = .ok customization) :
    ∀ kv ∈ iteration, omnimeta.canSetMetaKey kv.1.toNat = true := by
  simp only [buildCustomization] at h
  split at h
  · cases h
  · exact collectMeta_allowed ‹_›

/-- The customization carries the request's extensions, whatever its meta values. -/
theorem buildCustomization_officialExtensions {env : SchematicEnv} {omnimeta : Machine.Omnimeta}
    {params : ConnectionParams} {req : CreateSchematicRequest}
    {iteration : List (Σ _ : UInt32, String)} {customization : Customization}
    (h : buildCustomization env omnimeta params req iteration = .ok customization) :
    customization.officialExtensions = req.extensions := by
  simp only [buildCustomization] at h
  split at h
  · cases h
  · cases h
    rfl

/-- `CreateSchematic`; `check` is the answer of `auth.CheckGRPC` for the caller. -/
def createSchematic (env : SchematicEnv) (omnimeta : Machine.Omnimeta)
    (check : Except Error CheckResult) (call : Call) (req : CreateSchematicRequest)
    (iteration : List (Σ _ : UInt32, String)) (st : State) :
    State × Except Error CreateSchematicResponse :=
  match check with
  | .error err => (st, .error err)
  | .ok _ =>
  match st.getConnectionParams env.configID with
  | none => (st, .error (.wrapped
      "failed to get Omni connection params for the extra kernel arguments"
      (.notFound (.connectionParams, env.configID))))
  | some params =>
  match buildCustomization env omnimeta params req iteration with
  | .error err => (st, .error err)
  | .ok customization =>
  let schematic : Schematic := { customization := customization }
  match env.schematicID schematic with
  | .error err => (st, .error (.wrapped "failed to generate schematic ID" err))
  | .ok schematicID =>
  let res := st.getSchematic schematicID
  match env.pxeBaseURL with
  | .error err => (st, .error err)
  | .ok pxeURL =>
  let response : CreateSchematicResponse :=
    { schematicId := schematicID, pxeUrl := env.joinPath pxeURL ["pxe", schematicID] }
  if res.isSome then (st, .ok response)
  else
  match env.schematicCreate schematic with
  | .error err => (st, .error err)
  | .ok factoryID =>
  let response := { response with schematicId := factoryID }
  match st.create call.faults (.schematic { id := schematicID, extensions := req.extensions }) with
  | .error (.conflict _) => (st, .ok response)
  | .error err => (st, .error err)
  | .ok st => (st, .ok response)

/-- What one `CreateSchematic` call does to the store: nothing, or, when the store lacked
the schematic of the ID computed from the customization, it adds that schematic with the
request's extensions and the call succeeds. -/
theorem createSchematic_store_cases {env : SchematicEnv} {omnimeta : Machine.Omnimeta}
    {check : Except Error CheckResult} {call : Call} {req : CreateSchematicRequest}
    {iteration : List (Σ _ : UInt32, String)} {st st' : State}
    {res : Except Error CreateSchematicResponse}
    (h : createSchematic env omnimeta check call req iteration st = (st', res)) :
    st' = st ∨ ∃ params customization schematicID,
      st.getConnectionParams env.configID = some params ∧
      buildCustomization env omnimeta params req iteration = .ok customization ∧
      env.schematicID ⟨customization⟩ = .ok schematicID ∧ st.getSchematic schematicID = none ∧
      st'.resources = st.resources ++ [.schematic { id := schematicID, extensions := req.extensions }] ∧
      res.isOk := by
  unfold createSchematic at h
  repeat' (first | dsimp only at h | split at h)
  all_goals try exact .inl (Prod.mk.inj h).1.symm
  obtain ⟨rfl, rfl⟩ := Prod.mk.inj h
  exact .inr ⟨_, _, _, ‹_›, ‹_›, ‹_›, Option.not_isSome_iff_eq_none.1 ‹_›,
    (State.create_eq_ok.1 ‹_›).2.2, rfl⟩

section Retry

variable {env : SchematicEnv} {omnimeta : Machine.Omnimeta} {check : Except Error CheckResult}
  {call : Call} {req : CreateSchematicRequest} {iteration : List (Σ _ : UInt32, String)}
  {st st' : State}

/-- What a successful `CreateSchematic` call read and did.  It had an authorized caller, the
connection parameters, the customization and its ID, and the PXE base URL its response's PXE
URL is built from.  Either the store had the schematic, and the call answered with the
computed ID and wrote nothing; or the image factory answered with an ID, which the call
returned, and the call stored the schematic, or its `Create` failed with a conflict that
the store did not cause. -/
theorem createSchematic_ok_cases {resp : CreateSchematicResponse}
    (h : createSchematic env omnimeta check call req iteration st = (st', .ok resp)) :
    ∃ r params customization schematicID pxeURL, check = .ok r ∧
      st.getConnectionParams env.configID = some params ∧
      buildCustomization env omnimeta params req iteration = .ok customization ∧
      env.schematicID ⟨customization⟩ = .ok schematicID ∧ env.pxeBaseURL = .ok pxeURL ∧
      resp.pxeUrl = env.joinPath pxeURL ["pxe", schematicID] ∧
      ((st.getSchematic schematicID).isSome ∧ st' = st ∧ resp.schematicId = schematicID ∨
        st.getSchematic schematicID = Option.none ∧ ∃ factoryID,
          env.schematicCreate ⟨customization⟩ = .ok factoryID ∧ resp.schematicId = factoryID ∧
          (st'.resources = st.resources ++ [.schematic ⟨schematicID, req.extensions⟩] ∨
            ∃ ptr, call.faults (.create (.schematic, schematicID)) = some (.conflict ptr) ∧
              st' = st)) := by
  unfold createSchematic at h
  repeat' (first | dsimp only at h | split at h)
  all_goals obtain ⟨rfl, h⟩ := Prod.mk.inj h
  all_goals cases h
  · exact ⟨_, _, _, _, _, rfl, ‹_›, ‹_›, ‹_›, ‹_›, rfl, .inl ⟨‹_›, rfl, rfl⟩⟩
  all_goals have hnone := Option.not_isSome_iff_eq_none.1 ‹_›
  · obtain hfault | ⟨-, hmem, -⟩ := State.create_eq_error.1 ‹st.create call.faults _ = .error _›
    · exact ⟨_, _, _, _, _, rfl, ‹_›, ‹_›, ‹_›, ‹_›, rfl, .inr ⟨hnone, _, ‹_›, rfl, .inr ⟨_, hfault, rfl⟩⟩⟩
    · exact absurd hmem (State.schematic_not_mem_of_getSchematic_eq_none hnone)
  · exact ⟨_, _, _, _, _, rfl, ‹_›, ‹_›, ‹_›, ‹_›, rfl,
      .inr ⟨hnone, _, ‹_›, rfl, .inl (State.create_eq_ok.1 ‹_›).2.2⟩⟩

/-- On a store that already has the schematic, `CreateSchematic` writes nothing and answers
with the computed ID. -/
theorem createSchematic_of_found {r : CheckResult} {params : ConnectionParams}
    {customization : Customization} {schematicID pxeURL : String} (hcheck : check = .ok r)
    (hparams : st.getConnectionParams env.configID = some params)
    (hcustomization : buildCustomization env omnimeta params req iteration = .ok customization)
    (hid : env.schematicID ⟨customization⟩ = .ok schematicID) (hurl : env.pxeBaseURL = .ok pxeURL)
    (hfound : (st.getSchematic schematicID).isSome) :
    createSchematic env omnimeta check call req iteration st =
      (st, .ok { schematicId := schematicID, pxeUrl := env.joinPath pxeURL ["pxe", schematicID] }) := by
  simp only [createSchematic, hcheck, hparams, hcustomization, hid, hurl, hfound, if_true]

/-- On a store that lacks the schematic, a `Create` that fails with a conflict makes
`CreateSchematic` write nothing and answer with the image factory's ID. -/
theorem createSchematic_of_conflict {r : CheckResult} {params : ConnectionParams}
    {customization : Customization} {schematicID pxeURL factoryID : String} {ptr : Pointer}
    (hcheck : check = .ok r) (hparams : st.getConnectionParams env.configID = some params)
    (hcustomization : buildCustomization env omnimeta params req iteration = .ok customization)
    (hid : env.schematicID ⟨customization⟩ = .ok schematicID) (hurl : env.pxeBaseURL = .ok pxeURL)
    (hnone : st.getSchematic schematicID = Option.none)
    (hfactory : env.schematicCreate ⟨customization⟩ = .ok factoryID)
    (hconflict : call.faults (.create (.schematic, schematicID)) = some (.conflict ptr)) :
    createSchematic env omnimeta check call req iteration st =
      (st, .ok { schematicId := factoryID, pxeUrl := env.joinPath pxeURL ["pxe", schematicID] }) := by
  have hcreate : st.create call.faults (.schematic ⟨schematicID, req.extensions⟩) =
      .error (.conflict ptr) := State.create_eq_error.2 (.inl hconflict)
  simp only [createSchematic, hcheck, hparams, hcustomization, hid, hurl, hnone, hfactory, hcreate,
    Option.isSome_none, Bool.false_eq_true, if_false]

end Retry

/-! ## The order of the meta values -/

section Order

variable (env : SchematicEnv) (omnimeta : Machine.Omnimeta) {req : CreateSchematicRequest}
  {iteration iteration' : List (Σ _ : UInt32, String)}

/-- Entries of the request, visited in any order, sorted by `SortFunc`: a permutation of the
entries' values, with no key twice when no two keys agree modulo 256. -/
theorem sortFunc_meta_perm (hperm : iteration.Perm req.metaValues.entries) :
    (env.sort.sortFunc (iteration.map MetaValue.ofEntry) metaCmp).Perm
      (req.metaValues.entries.map MetaValue.ofEntry) :=
  (env.sort.perm _ _).trans (hperm.map _)

/-- Two orders of the request's entries, with no two keys agreeing modulo 256, sort to the
same meta values. -/
theorem sortFunc_meta_eq (hperm : iteration.Perm req.metaValues.entries)
    (hperm' : iteration'.Perm req.metaValues.entries)
    (hkeys : (req.metaValues.entries.map fun kv => kv.1.toUInt8).Nodup) :
    env.sort.sortFunc (iteration.map MetaValue.ofEntry) metaCmp =
      env.sort.sortFunc (iteration'.map MetaValue.ofEntry) metaCmp := by
  have hkeys' : ((req.metaValues.entries.map MetaValue.ofEntry).map MetaValue.key).Nodup := by
    simpa [List.map_map, Function.comp_def, MetaValue.ofEntry] using hkeys
  exact eq_of_sorted_of_perm (env.sort.sorted _) (env.sort.sorted _)
    ((sortFunc_meta_perm env hperm).trans (sortFunc_meta_perm env hperm').symm)
    (((sortFunc_meta_perm env hperm).map _).nodup_iff.2 hkeys')

/-- Two orders of the request's entries, all allowed and no two keys agreeing modulo 256,
build the same customization. -/
theorem buildCustomization_perm (params : ConnectionParams)
    (hperm : iteration.Perm req.metaValues.entries) (hperm' : iteration'.Perm req.metaValues.entries)
    (hallowed : ∀ kv ∈ req.metaValues.entries, omnimeta.canSetMetaKey kv.1.toNat = true)
    (hkeys : (req.metaValues.entries.map fun kv => kv.1.toUInt8).Nodup) :
    buildCustomization env omnimeta params req iteration =
      buildCustomization env omnimeta params req iteration' := by
  rw [buildCustomization_of_allowed env omnimeta params req fun kv hkv => hallowed kv (hperm.subset hkv),
    buildCustomization_of_allowed env omnimeta params req fun kv hkv => hallowed kv (hperm'.subset hkv),
    sortFunc_meta_eq env hperm hperm' hkeys]

/-- Two such orders make `CreateSchematic` do the same, on every store. -/
theorem createSchematic_perm (check : Except Error CheckResult) (call : Call) (st : State)
    (hperm : iteration.Perm req.metaValues.entries) (hperm' : iteration'.Perm req.metaValues.entries)
    (hallowed : ∀ kv ∈ req.metaValues.entries, omnimeta.canSetMetaKey kv.1.toNat = true)
    (hkeys : (req.metaValues.entries.map fun kv => kv.1.toUInt8).Nodup) :
    createSchematic env omnimeta check call req iteration st =
      createSchematic env omnimeta check call req iteration' st := by
  simp only [createSchematic, buildCustomization_perm env omnimeta _ hperm hperm' hallowed hkeys]

end Order

/-- A sample environment: insertion sort, and a schematic ID that lists the meta values in
the order of the customization. -/
def SchematicEnv.sample : SchematicEnv where
  sort := SortFunc.insertion
  configID := "siderolink"
  schematicID s := .ok (String.join (s.customization.meta.map MetaValue.value))
  pxeBaseURL := .ok "pxe"
  joinPath base parts := String.intercalate "/" (base :: parts)
  schematicCreate s := .ok (String.join (s.customization.meta.map MetaValue.value))

/-- A store that holds only the Omni connection parameters. -/
def State.connected : State := ⟨[.connectionParams ⟨"siderolink", "console=tty0"⟩], by decide⟩

/-- A request with the meta keys `0x10` and `0x20`. -/
def distinctKeysRequest : CreateSchematicRequest where
  extraKernelArgs := ["console=ttyS0"]
  extensions := ["siderolabs/iscsi-tools"]
  metaValues := ⟨[⟨0x10, "a"⟩, ⟨0x20, "b"⟩], by unfold List.NodupKeys; decide⟩

/-- A request with the meta keys `0x10` and `0x110`, which agree modulo 256. -/
def collidingRequest : CreateSchematicRequest where
  extraKernelArgs := []
  extensions := []
  metaValues := ⟨[⟨0x10, "a"⟩, ⟨0x110, "b"⟩], by unfold List.NodupKeys; decide⟩

/-- The meta values of a request that `CanSetMetaKey` accepts and whose keys stay apart
after truncation to `uint8` decide `CreateSchematic`'s whole result, whatever order `range`
visits them in: the customization holds them sorted strictly by descending key. -/
theorem createSchematic_meta_order_independent (env : SchematicEnv) (omnimeta : Machine.Omnimeta)
    (req : CreateSchematicRequest) (iteration iteration' : List (Σ _ : UInt32, String))
    (hperm : iteration.Perm req.metaValues.entries) (hperm' : iteration'.Perm req.metaValues.entries)
    (hallowed : ∀ kv ∈ req.metaValues.entries, omnimeta.canSetMetaKey kv.1.toNat = true)
    (hkeys : (req.metaValues.entries.map fun kv => kv.1.toUInt8).Nodup) :
    (∀ check call st, createSchematic env omnimeta check call req iteration st =
        createSchematic env omnimeta check call req iteration' st) ∧
      ∀ params, buildCustomization env omnimeta params req iteration =
          buildCustomization env omnimeta params req iteration' ∧
        ∃ meta, buildCustomization env omnimeta params req iteration =
            .ok { extraKernelArgs := params.args.splitOn " " ++ req.extraKernelArgs,
                  officialExtensions := req.extensions, meta := meta } ∧
          meta.Pairwise (fun a b => b.key < a.key) ∧
          meta.Perm (req.metaValues.entries.map MetaValue.ofEntry) := by
  have hkeys' : ((req.metaValues.entries.map MetaValue.ofEntry).map MetaValue.key).Nodup := by
    simpa [List.map_map, Function.comp_def, MetaValue.ofEntry] using hkeys
  refine ⟨fun check call st => createSchematic_perm env omnimeta check call st hperm hperm' hallowed hkeys,
    fun params => ⟨buildCustomization_perm env omnimeta params hperm hperm' hallowed hkeys, _,
      buildCustomization_of_allowed env omnimeta params req fun kv hkv => hallowed kv (hperm.subset hkv),
      sorted_strict_of_nodup (env.sort.sorted _) ?_, sortFunc_meta_perm env hperm⟩⟩
  exact ((sortFunc_meta_perm env hperm).map _).nodup_iff.2 hkeys'

theorem createSchematic_meta_order_independent_sample :
    buildCustomization SchematicEnv.sample Machine.Omnimeta.blank ⟨"siderolink", ""⟩
        distinctKeysRequest distinctKeysRequest.metaValues.entries =
      buildCustomization SchematicEnv.sample Machine.Omnimeta.blank ⟨"siderolink", ""⟩
        distinctKeysRequest distinctKeysRequest.metaValues.entries.reverse :=
  ((createSchematic_meta_order_independent SchematicEnv.sample Machine.Omnimeta.blank
    distinctKeysRequest _ _ (List.Perm.refl _) (List.reverse_perm _) (by decide) (by decide)).2
    ⟨"siderolink", ""⟩).1

/-- Keys that agree modulo 256 make `CreateSchematic` follow the order `range` visits them
in.  `0x10` and `0x110` both truncate to the key `0x10`; on two elements `SortFunc` is
insertion sort, which keeps equal keys in the order visited, so the two orders give two
customizations, and with them two schematic IDs and two PXE URLs. -/
theorem createSchematic_colliding_keys :
    (buildCustomization SchematicEnv.sample Machine.Omnimeta.blank ⟨"siderolink", "console=tty0"⟩
        collidingRequest collidingRequest.metaValues.entries).toOption.map Customization.meta =
      some [⟨0x10, "a"⟩, ⟨0x10, "b"⟩] ∧
    (buildCustomization SchematicEnv.sample Machine.Omnimeta.blank ⟨"siderolink", "console=tty0"⟩
        collidingRequest collidingRequest.metaValues.entries.reverse).toOption.map Customization.meta =
      some [⟨0x10, "b"⟩, ⟨0x10, "a"⟩] ∧
    (createSchematic SchematicEnv.sample Machine.Omnimeta.blank (.ok ⟨"Operator"⟩) Call.admin
        collidingRequest collidingRequest.metaValues.entries State.connected).2 =
      .ok ⟨"ab", "pxe/pxe/ab"⟩ ∧
    (createSchematic SchematicEnv.sample Machine.Omnimeta.blank (.ok ⟨"Operator"⟩) Call.admin
        collidingRequest collidingRequest.metaValues.entries.reverse State.connected).2 =
      .ok ⟨"ba", "pxe/pxe/ba"⟩ :=
  ⟨by decide, by decide, rfl, rfl⟩

end Management
end Omni
