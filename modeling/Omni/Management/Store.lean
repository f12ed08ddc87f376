import Mathlib.Data.List.AList
import Mathlib.Data.List.Sort
import Mathlib.Data.String.Basic

/-!
# The COSI store behind the management server

The service-account handlers and `CreateSchematic` of `managementServer` talk to
`s.omniState`, a COSI state keyed by resource type and ID.  They read it with `Get` and label-query `List`, and write
it with `Create` and `Destroy`.  The store itself is not part of the excerpt; it is
modelled here from the way the handlers use it:

* a `State` is the list of its resources, at most one per type and ID (a field of the
  structure, so no other store can be built);
* `Create` fails with a conflict when the ID is taken and otherwise adds the resource;
* `Destroy` fails with not-found when nothing has the ID and otherwise removes it;
* either write may also fail for any other reason (`Faults`), and then changes nothing.

Reads never fail here: every handler reads before it writes, so a failed read only ends a
call before its first write.  `List` returns the resources of a type sorted by ID, as COSI
does (`State.list`); since no two share an ID, a listing is strictly ascending and is
determined by the resources it holds (`eq_of_pairwise_lt`), whatever order they were
created in.
-/

namespace Omni
namespace Management

@[simp] theorem isOk_ok {ε α : Type} (a : α) : (Except.ok a : Except ε α).isOk = true := rfl

@[simp] theorem isOk_error {ε α : Type} (e : ε) : (Except.error e : Except ε α).isOk = false := rfl

/-- The resource types the management handlers of the excerpt touch. -/
inductive Kind where
  | identity | user | publicKey | connectionParams | schematic | kubernetesUpgradeStatus
  | clusterMachineIdentity
deriving DecidableEq, Repr

/-- A resource's type and ID, the key of the store. -/
abbrev Pointer := Kind × String

/-- A Go `error` as the handlers tell them apart: a gRPC status, COSI's not-found and
conflict errors, any other error, a `*multierror.Error`, and `fmt.Errorf` wrapping an
error with `%w`. -/
inductive Error where
  | status (code : UInt32) (message : String)
  | notFound (ptr : Pointer)
  | conflict (ptr : Pointer)
  | other (message : String)
  | multi (errors : List Error)
  | wrapped (message : String) (err : Error)

/-- `codes.InvalidArgument`. -/
def codeInvalidArgument : UInt32 := 3

/-- `codes.NotFound`. -/
def codeNotFound : UInt32 := 5

/-- `codes.FailedPrecondition`. -/
def codeFailedPrecondition : UInt32 := 9

/-- `codes.PermissionDenied`. -/
def codePermissionDenied : UInt32 := 7

/-- `codes.Unauthenticated`. -/
def codeUnauthenticated : UInt32 := 16

/-- COSI `resource.Labels`. -/
abbrev Labels := AList (fun _ : String => String)

/-- `resource.LabelExists`. -/
def labelExists (key : String) (labels : Labels) : Bool := decide (key ∈ labels)

/-- `resource.LabelEqual`. -/
def labelEqual (key value : String) (labels : Labels) : Bool := labels.lookup key == some value

/-- An `authres.Identity`: its ID (the account's email), labels and `UserId`. -/
structure Identity where
  id : String
  labels : Labels
  userId : String
deriving DecidableEq

/-- An `authres.User`: its ID and role. -/
structure User where
  id : String
  role : String
deriving DecidableEq, Inhabited

/-- An `authres.PublicKey`: ID, labels and the spec fields the handlers write. -/
structure PublicKey where
  id : String
  labels : Labels
  publicKey : String
  expiration : Int
  role : String
  confirmed : Bool
  identityEmail : String
deriving DecidableEq

/-- A `siderolink.ConnectionParams`: its ID and the kernel arguments of its spec. -/
structure ConnectionParams where
  id : String
  args : String
deriving DecidableEq

/-- An `omni.Schematic`: its ID (the schematic ID) and the extensions of its spec. -/
structure SchematicResource where
  id : String
  extensions : List String
deriving DecidableEq

/-- An `omni.KubernetesUpgradeStatus`: its ID (the cluster's name), the
`LastUpgradeVersion` of its spec, and its annotations. -/
structure KubernetesUpgradeStatus where
  id : String
  lastUpgradeVersion : String
  annotations : Labels
deriving DecidableEq

/-- An `omni.ClusterMachineIdentity`: its ID, labels and the `NodeIps` of its spec. -/
structure ClusterMachineIdentity where
  id : String
  labels : Labels
  nodeIps : List String
deriving DecidableEq

/-- A resource of the store. -/
inductive Resource where
  | identity (r : Identity)
  | user (r : User)
  | publicKey (r : PublicKey)
  | connectionParams (r : ConnectionParams)
  | schematic (r : SchematicResource)
  | kubernetesUpgradeStatus (r : KubernetesUpgradeStatus)
  | clusterMachineIdentity (r : ClusterMachineIdentity)
deriving DecidableEq

namespace Resource

/-- The type and ID of a resource. -/
def pointer : Resource → Pointer
  | .identity r => (.identity, r.id)
  | .user r => (.user, r.id)
  | .publicKey r => (.publicKey, r.id)
  | .connectionParams r => (.connectionParams, r.id)
  | .schematic r => (.schematic, r.id)
  | .kubernetesUpgradeStatus r => (.kubernetesUpgradeStatus, r.id)
  | .clusterMachineIdentity r => (.clusterMachineIdentity, r.id)

/-- The type assertion of `safe.StateGet[*authres.Identity]`. -/
def identity? : Resource → Option Identity
  | .identity r => some r
  | _ => none

/-- The type assertion of `safe.StateGet[*authres.User]`. -/
def user? : Resource → Option User
  | .user r => some r
  | _ => none

/-- The type assertion of `safe.StateListAll[*authres.PublicKey]`. -/
def publicKey? : Resource → Option PublicKey
  | .publicKey r => some r
  | _ => none

/-- The type assertion of `safe.StateGet[*siderolink.ConnectionParams]`. -/
def connectionParams? : Resource → Option ConnectionParams
  | .connectionParams r => some r
  | _ => none

/-- The type assertion of `safe.StateGet[*omni.Schematic]`. -/
def schematic? : Resource → Option SchematicResource
  | .schematic r => some r
  | _ => none

/-- The type assertion of `safe.StateGet[*omnires.KubernetesUpgradeStatus]`. -/
def kubernetesUpgradeStatus? : Resource → Option KubernetesUpgradeStatus
  | .kubernetesUpgradeStatus r => some r
  | _ => none

/-- The type assertion of `safe.StateListAll[*omnires.ClusterMachineIdentity]`. -/
def clusterMachineIdentity? : Resource → Option ClusterMachineIdentity
  | .clusterMachineIdentity r => some r
  | _ => none

theorem identity?_eq_some {r : Resource} {i : Identity} : r.identity? = some i ↔ r = .identity i := by
  cases r <;> simp [identity?]

theorem user?_eq_some {r : Resource} {u : User} : r.user? = some u ↔ r = .user u := by
  cases r <;> simp [user?]

theorem publicKey?_eq_some {r : Resource} {k : PublicKey} : r.publicKey? = some k ↔ r = .publicKey k := by
  cases r <;> simp [publicKey?]

theorem schematic?_eq_some {r : Resource} {s : SchematicResource} :
    r.schematic? = some s ↔ r = .schematic s := by
  cases r <;> simp [schematic?]

theorem pointer_of_identity? {r : Resource} {i : Identity} (h : r.identity? = some i) :
    r.pointer = (.identity, i.id) := by
  rw [identity?_eq_some.1 h]
  rfl

theorem pointer_of_publicKey? {r : Resource} {k : PublicKey} (h : r.publicKey? = some k) :
    r.pointer = (.publicKey, k.id) := by
  rw [publicKey?_eq_some.1 h]
  rfl

end Resource

/-- A write a handler makes, by the pointer it writes. -/
inductive Write where
  | create (ptr : Pointer)
  | destroy (ptr : Pointer)
  | update (ptr : Pointer)

/-- The writes that fail for a reason of their own, and the error each returns. -/
abbrev Faults := Write → Option Error

/-- No write fails for a reason of its own. -/
def Faults.none : Faults := fun _ => Option.none

/-- COSI's order of resource IDs.  Go compares strings byte by byte, which on UTF-8 text is
the order of code points, `String`'s order; it is decided here on the characters, so that a
listing evaluates. -/
def idLE (a b : String) : Bool := decide (a.data ≤ b.data)

theorem idLE_iff {a b : String} : idLE a b = true ↔ a ≤ b := by
  rw [idLE, decide_eq_true_iff, String.le_iff_toList_le]
  rfl

section IDOrder

variable {α : Type} {key : α → String}

/-- Two lists strictly ascending by `key` with the same elements are the same list. -/
theorem eq_of_pairwise_lt {l₁ l₂ : List α} (h₁ : l₁.Pairwise fun a b => key a < key b)
    (h₂ : l₂.Pairwise fun a b => key a < key b) (h : ∀ x, x ∈ l₁ ↔ x ∈ l₂) : l₁ = l₂ := by
  have hnodup : ∀ {l : List α}, (l.Pairwise fun a b => key a < key b) → l.Nodup :=
    fun hl => hl.imp fun hab heq => (heq ▸ hab).false
  exact ((List.perm_ext_iff_of_nodup (hnodup h₁) (hnodup h₂)).2 h).eq_of_sorted
    (fun _ _ _ _ hab hba => absurd (hab.trans hba) (lt_irrefl _)) h₁ h₂

/-- A list sorted by ID with no ID twice is strictly ascending. -/
theorem pairwise_lt_of_sorted {l : List α} (h : l.Pairwise fun a b => idLE (key a) (key b))
    (hkeys : (l.map key).Nodup) : l.Pairwise fun a b => key a < key b :=
  (h.and (List.pairwise_map.1 hkeys)).imp fun ⟨hle, hne⟩ => lt_of_le_of_ne (idLE_iff.1 hle) hne

instance : IsTotal α fun a b => idLE (key a) (key b) :=
  ⟨fun a b => (le_total (key a) (key b)).imp idLE_iff.2 idLE_iff.2⟩

instance : IsTrans α fun a b => idLE (key a) (key b) :=
  ⟨fun _ _ _ hab hbc => idLE_iff.2 ((idLE_iff.1 hab).trans (idLE_iff.1 hbc))⟩

/-- Insertion sort by ID, of elements with distinct IDs, is strictly ascending. -/
theorem pairwise_lt_insertionSort {l : List α} (hkeys : (l.map key).Nodup) :
    (l.insertionSort fun a b => idLE (key a) (key b)).Pairwise fun a b => key a < key b :=
  pairwise_lt_of_sorted (List.sorted_insertionSort _ l)
    (((List.perm_insertionSort _ l).map key).nodup_iff.2 hkeys)

/-- Inserting by ID an element whose ID is new keeps a list strictly ascending. -/
theorem pairwise_lt_orderedInsert {l : List α} {a : α} (hl : l.Pairwise fun a b => key a < key b)
    (ha : ∀ b ∈ l, key b ≠ key a) :
    (l.orderedInsert (fun a b => idLE (key a) (key b)) a).Pairwise fun a b => key a < key b := by
  have hperm := List.perm_orderedInsert (fun a b => idLE (key a) (key b)) a l
  refine pairwise_lt_of_sorted (List.Sorted.orderedInsert a l (hl.imp fun h => idLE_iff.2 h.le))
    ((hperm.map key).nodup_iff.2 ?_)
  rw [List.map_cons, List.nodup_cons, List.mem_map]
  exact ⟨fun ⟨b, hb, he⟩ => ha b hb he, List.pairwise_map.2 (hl.imp ne_of_lt)⟩

/-- Filtering a strictly ascending list into which an element with a new ID was inserted by
ID: the element is inserted into the filtered list when the filter keeps it. -/
theorem filter_orderedInsert {l : List α} {a : α} (hl : l.Pairwise fun a b => key a < key b)
    (ha : ∀ b ∈ l, key b ≠ key a) (p : α → Bool) :
    (l.orderedInsert (fun a b => idLE (key a) (key b)) a).filter p =
      if p a then (l.filter p).orderedInsert (fun a b => idLE (key a) (key b)) a else l.filter p := by
  have hins := (pairwise_lt_orderedInsert hl ha).filter p
  split
  · refine eq_of_pairwise_lt hins (pairwise_lt_orderedInsert (hl.filter p)
      fun b hb => ha b (List.mem_of_mem_filter hb)) fun x => ?_
    simp only [List.mem_filter, List.mem_orderedInsert]
    aesop
  · refine eq_of_pairwise_lt hins (hl.filter p) fun x => ?_
    simp only [List.mem_filter, List.mem_orderedInsert]
    aesop

/-- Mapping by a function that keeps IDs commutes with inserting by ID. -/
theorem map_orderedInsert_id {β : Type} {key' : β → String} (f : α → β) {l : List α} {a : α}
    (hf : ∀ x ∈ a :: l, key' (f x) = key x) :
    (l.orderedInsert (fun a b => idLE (key a) (key b)) a).map f =
      (l.map f).orderedInsert (fun a b => idLE (key' a) (key' b)) (f a) :=
  List.map_orderedInsert _ _ f l a (fun b hb => by rw [hf b (.tail _ hb), hf a (.head _)])
    fun b hb => by rw [hf b (.tail _ hb), hf a (.head _)]

end IDOrder

/-- The store: its resources, at most one per pointer. -/
structure State where
  resources : List Resource
  nodup : (resources.map Resource.pointer).Nodup

namespace State

/-- The empty store. -/
def empty : State := ⟨[], List.nodup_nil⟩

/-- `Get`. -/
def get (st : State) (ptr : Pointer) : Option Resource :=
  st.resources.find? fun r => r.pointer == ptr

/-- `safe.StateGet[*authres.Identity]`. -/
def getIdentity (st : State) (id : String) : Option Identity :=
  (st.get (.identity, id)).bind Resource.identity?

/-- `safe.StateGet[*authres.User]`. -/
def getUser (st : State) (id : String) : Option User :=
  (st.get (.user, id)).bind Resource.user?

/-- `safe.StateGet[*siderolink.ConnectionParams]`. -/
def getConnectionParams (st : State) (id : String) : Option ConnectionParams :=
  (st.get (.connectionParams, id)).bind Resource.connectionParams?

/-- `safe.StateGet[*omni.Schematic]`. -/
def getSchematic (st : State) (id : String) : Option SchematicResource :=
  (st.get (.schematic, id)).bind Resource.schematic?

/-- `safe.StateGet[*omnires.KubernetesUpgradeStatus]`. -/
def getKubernetesUpgradeStatus (st : State) (id : String) : Option KubernetesUpgradeStatus :=
  (st.get (.kubernetesUpgradeStatus, id)).bind Resource.kubernetesUpgradeStatus?

/-- `List` of one resource type: the resources its type assertion accepts, sorted by ID. -/
def list {α : Type} (assert : Resource → Option α) (id : α → String) (st : State) : List α :=
  (st.resources.filterMap assert).insertionSort fun a b => idLE (id a) (id b)

/-- The identities of the store, in ID order. -/
def identities (st : State) : List Identity := st.list Resource.identity? Identity.id

/-- The users of the store, in ID order. -/
def users (st : State) : List User := st.list Resource.user? User.id

/-- The public keys of the store, in ID order. -/
def publicKeys (st : State) : List PublicKey := st.list Resource.publicKey? PublicKey.id

/-- The schematics of the store, in ID order. -/
def schematics (st : State) : List SchematicResource :=
  st.list Resource.schematic? SchematicResource.id

/-- The cluster machine identities of the store, in ID order. -/
def clusterMachineIdentities (st : State) : List ClusterMachineIdentity :=
  st.list Resource.clusterMachineIdentity? ClusterMachineIdentity.id

/-- `Create`. -/
def create (st : State) (faults : Faults) (r : Resource) : Except Error State :=
  match faults (.create r.pointer) with
  | some err => .error err
  | Option.none =>
    if h : r.pointer ∈ st.resources.map Resource.pointer then .error (.conflict r.pointer)
    else .ok ⟨st.resources ++ [r], by simpa [List.nodup_append, st.nodup] using h⟩

/-- `Destroy`. -/
def destroy (st : State) (faults : Faults) (ptr : Pointer) : Except Error State :=
  match faults (.destroy ptr) with
  | some err => .error err
  | Option.none =>
    if ptr ∈ st.resources.map Resource.pointer then
      .ok ⟨st.resources.filter (·.pointer != ptr), ((List.filter_sublist _).map _).nodup st.nodup⟩
    else .error (.notFound ptr)

/-- `Update` of the resource at `ptr` with a mutator that keeps every resource's type and
ID. -/
def update (st : State) (faults : Faults) (ptr : Pointer) (f : Resource → Resource)
    (hf : ∀ r, (f r).pointer = r.pointer) : Except Error State :=
  match faults (.update ptr) with
  | some err => .error err
  | Option.none =>
    if ptr ∈ st.resources.map Resource.pointer then
      .ok ⟨st.resources.map fun r => if r.pointer = ptr then f r else r, by
        have hp : (fun r => (if r.pointer = ptr then f r else r).pointer) = Resource.pointer :=
          funext fun r => by split <;> simp [hf]
        rw [List.map_map, Function.comp_def, hp]
        exact st.nodup⟩
    else .error (.notFound ptr)

@[ext] theorem ext {st st' : State} (h : st.resources = st'.resources) : st = st' := by
  cases st
  cases st'
  cases h
  rfl

/-- A successful `Create` appends the resource, whose pointer was free. -/
theorem create_eq_ok {st st' : State} {faults : Faults} {r : Resource} :
    st.create faults r = .ok st' ↔
      faults (.create r.pointer) = Option.none ∧ r.pointer ∉ st.resources.map Resource.pointer ∧
        st'.resources = st.resources ++ [r] := by
  unfold create
  rcases hf : faults (.create r.pointer) with _ | err
  · by_cases h : r.pointer ∈ st.resources.map Resource.pointer
    · simp [h]
    · simp only [h, dite_false, Except.ok.injEq, true_and, not_false_eq_true]
      exact ⟨fun h => h ▸ rfl, fun h => State.ext h.symm⟩
  · simp

/-- A successful `Destroy` removes the resource at the pointer, which was there. -/
theorem destroy_eq_ok {st st' : State} {faults : Faults} {ptr : Pointer} :
    st.destroy faults ptr = .ok st' ↔
      faults (.destroy ptr) = Option.none ∧ ptr ∈ st.resources.map Resource.pointer ∧
        st'.resources = st.resources.filter (·.pointer != ptr) := by
  unfold destroy
  rcases hf : faults (.destroy ptr) with _ | err
  · by_cases h : ptr ∈ st.resources.map Resource.pointer
    · simp only [h, ite_true, Except.ok.injEq, true_and]
      exact ⟨fun h => h ▸ rfl, fun h => State.ext h.symm⟩
    · simp [h]
  · simp

/-- A successful `Update` applies the mutator to the resource at the pointer, which was
there. -/
theorem update_eq_ok {st st' : State} {faults : Faults} {ptr : Pointer} {f : Resource → Resource}
    {hf : ∀ r, (f r).pointer = r.pointer} :
    st.update faults ptr f hf = .ok st' ↔
      faults (.update ptr) = Option.none ∧ ptr ∈ st.resources.map Resource.pointer ∧
        st'.resources = st.resources.map fun r => if r.pointer = ptr then f r else r := by
  unfold update
  rcases hfault : faults (.update ptr) with _ | err
  · by_cases h : ptr ∈ st.resources.map Resource.pointer
    · simp only [h, ite_true, Except.ok.injEq, true_and]
      exact ⟨fun h => h ▸ rfl, fun h => State.ext h.symm⟩
    · simp [h]
  · simp

/-- `Get` finds the one resource at the pointer. -/
theorem get_eq_some {st : State} {ptr : Pointer} {r : Resource} :
    st.get ptr = some r ↔ r ∈ st.resources ∧ r.pointer = ptr := by
  refine ⟨fun h => ⟨List.mem_of_find?_eq_some h, by simpa using List.find?_some h⟩, ?_⟩
  rintro ⟨hr, rfl⟩
  have hsome : (st.get r.pointer).isSome := List.find?_isSome.2 ⟨r, hr, beq_self_eq_true _⟩
  obtain ⟨r', hr'⟩ := Option.isSome_iff_exists.1 hsome
  rw [hr', List.inj_on_of_nodup_map st.nodup (List.mem_of_find?_eq_some hr') hr
    (by simpa using List.find?_some hr')]

/-- The store's lookups agree when the resources under one pointer do. -/
theorem get_eq_of_frame {st st' : State} {ptr : Pointer}
    (h : ∀ x : Resource, x.pointer = ptr → (x ∈ st'.resources ↔ x ∈ st.resources)) :
    st'.get ptr = st.get ptr := by
  cases hget : st.get ptr with
  | some r =>
    obtain ⟨hr, hptr⟩ := get_eq_some.1 hget
    exact get_eq_some.2 ⟨(h r hptr).2 hr, hptr⟩
  | none =>
    cases hget' : st'.get ptr with
    | none => rfl
    | some r =>
      obtain ⟨hr, hptr⟩ := get_eq_some.1 hget'
      rw [get_eq_some.2 ⟨(h r hptr).1 hr, hptr⟩] at hget
      cases hget

/-- The resources a type assertion accepts are those of its constructor. -/
theorem mem_filterMap_assert {α : Type} {assert : Resource → Option α} {c : α → Resource}
    (h : ∀ r a, assert r = some a ↔ r = c a) (l : List Resource) (a : α) :
    a ∈ l.filterMap assert ↔ c a ∈ l := by
  simp [h]

section Listing

variable {α : Type} {assert : Resource → Option α} {c : α → Resource} {kind : Kind}
  {id : α → String}

/-- A listing holds what the type assertion accepts, in another order. -/
theorem list_perm (assert : Resource → Option α) (id : α → String) (st : State) :
    (st.list assert id).Perm (st.resources.filterMap assert) :=
  List.perm_insertionSort _ _

theorem mem_list (hassert : ∀ r a, assert r = some a ↔ r = c a) {st : State} {a : α} :
    a ∈ st.list assert id ↔ c a ∈ st.resources :=
  (list_perm assert id st).mem_iff.trans (mem_filterMap_assert hassert _ a)

/-- The pointers of the resources one type assertion accepts, in store order. -/
theorem sublist_filterMap_pointer (hptr : ∀ r a, assert r = some a → r.pointer = (kind, id a))
    (l : List Resource) :
    ((l.filterMap assert).map fun a => (kind, id a)).Sublist (l.map Resource.pointer) := by
  induction l with
  | nil => exact .slnil
  | cons r l ih =>
    cases h : assert r with
    | none =>
      rw [List.filterMap_cons_none h]
      exact ih.cons _
    | some a =>
      rw [List.filterMap_cons_some h, List.map_cons, List.map_cons, ← hptr r a h]
      exact ih.cons₂ _

/-- A listing is strictly ascending by ID: the store has one resource per type and ID. -/
theorem pairwise_lt_list (hptr : ∀ r a, assert r = some a → r.pointer = (kind, id a)) (st : State) :
    (st.list assert id).Pairwise fun a b => id a < id b := by
  refine pairwise_lt_insertionSort (List.Nodup.of_map (Prod.mk kind) ?_)
  rw [List.map_map]
  exact (sublist_filterMap_pointer hptr st.resources).nodup st.nodup

/-- Two stores with the same resources of a type list them alike. -/
theorem list_congr {st st' : State} (h : st'.resources.filterMap assert = st.resources.filterMap assert) :
    st'.list assert id = st.list assert id := by
  rw [State.list, h, State.list]

/-- Filtering the resources filters the listing. -/
theorem list_of_filter (hassert : ∀ r a, assert r = some a ↔ r = c a)
    (hptr : ∀ r a, assert r = some a → r.pointer = (kind, id a)) {st st' : State}
    {p : Resource → Bool} (h : st'.resources = st.resources.filter p) :
    st'.list assert id = (st.list assert id).filter fun a => p (c a) :=
  eq_of_pairwise_lt (pairwise_lt_list hptr st') ((pairwise_lt_list hptr st).filter _) fun a => by
    simp [mem_list hassert, h]

/-- Appending resources of other types keeps the listing. -/
theorem list_of_append_none {st st' : State} {added : List Resource}
    (h : st'.resources = st.resources ++ added) (hadded : ∀ r ∈ added, assert r = none) :
    st'.list assert id = st.list assert id :=
  list_congr (by rw [h, List.filterMap_append, List.filterMap_eq_nil_iff.2 hadded, List.append_nil])

/-- A resource appended to the store has an ID no resource of its type had. -/
theorem id_ne_of_append (hassert : ∀ r a, assert r = some a ↔ r = c a)
    (hptr : ∀ r a, assert r = some a → r.pointer = (kind, id a)) {st st' : State}
    {added : List Resource} (h : st'.resources = st.resources ++ added) {a : α} (ha : c a ∈ added) :
    ∀ b ∈ st.list assert id, id b ≠ id a := fun b hb he => by
  have hnodup := st'.nodup
  rw [h, List.map_append, List.nodup_append] at hnodup
  refine hnodup.2.2 (List.mem_map.2 ⟨c b, (mem_list hassert).1 hb, rfl⟩) (List.mem_map.2 ⟨c a, ha, ?_⟩)
  rw [hptr _ b ((hassert _ b).2 rfl), hptr _ a ((hassert _ a).2 rfl), he]

/-- Appending resources that hold one of the type inserts it into the listing by ID. -/
theorem list_of_append (hassert : ∀ r a, assert r = some a ↔ r = c a)
    (hptr : ∀ r a, assert r = some a → r.pointer = (kind, id a)) {st st' : State}
    {added : List Resource} {a : α} (h : st'.resources = st.resources ++ added)
    (hadded : added.filterMap assert = [a]) :
    st'.list assert id = (st.list assert id).orderedInsert (fun a b => idLE (id a) (id b)) a := by
  have hmem : ∀ b, c b ∈ added ↔ b = a := fun b => by
    rw [← mem_filterMap_assert hassert, hadded, List.mem_singleton]
  refine eq_of_pairwise_lt (pairwise_lt_list hptr st') (pairwise_lt_orderedInsert
    (pairwise_lt_list hptr st) (id_ne_of_append hassert hptr h ((hmem a).2 rfl))) fun b => ?_
  rw [List.mem_orderedInsert, mem_list hassert, mem_list hassert, h, List.mem_append, hmem, or_comm]

/-- A filtered listing, after resources that hold one of the type are appended: it gains
that one, at its place by ID, when the filter keeps it. -/
theorem filter_list_of_append_one (hassert : ∀ r a, assert r = some a ↔ r = c a)
    (hptr : ∀ r a, assert r = some a → r.pointer = (kind, id a)) {st st' : State}
    {added : List Resource} {a : α} (h : st'.resources = st.resources ++ added)
    (hadded : added.filterMap assert = [a]) (p : α → Bool) :
    (st'.list assert id).filter p =
      if p a then ((st.list assert id).filter p).orderedInsert (fun a b => idLE (id a) (id b)) a
      else (st.list assert id).filter p := by
  rw [list_of_append hassert hptr h hadded]
  exact filter_orderedInsert (pairwise_lt_list hptr st) (id_ne_of_append hassert hptr h
    ((mem_filterMap_assert hassert added a).1 (hadded ▸ List.mem_singleton_self a))) p

/-- Appending resources the filter rejects keeps the filtered listing. -/
theorem filter_list_of_append (hassert : ∀ r a, assert r = some a ↔ r = c a)
    (hptr : ∀ r a, assert r = some a → r.pointer = (kind, id a)) {st st' : State}
    {added : List Resource} (h : st'.resources = st.resources ++ added) {p : α → Bool}
    (hp : ∀ a, c a ∈ added → p a = false) :
    (st'.list assert id).filter p = (st.list assert id).filter p := by
  refine eq_of_pairwise_lt ((pairwise_lt_list hptr st').filter p) ((pairwise_lt_list hptr st).filter p)
    fun a => ?_
  simp only [List.mem_filter, mem_list hassert, h, List.mem_append]
  exact ⟨fun ⟨hx, hpa⟩ => ⟨hx.resolve_right fun hx => by simp [hp a hx] at hpa, hpa⟩,
    fun ⟨hx, hpa⟩ => ⟨.inl hx, hpa⟩⟩

end Listing

@[simp] theorem mem_identities {st : State} {i : Identity} :
    i ∈ st.identities ↔ Resource.identity i ∈ st.resources :=
  mem_list fun _ _ => Resource.identity?_eq_some

@[simp] theorem mem_users {st : State} {u : User} : u ∈ st.users ↔ Resource.user u ∈ st.resources :=
  mem_list fun _ _ => Resource.user?_eq_some

@[simp] theorem mem_publicKeys {st : State} {k : PublicKey} :
    k ∈ st.publicKeys ↔ Resource.publicKey k ∈ st.resources :=
  mem_list fun _ _ => Resource.publicKey?_eq_some

@[simp] theorem mem_schematics {st : State} {s : SchematicResource} :
    s ∈ st.schematics ↔ Resource.schematic s ∈ st.resources :=
  mem_list fun _ _ => Resource.schematic?_eq_some

theorem pairwise_lt_identities (st : State) : st.identities.Pairwise fun a b => a.id < b.id :=
  pairwise_lt_list (fun _ _ => Resource.pointer_of_identity?) st

theorem pairwise_lt_publicKeys (st : State) : st.publicKeys.Pairwise fun a b => a.id < b.id :=
  pairwise_lt_list (fun _ _ => Resource.pointer_of_publicKey?) st

/-- After a successful `Create`, the store holds what it held and the new resource. -/
theorem mem_of_create_ok {st st' : State} {faults : Faults} {r : Resource}
    (h : st.create faults r = .ok st') (x : Resource) :
    x ∈ st'.resources ↔ x ∈ st.resources ∨ x = r := by
  simp [(create_eq_ok.1 h).2.2]

/-- After a successful `Destroy`, the store holds what it held, except at the pointer. -/
theorem mem_of_destroy_ok {st st' : State} {faults : Faults} {ptr : Pointer}
    (h : st.destroy faults ptr = .ok st') (x : Resource) :
    x ∈ st'.resources ↔ x ∈ st.resources ∧ x.pointer ≠ ptr := by
  simp [(destroy_eq_ok.1 h).2.2]

/-- Two resources of the store at the same pointer are the same resource. -/
theorem eq_of_pointer_eq {st : State} {x y : Resource} (hx : x ∈ st.resources)
    (hy : y ∈ st.resources) (h : x.pointer = y.pointer) : x = y :=
  List.inj_on_of_nodup_map st.nodup hx hy h

/-- A typed `Get` finds the resource of its type with that ID. -/
theorem get_bind_eq_some {α : Type} {assert : Resource → Option α} {c : α → Resource} {kind : Kind}
    {idOf : α → String} (hassert : ∀ r a, assert r = some a ↔ r = c a)
    (hptr : ∀ a, (c a).pointer = (kind, idOf a)) {st : State} {id : String} {a : α} :
    (st.get (kind, id)).bind assert = some a ↔ c a ∈ st.resources ∧ idOf a = id := by
  simp only [Option.bind_eq_some, get_eq_some, hassert]
  constructor
  · rintro ⟨r, ⟨hr, hp⟩, rfl⟩
    exact ⟨hr, by simpa [hptr] using hp⟩
  · rintro ⟨hr, rfl⟩
    exact ⟨c a, ⟨hr, hptr a⟩, rfl⟩

/-- `safe.StateGet[*authres.Identity]` finds the identity with that ID. -/
theorem getIdentity_eq_some {st : State} {id : String} {i : Identity} :
    st.getIdentity id = some i ↔ Resource.identity i ∈ st.resources ∧ i.id = id :=
  @get_bind_eq_some _ Resource.identity? Resource.identity .identity Identity.id
    (fun r _ => by cases r <;> simp [Resource.identity?]) (fun _ => rfl) st id i

/-- `safe.StateGet[*authres.User]` finds the user with that ID. -/
theorem getUser_eq_some {st : State} {id : String} {u : User} :
    st.getUser id = some u ↔ Resource.user u ∈ st.resources ∧ u.id = id :=
  @get_bind_eq_some _ Resource.user? Resource.user .user User.id
    (fun r _ => by cases r <;> simp [Resource.user?]) (fun _ => rfl) st id u

/-- `safe.StateGet[*omni.Schematic]` finds the schematic with that ID. -/
theorem getSchematic_eq_some {st : State} {id : String} {s : SchematicResource} :
    st.getSchematic id = some s ↔ Resource.schematic s ∈ st.resources ∧ s.id = id :=
  @get_bind_eq_some _ Resource.schematic? Resource.schematic .schematic SchematicResource.id
    (fun r _ => by cases r <;> simp [Resource.schematic?]) (fun _ => rfl) st id s

/-- Where `safe.StateGet[*omni.Schematic]` finds nothing, the store has nothing under that
schematic ID. -/
theorem schematic_not_mem_of_getSchematic_eq_none {st : State} {id : String}
    (h : st.getSchematic id = Option.none) : (Kind.schematic, id) ∉ st.resources.map Resource.pointer := by
  intro hmem
  obtain ⟨x, hx, hp⟩ := List.mem_map.1 hmem
  cases x <;> simp only [Resource.pointer, Prod.mk.injEq, reduceCtorEq, false_and] at hp
  rw [getSchematic_eq_some.2 ⟨hx, hp.2⟩] at h
  cases h

/-- A failed `Create`: the fault of its write, or a conflict when the pointer is taken. -/
theorem create_eq_error {st : State} {faults : Faults} {r : Resource} {e : Error} :
    st.create faults r = .error e ↔ faults (.create r.pointer) = some e ∨
      faults (.create r.pointer) = Option.none ∧ r.pointer ∈ st.resources.map Resource.pointer ∧
        e = .conflict r.pointer := by
  unfold create
  rcases faults (.create r.pointer) with _ | err
  · by_cases h : r.pointer ∈ st.resources.map Resource.pointer
    · simp [h, eq_comm]
    · simp [h]
  · simp

end State

end Management
end Omni
