import StorageController.Proofs.Cluster.SoundStore
import StorageController.Proofs.Pass.LostUpdate
import StorageController.Proofs.Pass.Statuses
import StorageController.Proofs.StatefulSet.Ownership

namespace StorageController

open Json Cluster

namespace Json

theorem eraseField_eraseField (key : String) (fields : Fields) :
    eraseField key (eraseField key fields) = eraseField key fields := by
  simp [eraseField]

theorem eraseField_comm (key k : String) (fields : Fields) :
    eraseField key (eraseField k fields) = eraseField k (eraseField key fields) := by
  simp only [eraseField, List.filter_filter, Bool.and_comm]

theorem eraseField_setField (key : String) (value : Json) (fields : Fields) :
    eraseField key (setField key value fields) = eraseField key fields := by
  induction fields with
  | nil => simp [setField, eraseField]
  | cons field rest ih => grind [setField, eraseField]

theorem eraseField_setField_of_ne {key k : String} (h : k ≠ key) (value : Json) (fields : Fields) :
    eraseField key (setField k value fields) = setField k value (eraseField key fields) := by
  induction fields with
  | nil => simp [setField, eraseField, h]
  | cons field rest ih => grind [setField, eraseField]

/-- What a patch says of a member that is taken out makes no difference to the others. -/
theorem eraseField_mergeFields (key : String) (target patch : Fields) :
    eraseField key (mergeFields target patch) =
      mergeFields (eraseField key target) (eraseField key patch) := by
  induction patch generalizing target with
  | nil => simp [mergeFields, eraseField]
  | cons field rest ih =>
    obtain ⟨k, value⟩ := field
    by_cases eq : k = key
    · subst eq
      have dropped : eraseField k ((k, value) :: rest) = eraseField k rest := by simp [eraseField]
      rw [mergeFields, dropped]
      split
      · rw [ih, eraseField_eraseField]
      · rw [ih, eraseField_setField]
    · have kept : eraseField key ((k, value) :: rest) = (k, value) :: eraseField key rest := by
        simp [eraseField, eq]
      rw [mergeFields, kept, mergeFields]
      split
      · rw [ih, eraseField_comm]
      · rw [ih, eraseField_setField_of_ne eq, lookup_eraseField, if_neg eq]

theorem within_setField (key k : String) (change : Json → Json) (value : Json) (fields : Fields) :
    within key change (setField k value fields) =
      setField k (if k = key then change value else value) (within key change fields) := by
  induction fields with
  | nil => rfl
  | cons field rest ih => grind [setField, within]

theorem within_eraseField (key k : String) (change : Json → Json) (fields : Fields) :
    within key change (eraseField k fields) = eraseField k (within key change fields) := by
  induction fields with
  | nil => rfl
  | cons field rest ih => grind [eraseField, within]

theorem within_comm {key k : String} (h : k ≠ key) (change change' : Json → Json)
    (fields : Fields) :
    within key change (within k change' fields) = within k change' (within key change fields) := by
  induction fields with
  | nil => rfl
  | cons field rest ih => grind [within]

def without (key : String) : Json → Json :=
  inside (eraseField key)

theorem members_without (key : String) (j : Json) :
    (j.without key).members = eraseField key j.members := by
  cases j <;> rfl

theorem without_merge (key : String) (target patch : Json) :
    (target.merge patch).without key = (target.without key).merge (patch.without key) := by
  cases patch with
  | obj fields =>
    change Json.obj (eraseField key (mergeFields target.members fields)) =
      .obj (mergeFields (target.without key).members (eraseField key fields))
    rw [eraseField_mergeFields, members_without]
  | _ => rfl

theorem without_eq_null {key : String} {j : Json} : j.without key = .null ↔ j = .null := by
  cases j <;> simp [without, inside]

/-- Taking a member out of one member of the target and of the patch goes before merging as well as
after it. -/
theorem within_mergeFields (outer key : String) (target patch : Fields) :
    within outer (without key) (mergeFields target patch) =
      mergeFields (within outer (without key) target) (within outer (without key) patch) := by
  induction patch generalizing target with
  | nil => rfl
  | cons field rest ih =>
    obtain ⟨k, value⟩ := field
    have head : within outer (without key) ((k, value) :: rest) =
        (k, if k = outer then value.without key else value) ::
          within outer (without key) rest := rfl
    have null : (if k = outer then value.without key else value) = .null ↔ value = .null := by
      split
      · exact without_eq_null
      · exact Iff.rfl
    rw [mergeFields, head, mergeFields]
    simp only [null]
    split
    · rw [ih, within_eraseField]
    · rw [ih, within_setField, lookup_within]
      congr 2
      split
      · rw [without_merge]
        cases target.lookup k <;> rfl
      · simp

/-- An object but for the version that the server gave it. -/
def unversioned : Json → Json :=
  inside (within "metadata" (without "resourceVersion"))

theorem members_unversioned (j : Json) :
    j.unversioned.members = within "metadata" (without "resourceVersion") j.members := by
  cases j <;> rfl

theorem get?_unversioned (j : Json) (key : String) :
    j.unversioned.get? key =
      (j.get? key).map fun value =>
        if key = "metadata" then value.without "resourceVersion" else value := by
  cases j with
  | obj fields => exact lookup_within _ _ _ _
  | _ => rfl

theorem unversioned_merge (target patch : Json) :
    (target.merge patch).unversioned = target.unversioned.merge patch.unversioned := by
  cases patch with
  | obj fields =>
    change Json.obj (within _ _ (mergeFields target.members fields)) =
      .obj (mergeFields target.unversioned.members (within _ _ fields))
    rw [within_mergeFields, members_unversioned]
  | _ => rfl

theorem setPath_pair (outer key : String) (j value : Json) :
    j.setPath [outer, key] value =
      .obj (setField outer (.obj (setField key value ((j.get? outer).getD (.obj [])).members))
        j.members) := rfl

theorem members_metadata_unversioned (j : Json) :
    ((j.unversioned.get? "metadata").getD (.obj [])).members =
      eraseField "resourceVersion" ((j.get? "metadata").getD (.obj [])).members := by
  rw [get?_unversioned]
  cases j.get? "metadata" with
  | none => rfl
  | some metadata => exact members_without _ metadata

theorem unversioned_setPath_pair (key : String) (j value : Json) :
    (j.setPath ["metadata", key] value).unversioned =
      .obj (setField "metadata" (.obj (eraseField "resourceVersion"
        (setField key value ((j.get? "metadata").getD (.obj [])).members)))
        j.unversioned.members) := by
  rw [setPath_pair, members_unversioned]
  change Json.obj (within _ _ (setField _ _ _)) = _
  rw [within_setField, if_pos rfl]
  rfl

theorem unversioned_setPath (j version : Json) :
    (j.setPath ["metadata", "resourceVersion"] version).unversioned =
      .obj (setField "metadata"
        (.obj ((j.unversioned.get? "metadata").getD (.obj [])).members) j.unversioned.members) := by
  rw [unversioned_setPath_pair, eraseField_setField, members_metadata_unversioned]

theorem unversioned_setPath_metadata {key : String} (h : key ≠ "resourceVersion")
    (j value : Json) :
    (j.setPath ["metadata", key] value).unversioned =
      j.unversioned.setPath ["metadata", key] value := by
  rw [unversioned_setPath_pair, eraseField_setField_of_ne h, setPath_pair,
    members_metadata_unversioned]

theorem unversioned_fillSet (j : Json) : (fillSet j).unversioned = fillSet j.unversioned := by
  cases j with
  | obj fields => exact congrArg Json.obj (within_comm (by decide) _ _ _)
  | _ => rfl

theorem get?_without {key k : String} (h : k ≠ key) (j : Json) :
    (j.without key).get? k = j.get? k := by
  cases j with
  | obj fields => exact (lookup_eraseField _ _ _).trans (if_neg h)
  | _ => rfl

theorem diffFields_without {key : String} {desired : Fields}
    (h : ∀ field ∈ desired, field.1 ≠ key) (j : Json) :
    diffFields (j.without key) desired = diffFields j desired := by
  refine diffFields_congr fun field mem => ?_
  rw [get?_without (h field mem)]

theorem diffMember_without {key : String} {desired : Fields}
    (h : ∀ field ∈ desired, field.1 ≠ key) (current : Option Json) :
    diffMember (current.map (without key)) (.obj desired) = diffMember current (.obj desired) := by
  cases current with
  | none => rfl
  | some j =>
    cases j with
    | obj fields =>
      have same := diffFields_without h (.obj fields)
      change diffMember (some (.obj _)) _ = _
      rw [diffMember_obj_obj, diffMember_obj_obj]
      change diffFields (.obj _) desired = _ at same
      rw [same]
    | _ => rfl

theorem get?_unversioned_of_ne {key : String} (h : key ≠ "metadata") (j : Json) :
    j.unversioned.get? key = j.get? key := by
  rw [get?_unversioned]
  simp [h]

theorem unversioned_setPath_of_ne {outer : String} (h : outer ≠ "metadata") (keys : List String)
    (j value : Json) :
    (j.setPath (outer :: keys) value).unversioned = j.unversioned.setPath (outer :: keys) value := by
  rw [setPath, setPath, get?_unversioned_of_ne h, members_unversioned]
  change Json.obj (within _ _ (setField _ _ _)) = _
  rw [within_setField, if_neg h]

theorem path?_unversioned {outer : String} (h : outer ≠ "metadata") (keys : List String)
    (j : Json) : j.unversioned.path? (outer :: keys) = j.path? (outer :: keys) := by
  rw [path?, path?, get?_unversioned_of_ne h]

theorem path?_metadata_unversioned {key : String} (h : key ≠ "resourceVersion") (j : Json) :
    j.unversioned.path? ["metadata", key] = j.path? ["metadata", key] := by
  rw [Pass.path?_pair, Pass.path?_pair, get?_unversioned]
  cases j.get? "metadata" with
  | none => rfl
  | some metadata => exact get?_without h metadata

end Json

/-- The managed fields are compared without regard to the version. -/
theorem patch?_unversioned (t : Topology) (live : Json) :
    Managed.patch? t.manifest live.unversioned = Managed.patch? t.manifest live := by
  have unnamed : ∀ field ∈ [("labels", Json.obj (objectLabels t.name))],
      field.1 ≠ "resourceVersion" := by simp
  have labels := diffMember_without unnamed (live.get? "metadata")
  have metadata : live.unversioned.get? "metadata" =
      (live.get? "metadata").map (without "resourceVersion") := get?_unversioned live "metadata"
  have spec : ∀ value, diffFields live.unversioned [("spec", value)] =
      diffFields live [("spec", value)] := by
    intro value
    rw [diffFields_cons, diffFields_cons, get?_unversioned_of_ne (by decide), diffFields, diffFields]
  have same : diffFields live.unversioned t.managedFields = diffFields live t.managedFields := by
    rw [Topology.managedFields, diffFields_cons live.unversioned, diffFields_cons live, metadata,
      labels, spec]
  rw [Managed.patch?, Managed.patch?, members_view, same]

theorem immutableDrift_unversioned (manifest live : Json) :
    Managed.immutableDrift manifest live.unversioned = Managed.immutableDrift manifest live := by
  have same : ∀ path ∈ Managed.immutablePaths,
      Managed.drifts manifest live.unversioned path = Managed.drifts manifest live path := by
    intro path mem
    simp only [Managed.immutablePaths, List.mem_cons, List.not_mem_nil, or_false] at mem
    rcases mem with rfl | rfl | rfl <;>
      rw [Managed.drifts, Managed.drifts, path?_unversioned (by decide)]
  rw [Managed.immutableDrift, Managed.immutableDrift, List.filter_congr same]

theorem readyCount_unversioned (live : Json) :
    Pass.readyCount live.unversioned = Pass.readyCount live := by
  cases live with
  | obj fields =>
    cases fields with
    | nil => rfl
    | cons field rest =>
      have status : (Json.obj (field :: rest)).unversioned.get? "status" = _ :=
        get?_unversioned_of_ne (by decide) _
      exact congrArg (fun value => Except.ok ((value.getD .null).orElse (.obj [])) >>=
        (·.lookupOr "readyReplicas" (.int 0))) status
  | _ => rfl

theorem versionOf_eq {live version : Json} (h : Pass.versionOf live = .ok version) :
    version = versionIn live := by
  obtain ⟨metadata, looked, h⟩ := ok_of_bind h
  cases metadata with
  | obj inside =>
    rw [versionIn, path?_of_metadataIn looked]
    exact (Except.ok.inj h).symm
  | _ => cases h

theorem versionOf_unversioned (live : Json) :
    (Pass.versionOf live.unversioned).map (fun _ => ()) = (Pass.versionOf live).map fun _ => () := by
  cases live with
  | obj fields =>
    have kept : ∀ metadata : Fields, (Json.obj metadata).orElse (.obj []) = .obj metadata := by
      intro metadata
      cases metadata <;> rfl
    have eval : ∀ fields, Pass.versionOf (.obj fields) =
        (((fields.lookup "metadata").getD .null).orElse (.obj [])).lookupD "resourceVersion" .null :=
      fun _ => rfl
    have inside := lookup_within "metadata" "metadata" (without "resourceVersion") fields
    change (Pass.versionOf (.obj (within _ _ fields))).map _ = _
    rw [eval, eval, inside]
    cases fields.lookup "metadata" with
    | none => rfl
    | some metadata =>
      cases metadata with
      | obj metadata =>
        change Except.map _ (((Json.obj (eraseField _ metadata)).orElse _).lookupD _ _) =
          Except.map _ (((Json.obj metadata).orElse _).lookupD _ _)
        rw [kept, kept]
        rfl
      | _ => rfl
  | _ => rfl

/-- Two results with values that are related, or with the same fault. -/
inductive Agree {α : Type} (R : α → α → Prop) : Except Fault α → Except Fault α → Prop
  | ok {a b : α} (related : R a b) : Agree R (.ok a) (.ok b)
  | error (fault : Fault) : Agree R (.error fault) (.error fault)

/-- Two objects that differ in their versions at most. Either both have one or neither. -/
structure Renumbered (a b : Json) : Prop where
  same : a.unversioned = b.unversioned
  numbered : (versionIn a).truthy = (versionIn b).truthy

namespace Renumbered

variable {a b : Json}

theorem refl (a : Json) : Renumbered a a :=
  ⟨rfl, rfl⟩

theorem get? (h : Renumbered a b) {key : String} (other : key ≠ "metadata") :
    a.get? key = b.get? key := by
  rw [← get?_unversioned_of_ne other, h.same, get?_unversioned_of_ne other]

theorem path?_metadata (h : Renumbered a b) {key : String} (other : key ≠ "resourceVersion") :
    a.path? ["metadata", key] = b.path? ["metadata", key] := by
  rw [← path?_metadata_unversioned other, h.same, path?_metadata_unversioned other]

theorem patch? (h : Renumbered a b) (t : Topology) :
    Managed.patch? t.manifest a = Managed.patch? t.manifest b := by
  rw [← patch?_unversioned, h.same, patch?_unversioned]

theorem immutableDrift (h : Renumbered a b) (manifest : Json) :
    Managed.immutableDrift manifest a = Managed.immutableDrift manifest b := by
  rw [← immutableDrift_unversioned, h.same, immutableDrift_unversioned]

theorem readyCount (h : Renumbered a b) : Pass.readyCount a = Pass.readyCount b := by
  rw [← readyCount_unversioned, h.same, readyCount_unversioned]

theorem versionOf (h : Renumbered a b) :
    Agree (fun v w => v = versionIn a ∧ w = versionIn b) (Pass.versionOf a) (Pass.versionOf b) := by
  have same := versionOf_unversioned a
  rw [h.same, versionOf_unversioned b] at same
  cases read : Pass.versionOf a with
  | ok v =>
    cases read' : Pass.versionOf b with
    | ok w => exact .ok ⟨versionOf_eq read, versionOf_eq read'⟩
    | error fault =>
      rw [read, read'] at same
      cases same
  | error fault =>
    cases read' : Pass.versionOf b with
    | ok w =>
      rw [read, read'] at same
      cases same
    | error fault' =>
      rw [read, read'] at same
      cases same
      exact .error fault

theorem identityOf (h : Renumbered a b) : Store.identityOf a = Store.identityOf b := by
  rw [Store.identityOf, Store.identityOf, h.path?_metadata (by decide), h.path?_metadata (by decide)]

theorem stamped {a b : Json} (same : a.unversioned = b.unversioned) (m n : Nat) :
    Renumbered (Store.stamped m a) (Store.stamped n b) := by
  constructor
  · rw [Store.stamped, Store.stamped, unversioned_setPath, unversioned_setPath, same]
  · rw [Store.versionIn_stamped, Store.versionIn_stamped, Store.versionText_truthy,
      Store.versionText_truthy]

theorem guarded (h : Renumbered a b) (fields : Fields) :
    (Managed.guarded (versionIn a) fields).unversioned =
      (Managed.guarded (versionIn b) fields).unversioned := by
  rw [Managed.guarded, Managed.guarded, h.numbered]
  split
  · rw [unversioned_setPath, unversioned_setPath]
  · rfl

/-- Two such objects stay so when each is patched on the condition of its own version. -/
theorem patched (h : Renumbered a b) (fields : Fields) (m n : Nat) :
    Renumbered (Store.stamped m (fillSet (a.merge (Managed.guarded (versionIn a) fields))))
      (Store.stamped n (fillSet (b.merge (Managed.guarded (versionIn b) fields)))) := by
  refine stamped ?_ m n
  rw [unversioned_fillSet, unversioned_fillSet, unversioned_merge, unversioned_merge, h.same,
    h.guarded]

end Renumbered

end StorageController
