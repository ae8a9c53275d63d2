import StorageController.Proofs.Json.MinimalPatch
import StorageController.Proofs.StatefulSet.Patch

namespace StorageController

namespace Json

/-- The members of a patch for a value that it carries on a condition. -/
def carried (changed : Prop) [Decidable changed] (key : String) (value : Json) : Fields :=
  if changed then [(key, value)] else []

/-- The members of a patch for an object that is patched inside, if there is anything to patch. -/
def nested (key : String) (fields : Fields) : Fields :=
  if fields = [] then [] else [(key, .obj fields)]

variable {live value l : Json} {key : String} {rest fields current : Fields}

theorem diffFields_cons_held (found : live.get? key = some l) (held : value.isSubset l = true) :
    diffFields live ((key, value) :: rest) = diffFields live rest := by
  rw [diffFields_cons, (diffMember_eq_none_iff _ _).mpr ⟨l, found, held⟩]

theorem diffFields_cons_carried {changed : Prop} [Decidable changed]
    (found : live.get? key = some l) (flat : ∀ fields, value ≠ .obj fields)
    (held : value.isSubset l = true ↔ ¬ changed) :
    diffFields live ((key, value) :: rest) =
      carried changed key value ++ diffFields live rest := by
  rw [diffFields_cons, found, diffMember_of_not_obj flat, carried]
  by_cases new : changed
  · rw [if_neg fun h => held.mp h new, if_pos new]
    rfl
  · rw [if_pos (held.mpr new), if_neg new]
    rfl

theorem diffFields_cons_nested (found : live.get? key = some (.obj current)) :
    diffFields live ((key, .obj fields) :: rest) =
      nested key (diffFields (.obj current) fields) ++ diffFields live rest := by
  rw [diffFields_cons, found, diffMember_obj_obj, nested]
  by_cases none : diffFields (.obj current) fields = []
  · rw [if_pos none, if_pos none]
    rfl
  · rw [if_neg none, if_neg none]
    rfl

/-- A document with a place for a value. Where a live document holds it with one value, whether it
holds it with another depends on what the live document has in that place. -/
def Places (document : Json → Json) : Prop :=
  ∀ a l, (document a).isSubset l = true →
    ∃ v, a.isSubset v = true ∧ ∀ b, (document b).isSubset l = true ↔ b.isSubset v = true

theorem places_member (front back : Fields) (key : String) :
    Places fun value => .obj (front ++ (key, value) :: back) := by
  intro a l holds
  obtain ⟨others, rfl, each⟩ := (isSubset_obj_iff _ _).mp holds
  rw [isSubsetFields_iff, forall_mem_append_cons] at each
  obtain ⟨first, ⟨v, found, here⟩, last⟩ := each
  refine ⟨v, here, fun b => ?_⟩
  rw [isSubset_obj_obj, isSubsetFields_iff, forall_mem_append_cons]
  constructor
  · rintro ⟨_, ⟨w, there, held⟩, _⟩
    cases found.symm.trans there
    exact held
  · exact fun held => ⟨first, ⟨v, found, held⟩, last⟩

theorem places_item (front back : List Json) :
    Places fun value => .arr (front ++ value :: back) := by
  intro a l holds
  obtain ⟨others, rfl, each⟩ := (isSubset_arr_iff _ _).mp holds
  simp only [isSubset]
  clear holds
  induction front generalizing others with
  | nil =>
    cases others with
    | nil => cases each
    | cons v others =>
      simp only [List.nil_append, isSubsetItems, Bool.and_eq_true] at each ⊢
      exact ⟨v, each.1, fun b => ⟨And.left, fun held => ⟨held, each.2⟩⟩⟩
  | cons item front ih =>
    cases others with
    | nil => cases each
    | cons other others =>
      simp only [List.cons_append, isSubsetItems, Bool.and_eq_true] at each ⊢
      obtain ⟨v, here, held⟩ := ih others each.2
      exact ⟨v, here, fun b => ⟨fun h => (held b).mp h.2, fun h => ⟨each.1, (held b).mpr h⟩⟩⟩

theorem Places.comp {outer inner : Json → Json} (h : Places outer) (h' : Places inner) :
    Places fun value => outer (inner value) := by
  intro a l holds
  obtain ⟨v, here, held⟩ := h _ _ holds
  obtain ⟨w, inside, held'⟩ := h' _ _ here
  exact ⟨w, inside, fun b => (held _).trans (held' b)⟩

theorem isSubset_str_iff {old : String} (holds : (Json.str old).isSubset l = true) (new : String) :
    (Json.str new).isSubset l = true ↔ new = old := by
  rw [isSubset_of_isScalar _ rfl] at holds ⊢
  rw [sameScalar_of_not_worth rfl holds]
  simp [sameScalar]

theorem isSubset_int_iff {old : Int} (holds : (Json.int old).isSubset l = true) (new : Int) :
    (Json.int new).isSubset l = true ↔ new = old := by
  rw [isSubset_of_isScalar _ rfl] at holds ⊢
  rw [sameScalar_of_worth rfl] at holds ⊢
  rw [holds, Option.some.injEq, Rat.intCast_inj, eq_comm]

theorem Places.isSubset_iff {document : Json → Json} (h : Places document) {old : String}
    (holds : (document (.str old)).isSubset l = true) (new : String) :
    (document (.str new)).isSubset l = true ↔ new = old := by
  obtain ⟨v, here, held⟩ := h _ _ holds
  exact (held _).trans (isSubset_str_iff here new)

end Json

open Json

variable {old new : Topology} {l : Json}

/-- The images of the domains, in order. -/
def Topology.images (t : Topology) : List String :=
  [t.imageAccount, t.imageContainer, t.imageObject, t.imageProxy, t.imageMemcached]

/-- What differs in the specification of the pods after a change. -/
def Topology.podChange (old new : Topology) : Fields :=
  carried (new.imageAccount ≠ old.imageAccount) "initContainers"
      (.arr (Role.initial.map (Manifest.container · new))) ++
    (carried (new.images ≠ old.images) "containers"
        (.arr (Role.services.map (Manifest.container · new))) ++
      carried (new.ringConfigMap ≠ old.ringConfigMap) "volumes" (Manifest.volumes new))

/-- What differs in the specification of the StatefulSet after a change. -/
def Topology.specChange (old new : Topology) : Fields :=
  carried (new.replicas ≠ old.replicas) "replicas" (.int new.replicas) ++
    nested "template" (nested "spec" (old.podChange new))

/-- Two topologies ask for the same number of the same pods. -/
structure Topology.SamePods (old new : Topology) : Prop where
  replicas : new.replicas = old.replicas
  images : new.images = old.images
  ringConfigMap : new.ringConfigMap = old.ringConfigMap

theorem images_eq_iff : new.images = old.images ↔ ∀ domain, new.image domain = old.image domain := by
  constructor
  · intro same domain
    simp only [Topology.images, List.cons.injEq] at same
    obtain ⟨account, container, object, proxy, memcached, _⟩ := same
    cases domain <;> assumption
  · intro same
    have each (domain : Domain) := same domain
    simp only [Topology.images, List.cons.injEq, and_true]
    exact ⟨each .account, each .container, each .object, each .proxy, each .memcached⟩

theorem carried_eq_nil_iff {changed : Prop} [Decidable changed] {key : String} {value : Json} :
    carried changed key value = [] ↔ ¬ changed := by
  by_cases h : changed <;> simp [carried, h]

theorem nested_eq_nil_iff {key : String} {fields : Fields} : nested key fields = [] ↔ fields = [] := by
  by_cases h : fields = [] <;> simp [nested, h]

theorem specChange_eq_nil_iff : old.specChange new = [] ↔ old.SamePods new := by
  simp only [Topology.specChange, Topology.podChange, List.append_eq_nil_iff, carried_eq_nil_iff,
    nested_eq_nil_iff, ne_eq, Decidable.not_not]
  constructor
  · rintro ⟨replicas, _, images, ring⟩
    exact ⟨replicas, images, ring⟩
  · intro same
    exact ⟨same.replicas, images_eq_iff.mp same.images .account, same.images, same.ringConfigMap⟩

theorem isSubset_container_iff {role : Role} (holds : (Manifest.container role old).isSubset l = true) :
    (Manifest.container role new).isSubset l = true ↔
      new.image role.domain = old.image role.domain :=
  (places_member [("name", role.name)]
    ([("imagePullPolicy", .str "IfNotPresent"), ("command", .arr role.command),
      ("securityContext", Manifest.containerSecurity)] ++ Manifest.portsField role ++
        Manifest.mountsField role) "image").isSubset_iff holds _

theorem isSubset_containers_iff {roles : List Role}
    (holds : (Json.arr (roles.map (Manifest.container · old))).isSubset l = true) :
    (Json.arr (roles.map (Manifest.container · new))).isSubset l = true ↔
      ∀ role ∈ roles, new.image role.domain = old.image role.domain := by
  obtain ⟨others, rfl, each⟩ := (isSubset_arr_iff _ _).mp holds
  simp only [isSubset]
  clear holds
  induction roles generalizing others with
  | nil =>
    cases others with
    | nil => simp [isSubsetItems]
    | cons other others => cases each
  | cons role roles ih =>
    cases others with
    | nil => cases each
    | cons other others =>
      rw [List.map_cons, isSubsetItems, Bool.and_eq_true] at each
      rw [List.map_cons, isSubsetItems, Bool.and_eq_true, List.forall_mem_cons,
        isSubset_container_iff each.1, ih others each.2]

theorem isSubset_initial_iff
    (holds : (Json.arr (Role.initial.map (Manifest.container · old))).isSubset l = true) :
    (Json.arr (Role.initial.map (Manifest.container · new))).isSubset l = true ↔
      new.imageAccount = old.imageAccount := by
  rw [isSubset_containers_iff holds, Role.initial, List.forall_mem_singleton]
  rfl

/-- Every domain runs some service, so the services tell all five images apart. -/
theorem exists_service (domain : Domain) : ∃ role ∈ Role.services, role.domain = domain := by
  cases domain <;> decide

theorem isSubset_services_iff
    (holds : (Json.arr (Role.services.map (Manifest.container · old))).isSubset l = true) :
    (Json.arr (Role.services.map (Manifest.container · new))).isSubset l = true ↔
      new.images = old.images := by
  rw [isSubset_containers_iff holds, images_eq_iff]
  constructor
  · intro same domain
    obtain ⟨role, mem, rfl⟩ := exists_service domain
    exact same role mem
  · exact fun same role _ => same role.domain

theorem isSubset_volumes_iff (name : new.name = old.name)
    (holds : (Manifest.volumes old).isSubset l = true) :
    (Manifest.volumes new).isSubset l = true ↔ new.ringConfigMap = old.ringConfigMap := by
  -- Only the second volume depends on more than the name.
  have reference : Places fun ring => .obj [("name", ring)] := places_member [] [] "name"
  have volume : Places fun ring => .obj
      [("name", "ring-data"), ("configMap", .obj [("name", ring)])] :=
    (places_member [("name", "ring-data")] [] "configMap").comp reference
  have places : Places fun ring => .arr
      [.obj [("name", "config-data"), ("configMap", .obj [("name", old.configMap)])],
       .obj [("name", "ring-data"), ("configMap", .obj [("name", ring)])],
       .obj [("name", "config-data-merged"), ("emptyDir", .obj [])]] :=
    (places_item [_] [_]).comp volume
  have config : new.configMap = old.configMap := by rw [Topology.configMap, name, Topology.configMap]
  rw [Manifest.volumes, config]
  exact places.isSubset_iff holds _

/-- The members of the specification of the pods. -/
def Topology.podFields (t : Topology) : Fields :=
  [("securityContext", Manifest.podSecurity),
   ("initContainers", .arr (Role.initial.map (Manifest.container · t))),
   ("containers", .arr (Role.services.map (Manifest.container · t))),
   ("volumes", Manifest.volumes t)]

theorem podTemplate_eq (t : Topology) :
    Manifest.podTemplate t = .obj
      [("metadata", .obj [("labels", .obj (objectLabels t.name))]),
       ("spec", .obj t.podFields)] := rfl

theorem diffFields_podFields {pod : Fields} (name : new.name = old.name)
    (holds : isSubset (.obj old.podFields) (.obj pod) = true) :
    diffFields (.obj pod) new.podFields = old.podChange new := by
  obtain ⟨_, atSecurity, inSecurity⟩ := @get?_of_isSubset _ _ _ "securityContext" holds rfl
  obtain ⟨_, atInitial, inInitial⟩ := @get?_of_isSubset _ _ _ "initContainers" holds rfl
  obtain ⟨_, atServices, inServices⟩ := @get?_of_isSubset _ _ _ "containers" holds rfl
  obtain ⟨_, atVolumes, inVolumes⟩ := @get?_of_isSubset _ _ _ "volumes" holds rfl
  rw [Topology.podFields, diffFields_cons_held atSecurity inSecurity,
    diffFields_cons_carried atInitial (by simp)
      ((isSubset_initial_iff inInitial).trans Decidable.not_not.symm),
    diffFields_cons_carried atServices (by simp)
      ((isSubset_services_iff inServices).trans Decidable.not_not.symm),
    diffFields_cons_carried atVolumes (by simp [Manifest.volumes])
      ((isSubset_volumes_iff name inVolumes).trans Decidable.not_not.symm),
    diffFields, List.append_nil]
  rfl

theorem isSubset_of_get? {j v l : Json} {key : String} (found : j.get? key = some l)
    (held : v.isSubset l = true) : isSubset (.obj [(key, v)]) j = true := by
  obtain ⟨fields, rfl, there⟩ := eq_obj_of_get? found
  rw [isSubset_obj_obj, isSubsetFields_iff, List.forall_mem_singleton]
  exact ⟨l, there, held⟩

theorem diffFields_podTemplate {template : Fields} (name : new.name = old.name)
    (holds : (Manifest.podTemplate old).isSubset (.obj template) = true) :
    diffFields (.obj template)
        [("metadata", .obj [("labels", .obj (objectLabels new.name))]),
         ("spec", .obj new.podFields)] =
      nested "spec" (old.podChange new) := by
  obtain ⟨_, atMetadata, inMetadata⟩ := @get?_of_isSubset _ _ _ "metadata" holds rfl
  obtain ⟨_, atSpec, inSpec⟩ := @get?_of_isSubset _ _ _ "spec" holds rfl
  obtain ⟨pod, rfl, _⟩ := (isSubset_obj_iff _ _).mp inSpec
  rw [← name] at inMetadata
  rw [diffFields_cons_held atMetadata inMetadata, diffFields_cons_nested atSpec,
    diffFields_podFields name inSpec, diffFields, List.append_nil]

theorem diffFields_setSpec {spec : Fields} (name : new.name = old.name)
    (holds : isSubset (.obj (Manifest.setSpec old)) (.obj spec) = true) :
    diffFields (.obj spec)
        [("replicas", .int new.replicas), ("template", Manifest.podTemplate new)] =
      old.specChange new := by
  obtain ⟨_, atReplicas, inReplicas⟩ := @get?_of_isSubset _ _ _ "replicas" holds rfl
  obtain ⟨_, atTemplate, inTemplate⟩ := @get?_of_isSubset _ _ _ "template" holds rfl
  obtain ⟨template, rfl, _⟩ := (isSubset_obj_iff _ _).mp inTemplate
  rw [diffFields_cons_carried atReplicas (by simp)
      ((isSubset_int_iff inReplicas _).trans Decidable.not_not.symm),
    podTemplate_eq, diffFields_cons_nested atTemplate, diffFields_podTemplate name inTemplate,
    diffFields, List.append_nil]
  rfl

/-- The patch is what the change is about. -/
theorem patchFields_of_change {live : Json} (name : new.name = old.name)
    (holds : old.manifest.isSubset live = true) :
    new.patchFields live = nested "spec" (old.specChange new) := by
  obtain ⟨_, atMetadata, inMetadata⟩ := @get?_of_isSubset _ _ _ "metadata" holds rfl
  obtain ⟨_, atLabels, inLabels⟩ := @get?_of_isSubset _ _ _ "labels" inMetadata rfl
  obtain ⟨_, atSpec, inSpec⟩ := @get?_of_isSubset _ _ _ "spec" holds rfl
  obtain ⟨spec, rfl, _⟩ := (isSubset_obj_iff _ _).mp inSpec
  -- The labels come from the name alone, so they are held as they are.
  rw [← name] at inLabels
  have labels := isSubset_of_get? atLabels inLabels
  rw [Topology.patchFields, Topology.managedFields, diffFields_cons_held atMetadata labels,
    diffFields_cons_nested atSpec, diffFields_setSpec name inSpec, diffFields, List.append_nil]

end StorageController
