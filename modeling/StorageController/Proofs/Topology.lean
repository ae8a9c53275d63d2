import StorageController.Proofs.Json.WellFormed
import StorageController.Topology

namespace StorageController

open Json

/-- The computation fails at most because the resource is invalid. -/
def OnlyInvalid {α : Type} (x : Except Fault α) : Prop :=
  ∀ fault, x = .error fault → ∃ message, fault = .invalid message

namespace OnlyInvalid

variable {α β : Type}

theorem ok (a : α) : OnlyInvalid (.ok a) := by
  intro fault h
  cases h

theorem invalid (message : String) : OnlyInvalid (.error (.invalid message) : Except Fault α) := by
  intro fault h
  cases h
  exact ⟨message, rfl⟩

theorem bind {x : Except Fault α} {f : α → Except Fault β} (h : OnlyInvalid x)
    (hf : ∀ a, OnlyInvalid (f a)) : OnlyInvalid (x >>= f) := by
  cases x with
  | ok a => exact hf a
  | error fault =>
    intro other eq
    cases eq
    exact h fault rfl

end OnlyInvalid

theorem ok_of_bind {α β : Type} {x : Except Fault α} {f : α → Except Fault β} {b : β}
    (h : x >>= f = .ok b) : ∃ a, x = .ok a ∧ f a = .ok b := by
  cases x with
  | ok a => exact ⟨a, rfl, h⟩
  | error fault => cases h

namespace Topology

theorem onlyInvalid_stringField (spec : Fields) (key default : String) :
    OnlyInvalid (stringField spec key default) := by
  unfold stringField
  split
  · exact .ok _
  · exact .ok _
  · exact .ok _
  · exact .invalid _

theorem onlyInvalid_replicasField (spec : Fields) : OnlyInvalid (replicasField spec) := by
  unfold replicasField
  split
  · exact .ok _
  · exact .ok _
  · exact .ok _
  · exact .invalid _

theorem onlyInvalid_specFields (resource : Fields) : OnlyInvalid (specFields resource) := by
  unfold specFields
  split
  · exact .ok _
  · exact .ok _
  · exact .ok _
  · exact .invalid _

theorem onlyInvalid_nameField (metadata : Fields) : OnlyInvalid (nameField (.obj metadata)) := by
  refine OnlyInvalid.bind (.ok (metadata.lookup "name")) fun name => ?_
  split
  · split
    · exact .invalid _
    · exact .ok _
  · exact .invalid _

theorem onlyInvalid_lookupOr (metadata : Fields) (key : String) (default : Json) :
    OnlyInvalid ((Json.obj metadata).lookupOr key default) :=
  .ok _

theorem orElse_metadata {fields metadata : Fields}
    (h : (Json.obj fields).get? "metadata" = some (.obj metadata)) :
    ((fields.lookup "metadata").getD .null).orElse (.obj []) = .obj metadata := by
  have mem : fields.lookup "metadata" = some (.obj metadata) := h
  rw [mem]
  cases metadata <;> rfl

/-- A resource with an object for metadata is rejected only as invalid. -/
theorem onlyInvalid_ofResource {resource : Json} {metadata : Fields}
    (h : resource.get? "metadata" = some (.obj metadata)) : OnlyInvalid (ofResource resource) := by
  obtain ⟨fields, rfl, _⟩ := eq_obj_of_get? h
  simp only [ofResource, orElse_metadata h]
  refine (onlyInvalid_nameField metadata).bind fun name => ?_
  refine (onlyInvalid_lookupOr metadata _ _).bind fun ns => ?_
  refine (onlyInvalid_specFields fields).bind fun spec => ?_
  refine (onlyInvalid_replicasField spec).bind fun replicas => ?_
  refine (onlyInvalid_stringField spec _ _).bind fun account => ?_
  refine (onlyInvalid_stringField spec _ _).bind fun container => ?_
  refine (onlyInvalid_stringField spec _ _).bind fun object => ?_
  refine (onlyInvalid_stringField spec _ _).bind fun proxy => ?_
  refine (onlyInvalid_stringField spec _ _).bind fun memcached => ?_
  refine (onlyInvalid_stringField spec _ _).bind fun storageClass => ?_
  refine (onlyInvalid_stringField spec _ _).bind fun rings => ?_
  refine (onlyInvalid_lookupOr metadata _ _).bind fun uid => ?_
  exact (onlyInvalid_lookupOr metadata _ _).bind fun generation => .ok _

/-- A topology is accepted exactly if each of its parts is. -/
theorem ofResource_eq_ok_iff {fields : Fields} {metadata : Json} {t : Topology}
    (h : ((fields.lookup "metadata").getD .null).orElse (.obj []) = metadata) :
    ofResource (.obj fields) = .ok t ↔
      (nameField metadata = .ok t.name ∧ metadata.lookupOr "namespace" "default" = .ok t.ns ∧
        metadata.lookupOr "uid" "" = .ok t.uid ∧
        metadata.lookupOr "generation" (.int 0) = .ok t.generation) ∧
      ∃ spec, specFields fields = .ok spec ∧ replicasField spec = .ok t.replicas ∧
        stringField spec "containerImageAccount" (defaultImage .account) = .ok t.imageAccount ∧
        stringField spec "containerImageContainer" (defaultImage .container) = .ok t.imageContainer ∧
        stringField spec "containerImageObject" (defaultImage .object) = .ok t.imageObject ∧
        stringField spec "containerImageProxy" (defaultImage .proxy) = .ok t.imageProxy ∧
        stringField spec "containerImageMemcached" (defaultImage .memcached) =
          .ok t.imageMemcached ∧
        stringField spec "storageClassName" "" = .ok t.storageClass ∧
        stringField spec "swiftRingConfigMap" defaultRingConfigMap = .ok t.ringConfigMap := by
  constructor
  · intro accepted
    simp only [ofResource, h] at accepted
    obtain ⟨name, named, accepted⟩ := ok_of_bind accepted
    obtain ⟨ns, placed, accepted⟩ := ok_of_bind accepted
    obtain ⟨spec, specified, accepted⟩ := ok_of_bind accepted
    obtain ⟨replicas, counted, accepted⟩ := ok_of_bind accepted
    obtain ⟨account, ofAccount, accepted⟩ := ok_of_bind accepted
    obtain ⟨container, ofContainer, accepted⟩ := ok_of_bind accepted
    obtain ⟨object, ofObject, accepted⟩ := ok_of_bind accepted
    obtain ⟨proxy, ofProxy, accepted⟩ := ok_of_bind accepted
    obtain ⟨memcached, ofMemcached, accepted⟩ := ok_of_bind accepted
    obtain ⟨storageClass, ofClass, accepted⟩ := ok_of_bind accepted
    obtain ⟨rings, ofRings, accepted⟩ := ok_of_bind accepted
    obtain ⟨uid, identified, accepted⟩ := ok_of_bind accepted
    obtain ⟨generation, numbered, accepted⟩ := ok_of_bind accepted
    cases accepted
    exact ⟨⟨named, placed, identified, numbered⟩, spec, specified, counted, ofAccount, ofContainer,
      ofObject, ofProxy, ofMemcached, ofClass, ofRings⟩
  · rintro ⟨⟨named, placed, identified, numbered⟩, spec, specified, counted, ofAccount, ofContainer,
      ofObject, ofProxy, ofMemcached, ofClass, ofRings⟩
    simp only [ofResource, h, named, placed, identified, numbered, specified, counted, ofAccount,
      ofContainer, ofObject, ofProxy, ofMemcached, ofClass, ofRings, bind, Except.bind]
    rfl

theorem read_of_ofResource {fields : Fields} {t : Topology}
    (accepted : ofResource (.obj fields) = .ok t) :
    let metadata := ((fields.lookup "metadata").getD .null).orElse (.obj [])
    nameField metadata = .ok t.name ∧ metadata.lookupOr "namespace" "default" = .ok t.ns ∧
      metadata.lookupOr "generation" (.int 0) = .ok t.generation :=
  have given := ((ofResource_eq_ok_iff rfl).mp accepted).1
  ⟨given.1, given.2.1, given.2.2.2⟩

theorem lookup_of_nameField {metadata : Json} {name : String} (h : nameField metadata = .ok name) :
    ∃ fields, metadata = .obj fields ∧ fields.lookup "name" = some (.str name) := by
  obtain ⟨found, looked, named⟩ := ok_of_bind h
  cases metadata with
  | obj fields =>
    refine ⟨fields, rfl, (Except.ok.inj looked).trans ?_⟩
    split at named
    next given =>
      split at named
      · cases named
      · cases named
        rfl
    next => cases named
  | _ => cases looked

theorem name_of_ofResource {resource : Json} {t : Topology} (accepted : ofResource resource = .ok t) :
    ∃ metadata, resource.get? "metadata" = some (.obj metadata) ∧
      metadata.lookup "name" = some (.str t.name) := by
  cases resource with
  | obj fields =>
    obtain ⟨metadata, eq, named⟩ := lookup_of_nameField (read_of_ofResource accepted).1
    refine ⟨metadata, ?_, named⟩
    rw [Json.orElse] at eq
    split at eq
    next truthy =>
      cases found : fields.lookup "metadata" with
      | none =>
        rw [found] at truthy
        cases truthy
      | some value =>
        rw [found] at eq
        exact found.trans (congrArg some eq)
    next =>
      cases eq
      cases named
  | _ => cases accepted

/-- What the server has given is taken as it is, but for what stands for nothing. -/
theorem given_of_ofResource {resource : Json} {metadata : Fields} {t : Topology}
    (h : resource.get? "metadata" = some (.obj metadata)) (accepted : ofResource resource = .ok t) :
    t.ns = ((metadata.lookup "namespace").getD .null).orElse "default" ∧
      t.generation = ((metadata.lookup "generation").getD .null).orElse (.int 0) := by
  obtain ⟨fields, rfl, _⟩ := eq_obj_of_get? h
  obtain ⟨_, looked, counted⟩ := read_of_ofResource accepted
  rw [orElse_metadata h] at looked counted
  exact ⟨(Except.ok.inj looked).symm, (Except.ok.inj counted).symm⟩

theorem ns_of_ofResource {resource : Json} {metadata : Fields} {t : Topology}
    (h : resource.get? "metadata" = some (.obj metadata)) (accepted : ofResource resource = .ok t) :
    t.ns = ((metadata.lookup "namespace").getD .null).orElse "default" :=
  (given_of_ofResource h accepted).1

theorem truthy_ns {resource : Json} {t : Topology} (accepted : ofResource resource = .ok t) :
    t.ns.truthy = true := by
  obtain ⟨metadata, hm, _⟩ := name_of_ofResource accepted
  rw [ns_of_ofResource hm accepted, Json.orElse]
  split
  next truthy => exact truthy
  next => rfl

theorem generation_of_ofResource {resource : Json} {metadata : Fields} {t : Topology}
    (h : resource.get? "metadata" = some (.obj metadata)) (accepted : ofResource resource = .ok t) :
    t.generation = ((metadata.lookup "generation").getD .null).orElse (.int 0) :=
  (given_of_ofResource h accepted).2

/-- Two resources with the same specification, name, namespace, identifier and generation declare
the same topology. -/
theorem ofResource_congr {resource other : Json} {metadata metadata' : Fields}
    (h : resource.get? "metadata" = some (.obj metadata))
    (h' : other.get? "metadata" = some (.obj metadata'))
    (spec : resource.get? "spec" = other.get? "spec")
    (same : ∀ key ∈ ["name", "namespace", "uid", "generation"],
      metadata.lookup key = metadata'.lookup key) : ofResource resource = ofResource other := by
  obtain ⟨fields, rfl, _⟩ := eq_obj_of_get? h
  obtain ⟨fields', rfl, _⟩ := eq_obj_of_get? h'
  simp only [List.forall_mem_cons, List.not_mem_nil, false_implies, implies_true, and_true] at same
  obtain ⟨name, ns, uid, generation⟩ := same
  have specs : specFields fields = specFields fields' := by
    have eq : fields.lookup "spec" = fields'.lookup "spec" := spec
    rw [specFields, specFields, eq]
  have names : nameField (.obj metadata) = nameField (.obj metadata') := by
    simp only [nameField, Json.lookup, name]
  have others : ∀ key default, metadata.lookup key = metadata'.lookup key →
      (Json.obj metadata).lookupOr key default = (Json.obj metadata').lookupOr key default := by
    intro key default eq
    simp only [Json.lookupOr, Json.lookup, eq]
  simp only [ofResource, orElse_metadata h, orElse_metadata h', specs, names, others _ _ ns,
    others _ _ uid, others _ _ generation]

end Topology

end StorageController
