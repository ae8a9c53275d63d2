import StorageController.Proofs.Topology

namespace StorageController.Topology

open Json

variable {spec metadata fields : Fields} {resource : Json} {t : Topology} {key default text : String}

/-- A member that is not there, or null. -/
def Absent (member : Option Json) : Prop :=
  member = none ∨ member = some .null

/-- A member that may be absent; then a default takes its place. -/
def Optionally {α : Type} (kind : α → Json) (default : α) (member : Option Json) (value : α) : Prop :=
  member = some (kind value) ∨ Absent member ∧ value = default

theorem stringField_eq_ok_iff :
    stringField spec key default = .ok text ↔ Optionally .str default (spec.lookup key) text := by
  rw [stringField, Optionally, Absent]
  cases spec.lookup key with
  | none => simp [eq_comm]
  | some value => cases value <;> simp [eq_comm]

theorem replicasField_eq_ok_iff {replicas : Int} : replicasField spec = .ok replicas ↔
    Optionally .int defaultReplicas (spec.lookup "replicas") replicas := by
  rw [replicasField, Optionally, Absent]
  cases spec.lookup "replicas" with
  | none => simp [eq_comm]
  | some value => cases value <;> simp [eq_comm]

theorem specFields_eq_ok_iff :
    specFields fields = .ok spec ↔ Optionally .obj [] (fields.lookup "spec") spec := by
  rw [specFields, Optionally, Absent]
  cases fields.lookup "spec" with
  | none => simp [eq_comm]
  | some value => cases value <;> simp [eq_comm]

theorem nameField_eq_ok_iff : nameField (.obj metadata) = .ok text ↔
    metadata.lookup "name" = some (.str text) ∧ text ≠ "" := by
  simp only [nameField, Json.lookup, bind, Except.bind]
  cases metadata.lookup "name" with
  | none => simp [throw, throwThe, MonadExceptOf.throw]
  | some value =>
    cases value with
    | str name =>
      by_cases empty : name = ""
      · simp [empty, throw, throwThe, MonadExceptOf.throw, eq_comm]
      · simp only [if_neg empty, pure, Except.pure, Except.ok.injEq, Option.some.injEq, str.injEq]
        exact ⟨fun same => ⟨same, same ▸ empty⟩, And.left⟩
    | _ => simp [throw, throwThe, MonadExceptOf.throw]

/-- What the server gave, or a default in place of what stands for nothing. -/
def given (metadata : Fields) (key : String) (default : Json) : Json :=
  ((metadata.lookup key).getD .null).orElse default

theorem lookupOr_eq_ok_iff {default value : Json} :
    (Json.obj metadata).lookupOr key default = .ok value ↔ value = given metadata key default :=
  ⟨fun h => (Except.ok.inj h).symm, fun h => congrArg Except.ok h.symm⟩

/-- The fields of the specification that are strings: the name, the default and the value of each. -/
def texts (t : Topology) : List (String × String × String) :=
  [("containerImageAccount", defaultImage .account, t.imageAccount),
   ("containerImageContainer", defaultImage .container, t.imageContainer),
   ("containerImageObject", defaultImage .object, t.imageObject),
   ("containerImageProxy", defaultImage .proxy, t.imageProxy),
   ("containerImageMemcached", defaultImage .memcached, t.imageMemcached),
   ("storageClassName", "", t.storageClass),
   ("swiftRingConfigMap", defaultRingConfigMap, t.ringConfigMap)]

/-- The topology is what metadata and a specification declare. -/
structure Declared (metadata spec : Fields) (t : Topology) : Prop where
  name : metadata.lookup "name" = some (.str t.name)
  nonempty : t.name ≠ ""
  ns : t.ns = given metadata "namespace" "default"
  uid : t.uid = given metadata "uid" ""
  generation : t.generation = given metadata "generation" (.int 0)
  replicas : Optionally .int defaultReplicas (spec.lookup "replicas") t.replicas
  texts : ∀ text ∈ t.texts, Optionally .str text.2.1 (spec.lookup text.1) text.2.2

/-- The server's parts of the topology have the kinds that they are declared with. -/
def Typed (t : Topology) : Prop :=
  t.ns.shape = .str ∧ t.uid.shape = .str ∧ t.generation.shape = .int

/-- A member of a kind, unless it stands for nothing. -/
def OfKind (member : Option Json) (shape : Shape) : Prop :=
  ∀ value, member = some value → value.truthy = true → value.shape = shape

theorem shape_given (metadata : Fields) (key : String) (default : Json) :
    (given metadata key default).shape = default.shape ↔
      OfKind (metadata.lookup key) default.shape := by
  rw [given, OfKind]
  cases metadata.lookup key with
  | none => simp [Json.orElse, truthy]
  | some value =>
    rw [Option.getD_some, Json.orElse]
    by_cases truthy : value.truthy = true
    · simp [truthy]
    · simp [truthy]

theorem Declared.typed_iff (declared : Declared metadata spec t) :
    t.Typed ↔ OfKind (metadata.lookup "namespace") .str ∧ OfKind (metadata.lookup "uid") .str ∧
      OfKind (metadata.lookup "generation") .int := by
  rw [Typed, declared.ns, declared.uid, declared.generation]
  exact and_congr (shape_given _ _ "default")
    (and_congr (shape_given _ _ "") (shape_given _ _ (.int 0)))

theorem ofResource_iff_of_metadata
    (found : (Json.obj fields).get? "metadata" = some (.obj metadata)) :
    ofResource (.obj fields) = .ok t ↔
      ∃ spec, Optionally .obj [] (fields.lookup "spec") spec ∧ Declared metadata spec t := by
  rw [ofResource_eq_ok_iff (orElse_metadata found), nameField_eq_ok_iff, lookupOr_eq_ok_iff,
    lookupOr_eq_ok_iff, lookupOr_eq_ok_iff]
  simp only [specFields_eq_ok_iff, replicasField_eq_ok_iff, stringField_eq_ok_iff]
  constructor
  · rintro ⟨⟨⟨name, nonempty⟩, ns, uid, generation⟩, spec, specified, replicas, texts⟩
    refine ⟨spec, specified, name, nonempty, ns, uid, generation, replicas, ?_⟩
    simpa only [Topology.texts, List.forall_mem_cons, List.not_mem_nil, false_implies,
      implies_true, and_true] using texts
  · rintro ⟨spec, specified, name, nonempty, ns, uid, generation, replicas, texts⟩
    refine ⟨⟨⟨name, nonempty⟩, ns, uid, generation⟩, spec, specified, replicas, ?_⟩
    simpa only [Topology.texts, List.forall_mem_cons, List.not_mem_nil, false_implies,
      implies_true, and_true] using texts

/-- A resource is read as what it declares. -/
theorem ofResource_iff_declared : ofResource resource = .ok t ↔
    ∃ metadata spec, resource.get? "metadata" = some (.obj metadata) ∧
      Optionally .obj [] (resource.get? "spec") spec ∧ Declared metadata spec t := by
  constructor
  · intro accepted
    obtain ⟨metadata, found, _⟩ := name_of_ofResource accepted
    obtain ⟨fields, rfl, _⟩ := eq_obj_of_get? found
    obtain ⟨spec, declared⟩ := (ofResource_iff_of_metadata found).mp accepted
    exact ⟨metadata, spec, found, declared⟩
  · rintro ⟨metadata, spec, found, declared⟩
    obtain ⟨fields, rfl, _⟩ := eq_obj_of_get? found
    exact (ofResource_iff_of_metadata found).mpr ⟨spec, declared⟩

/-- Metadata that stand for something and are no object. -/
def Unreadable (metadata : Json) : Prop :=
  metadata.truthy = true ∧ metadata.shape ≠ .obj

theorem ofResource_of_unreadable {metadata : Json} (found : resource.get? "metadata" = some metadata)
    (unreadable : Unreadable metadata) :
    ofResource resource = .error (.notObject metadata.shape "get") := by
  obtain ⟨fields, rfl, mem⟩ := eq_obj_of_get? found
  have kept : ((fields.lookup "metadata").getD .null).orElse (.obj []) = metadata := by
    rw [mem]
    exact if_pos unreadable.1
  simp only [ofResource, kept]
  cases metadata with
  | obj members => exact absurd rfl unreadable.2
  | _ => rfl

theorem onlyInvalid_of_readable
    (readable : ∀ metadata, resource.get? "metadata" = some metadata → ¬ Unreadable metadata) :
    OnlyInvalid (ofResource resource) := by
  cases resource with
  | obj fields =>
    by_cases truthy : ((fields.lookup "metadata").getD .null).truthy = true
    · cases found : fields.lookup "metadata" with
      | none => simp [found, Json.truthy] at truthy
      | some metadata =>
        rw [found] at truthy
        have isObject := readable metadata found
        cases metadata with
        | obj members => exact onlyInvalid_ofResource found
        | _ => exact absurd ⟨truthy, nofun⟩ isObject
    · have empty : ((fields.lookup "metadata").getD .null).orElse (.obj []) = .obj [] := if_neg truthy
      simp only [ofResource, empty]
      exact .invalid _
  | _ => exact .invalid _

/-- A topology is read exactly as it is declared, and then the server's parts have the declared kinds
exactly if their members do. What is not read is invalid, unless the metadata are unreadable. -/
theorem ofResource_outcome (resource : Json) :
    (∀ t, ofResource resource = .ok t ↔
      ∃ metadata spec, resource.get? "metadata" = some (.obj metadata) ∧
        Optionally .obj [] (resource.get? "spec") spec ∧ Declared metadata spec t) ∧
    (∀ metadata t, resource.get? "metadata" = some (.obj metadata) → ofResource resource = .ok t →
      (t.Typed ↔ OfKind (metadata.lookup "namespace") .str ∧ OfKind (metadata.lookup "uid") .str ∧
        OfKind (metadata.lookup "generation") .int)) ∧
    (∀ metadata, resource.get? "metadata" = some metadata → Unreadable metadata →
      ofResource resource = .error (.notObject metadata.shape "get")) ∧
    ((∀ metadata, resource.get? "metadata" = some metadata → ¬ Unreadable metadata) →
      (∃ t, ofResource resource = .ok t) ∨ ∃ message, ofResource resource = .error (.invalid message)) := by
  refine ⟨fun t => ofResource_iff_declared, ?_, fun metadata => ofResource_of_unreadable, ?_⟩
  · intro metadata t found accepted
    obtain ⟨_, spec, found', _, declared⟩ := ofResource_iff_declared.mp accepted
    cases found.symm.trans found'
    exact declared.typed_iff
  · intro readable
    cases read : ofResource resource with
    | ok t => exact Or.inl ⟨t, rfl⟩
    | error fault =>
      obtain ⟨message, rfl⟩ := onlyInvalid_of_readable readable fault read
      exact Or.inr ⟨message, rfl⟩

/-- A number in the place of the namespace, and a string in the place of the metadata. -/
theorem ofResource_outcome_numbered :
    (∃ t, ofResource (.obj [("metadata", .obj [("name", "storage"), ("namespace", .int 5)])]) = .ok t ∧
      t.ns = .int 5 ∧ ¬ t.Typed) ∧
    Unreadable "storage" ∧
      ofResource (.obj [("metadata", "storage")]) = .error (.notObject .str "get") := by
  have unreadable : Unreadable "storage" := ⟨rfl, nofun⟩
  refine ⟨?_, unreadable, (ofResource_outcome (.obj [("metadata", "storage")])).2.2.1 _ rfl unreadable⟩
  obtain ⟨t, accepted⟩ : ∃ t,
      ofResource (.obj [("metadata", .obj [("name", "storage"), ("namespace", .int 5)])]) = .ok t :=
    ⟨_, rfl⟩
  have typed := (ofResource_outcome _).2.1 _ t rfl accepted
  refine ⟨t, accepted, ?_, fun kinds => ?_⟩
  · cases accepted
    rfl
  · cases (typed.mp kinds).1 (.int 5) rfl rfl

/-- Metadata that are a list are not rejected as invalid, and a number passes as a namespace. -/
theorem malformed_metadata_unnoticed :
    ofResource (.obj [("metadata", .arr ["swift"])]) = .error (.notObject .arr "get") ∧
      (∀ message, Fault.notObject .arr "get" ≠ .invalid message) ∧
      ∃ t, ofResource (.obj [("metadata", .obj [("name", "storage"), ("namespace", .int 5)])]) = .ok t ∧
        t.ns.shape ≠ .str :=
  ⟨rfl, nofun, _, rfl, by decide⟩

end StorageController.Topology
