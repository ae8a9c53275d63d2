import StorageController.Proofs.Dispatch
import StorageController.Proofs.Pass.Ownership

namespace StorageController

open Json Ownership

variable {owner object written stored patch reference ns : Json} {t : Topology}

/-- The references with others among them that do not control the object. -/
inductive Joined : List Json → List Json → Prop
  | nil : Joined [] []
  | keep {old new : List Json} (reference : Json) (rest : Joined old new) :
      Joined (reference :: old) (reference :: new)
  | join {old new : List Json} {other : Json} (plain : Plain other) (rest : Joined old new) :
      Joined old (other :: new)

theorem Joined.split {front back new : List Json} (h : Joined (front ++ reference :: back) new)
    (plain : ∀ other ∈ front, Plain other) :
    ∃ front' back', new = front' ++ reference :: back' ∧ ∀ other ∈ front', Plain other := by
  generalize eq : front ++ reference :: back = old at h
  induction h generalizing front with
  | nil => simp at eq
  | @keep old new first rest ih =>
    cases front with
    | nil =>
      obtain ⟨rfl, rfl⟩ := List.cons.inj eq
      exact ⟨[], new, rfl, by simp⟩
    | cons first' front =>
      obtain ⟨rfl, rfl⟩ := List.cons.inj eq
      obtain ⟨first, others⟩ := List.forall_mem_cons.mp plain
      obtain ⟨front', back', rfl, plain'⟩ := ih others rfl
      exact ⟨_ :: front', back', rfl, List.forall_mem_cons.mpr ⟨first, plain'⟩⟩
  | @join old new other first rest ih =>
    obtain ⟨front', back', rfl, plain'⟩ := ih plain eq
    exact ⟨other :: front', back', rfl, List.forall_mem_cons.mpr ⟨first, plain'⟩⟩

/-- What is stored in place of a written StatefulSet, after defaults were filled in or others edited
it: it is in the same namespace, has a version, and refers to all that the written one refers to. -/
structure Succeeds (written stored : Json) : Prop where
  metadata : HasMetadata stored
  namespaced : stored.path? ["metadata", "namespace"] = written.path? ["metadata", "namespace"]
  versioned : ∃ version, stored.path? ["metadata", "resourceVersion"] = some version ∧
    version.truthy = true
  references : ∀ old, written.path? ["metadata", "ownerReferences"] = some (.arr old) →
    ∃ new, stored.path? ["metadata", "ownerReferences"] = some (.arr new) ∧ Joined old new

section

variable [Redaction.VisitingOrder]

/-- The versions of the StatefulSet that applying a topology created for its owner: passes patch it,
whatever resource they are over, and others change it. -/
inductive Lineage (owner : Json) : Json → Prop
  | created {t : Topology} {c : Context} {ns body stored : Json}
      (creation : ((Pass.apply t owner).start c).Makes (.createSet ns body))
      (kept : Succeeds body stored) : Lineage owner stored
  | patched {δ : Type} {s : Settings δ} {ns name place called : Json} {c : Context}
      {object patch stored : Json} (earlier : Lineage owner object)
      (patching : ((Pass.reconcile s ns name).start c).Makes (.patchSet place called patch))
      (kept : Succeeds (object.merge patch) stored) : Lineage owner stored
  | edited {object stored : Json} (earlier : Lineage owner object)
      (kept : Succeeds object stored) : Lineage owner stored

/-- The object is in the namespace, and the first of its references that could control it is the
given one. -/
structure Refers (ns reference object : Json) : Prop where
  namespaced : object.path? ["metadata", "namespace"] = some ns
  references : ∃ front back, object.path? ["metadata", "ownerReferences"] =
    some (.arr (front ++ reference :: back)) ∧ ∀ other ∈ front, Plain other

omit [Redaction.VisitingOrder] in
theorem refers_body (t : Topology) (reference : Json) : Refers t.ns reference (t.body reference) where
  namespaced := rfl
  references := ⟨[], [], rfl, by simp⟩

omit [Redaction.VisitingOrder] in
theorem Refers.merge (refers : Refers ns reference object) (modest : Modest patch) :
    Refers ns reference (object.merge patch) where
  namespaced := (modest.path?_merge (by simp) object).trans refers.namespaced
  references := by
    rw [modest.path?_merge (by simp)]
    exact refers.references

omit [Redaction.VisitingOrder] in
theorem Refers.succeeds (refers : Refers ns reference written) (kept : Succeeds written stored) :
    Refers ns reference stored where
  namespaced := kept.namespaced.trans refers.namespaced
  references := by
    obtain ⟨front, back, old, plain⟩ := refers.references
    obtain ⟨new, there, joined⟩ := kept.references _ old
    obtain ⟨front', back', rfl, plain'⟩ := joined.split plain
    exact ⟨front', back', there, plain'⟩

omit [Redaction.VisitingOrder] in
/-- Applying asks for the StatefulSet, for its creation with the reference to the owner, or for a patch
of the managed fields. -/
theorem Application.request_cases {tr : List Exchange} {outcome : Except Fault Applied}
    (way : Application t owner tr outcome) {e : Exchange} (he : e ∈ tr) :
    e.request = .readSet t.ns t.name ∨
    (∃ reference, ownerReference owner = .ok reference ∧
      e.request = .createSet t.ns (t.body reference)) ∨
    ∃ live version,
      e.request = .patchSet t.ns t.name (Managed.guarded version (t.patchFields live)) := by
  cases way with
  | @creating message reference reply owned =>
    rcases List.mem_cons.mp he with rfl | he
    · exact Or.inl rfl
    · rw [List.mem_singleton.mp he]
      exact Or.inr (Or.inl ⟨reference, owned, rfl⟩)
  | @patching live version fields reply differ versioned =>
    rcases List.mem_cons.mp he with rfl | he
    · exact Or.inl rfl
    · obtain ⟨_, rfl⟩ := patch?_eq_some_iff.mp differ
      rw [List.mem_singleton.mp he]
      exact Or.inr (Or.inr ⟨live, version, rfl⟩)
  | _ =>
    rw [List.mem_singleton.mp he]
    exact Or.inl rfl

theorem body_of_makes {c : Context} {place body : Json}
    (creation : ((Pass.apply t owner).start c).Makes (.createSet place body)) :
    ∃ reference, ownerReference owner = .ok reference ∧ body = t.body reference := by
  obtain ⟨tr, ⟨outcome, after⟩, ends, e, he, asked⟩ := creation.ends
  obtain ⟨way, _⟩ := Pass.Ends.of_apply ends
  rcases way.request_cases he with same | ⟨reference, owned, same⟩ | ⟨_, _, same⟩
  · cases asked.symm.trans same
  · cases asked.symm.trans same
    exact ⟨reference, owned, rfl⟩
  · cases asked.symm.trans same

/-- A pass sends no patch that names references. -/
theorem modest_of_makes {δ : Type} {s : Settings δ} {name place called : Json} {c : Context}
    (patching : ((Pass.reconcile s ns name).start c).Makes (.patchSet place called patch)) :
    Modest patch := by
  obtain ⟨tr, ⟨outcome, after⟩, ends, e, he, asked⟩ := patching.ends
  have no_status : ¬ e.request.IsStatus := by
    rintro ⟨_, _, _, same⟩
    cases asked.symm.trans same
  rcases Pass.Ends.asks_of_reconcile ends with ⟨reply, rest, rfl, statuses, _⟩ |
    ⟨resource, t, applying, applied, rest, rfl, _, way, statuses, _⟩
  · rcases List.mem_cons.mp he with rfl | he
    · cases asked
    · exact absurd (statuses e he) no_status
  · rcases List.mem_cons.mp he with rfl | he
    · cases asked
    rcases List.mem_append.mp he with he | he
    · rcases way.request_cases he with same | ⟨_, _, same⟩ | ⟨live, version, same⟩
      · cases asked.symm.trans same
      · cases asked.symm.trans same
      · cases asked.symm.trans same
        exact modest_guarded t live version
    · exact absurd (statuses e he) no_status

/-- Every version leads back to the owner. -/
theorem Lineage.refers (h : Lineage owner object) :
    ∃ ns reference, ownerReference owner = .ok reference ∧ Refers ns reference object := by
  induction h with
  | @created t c ns body stored creation kept =>
    obtain ⟨reference, owned, rfl⟩ := body_of_makes creation
    exact ⟨t.ns, reference, owned, (refers_body t reference).succeeds kept⟩
  | patched earlier patching kept ih =>
    obtain ⟨ns, reference, owned, refers⟩ := ih
    exact ⟨ns, reference, owned, (refers.merge (modest_of_makes patching)).succeeds kept⟩
  | edited earlier kept ih =>
    obtain ⟨ns, reference, owned, refers⟩ := ih
    exact ⟨ns, reference, owned, refers.succeeds kept⟩

theorem Lineage.succeeds (h : Lineage owner object) : ∃ written, Succeeds written object := by
  cases h with
  | created _ kept | patched _ _ kept | edited _ kept => exact ⟨_, kept⟩

omit [Redaction.VisitingOrder] in
theorem Refers.controllerOf (refers : Refers ns reference object) (there : HasMetadata object)
    (controls : isController reference = .ok true) :
    controllerOf object = .ok (some reference) := by
  obtain ⟨metadata, readable⟩ := there.metadataIn
  obtain ⟨front, back, references, plain⟩ := refers.references
  have items : ((some (Json.arr (front ++ reference :: back))).getD .null).orElse (.arr []) =
      .arr (front ++ reference :: back) := by
    cases front <;> rfl
  rw [controllerOf_eq readable, references, items]
  exact findController_append (fun other he => (plain other he).isController) controls

/-- Every version of a StatefulSet that was created for a resource is controlled by the reference to
it. A bound dispatcher answers a change of it with one request for a pass of the resource, told apart
by the version, and no error of the operator escapes. -/
theorem Lineage.change_requests_pass {name : Json} (group : OfGroup owner)
    (named : owner.path? ["metadata", "name"] = some name) (h : Lineage owner object) :
    ∃ reference ns version, ownerReference owner = .ok reference ∧
      controllerOf object = .ok (some reference) ∧
      object.path? ["metadata", "namespace"] = some ns ∧
      object.path? ["metadata", "resourceVersion"] = some version ∧
      ∀ {δ : Type} (d : Dispatcher δ) (given : Json) (c c' : Context) (tr : List Exchange)
        (outcome : Except Fault (Handled δ)), d.isBound = true →
        given.truthy = false ∨ given = ns →
        Pass.Ends (d.handleSet object given) c tr outcome c' →
        ∃ reply, tr = [⟨.annotate ns name (.obj [(Cluster.triggerKey, version)]), reply⟩] ∧
          (outcome = .ok .finished ∨
            ∃ fault, fault.isOperator = false ∧ reply = .error fault ∧ outcome = .error fault) := by
  obtain ⟨ns, reference, owned, refers⟩ := h.refers
  obtain ⟨written, kept⟩ := h.succeeds
  obtain ⟨version, versioned, truthy⟩ := kept.versioned
  obtain ⟨metadata, readable⟩ := kept.metadata.metadataIn
  have controlled := refers.controllerOf kept.metadata (isController_ownerReference group owned)
  refine ⟨reference, ns, version, owned, controlled, refers.namespaced, versioned, ?_⟩
  intro δ d given c c' tr outcome bound place ends
  have called : reference.get? "name" = some name := by
    rw [ownerReference_eq owned, named]
    rfl
  have trigger : triggerOf metadata = version := by
    rw [path?_of_metadataIn readable] at versioned
    rw [triggerOf, versioned, Option.getD_some, orElse, if_pos truthy]
  have space : eventNs given metadata = ns := by
    have namespaced := refers.namespaced
    rw [path?_of_metadataIn readable] at namespaced
    rw [eventNs, namespaced, Option.getD_some]
    rcases place with falsy | rfl
    · rw [if_neg (by simp [falsy])]
    · exact ite_self given
  obtain ⟨reply, rfl, ended⟩ := ends.of_handleSet_some bound controlled readable called
  refine ⟨reply, ?_, ended⟩
  rw [triggerRequest, space, trigger]

end

open Redaction.TokenFirst in
/-- A StatefulSet that was created, patched after its size was changed, and given another reference
in front of the one to its owner. -/
theorem Lineage.change_requests_pass_patched :
    let owner : Json := .obj
      [("metadata", .obj [("namespace", "swift"), ("name", "storage"), ("uid", "u-1")])]
    let other : Json := .obj [("apiVersion", "v1"), ("kind", "ConfigMap"), ("name", "defaults")]
    let reference : Json := .obj
      [("apiVersion", "swift.openstack.org/v1beta1"), ("kind", "SwiftStorage"),
       ("name", "storage"), ("uid", "u-1"), ("controller", .bool true),
       ("blockOwnerDeletion", .bool true)]
    let version (number : String) (references : List Json) : Json := .obj
      [("metadata", .obj [("namespace", "swift"), ("name", "storage"),
        ("resourceVersion", .str number), ("ownerReferences", .arr references)])]
    let object := version "3" [other, reference]
    let s : Settings Nat := ⟨8080, 30, 4, 1, 60, 2, 5, 300, ""⟩
    let d : Dispatcher Nat := { settings := s, reconciler := some s }
    Lineage owner object ∧ controllerOf object = .ok (some reference) ∧
      ∀ c c' tr outcome, Pass.Ends (d.handleSet object "swift") c tr outcome c' →
        ∃ reply, tr = [⟨.annotate "swift" "storage" (.obj [(Cluster.triggerKey, "3")]), reply⟩] := by
  intro owner other reference version object s d
  have group : OfGroup owner := by
    refine ⟨?_, ?_⟩ <;> rintro _ ⟨⟩
  have named : owner.path? ["metadata", "name"] = some "storage" := rfl
  let c : Context := ⟨0, {}, .off, [], []⟩
  let stored : Store := ⟨[(⟨"swift", "storage"⟩, owner)],
    [(⟨"swift", "storage"⟩, version "1" [reference])], 1⟩
  obtain ⟨t, _, place, creation, patching⟩ : ∃ t, Topology.ofResource owner = .ok t ∧
      t.ns = .str "swift" ∧
      ((Pass.apply t owner).start c).Makes (.createSet "swift" (t.body reference)) ∧
      ((Pass.reconcile s "swift" "storage").start c).Makes (.patchSet "swift" "storage"
        (Managed.guarded "1" (t.patchFields (version "1" [reference])))) := by
    refine ⟨_, rfl, rfl, ?_, ?_⟩
    · exact Calls.makes_of_run Store.answer ⟨[], [], 0⟩ (by decide +kernel)
    · exact Calls.makes_of_run Store.answer stored (by decide +kernel)
  have created : Lineage owner (version "1" [reference]) := by
    refine .created creation ⟨⟨_, rfl⟩, congrArg some place.symm, ⟨"1", rfl, rfl⟩, ?_⟩
    rintro old ⟨⟩
    exact ⟨_, rfl, .keep _ .nil⟩
  have patched : Lineage owner (version "2" [reference]) := by
    have modest := modest_of_makes patching
    refine .patched created patching ⟨⟨_, rfl⟩, ?_, ⟨"2", rfl, rfl⟩, ?_⟩
    · rw [modest.path?_merge (by simp)]
      rfl
    · rw [modest.path?_merge (by simp)]
      rintro old ⟨⟩
      exact ⟨_, rfl, .keep _ .nil⟩
  have lineage : Lineage owner object := by
    refine .edited patched ⟨⟨_, rfl⟩, rfl, ⟨"3", rfl, rfl⟩, ?_⟩
    rintro old ⟨⟩
    exact ⟨_, rfl, .join ⟨_, rfl, rfl⟩ (.keep _ .nil)⟩
  obtain ⟨_, _, _, owned, controlled, namespaced, versioned, handled⟩ :=
    lineage.change_requests_pass group named
  cases owned
  cases namespaced
  cases versioned
  refine ⟨lineage, controlled, ?_⟩
  intro c c' tr outcome ends
  obtain ⟨reply, eq, _⟩ := handled d "swift" c c' tr outcome rfl (Or.inr rfl) ends
  exact ⟨reply, eq⟩

end StorageController
