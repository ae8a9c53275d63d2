import StorageController.Proofs.Cluster.Renumbering

namespace StorageController

open Json

variable {α β δ : Type} {i : Identity} {resource other : Json} {metadata metadata' : Fields}

theorem Pass.ok_bind (a : α) (f : α → Pass β) : (ofExcept (.ok a) >>= f) = f a := rfl

/-- The resource bears the identity in its metadata, with a namespace that stands for something. -/
structure Named (i : Identity) (resource : Json) : Prop where
  own : Store.identityOf resource = i
  ns : i.ns.truthy = true

theorem Named.found (h : Named i resource) :
    ∃ metadata, resource.get? "metadata" = some (.obj metadata) ∧
      metadata.lookup "namespace" = some i.ns ∧
      (metadata.lookup "name").getD .null = i.name := by
  obtain ⟨rfl, ns⟩ := h
  rw [Store.identityOf, Pass.path?_pair, Pass.path?_pair] at ns ⊢
  cases found : resource.get? "metadata" with
  | none =>
    rw [found] at ns
    cases ns
  | some metadata =>
    rw [found] at ns
    cases metadata with
    | obj metadata =>
      refine ⟨metadata, rfl, ?_, rfl⟩
      change ((metadata.lookup "namespace").getD .null).truthy = true at ns
      change metadata.lookup "namespace" = some ((metadata.lookup "namespace").getD .null)
      cases there : metadata.lookup "namespace" with
      | none =>
        rw [there] at ns
        cases ns
      | some value => rfl
    | _ => cases ns

/-- Two resources with metadata that differ in the version at most. -/
structure Twins (resource other : Json) (metadata metadata' : Fields) : Prop where
  left : resource.get? "metadata" = some (.obj metadata)
  right : other.get? "metadata" = some (.obj metadata')
  inside : ∀ key, key ≠ "resourceVersion" → metadata.lookup key = metadata'.lookup key
  beside : ∀ key, key ≠ "metadata" → resource.get? key = other.get? key

theorem Renumbered.twins (h : Renumbered resource other) (named : Named i resource) :
    ∃ metadata metadata', Twins resource other metadata metadata' ∧
      metadata.lookup "namespace" = some i.ns := by
  obtain ⟨metadata, left, ns, _⟩ := named.found
  obtain ⟨metadata', right, _⟩ := Named.found (i := i) ⟨h.identityOf ▸ named.own, named.ns⟩
  refine ⟨metadata, metadata', ⟨left, right, ?_, fun key other => h.get? other⟩, ns⟩
  intro key other
  have same := h.path?_metadata other
  rwa [Pass.path?_pair, Pass.path?_pair, left, right] at same

variable [Redaction.VisitingOrder]

namespace Twins

omit [Redaction.VisitingOrder] in
theorem metadataIn (h : Twins resource other metadata metadata') :
    Pass.metadataIn resource = .ok (.obj metadata) ∧
      Pass.metadataIn other = .ok (.obj metadata') := by
  obtain ⟨fields, rfl, mem⟩ := eq_obj_of_get? h.left
  obtain ⟨fields', rfl, mem'⟩ := eq_obj_of_get? h.right
  exact ⟨Pass.lookupOr_metadata mem, Pass.lookupOr_metadata mem'⟩

theorem log (h : Twins resource other metadata metadata') (kind : String) (report : Pass.Report)
    (further : Fields) :
    Pass.log kind (.obj metadata) report further =
      Pass.log kind (.obj metadata') report further := by
  have named : Pass.identity (.obj metadata) = Pass.identity (.obj metadata') := by
    change Except.ok _ = Except.ok _
    rw [h.inside _ (by decide), h.inside _ (by decide), h.inside _ (by decide)]
  rw [Pass.log, Pass.log, named]

theorem writeStatus (h : Twins resource other metadata metadata') (status : Json)
    (directive : Directive δ) :
    Pass.writeStatus resource status directive = Pass.writeStatus other status directive := by
  simp only [Pass.writeStatus, h.metadataIn, Pass.ok_bind, Pass.lookupD_obj,
    h.inside "namespace" (by decide), h.inside "name" (by decide), Pass.logInfo, Pass.logFault, h.log]

theorem reportInvalid (h : Twins resource other metadata metadata') (conditions : Json)
    (fault : Fault) :
    (Pass.reportInvalid resource conditions fault : Pass (Directive δ)) =
      Pass.reportInvalid other conditions fault := by
  simp only [Pass.reportInvalid, h.metadataIn, Pass.ok_bind, Pass.lookupOr_obj,
    h.inside "generation" (by decide), Pass.logFault, h.log, h.writeStatus]

theorem directiveFor (h : Twins resource other metadata metadata') (s : Settings δ)
    (applied : Applied) :
    Pass.directiveFor s resource applied = Pass.directiveFor s other applied := by
  simp only [Pass.directiveFor, h.metadataIn, Pass.ok_bind, Pass.lookupD_obj,
    h.inside "name" (by decide)]

omit [Redaction.VisitingOrder] in
theorem ownerReference (h : Twins resource other metadata metadata') :
    Ownership.ownerReference resource = Ownership.ownerReference other := by
  have version := h.beside "apiVersion" (by decide)
  have kind := h.beside "kind" (by decide)
  obtain ⟨fields, rfl, mem⟩ := eq_obj_of_get? h.left
  obtain ⟨fields', rfl, mem'⟩ := eq_obj_of_get? h.right
  rw [get?, get?] at version kind
  rw [ownerReference_obj mem, ownerReference_obj mem', version, kind, h.inside _ (by decide),
    h.inside _ (by decide)]

theorem apply (h : Twins resource other metadata metadata') (t : Topology) :
    Pass.apply t resource = Pass.apply t other := by
  simp only [Pass.apply, Pass.createSet, h.ownerReference]

theorem applyAndReport (h : Twins resource other metadata metadata') (s : Settings δ)
    (conditions : Json) (t : Topology) :
    Pass.applyAndReport s resource conditions t = Pass.applyAndReport s other conditions t := by
  simp only [Pass.applyAndReport, h.apply, h.directiveFor, h.writeStatus]

omit [Redaction.VisitingOrder] in
theorem ofResource (h : Twins resource other metadata metadata') :
    Topology.ofResource resource = Topology.ofResource other := by
  refine Topology.ofResource_congr h.left h.right (h.beside "spec" (by decide)) ?_
  intro key mem
  refine h.inside key ?_
  rintro rfl
  simp at mem

omit [Redaction.VisitingOrder] in
theorem status (h : Twins resource other metadata metadata') :
    resource.lookupOr "status" (.obj []) = other.lookupOr "status" (.obj []) := by
  have same := h.beside "status" (by decide)
  obtain ⟨fields, rfl, mem⟩ := eq_obj_of_get? h.left
  obtain ⟨fields', rfl, mem'⟩ := eq_obj_of_get? h.right
  rw [get?, get?] at same
  rw [Pass.lookupOr_obj, Pass.lookupOr_obj, same]

end Twins

omit [Redaction.VisitingOrder] in
theorem lookupOr_nonempty {identity : Json} {key : String} {value : Json}
    (h : resource.get? "metadata" = some (.obj metadata)) (some : metadata.lookup key = .some value) :
    resource.lookupOr "metadata" identity = .ok (.obj metadata) := by
  obtain ⟨fields, rfl, mem⟩ := eq_obj_of_get? h
  rw [Pass.lookupOr_obj, mem]
  cases metadata with
  | nil => cases some
  | cons field rest => rfl

/-- A pass over a resource does not look at its version. -/
theorem Renumbered.reconcileResource (h : Renumbered resource other) (named : Named i resource)
    (s : Settings δ) (identity : Json) :
    Pass.reconcileResource s identity resource = Pass.reconcileResource s identity other := by
  obtain ⟨metadata, metadata', twins, ns⟩ := h.twins named
  have left : resource.lookupOr "metadata" identity = .ok (.obj metadata) :=
    lookupOr_nonempty twins.left ns
  have right : other.lookupOr "metadata" identity = .ok (.obj metadata') :=
    lookupOr_nonempty twins.right ((twins.inside _ (by decide)).symm.trans ns)
  simp only [Pass.reconcileResource, left, right, Pass.ok_bind, Pass.lookupD_obj,
    twins.inside "deletionTimestamp" (by decide), twins.status, twins.ofResource, twins.applyAndReport,
    twins.reportInvalid, Pass.logInfo, twins.log]

end StorageController
