import StorageController.Proofs.Cluster.Turns
import StorageController.Cluster.Store

namespace StorageController

open Json

variable {σ : Type}

def versionIn (object : Json) : Json :=
  (object.path? ["metadata", "resourceVersion"]).getD .null

def Request.written? : Request → Option Identity
  | .createSet ns body => some ⟨ns, (body.path? ["metadata", "name"]).getD .null⟩
  | .patchSet ns name _ => some ⟨ns, name⟩
  | _ => none

/-- What may happen to the StatefulSets of a cluster: each is left alone, deleted, or stored with a
version that was not given before. -/
structure Evolves (set? : σ → Identity → Option Json) (issued : σ → Json → Prop)
    (before after : σ) : Prop where
  keeps : ∀ version, issued before version → issued after version
  fresh : ∀ id, set? after id = set? before id ∨
    ∀ object, set? after id = some object →
      ∀ version, issued before version → version.same (versionIn object) = false

/-- A cluster whose StatefulSets, given by `set?`, carry versions; `issued` are those given so far. -/
structure Versioned (answer : Request → σ → Reply × σ) (set? : σ → Identity → Option Json)
    (issued : σ → Json → Prop) : Prop where
  readStorage : ∀ ns name s, (answer (.readStorage ns name) s).2 = s
  readSet : ∀ ns name s, (answer (.readSet ns name) s).2 = s
  found : ∀ ns name s object,
    (answer (.readSet ns name) s).1 = .ok object → set? s ⟨ns, name⟩ = some object
  given : ∀ s id object, set? s id = some object → issued s (versionIn object)
  stale : ∀ ns name patch s version object, set? s ⟨ns, name⟩ = some object →
    patch.path? ["metadata", "resourceVersion"] = some version → version.truthy = true →
    version.same (versionIn object) = false →
    ∃ message, answer (.patchSet ns name patch) s = (.error (.conflict message), s)
  absent : ∀ ns name patch s, set? s ⟨ns, name⟩ = none →
    (answer (.patchSet ns name patch) s).2 = s
  taken : ∀ ns body s id object, (Request.createSet ns body).written? = some id →
    set? s id = some object →
    ∃ message, answer (.createSet ns body) s = (.error (.conflict message), s)

variable {set? : σ → Identity → Option Json} {issued : σ → Json → Prop} {s s' : σ}

theorem Evolves.refl (s : σ) : Evolves set? issued s s :=
  ⟨fun _ given => given, fun _ => Or.inl rfl⟩

/-- What happened to a StatefulSet since a version was given: nothing, or it has another version. -/
theorem Evolves.same_or_stale {id : Identity} {object : Json} (h : Evolves set? issued s s')
    (given : issued s (versionIn object)) (before : set? s id = some object) :
    set? s' id = some object ∨ set? s' id = none ∨
      ∃ other, set? s' id = some other ∧ (versionIn object).same (versionIn other) = false := by
  rcases h.fresh id with same | fresh
  · exact Or.inl (same.trans before)
  · cases present : set? s' id with
    | none => exact Or.inr (Or.inl rfl)
    | some other => exact Or.inr (Or.inr ⟨other, rfl, fresh other present _ given⟩)

end StorageController
