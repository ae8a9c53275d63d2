import StorageController.Proofs.Pass.Landing

namespace StorageController

open Json

variable {σ : Type}

/-- A storage resource as it is stored after a note was put on it. -/
structure Noted (object stored : Json) : Prop extends KeepsDeclared object stored where
  status : stored.get? "status" = object.get? "status"

/-- A cluster that puts notes on the storage resources that are there. -/
structure Noting (answer : Request → σ → Reply × σ) (storage? set? : σ → Identity → Option Json) :
    Prop where
  annotate : ∀ ns name notes s object, storage? s ⟨ns, name⟩ = some object →
    ∃ reply stored s', answer (.annotate ns name notes) s = (.ok reply, s') ∧ Noted object stored ∧
      (∀ i, storage? s' i = if i = ⟨ns, name⟩ then some stored else storage? s i) ∧
      ∀ i, set? s' i = set? s i

/-- A note on the resource of a StatefulSet in sync succeeds, and the resource stays declared. -/
theorem Noting.beside {answer : Request → σ → Reply × σ}
    {storage? set? : σ → Identity → Option Json} {ns name : Json} {t : Topology} {s : σ}
    (server : Noting answer storage? set?) (synced : Synced set? t s)
    (declared : Declared storage? ns name t s) (notes : Json) :
    ∃ reply s', answer (.annotate ns name notes) s = (.ok reply, s') ∧
      Beside storage? set? ns name t s s' := by
  obtain ⟨resource, stored, owned, staying, accepted⟩ := declared
  obtain ⟨reply, after, s', written, noted, storages, sets⟩ :=
    server.annotate ns name notes s resource stored
  refine ⟨reply, s', written, .of_synced synced sets fun _ => ?_⟩
  obtain ⟨metadata, hm⟩ := owned.metadata
  obtain ⟨others, hm', _⟩ := noted.metadata metadata hm
  obtain ⟨deletion, declares⟩ := noted.toKeepsDeclared.declares owned
  refine ⟨after, (storages _).trans (if_pos rfl), ⟨⟨others, hm'⟩, ?_⟩, ?_, ?_⟩
  · rw [noted.status]
    exact owned.status
  · rw [deletion, staying]
  · rw [declares, accepted]

namespace Store

theorem noting : Noting answer storage? set? where
  annotate := by
    intro ns name notes s object present
    replace present : s.storages.get? _ = some object := present
    rw [answer, patchStorage, present]
    refine ⟨_, _, _, rfl, ⟨⟨?_, ?_⟩, ?_⟩, fun i => storage?_putStorage _ _ i _, fun _ => rfl⟩
    · rw [get?_setPath, if_neg (by decide)]
    · intro fields h
      refine ⟨_, by rw [get?_setPath, if_pos rfl, h, Option.getD_some, setPath, members], ?_⟩
      intro key mem
      rw [lookup_setField, if_neg]
      rintro rfl
      simp [declaredKeys] at mem
    · rw [get?_setPath, if_neg (by decide)]

end Store

end StorageController
