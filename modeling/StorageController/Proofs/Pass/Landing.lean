import StorageController.Proofs.Cluster.Store

namespace StorageController

open Json

variable {δ σ : Type} {answer : Request → σ → Reply × σ}
  {storage? set? : σ → Identity → Option Json} {ns name : Json} {t : Topology} {resource : Json}
  {others : σ → σ → Prop} {s s' : σ}

theorem wellFormed_body {reference : Json} (owned : StorageShaped resource)
    (wf : resource.wellFormed = true) (accepted : Topology.ofResource resource = .ok t)
    (referred : Ownership.ownerReference resource = .ok reference) :
    (t.body reference).wellFormed = true := by
  obtain ⟨fields, metadata, rfl, hm⟩ := owned.obj
  have inside := ((wellFormed_obj fields).mp wf).2 _ (mem_of_lookup hm)
  have ns : t.ns.wellFormed = true := by
    have member : (Json.obj fields).get? "metadata" = some (.obj metadata) := hm
    rw [Topology.ns_of_ofResource member accepted, orElse]
    split
    · exact wellFormed_getD inside rfl
    · rfl
  have members : reference.wellFormed = true := by
    cases (ownerReference_obj hm).symm.trans referred
    rw [wellFormed_obj]
    refine ⟨by simp, ?_⟩
    simp only [List.forall_mem_cons]
    exact ⟨wellFormed_getD wf rfl, wellFormed_getD wf rfl, wellFormed_getD inside rfl,
      wellFormed_getD inside rfl, rfl, rfl, by simp⟩
  exact wellFormed_withMetadata ns (by simp) (by simpa using members)

/-- The resource is declared in the state, is not being deleted, and its topology is `t`. -/
def Declared (storage? : σ → Identity → Option Json) (ns name : Json) (t : Topology) (s : σ) :
    Prop :=
  ∃ resource, storage? s ⟨ns, name⟩ = some resource ∧ StorageShaped resource ∧
    deleting resource = false ∧ Topology.ofResource resource = .ok t

/-- The StatefulSet of the topology is there and in sync. -/
def Synced (set? : σ → Identity → Option Json) (t : Topology) (s : σ) : Prop :=
  ∃ live, set? s ⟨t.ns, t.name⟩ = some live ∧ SetShaped live ∧ InSync t live

/-- A state in which the topology can be applied: what is missing can be created, and what is there
is in sync or can be patched. -/
structure Applicable (set? : σ → Identity → Option Json) (t : Topology) (resource : Json) (s : σ) :
    Prop where
  absent : set? s ⟨t.ns, t.name⟩ = none → resource.wellFormed = true
  present : ∀ live, set? s ⟨t.ns, t.name⟩ = some live →
    SetShaped live ∧ (InSync t live ∨ live.wellFormed = true)

theorem applicable_of_synced (h : Synced set? t s) : Applicable set? t resource s := by
  obtain ⟨live, present, shaped, sync⟩ := h
  constructor
  · intro absent
    cases absent.symm.trans present
  · intro other there
    cases present.symm.trans there
    exact ⟨shaped, Or.inl sync⟩

theorem Synced.of_sets (sets : ∀ i, set? s' i = set? s i) (h : Synced set? t s) :
    Synced set? t s' := by
  obtain ⟨live, present, shaped, sync⟩ := h
  exact ⟨live, (sets _).trans present, shaped, sync⟩

/-- The resource is declared, and its topology can be applied. -/
def Ready (storage? set? : σ → Identity → Option Json) (ns name : Json) (t : Topology) (s : σ) :
    Prop :=
  ∃ resource, storage? s ⟨ns, name⟩ = some resource ∧ StorageShaped resource ∧
    deleting resource = false ∧ Topology.ofResource resource = .ok t ∧
    Applicable set? t resource s

theorem Ready.declared (h : Ready storage? set? ns name t s) : Declared storage? ns name t s := by
  obtain ⟨resource, stored, owned, staying, accepted, _⟩ := h
  exact ⟨resource, stored, owned, staying, accepted⟩

theorem Declared.ready (h : Declared storage? ns name t s) (synced : Synced set? t s) :
    Ready storage? set? ns name t s := by
  obtain ⟨resource, stored, owned, staying, accepted⟩ := h
  exact ⟨resource, stored, owned, staying, accepted, applicable_of_synced synced⟩

theorem Declared.of_storages (storages : ∀ i, storage? s' i = storage? s i)
    (h : Declared storage? ns name t s) : Declared storage? ns name t s' := by
  obtain ⟨resource, stored, rest⟩ := h
  exact ⟨resource, (storages _).trans stored, rest⟩

/-- What may happen beside a pass: no StatefulSet is written, and the resource stays ready. -/
structure Beside (storage? set? : σ → Identity → Option Json) (ns name : Json) (t : Topology)
    (s s' : σ) : Prop where
  sets : ∀ i, set? s' i = set? s i
  ready : Ready storage? set? ns name t s → Ready storage? set? ns name t s'

theorem Beside.refl (s : σ) : Beside storage? set? ns name t s s :=
  ⟨fun _ => rfl, id⟩

theorem Beside.trans {s'' : σ} (h : Beside storage? set? ns name t s s')
    (further : Beside storage? set? ns name t s' s'') : Beside storage? set? ns name t s s'' :=
  ⟨fun i => (further.sets i).trans (h.sets i), further.ready ∘ h.ready⟩

/-- Where the StatefulSet is in sync, keeping the resource declared is enough. -/
theorem Beside.of_synced (synced : Synced set? t s) (sets : ∀ i, set? s' i = set? s i)
    (declared : Declared storage? ns name t s → Declared storage? ns name t s') :
    Beside storage? set? ns name t s s' :=
  ⟨sets, fun ready => (declared ready.declared).ready (synced.of_sets sets)⟩

theorem Beside.synced_iff (h : Beside storage? set? ns name t s s') :
    Synced set? t s' ↔ Synced set? t s :=
  ⟨.of_sets fun i => (h.sets i).symm, .of_sets h.sets⟩

/-- The write of the StatefulSet of a topology: its creation for a resource that declares the
topology, or a patch of the managed fields. -/
inductive Writes (t : Topology) : Request → Prop
  | create {resource reference : Json} (accepted : Topology.ofResource resource = .ok t)
      (referred : Ownership.ownerReference resource = .ok reference) :
      Writes t (.createSet t.ns (t.body reference))
  | patch (live version : Json) :
      Writes t (.patchSet t.ns t.name (Managed.guarded version (t.patchFields live)))

def Request.noted? : Request → Option Identity
  | .annotate ns name _ => some ⟨ns, name⟩
  | _ => none

/-- A turn of a pass. It writes no StatefulSet and keeps the resource ready, or it is the write that
brings the StatefulSet in sync; nothing is annotated. -/
inductive Orderly (storage? set? : σ → Identity → Option Json) (ns name : Json) (t : Topology) :
    Turn σ → Prop
  | aside {turn : Turn σ} (unwritten : turn.exchange.request.written? = none)
      (unnoted : turn.exchange.request.noted? = none)
      (beside : Beside storage? set? ns name t turn.before turn.after) :
      Orderly storage? set? ns name t turn
  | write {turn : Turn σ} {object : Json} (writes : Writes t turn.exchange.request)
      (answered : turn.exchange.reply = .ok object) (unsynced : ¬ Synced set? t turn.before)
      (synced : Synced set? t turn.after)
      (ready : Ready storage? set? ns name t turn.before → Ready storage? set? ns name t turn.after) :
      Orderly storage? set? ns name t turn

/-- What applying a topology does at a cluster that settles: afterwards the StatefulSet is in sync,
and it is not written if it was so before. -/
structure Landed (answer : Request → σ → Reply × σ) (storage? set? : σ → Identity → Option Json)
    (ns name : Json) (t : Topology) (others : σ → σ → Prop) (rest : List Exchange)
    (applied : Except Fault Applied) (before after last : σ) (front later : List (Turn σ)) :
    Prop where
  further : Turns answer others after later last
  later_eq : later.map Turn.exchange = rest
  shaped : ∀ turn ∈ front, turn.exchange.Shaped
  orderly : ∀ turn ∈ front, Orderly storage? set? ns name t turn
  well : ∃ a, applied = .ok a ∧ a.fault? = none
  synced : Synced set? t after
  ready : Ready storage? set? ns name t before → Ready storage? set? ns name t after
  unchanged : Synced set? t before → ∃ live, applied = .ok (.unchanged live)

theorem orderly_readSet (server : Settling answer storage? set?) (place called : Json) (s : σ) :
    Orderly storage? set? ns name t (Turn.of answer (.readSet place called) s) := by
  refine .aside rfl rfl ?_
  change Beside storage? set? ns name t s (answer (.readSet place called) s).2
  rw [server.readSet_state]
  exact .refl s

theorem ready_of_write (storages : ∀ i, storage? s' i = storage? s i) (synced : Synced set? t s')
    (ready : Ready storage? set? ns name t s) : Ready storage? set? ns name t s' :=
  (ready.declared.of_storages storages).ready synced

/-- A write that brings a StatefulSet in sync that was not so. -/
structure Lands (answer : Request → σ → Reply × σ) (storage? set? : σ → Identity → Option Json)
    (t : Topology) (request : Request) (s : σ) : Prop where
  writes : Writes t request
  unsynced : ¬ Synced set? t s
  served : ∃ object s', answer request s = (.ok object, s') ∧ SetShaped object ∧
    Synced set? t s' ∧ ∀ i, storage? s' i = storage? s i

theorem lands_create {reference : Json} (server : Settling answer storage? set?)
    (absent : set? s ⟨t.ns, t.name⟩ = none) (wf : (t.body reference).wellFormed = true)
    (accepted : Topology.ofResource resource = .ok t)
    (referred : Ownership.ownerReference resource = .ok reference) :
    Lands answer storage? set? t (.createSet t.ns (t.body reference)) s where
  writes := .create accepted referred
  unsynced := by
    rintro ⟨live, present, _⟩
    cases absent.symm.trans present
  served := by
    obtain ⟨answered, stored, s', creation, shaped, there, settles, storages⟩ :=
      server.create t.ns (t.body reference) _ s rfl absent wf (setShaped_body t reference)
    exact ⟨answered, s', creation, shaped,
      ⟨stored, there, settles.shaped, settles.inSync (inSync_body t reference)⟩, storages⟩

theorem lands_patch {live version : Json} (server : Settling answer storage? set?)
    (present : set? s ⟨t.ns, t.name⟩ = some live) (shaped : SetShaped live)
    (wf : live.wellFormed = true) (unsynced : ¬ InSync t live)
    (versioned : Pass.versionOf live = .ok version) :
    Lands answer storage? set? t
      (.patchSet t.ns t.name (Managed.guarded version (t.patchFields live))) s where
  writes := .patch live version
  unsynced := by
    rintro ⟨other, there, _, synced⟩
    cases present.symm.trans there
    exact unsynced synced
  served := by
    obtain ⟨fields, metadata, rfl, hm⟩ := shaped.obj
    cases (versionOf_obj hm).symm.trans versioned
    have inside := ((wellFormed_obj fields).mp wf).2 _ (mem_of_lookup hm)
    obtain ⟨answered, stored, s', merged, shaped', there, settles, storages⟩ :=
      server.patch t.ns t.name (Managed.guarded _ (t.patchFields _)) _ s present
        (current_guarded hm) wf (wellFormed_guarded (wellFormed_getD inside rfl))
        (setShaped_merge_guarded shaped)
    have synced := settles.inSync (inSync_iff.mpr (isSubset_merge_guarded hm))
    exact ⟨answered, s', merged, shaped', ⟨stored, there, settles.shaped, synced⟩, storages⟩

/-- The StatefulSet is read, and then a write of it lands. -/
theorem landed_of_write {found reply : Reply} {request : Request} {done : Json → Applied}
    {attempt : Option (Json × Json)} {rest : List Exchange} {turns : List (Turn σ)} {before last : σ}
    (server : Settling answer storage? set?) (run : Turns answer others before turns last)
    (beside : ∀ s s', others s s' → Beside storage? set? ns name t s s')
    (eq : turns.map Turn.exchange = ⟨.readSet t.ns t.name, found⟩ :: ⟨request, reply⟩ :: rest)
    (well : ∀ object, (done object).fault? = none)
    (lands : ∀ b b', (answer (.readSet t.ns t.name) b).1 = found → (∀ i, set? b' i = set? b i) →
      (∀ i, set? b' i = set? before i) →
      Exchange.Shaped ⟨.readSet t.ns t.name, found⟩ ∧ Lands answer storage? set? t request b') :
    ∃ after front later, turns = front ++ later ∧
      Landed answer storage? set? ns name t others rest (Applied.ofWrite done attempt reply) before
        after last front later := by
  obtain ⟨b, reading, act, read, rfl, eq₁, run₁⟩ := run.uncons eq
  rw [server.readSet_state] at run₁
  obtain ⟨b', later, act', written, rfl, eq₂, run₂⟩ := run₁.uncons eq₁
  have meanwhile := (beside _ _ act).trans (beside _ _ act')
  obtain ⟨shaped, lands⟩ := lands b b' read (beside _ _ act').sets meanwhile.sets
  obtain ⟨object, s', served, shaped', synced, storages⟩ := lands.served
  rw [served] at written run₂
  obtain rfl : reply = .ok object := written.symm
  refine ⟨s', [_, _], later, rfl, run₂, eq₂, ?_, ?_, ⟨_, rfl, well object⟩, synced,
    fun ready => ready_of_write storages synced (meanwhile.ready ready),
    fun no => absurd (meanwhile.synced_iff.mpr no) lands.unsynced⟩
  · rw [Turn.of_eq served]
    refine List.forall_mem_cons.mpr ⟨?_, List.forall_mem_singleton.mpr ?_⟩
    · rw [Turn.of, read]
      exact shaped
    · cases lands.writes <;> exact shaped'
  · rw [Turn.of_eq served]
    exact List.forall_mem_cons.mpr ⟨orderly_readSet server _ _ b, List.forall_mem_singleton.mpr
      (.write lands.writes rfl lands.unsynced synced (ready_of_write storages synced))⟩

theorem landed_of_application {turns : List (Turn σ)} {applying rest : List Exchange}
    {applied : Except Fault Applied} {before last : σ}
    (server : Settling answer storage? set?) (run : Turns answer others before turns last)
    (beside : ∀ s s', others s s' → Beside storage? set? ns name t s s')
    (eq : turns.map Turn.exchange = applying ++ rest)
    (way : Application t resource applying applied) (owned : StorageShaped resource)
    (accepted : Topology.ofResource resource = .ok t)
    (applicable : Applicable set? t resource before) :
    ∃ after front later, turns = front ++ later ∧
      Landed answer storage? set? ns name t others rest applied before after last front later := by
  cases way with
  | unread missing =>
    obtain ⟨_, later, _, read, _⟩ := run.uncons eq
    obtain ⟨_, message, rfl⟩ := server.set?_of_readSet_error read
    exact absurd rfl (missing message)
  | unowned referred =>
    obtain ⟨fields, metadata, rfl, hm⟩ := owned.obj
    cases (ownerReference_obj hm).symm.trans referred
  | @creating message reference reply referred =>
    refine landed_of_write server run beside eq (fun _ => rfl) fun b b' read same kept => ?_
    obtain ⟨missing, _⟩ := server.set?_of_readSet_error read
    have absent := (same _).trans missing
    have wf := wellFormed_body owned (applicable.absent ((kept _).symm.trans absent)) accepted referred
    exact ⟨rfl, lands_create server absent wf accepted referred⟩
  | @unchanged live same =>
    obtain ⟨b, later, act, read, rfl, eq₁, run₁⟩ := run.uncons eq
    rw [server.readSet_state] at run₁
    have present := server.set?_of_readSet read
    have meanwhile := beside _ _ act
    obtain ⟨shaped, _⟩ := applicable.present live ((meanwhile.sets _).symm.trans present)
    obtain ⟨fields, metadata, rfl, _⟩ := shaped.obj
    have synced : InSync t (.obj fields) := inSync_iff.mpr (patch?_eq_none_iff.mp same)
    refine ⟨b, [_], later, rfl, run₁, eq₁, ?_, ?_, ⟨_, rfl, rfl⟩, ⟨_, present, shaped, synced⟩,
      meanwhile.ready, fun _ => ⟨_, rfl⟩⟩
    · refine List.forall_mem_singleton.mpr ?_
      rw [Turn.of, read]
      exact shaped
    · exact List.forall_mem_singleton.mpr (orderly_readSet server _ _ b)
  | @unversioned live fields fault differ versioned =>
    obtain ⟨b, later, act, read, _⟩ := run.uncons eq
    have present := server.set?_of_readSet read
    obtain ⟨shaped, _⟩ := applicable.present live (((beside _ _ act).sets _).symm.trans present)
    obtain ⟨fields, metadata, rfl, hm⟩ := shaped.obj
    cases (versionOf_obj hm).symm.trans versioned
  | @patching live version patch reply differ versioned =>
    refine landed_of_write server run beside eq (fun _ => rfl) fun b b' read same kept => ?_
    have present := (same _).trans (server.set?_of_readSet read)
    obtain ⟨shaped, wf⟩ := applicable.present live ((kept _).symm.trans present)
    obtain ⟨fields, metadata, rfl, _⟩ := shaped.obj
    -- A patch is only sent for an object out of sync, and then the object is known to be well-formed.
    have unsynced : ¬ InSync t (.obj fields) := by
      intro synced
      cases (patch?_of_inSync synced).symm.trans differ
    obtain ⟨_, rfl⟩ := patch?_eq_some_iff.mp differ
    exact ⟨shaped, lands_patch server present shaped (wf.resolve_left unsynced) unsynced versioned⟩

def StatusListed (status : Json) : Prop :=
  ∃ fields entries, status = .obj fields ∧ (fields.map (·.1)).Nodup ∧
    fields.lookup "conditions" = some (.arr entries) ∧ Condition.Entries entries

theorem AppliedStatus.listed [Redaction.VisitingOrder] {clock : Clock} {applied : Applied}
    {status : Json} (h : AppliedStatus clock resource t applied status)
    (entries : Condition.Entries (conditionsIn resource)) : StatusListed status := by
  obtain ⟨conditions, recorded, rfl⟩ := h
  obtain ⟨after, same, shaped⟩ := Condition.recordAll_entries clock.texts
    (appliedReports t (readyReplicas (applied.live?.getD .null)) applied) entries
  cases same.symm.trans recorded
  exact ⟨_, conditions, rfl, by simp, rfl, shaped⟩

/-- A resource as it is stored after a write that leaves its specification and the metadata alone by
which it is declared. -/
structure KeepsDeclared (object stored : Json) : Prop where
  spec : stored.get? "spec" = object.get? "spec"
  metadata : ∀ fields, object.get? "metadata" = some (.obj fields) →
    ∃ others, stored.get? "metadata" = some (.obj others) ∧
      ∀ key ∈ declaredKeys, others.lookup key = fields.lookup key

theorem KeepsDeclared.path?_metadata {stored : Json} {key : String}
    (kept : KeepsDeclared resource stored) (owned : StorageShaped resource) (h : key ∈ declaredKeys) :
    stored.path? ["metadata", key] = resource.path? ["metadata", key] := by
  obtain ⟨metadata, hm⟩ := owned.metadata
  obtain ⟨others, hm', same⟩ := kept.metadata metadata hm
  obtain ⟨_, rfl, mem⟩ := eq_obj_of_get? hm
  obtain ⟨_, rfl, mem'⟩ := eq_obj_of_get? hm'
  rw [StorageController.path?_metadata _ mem, StorageController.path?_metadata _ mem', same key h]

theorem KeepsDeclared.declares {stored : Json} (kept : KeepsDeclared resource stored)
    (owned : StorageShaped resource) : deleting stored = deleting resource ∧
      Topology.ofResource stored = Topology.ofResource resource := by
  obtain ⟨metadata, hm⟩ := owned.metadata
  obtain ⟨others, hm', same⟩ := kept.metadata metadata hm
  constructor
  · rw [deleting, deleting, kept.path?_metadata owned (by simp [declaredKeys])]
  · refine Topology.ofResource_congr hm' hm kept.spec ?_
    intro key hk
    refine same key ?_
    simp only [List.mem_cons, List.not_mem_nil, or_false] at hk
    rcases hk with rfl | rfl | rfl | rfl <;> simp [declaredKeys]

theorem StatusWritten.keepsDeclared {status stored : Json}
    (written : StatusWritten resource status stored) : KeepsDeclared resource stored :=
  ⟨written.spec, written.metadata⟩

theorem StatusWritten.path?_metadata {status stored : Json} {key : String}
    (written : StatusWritten resource status stored) (owned : StorageShaped resource)
    (h : key ∈ declaredKeys) :
    stored.path? ["metadata", key] = resource.path? ["metadata", key] :=
  written.keepsDeclared.path?_metadata owned h

theorem declared_of_statusWritten {status stored : Json}
    (written : StatusWritten resource status stored) (listed : StatusListed status)
    (owned : StorageShaped resource) :
    StorageShaped stored ∧ deleting stored = deleting resource ∧
      Topology.ofResource stored = Topology.ofResource resource := by
  obtain ⟨metadata, hm⟩ := owned.metadata
  obtain ⟨others, hm', _⟩ := written.metadata metadata hm
  obtain ⟨fields, entries, rfl, distinct, conditions, shaped⟩ := listed
  refine ⟨⟨⟨others, hm'⟩, ?_⟩, written.keepsDeclared.declares owned⟩
  intro after h
  cases written.status.symm.trans h
  rw [merge_obj]
  refine Or.inr ⟨_, rfl, ?_⟩
  intro value hv
  rw [lookup_mergeFields _ distinct, conditions] at hv
  cases hv
  exact Or.inr ⟨entries, by rw [merge]; simp, shaped⟩

/-- A write of a status beside a StatefulSet in sync: it succeeds, or its resource is gone; either way
the resource of the pass stays declared. -/
theorem beside_status {status : Json} (server : Settling answer storage? set?)
    (listed : StatusListed status) (synced : Synced set? t s) (place called : Json) :
    (Directive.done (δ := δ)).afterStatus (answer (.patchStatus place called status) s).1 = .done ∧
      Beside storage? set? ns name t s (answer (.patchStatus place called status) s).2 := by
  cases there : storage? s ⟨place, called⟩ with
  | none =>
    obtain ⟨message, refused⟩ := server.statusAbsent _ _ status s there
    rw [refused]
    exact ⟨rfl, .refl s⟩
  | some object =>
    obtain ⟨reply, after, s', written, change, storages, sets⟩ :=
      server.status _ _ status s object there
    rw [written]
    refine ⟨rfl, .of_synced synced sets ?_⟩
    rintro ⟨resource, stored, owned, staying, accepted⟩
    by_cases same : (⟨ns, name⟩ : Identity) = ⟨place, called⟩
    · rw [← same] at there
      cases there.symm.trans stored
      obtain ⟨owned', deletion, declares⟩ := declared_of_statusWritten change listed owned
      refine ⟨after, (storages _).trans (if_pos same), owned', ?_, ?_⟩
      · rw [deletion, staying]
      · rw [declares, accepted]
    · refine ⟨resource, ?_, owned, staying, accepted⟩
      rw [storages, if_neg same, stored]

theorem settled_of_status {status : Json} {reply : Reply} {last : σ} {turns : List (Turn σ)}
    (server : Settling answer storage? set?) (run : Turns answer others s turns last)
    (beside : ∀ s s', others s s' → Beside storage? set? ns name t s s')
    (eq : turns.map Turn.exchange = [⟨statusRequest resource status, reply⟩])
    (listed : StatusListed status) (synced : Synced set? t s) :
    (Directive.done (δ := δ)).afterStatus reply = .done ∧
      (∀ turn ∈ turns, Orderly storage? set? ns name t turn) ∧
      Beside storage? set? ns name t s last := by
  obtain ⟨b, rest, act, rfl, rfl, nothing, ending⟩ := run.uncons eq
  obtain rfl := List.map_eq_nil_iff.mp nothing
  have before := beside _ _ act
  obtain ⟨done, meanwhile⟩ : _ ∧ Beside storage? set? ns name t b
      (answer (statusRequest resource status) b).2 :=
    beside_status (δ := δ) server listed (before.synced_iff.mpr synced)
      ((resource.path? ["metadata", "namespace"]).getD "default")
      ((resource.path? ["metadata", "name"]).getD .null)
  cases ending with
  | done act' =>
    refine ⟨done, List.forall_mem_singleton.mpr (.aside rfl rfl meanwhile), ?_⟩
    exact (before.trans meanwhile).trans (beside _ _ act')

theorem shaped_of_statuses {turns : List (Turn σ)} {last : σ} {rest : List Exchange}
    (server : Settling answer storage? set?) (run : Turns answer others s turns last)
    (eq : turns.map Turn.exchange = rest) (statuses : ∀ e ∈ rest, e.request.IsStatus) :
    ∀ e ∈ rest, e.Shaped := by
  intro e he
  subst eq
  obtain ⟨turn, ht, rfl⟩ := List.mem_map.mp he
  have status := statuses _ he
  rw [run.of_mem turn ht] at status ⊢
  exact server.status_shaped status _

/-- The replies to a pass are errors of the operator's own or well-shaped objects, if the resource
that is read is ready. -/
theorem shaped_of_reconcile [Redaction.VisitingOrder] {settings : Settings δ} {c after : Context}
    {last : σ} {turns : List (Turn σ)} {outcome : Except Fault (Directive δ)}
    (server : Settling answer storage? set?) (run : Turns answer others s turns last)
    (beside : ∀ s s', others s s' → Beside storage? set? ns name t s s')
    (ends : (Pass.reconcile settings ns name).Ends c (turns.map Turn.exchange) outcome after)
    (ready : Ready storage? set? ns name t s) : ∀ e ∈ turns.map Turn.exchange, e.Shaped := by
  rcases ends.asks_of_reconcile with ⟨reply, rest, eq, areStatuses, _⟩ |
    ⟨other, t', applying, applied, rest, eq, accepted', way, areStatuses, _⟩
  · obtain ⟨b, later, act, read, _, eq', run'⟩ := run.uncons eq
    obtain ⟨resource, stored, owned, _⟩ := (beside _ _ act).ready ready
    rw [server.readStorage ns name b resource stored] at read
    rw [eq, ← read]
    exact List.forall_mem_cons.mpr ⟨owned, shaped_of_statuses server run' eq' areStatuses⟩
  · obtain ⟨b, later, act, read, _, eq', run'⟩ := run.uncons eq
    obtain ⟨resource, stored, owned, _, accepted, applicable⟩ := (beside _ _ act).ready ready
    rw [server.readStorage ns name b resource stored] at read run'
    cases read
    cases accepted.symm.trans accepted'
    obtain ⟨reached, front, later', rfl, landed⟩ :=
      landed_of_application server run' beside eq' way owned accepted applicable
    rw [eq, ← eq', List.map_append]
    refine List.forall_mem_cons.mpr ⟨owned, List.forall_mem_append.mpr ⟨?_, ?_⟩⟩
    · intro e he
      obtain ⟨turn, ht, rfl⟩ := List.mem_map.mp he
      exact landed.shaped turn ht
    · rw [landed.later_eq]
      exact shaped_of_statuses server landed.further landed.later_eq areStatuses

theorem Application.length_le {applying : List Exchange} {applied : Except Fault Applied}
    (way : Application t resource applying applied) : applying.length ≤ 2 := by
  cases way <;> simp

/-- One pass at a cluster that settles: it is done, the StatefulSet is in sync after it, and what it
does on the way is orderly. It applies nothing if it finds the StatefulSet in sync. -/
theorem orderly_of_reconcile [Redaction.VisitingOrder] {settings : Settings δ} {c after : Context}
    {last : σ} {turns : List (Turn σ)} {outcome : Except Fault (Directive δ)}
    (server : Settling answer storage? set?) (run : Turns answer others s turns last)
    (beside : ∀ s s', others s s' → Beside storage? set? ns name t s s')
    (ends : (Pass.reconcile settings ns name).Ends c (turns.map Turn.exchange) outcome after)
    (ready : Ready storage? set? ns name t s) :
    outcome = .ok .done ∧ Ready storage? set? ns name t last ∧ Synced set? t last ∧
      (∀ turn ∈ turns, Orderly storage? set? ns name t turn) ∧ turns.length ≤ 4 ∧
      (Synced set? t s → c.Applies ["unchanged"] after) := by
  have replies := shaped_of_reconcile server run beside ends ready
  obtain ⟨applied?, directive, rfl, round, applies⟩ := ends.of_reconcile replies
  have count : turns.length = (turns.map Turn.exchange).length := List.length_map _ |>.symm
  generalize eq : turns.map Turn.exchange = tr at round
  -- Whatever the way of the pass, its first turn reads the resource, which is ready by then.
  have first : ∃ reply rest, tr = ⟨.readStorage ns name, reply⟩ :: rest := by
    cases round <;> exact ⟨_, _, rfl⟩
  obtain ⟨reply, rest, rfl⟩ := first
  obtain ⟨b, later, act, read, rfl, eq', run'⟩ := run.uncons eq
  have meanwhile := beside _ _ act
  obtain ⟨resource, stored, owned, staying, accepted, applicable⟩ := meanwhile.ready ready
  have reading := server.readStorage ns name b resource stored
  rw [reading] at read run'
  subst read
  cases round with
  | deleting leaving => cases staying.symm.trans leaving
  | malformed _ rejected _ => cases accepted.symm.trans rejected
  | conflicted _ accepted' way =>
    cases accepted.symm.trans accepted'
    obtain ⟨_, _, _, _, landed⟩ := landed_of_application server run' beside
      (eq'.trans (List.append_nil _).symm) way owned accepted applicable
    obtain ⟨a, same, well⟩ := landed.well
    cases same
    cases well
  | failed _ accepted' way written =>
    cases accepted.symm.trans accepted'
    obtain ⟨_, _, _, _, landed⟩ :=
      landed_of_application server run' beside eq' way owned accepted applicable
    obtain ⟨a, same, well⟩ := landed.well
    cases same
    cases well
  | applied _ accepted' way well written =>
    cases accepted.symm.trans accepted'
    obtain ⟨reached, front, later', rfl, landed⟩ :=
      landed_of_application server run' beside eq' way owned accepted applicable
    obtain ⟨done, orderly, ending⟩ := settled_of_status (δ := δ) server landed.further beside
      landed.later_eq (written.listed owned.entries) landed.synced
    refine ⟨congrArg Except.ok done, ending.ready (landed.ready (meanwhile.ready ready)),
      ending.synced_iff.mpr landed.synced, ?_, ?_, ?_⟩
    · refine List.forall_mem_cons.mpr ⟨.aside rfl rfl ?_, List.forall_mem_append.mpr
        ⟨landed.orderly, orderly⟩⟩
      rw [Turn.of_eq reading]
      exact .refl b
    · have few := way.length_le
      rw [count, eq]
      simp
      omega
    · intro synced
      obtain ⟨live, same⟩ := landed.unchanged (meanwhile.synced_iff.mpr synced)
      cases same
      exact applies

theorem unwritten_of_orderly {last : σ} {turns : List (Turn σ)}
    (run : Turns answer others s turns last)
    (beside : ∀ s s', others s s' → Beside storage? set? ns name t s s')
    (orderly : ∀ turn ∈ turns, Orderly storage? set? ns name t turn) (synced : Synced set? t s) :
    ∀ turn ∈ turns, turn.exchange.request.written? = none := by
  induction run with
  | done act => simp
  | @turn s b last request rest act further ih =>
    obtain ⟨first, later⟩ := List.forall_mem_cons.mp orderly
    have before : Synced set? t b := (beside _ _ act).synced_iff.mpr synced
    cases first with
    | aside unwritten unnoted meanwhile =>
      exact List.forall_mem_cons.mpr ⟨unwritten, ih later (meanwhile.synced_iff.mpr before)⟩
    | write writes answered unsynced => exact absurd before unsynced

end StorageController
