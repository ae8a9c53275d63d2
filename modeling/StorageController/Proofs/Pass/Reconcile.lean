import StorageController.Pass.Reconcile
import StorageController.Proofs.Condition
import StorageController.Proofs.Pass.Apply
import StorageController.Proofs.Topology

namespace StorageController

open Json Condition

variable {δ : Type}

/-- The status of a storage resource is nothing or an object, and the conditions in it are nothing or
a list of objects. -/
def StatusShaped (status : Json) : Prop :=
  status.truthy = false ∨ ∃ fields, status = .obj fields ∧
    ∀ conditions, fields.lookup "conditions" = some conditions →
      conditions.truthy = false ∨ ∃ entries, conditions = .arr entries ∧ Entries entries

structure StorageShaped (resource : Json) : Prop where
  metadata : ∃ fields, resource.get? "metadata" = some (.obj fields)
  status : ∀ status, resource.get? "status" = some status → StatusShaped status

/-- A StatefulSet as the cluster delivers it. -/
structure SetShaped (live : Json) : Prop where
  metadata : ∃ fields, live.get? "metadata" = some (.obj fields)
  status : ∀ status, live.get? "status" = some status →
    status = .null ∨ ∃ fields, status = .obj fields ∧
      ∀ ready, fields.lookup "readyReplicas" = some ready → ready = .null ∨ ∃ n, ready = .int n

/-- The reply is an error of the operator's own, or a well-shaped object. -/
def Exchange.Shaped (e : Exchange) : Prop :=
  match e.reply with
  | .error fault => fault.isOperator = true
  | .ok object =>
    match e.request with
    | .readStorage _ _ => StorageShaped object
    | .readSet _ _ | .createSet _ _ | .patchSet _ _ _ => SetShaped object
    | _ => True

def deleting (resource : Json) : Bool :=
  ((resource.path? ["metadata", "deletionTimestamp"]).getD .null).truthy

def statusRequest (resource status : Json) : Request :=
  .patchStatus ((resource.path? ["metadata", "namespace"]).getD "default")
    ((resource.path? ["metadata", "name"]).getD .null) status

/-- The conditions that stand in the status of a resource. -/
def conditionsIn (resource : Json) : List Json :=
  match resource.path? ["status", "conditions"] with
  | some (.arr entries) => entries
  | _ => []

def readyReplicas (live : Json) : Int :=
  match live.path? ["status", "readyReplicas"] with
  | some (.int n) => n
  | _ => 0

/-- The times of reports, by the types of their conditions. -/
def Clock.texts (clock : Clock) (type : Json) : String :=
  Timestamp.text (clock.reading type)

section

variable [Redaction.VisitingOrder]

def invalidReports (fault : Fault) (generation : Json) : List Condition.Report :=
  [specInvalid true (Redaction.redactFault fault) generation,
   Condition.ready false (Redaction.redactFault fault) generation "SpecInvalid"]

def appliedReports (t : Topology) (counted : Int) (applied : Applied) : List Condition.Report :=
  (match applied with
  | .failed fault _ =>
    [applyFailed true (Redaction.redactFault fault) t.generation,
     Condition.ready false (Redaction.redactFault fault) t.generation "ApplyFailed"]
  | _ =>
    let isReady : Bool := decide ((t.replicas : Rat) ≤ counted)
    [applyFailed false "StatefulSet applied" t.generation,
     Condition.ready isReady
      ((Json.int counted).display ++ "/" ++ (Json.int t.replicas).display ++ " replicas ready")
      t.generation (if isReady then .null else "Deploying")]) ++
  [specInvalid false "Spec is valid" t.generation]

def InvalidStatus (clock : Clock) (resource : Json) (fault : Fault) (status : Json) : Prop :=
  let generation := ((resource.path? ["metadata", "generation"]).getD .null).orElse (.int 0)
  ∃ conditions, recordAll clock.texts (invalidReports fault generation)
      (conditionsIn resource) = .ok conditions ∧
    status = .obj [("observedGeneration", generation), ("conditions", .arr conditions)]

def AppliedStatus (clock : Clock) (resource : Json) (t : Topology) (applied : Applied)
    (status : Json) : Prop :=
  let counted := readyReplicas (applied.live?.getD .null)
  ∃ conditions, recordAll clock.texts (appliedReports t counted applied)
      (conditionsIn resource) = .ok conditions ∧
    status = .obj
      [("observedGeneration", t.generation), ("readyCount", .int counted),
       ("conditions", .arr conditions)]

/-- The reports on an outcome, given what was counted: on readiness only where the count is a number,
and none on a conflict. -/
inductive Applied.Reports (t : Topology) (counted : Json) :
    Applied → List Condition.Report → Prop
  | failed {fault : Fault} {attempt : Option (Json × Json)} :
      Reports t counted (.failed fault attempt)
        [applyFailed true (Redaction.redactFault fault) t.generation,
         Condition.ready false (Redaction.redactFault fault) t.generation "ApplyFailed",
         specInvalid false "Spec is valid" t.generation]
  | applied {applied : Applied} {isReady : Bool} (well : applied.fault? = none)
      (enough : Pass.atLeast t.replicas counted = .ok isReady) :
      Reports t counted applied
        [applyFailed false "StatefulSet applied" t.generation,
         Condition.ready isReady
          (counted.display ++ "/" ++ (Json.int t.replicas).display ++ " replicas ready")
          t.generation (if isReady then .null else "Deploying"),
         specInvalid false "Spec is valid" t.generation]

/-- The status that is written after an outcome, of whatever shape the StatefulSet is. -/
def OutcomeStatus (clock : Clock) (resource : Json) (t : Topology) (applied : Applied)
    (status : Json) : Prop :=
  ∃ counted reports conditions, Pass.readyCount (applied.live?.getD .null) = .ok counted ∧
    applied.Reports t counted reports ∧
    recordAll clock.texts reports (conditionsIn resource) = .ok conditions ∧
    status = .obj
      [("observedGeneration", t.generation), ("readyCount", counted),
       ("conditions", .arr conditions)]

/-- The directive after an error, which counts unless an earlier one already asks for another pass. -/
def Directive.afterError (fault : Fault) : Directive δ → Directive δ
  | .requeueError error => .requeueError error
  | _ => .requeueError fault

/-- The directive after a write of the status. A resource that is gone needs none. -/
def Directive.afterStatus (directive : Directive δ) : Reply → Directive δ
  | .ok _ | .error (.notFound _) => directive
  | .error fault => directive.afterError fault

/-- The ways of a pass over the resource of a namespace and name. -/
inductive Round (s : Settings δ) (ns name : Json) (clock : Clock) :
    List Exchange → Option Applied → Directive δ → Prop
  | missing {message : String} :
      Round s ns name clock [⟨.readStorage ns name, .error (.notFound message)⟩] none .done
  | unread {fault : Fault} (present : ∀ message, fault ≠ .notFound message) :
      Round s ns name clock [⟨.readStorage ns name, .error fault⟩] none (.requeueError fault)
  | deleting {resource : Json} (leaving : deleting resource = true) :
      Round s ns name clock [⟨.readStorage ns name, .ok resource⟩] none .done
  | malformed {resource status : Json} {message : String} {reply : Reply}
      (staying : deleting resource = false)
      (rejected : Topology.ofResource resource = .error (.invalid message))
      (written : InvalidStatus clock resource (.invalid message) status) :
      Round s ns name clock
        [⟨.readStorage ns name, .ok resource⟩, ⟨statusRequest resource status, reply⟩]
        none (.requeueError (some (.invalid message)))
  | conflicted {resource : Json} {t : Topology} {applying : List Exchange} {fault : Fault}
      {attempt : Option (Json × Json)} (staying : deleting resource = false)
      (accepted : Topology.ofResource resource = .ok t)
      (way : Application t resource applying (.ok (.conflicted fault attempt))) :
      Round s ns name clock (⟨.readStorage ns name, .ok resource⟩ :: applying)
        (some (.conflicted fault attempt)) (.requeueAfter s.conflictRequeueDelay)
  | failed {resource status : Json} {t : Topology} {applying : List Exchange} {fault : Fault}
      {attempt : Option (Json × Json)} {reply : Reply} (staying : deleting resource = false)
      (accepted : Topology.ofResource resource = .ok t)
      (way : Application t resource applying (.ok (.failed fault attempt)))
      (written : AppliedStatus clock resource t (.failed fault attempt) status) :
      Round s ns name clock
        (⟨.readStorage ns name, .ok resource⟩ :: applying ++
          [⟨statusRequest resource status, reply⟩])
        (some (.failed fault attempt)) (.requeueError fault)
  | applied {resource status : Json} {t : Topology} {applying : List Exchange} {applied : Applied}
      {reply : Reply} (staying : deleting resource = false)
      (accepted : Topology.ofResource resource = .ok t)
      (way : Application t resource applying (.ok applied)) (well : applied.fault? = none)
      (written : AppliedStatus clock resource t applied status) :
      Round s ns name clock
        (⟨.readStorage ns name, .ok resource⟩ :: applying ++
          [⟨statusRequest resource status, reply⟩])
        (some applied) (Directive.done.afterStatus reply)

end

theorem StorageShaped.obj {resource : Json} (h : StorageShaped resource) :
    ∃ fields metadata, resource = .obj fields ∧ fields.lookup "metadata" = some (.obj metadata) := by
  obtain ⟨metadata, hm⟩ := h.metadata
  obtain ⟨fields, rfl, mem⟩ := eq_obj_of_get? hm
  exact ⟨fields, metadata, rfl, mem⟩

theorem SetShaped.obj {live : Json} (h : SetShaped live) :
    ∃ fields metadata, live = .obj fields ∧ fields.lookup "metadata" = some (.obj metadata) := by
  obtain ⟨metadata, hm⟩ := h.metadata
  obtain ⟨fields, rfl, mem⟩ := eq_obj_of_get? hm
  exact ⟨fields, metadata, rfl, mem⟩

theorem path?_metadata {fields metadata : Fields} (key : String)
    (h : fields.lookup "metadata" = some (.obj metadata)) :
    (Json.obj fields).path? ["metadata", key] = metadata.lookup key := by
  simp [path?, get?, h]

theorem metadataIn_obj {fields metadata : Fields}
    (h : fields.lookup "metadata" = some (.obj metadata)) :
    Pass.metadataIn (.obj fields) = .ok (.obj metadata) :=
  Pass.lookupOr_metadata h

theorem statusRequest_obj {fields metadata : Fields} (status : Json)
    (h : fields.lookup "metadata" = some (.obj metadata)) :
    statusRequest (.obj fields) status =
      .patchStatus ((metadata.lookup "namespace").getD "default")
        ((metadata.lookup "name").getD .null) status := by
  rw [statusRequest, path?_metadata _ h, path?_metadata _ h]

theorem orElse_of_not_truthy {j : Json} (default : Json) (h : j.truthy = false) :
    j.orElse default = default := by
  rw [orElse, h]
  rfl

theorem conditionsIn_obj {fields inside : Fields}
    (h : fields.lookup "status" = some (.obj inside)) :
    conditionsIn (.obj fields) =
      match inside.lookup "conditions" with
      | some (.arr entries) => entries
      | _ => [] := by
  simp [conditionsIn, path?, get?, h]

theorem conditionsIn_of_not_truthy {fields : Fields}
    (h : ((fields.lookup "status").getD .null).truthy = false) :
    conditionsIn (.obj fields) = [] := by
  cases hs : fields.lookup "status" with
  | none => simp [conditionsIn, path?, get?, hs]
  | some status =>
    rw [hs] at h
    cases status with
    | obj inside =>
      cases inside with
      | nil => rw [conditionsIn_obj hs]; rfl
      | cons field rest => cases h
    | _ => simp [conditionsIn, path?, get?, hs]

theorem lookupOr_conditions {inside : Fields}
    (h : ∀ conditions, inside.lookup "conditions" = some conditions →
      conditions.truthy = false ∨ ∃ entries, conditions = .arr entries ∧ Entries entries) :
    ∃ entries, (Json.obj inside).lookupOr "conditions" (.arr []) = .ok (.arr entries) ∧
      Entries entries ∧
      (match inside.lookup "conditions" with
        | some (.arr entries) => entries
        | _ => []) = entries := by
  have none : Entries [] := by simp [Entries]
  rw [Pass.lookupOr_obj]
  cases hi : inside.lookup "conditions" with
  | none => exact ⟨[], rfl, none, rfl⟩
  | some conditions =>
    rcases h conditions hi with empty | ⟨entries, rfl, shaped⟩
    · refine ⟨[], by rw [Option.getD_some, orElse_of_not_truthy _ empty], none, ?_⟩
      cases conditions with
      | arr entries =>
        cases entries with
        | nil => rfl
        | cons entry rest => cases empty
      | _ => rfl
    · cases entries with
      | nil => exact ⟨[], rfl, none, rfl⟩
      | cons entry rest => exact ⟨entry :: rest, rfl, shaped, rfl⟩

theorem StorageShaped.conditions {fields : Fields} (h : StorageShaped (.obj fields)) :
    ∃ status, (Json.obj fields).lookupOr "status" (.obj []) = .ok status ∧
      status.lookupOr "conditions" (.arr []) = .ok (.arr (conditionsIn (.obj fields))) ∧
      Entries (conditionsIn (.obj fields)) := by
  rw [Pass.lookupOr_obj]
  by_cases truthy : ((fields.lookup "status").getD .null).truthy = true
  · cases hs : fields.lookup "status" with
    | none => rw [hs] at truthy; cases truthy
    | some status =>
      rcases h.status status hs with empty | ⟨inside, rfl, hc⟩
      · rw [hs, Option.getD_some, empty] at truthy
        cases truthy
      · obtain ⟨entries, looked, shaped, eq⟩ := lookupOr_conditions hc
        rw [conditionsIn_obj hs, eq]
        exact ⟨.obj inside, by cases inside <;> rfl, looked, shaped⟩
  · replace truthy := Bool.eq_false_iff.mpr truthy
    rw [orElse_of_not_truthy _ truthy, conditionsIn_of_not_truthy truthy]
    exact ⟨.obj [], rfl, rfl, by simp [Entries]⟩

theorem StorageShaped.entries {resource : Json} (h : StorageShaped resource) :
    Entries (conditionsIn resource) := by
  obtain ⟨fields, _, rfl, _⟩ := h.obj
  obtain ⟨_, _, _, entries⟩ := h.conditions
  exact entries

theorem readyCount_shaped {live : Json} (h : SetShaped live) :
    Pass.readyCount live = .ok (.int (readyReplicas live)) := by
  obtain ⟨fields, _, rfl, _⟩ := h.obj
  have present : (Json.obj fields).orElse (.obj []) = .obj fields := by cases fields <;> rfl
  have zero : (Json.obj []).lookupOr "readyReplicas" (.int 0) = .ok (.int 0) := rfl
  rw [Pass.readyCount, present, Pass.lookupOr_obj]
  rcases hs : fields.lookup "status" with _ | status
  · simp [readyReplicas, path?, get?, hs]; rfl
  rcases h.status status hs with rfl | ⟨inside, rfl, hr⟩
  · simp [readyReplicas, path?, get?, hs]; rfl
  have status : (((some (Json.obj inside)).getD .null).orElse (.obj [])) = .obj inside := by
    cases inside <;> rfl
  rw [status]
  change (Json.obj inside).lookupOr "readyReplicas" (.int 0) = _
  rw [Pass.lookupOr_obj]
  rcases hi : inside.lookup "readyReplicas" with _ | ready
  · simp [readyReplicas, path?, get?, hs, hi]; rfl
  rcases hr ready hi with rfl | ⟨n, rfl⟩
  · simp [readyReplicas, path?, get?, hs, hi]; rfl
  · by_cases zero : n = 0
    · subst zero
      simp [readyReplicas, path?, get?, hs, hi]; rfl
    · simp [readyReplicas, path?, get?, hs, hi, orElse, truthy, zero]

/-- An outcome whose last sight of the StatefulSet shows how many replicas are ready. -/
def Applied.Counted (applied : Applied) : Prop :=
  Pass.readyCount (applied.live?.getD .null) = .ok (.int (readyReplicas (applied.live?.getD .null)))

theorem ofFault_counted {attempt : Option (Json × Json)} {fault : Fault}
    (operator : fault.isOperator = true)
    (seen : ∀ patch live, attempt = some (patch, live) → SetShaped live) :
    ∃ applied, Applied.ofFault attempt fault = .ok applied ∧ applied.Counted := by
  refine ⟨.failed fault attempt, if_pos operator, ?_⟩
  cases attempt with
  | none => rfl
  | some pair => exact readyCount_shaped (seen pair.1 pair.2 rfl)

theorem ofWrite_counted {attempt : Option (Json × Json)} {reply : Reply}
    {done : Json → Applied} (live : ∀ object, (done object).live? = some object)
    (operator : ∀ fault, reply = .error fault → fault.isOperator = true)
    (shaped : ∀ object, reply = .ok object → SetShaped object)
    (seen : ∀ patch live, attempt = some (patch, live) → SetShaped live) :
    ∃ applied, Applied.ofWrite done attempt reply = .ok applied ∧ applied.Counted := by
  cases reply with
  | ok object =>
    refine ⟨done object, rfl, ?_⟩
    rw [Applied.Counted, live object]
    exact readyCount_shaped (shaped object rfl)
  | error fault =>
    have failed := ofFault_counted (operator fault rfl) seen
    cases fault with
    | conflict message =>
      refine ⟨.conflicted (.conflict message) attempt, rfl, ?_⟩
      cases attempt with
      | none => rfl
      | some pair => exact readyCount_shaped (seen pair.1 pair.2 rfl)
    | _ => exact failed

theorem Application.counted {t : Topology} {owner : Json} {tr : List Exchange}
    {outcome : Except Fault Applied} (way : Application t owner tr outcome)
    (owned : StorageShaped owner) (shaped : ∀ e ∈ tr, e.Shaped) :
    ∃ applied, outcome = .ok applied ∧ applied.Counted := by
  obtain ⟨fields, metadata, rfl, hm⟩ := owned.obj
  have references := ownerReference_obj hm
  cases way with
  | @unread fault present =>
    have operator : fault.isOperator = true := shaped _ List.mem_cons_self
    exact ofFault_counted operator (by simp)
  | unowned failed => simp [references] at failed
  | creating owned =>
    have created := shaped _ (List.mem_cons_of_mem _ List.mem_cons_self)
    refine ofWrite_counted (fun _ => rfl) ?_ ?_ (by simp)
    · rintro fault rfl
      exact created
    · rintro object rfl
      exact created
  | @unchanged live same =>
    have seen : SetShaped live := shaped _ List.mem_cons_self
    exact ⟨.unchanged live, rfl, readyCount_shaped seen⟩
  | @unversioned live _ _ _ versioned =>
    have seen : SetShaped live := shaped _ List.mem_cons_self
    obtain ⟨_, _, rfl, mem⟩ := seen.obj
    simp [versionOf_obj mem] at versioned
  | @patching live _ _ _ differ versioned =>
    have seen : SetShaped live := shaped _ List.mem_cons_self
    have patched := shaped _ (List.mem_cons_of_mem _ List.mem_cons_self)
    refine ofWrite_counted (fun _ => rfl) ?_ ?_ ?_
    · rintro fault rfl
      exact patched
    · rintro object rfl
      exact patched
    · rintro patch other eq
      obtain ⟨rfl, rfl⟩ := Prod.mk.inj (Option.some.inj eq)
      exact seen

namespace Pass

variable {c c' : Context} {tr : List Exchange}

theorem notes_clock (type : Json) (c : Context) :
    Notes (clock type) c (c.clock.reading type) [] :=
  (notes_context c).bind fun _ _ => Notes.pure _ _

theorem notes_report {r : Condition.Report} {entries after : List Json} {c : Context}
    (h : r.record (c.clock.texts r.type) entries = .ok after) :
    Notes (report r (.arr entries)) c (.arr after) [] := by
  have updated : r.update (c.clock.texts r.type) (.arr entries) = .ok (.arr after) := by
    rw [Report.update, h]
    rfl
  exact (notes_clock r.type c).bind fun c₁ _ => Notes.ofExcept updated c₁

theorem notes_ofExcept_bind {α β : Type} {x : Except Fault α} {a : α} {b : β} {f : α → Pass β}
    {counted : List Metric} (h : x = .ok a) (hf : Notes (f a) c b counted) :
    Notes (ofExcept x >>= f) c b counted := by
  subst h
  exact hf

theorem notes_reports_bind {β : Type} {r : Condition.Report} {entries middle : List Json}
    {f : Json → Pass β} {b : β} {counted : List Metric}
    (first : r.record (c.clock.texts r.type) entries = .ok middle)
    (others : ∀ c₁ : Context, c₁.clock = c.clock → Notes (f (.arr middle)) c₁ b counted) :
    Notes (report r (.arr entries) >>= f) c b counted :=
  (notes_report first).bind fun c₁ grows => others c₁ grows.clock

variable [Redaction.VisitingOrder]

theorem reportApplied_of_well {t : Topology} {applied : Applied} {counted conditions : Json}
    (well : applied.fault? = none) :
    reportApplied t applied counted conditions = (do
      let conditions ← report (applyFailed false "StatefulSet applied" t.generation) conditions
      let isReady ← ofExcept (atLeast t.replicas counted)
      let message :=
        counted.display ++ "/" ++ (Json.int t.replicas).display ++ " replicas ready"
      let reason : Json := if isReady then .null else "Deploying"
      let conditions ← report (ready isReady message t.generation reason) conditions
      return (conditions, isReady)) := by
  cases applied with
  | conflicted => cases well
  | failed => cases well
  | _ => rfl

theorem reports_int (t : Topology) (counted : Int) {applied : Applied}
    (settled : ∀ fault attempt, applied ≠ .conflicted fault attempt) :
    applied.Reports t (.int counted) (appliedReports t counted applied) := by
  cases applied with
  | conflicted fault attempt => exact absurd rfl (settled fault attempt)
  | failed fault attempt => exact .failed
  | _ => exact .applied rfl rfl

theorem notes_reportApplied {t : Topology} {applied : Applied} {counted : Json}
    {reports : List Condition.Report} {entries after : List Json}
    (reported : applied.Reports t counted reports)
    (recorded : recordAll c.clock.texts reports entries = .ok after) :
    ∃ middle, ∃ isReady : Bool,
      Notes (reportApplied t applied counted (.arr entries)) c (.arr middle, isReady) [] ∧
      (specInvalid false "Spec is valid" t.generation).record (c.clock.texts specInvalidType) middle =
        .ok after := by
  -- Three reports follow applying. The last one is always the same.
  cases reported with
  | failed =>
    obtain ⟨m₁, first, others⟩ := recordAll_cons recorded
    obtain ⟨m₂, second, others⟩ := recordAll_cons others
    obtain ⟨m₃, last, done⟩ := recordAll_cons others
    cases done
    refine ⟨m₂, false, ?_, last⟩
    refine notes_reports_bind first fun c₁ same => ?_
    rw [← same] at second
    exact notes_reports_bind second fun c₂ _ => Notes.pure _ c₂
  | @applied _ isReady well enough =>
    obtain ⟨m₁, first, others⟩ := recordAll_cons recorded
    obtain ⟨m₂, second, others⟩ := recordAll_cons others
    obtain ⟨m₃, last, done⟩ := recordAll_cons others
    cases done
    refine ⟨m₂, isReady, ?_, last⟩
    rw [reportApplied_of_well well]
    refine notes_reports_bind first fun c₁ same => ?_
    rw [← same] at second
    refine notes_ofExcept_bind enough ?_
    exact notes_reports_bind second fun c₂ _ => Notes.pure _ c₂

theorem notes_statusAfter {t : Topology} {applied : Applied} {resource counted : Json}
    {reports : List Condition.Report} {after : List Json}
    (count : readyCount (applied.live?.getD .null) = .ok counted)
    (reported : applied.Reports t counted reports)
    (recorded : recordAll c.clock.texts reports (conditionsIn resource) = .ok after) :
    ∃ isReady : Bool,
      Notes (statusAfter t applied (.arr (conditionsIn resource))) c
        (.obj [("observedGeneration", t.generation), ("readyCount", counted),
          ("conditions", .arr after)])
        [.readiness Cluster.storageKind (if isReady then "ready" else "not_ready")] := by
  obtain ⟨middle, isReady, composed, last⟩ := notes_reportApplied reported recorded
  refine ⟨isReady, ?_⟩
  refine notes_ofExcept_bind count ?_
  refine composed.bind fun c₁ grows => ?_
  rw [← grows.clock] at last
  refine notes_reports_bind last fun c₂ _ => ?_
  exact (notes_count _ c₂).bind fun c₃ _ => Notes.pure _ c₃

omit [Redaction.VisitingOrder] in
theorem notes_countFault (kind : String) (fault : Fault) (c : Context) :
    Notes (countFault kind fault) c () [.error kind fault.kind] :=
  notes_count _ c

theorem Ends.of_writeStatus {resource status : Json} {directive : Directive δ}
    {outcome : Except Fault (Directive δ)} (shaped : StorageShaped resource)
    (h : Ends (writeStatus resource status directive) c tr outcome c')
    (replies : ∀ e ∈ tr, e.Shaped) :
    ∃ reply, tr = [⟨statusRequest resource status, reply⟩] ∧
      outcome = .ok (directive.afterStatus reply) ∧ c.Applies [] c' := by
  obtain ⟨fields, metadata, rfl, hm⟩ := shaped.obj
  replace h := h.of_ok_bind (metadataIn_obj hm)
  replace h := h.of_ok_bind (lookupD_obj metadata "namespace" "default")
  replace h := h.of_ok_bind (lookupD_obj metadata "name" .null)
  obtain ⟨reply, rest, rfl, answered⟩ := h.of_ask_bind
  refine ⟨reply, ?_⟩
  rw [statusRequest_obj status hm]
  split at answered
  next =>
    obtain ⟨rfl, rfl, rfl⟩ := ends_pure_iff.mp answered
    exact ⟨rfl, rfl, (Context.Grows.refl c').applies⟩
  next =>
    obtain ⟨c₁, grows, answered⟩ := answered.of_notes_bind (notes_logInfo _ _ _ _ _ c)
    obtain ⟨rfl, rfl, rfl⟩ := ends_pure_iff.mp answered
    exact ⟨rfl, rfl, grows.applies⟩
  next fault other =>
    have operator : fault.isOperator = true := replies _ List.mem_cons_self
    rw [if_pos operator] at answered
    obtain ⟨c₁, grows₁, counted⟩ := answered.of_notes_bind (notes_countFault _ fault c)
    obtain ⟨c₂, grows₂, logged⟩ := counted.of_notes_bind (notes_logFault _ _ _ _ _ c₁)
    have failed : directive.afterStatus (.error fault) = directive.afterError fault := by
      cases fault with
      | notFound message => exact absurd rfl (other message)
      | _ => rfl
    rw [failed]
    cases directive with
    | _ =>
      obtain ⟨rfl, rfl, rfl⟩ := ends_pure_iff.mp logged
      exact ⟨rfl, rfl, (grows₁.trans grows₂).applies⟩

omit [Redaction.VisitingOrder] in
theorem afterStatus_requeueError (fault : Fault) (reply : Reply) :
    (Directive.requeueError (some fault) : Directive δ).afterStatus reply =
      .requeueError (some fault) := by
  rcases reply with fault' | object
  · cases fault' <;> rfl
  · rfl

theorem Ends.write_of_reportInvalid {resource : Json} {fault : Fault}
    {outcome : Except Fault (Directive δ)} (shaped : StorageShaped resource)
    (h : Ends (reportInvalid resource (.arr (conditionsIn resource)) fault) c tr outcome c') :
    ∃ status c₁, InvalidStatus c.clock resource fault status ∧ c.Applies [] c₁ ∧
      Ends (writeStatus resource status (.requeueError fault)) c₁ tr outcome c' := by
  obtain ⟨fields, metadata, rfl, hm⟩ := shaped.obj
  have generation : (Json.obj metadata).lookupOr "generation" (.int 0) = .ok
      ((((Json.obj fields).path? ["metadata", "generation"]).getD .null).orElse (.int 0)) := by
    rw [lookupOr_obj, path?_metadata _ hm]
  obtain ⟨after, all, _⟩ := recordAll_entries c.clock.texts (invalidReports fault
    ((((Json.obj fields).path? ["metadata", "generation"]).getD .null).orElse (.int 0)))
    shaped.entries
  obtain ⟨middle, first, rest⟩ := recordAll_cons all
  obtain ⟨_, second, done⟩ := recordAll_cons rest
  cases done
  replace h := h.of_ok_bind (metadataIn_obj hm)
  replace h := h.of_ok_bind generation
  obtain ⟨c₁, grows₁, h⟩ := h.of_notes_bind (notes_countFault _ fault c)
  obtain ⟨c₂, grows₂, h⟩ := h.of_notes_bind (notes_logFault _ _ _ _ _ c₁)
  obtain ⟨c₃, grows₃, h⟩ := h.of_notes_bind (notes_emit _ c₂)
  have same : c₃.clock = c.clock := ((grows₁.trans grows₂).trans grows₃).clock
  rw [← same] at first second
  obtain ⟨c₄, grows₄, h⟩ := h.of_notes_bind (notes_report first)
  rw [← grows₄.clock] at second
  obtain ⟨c₅, grows₅, h⟩ := h.of_notes_bind (notes_report second)
  obtain ⟨c₆, grows₆, h⟩ := h.of_notes_bind (notes_count _ c₅)
  have grows := ((((grows₁.trans grows₂).trans grows₃).trans grows₄).trans grows₅).trans grows₆
  exact ⟨_, c₆, ⟨after, all, rfl⟩, grows.applies, h⟩

theorem Ends.of_reportInvalid {resource : Json} {fault : Fault}
    {outcome : Except Fault (Directive δ)} (shaped : StorageShaped resource)
    (h : Ends (reportInvalid resource (.arr (conditionsIn resource)) fault) c tr outcome c')
    (replies : ∀ e ∈ tr, e.Shaped) :
    ∃ status reply, InvalidStatus c.clock resource fault status ∧
      tr = [⟨statusRequest resource status, reply⟩] ∧
      outcome = .ok (.requeueError (some fault)) ∧ c.Applies [] c' := by
  obtain ⟨status, c₁, written, applies, h⟩ := h.write_of_reportInvalid shaped
  obtain ⟨reply, asked, ended, applies'⟩ := h.of_writeStatus shaped replies
  refine ⟨status, reply, written, asked, ?_, applies.trans applies'⟩
  rw [ended, afterStatus_requeueError]

def directiveOf (s : Settings δ) : Applied → Directive δ
  | .conflicted _ _ => .requeueAfter s.conflictRequeueDelay
  | .failed fault _ => .requeueError fault
  | _ => .done

theorem Ends.of_directiveFor_bind {β : Type} {s : Settings δ} {resource : Json} {metadata : Fields}
    {applied : Applied} {f : Directive δ → Pass β} {outcome : Except Fault β}
    (found : metadataIn resource = .ok (.obj metadata))
    (h : Ends (directiveFor s resource applied >>= f) c tr outcome c') :
    ∃ c₁, c.Applies [] c₁ ∧ Ends (f (directiveOf s applied)) c₁ tr outcome c' := by
  suffices notes : ∃ counted, appliedOutcomes counted = [] ∧
      Notes (directiveFor s resource applied) c (directiveOf s applied) counted by
    obtain ⟨counted, none, notes⟩ := notes
    obtain ⟨c₁, grows, h⟩ := h.of_notes_bind notes
    exact ⟨c₁, ⟨counted, grows, none⟩, h⟩
  cases applied with
  | created live =>
    refine ⟨[], rfl, notes_ofExcept_bind found ?_⟩
    refine notes_ofExcept_bind (lookupD_obj metadata "name" "unknown") ?_
    exact (notes_emit _ c).bind fun c₁ _ => Notes.pure _ c₁
  | patched patch live =>
    refine ⟨[], rfl, notes_ofExcept_bind found ?_⟩
    refine notes_ofExcept_bind (lookupD_obj metadata "name" "unknown") ?_
    exact (notes_emit _ c).bind fun c₁ _ => Notes.pure _ c₁
  | failed fault attempt =>
    refine ⟨[.error Cluster.storageKind fault.kind], rfl,
      notes_ofExcept_bind found ?_⟩
    refine notes_ofExcept_bind (lookupD_obj metadata "name" "unknown") ?_
    refine (notes_countFault _ fault c).bind fun c₁ _ => ?_
    exact (notes_emit _ c₁).bind fun c₂ _ => Notes.pure _ c₂
  | _ =>
    refine ⟨[], rfl, notes_ofExcept_bind found ?_⟩
    exact notes_ofExcept_bind (lookupD_obj metadata "name" "unknown") (Notes.pure _ c)

/-- A status that can be computed is computed, and then the pass goes on. -/
theorem Ends.of_statusAfter_bind {β : Type} {resource status : Json} {t : Topology}
    {applied : Applied} {f : Json → Pass β} {outcome : Except Fault β}
    (h : Ends (statusAfter t applied (.arr (conditionsIn resource)) >>= f) c tr outcome c')
    (written : OutcomeStatus c.clock resource t applied status) :
    ∃ c₁, c.Applies [] c₁ ∧ Ends (f status) c₁ tr outcome c' := by
  obtain ⟨counted, reports, after, count, reported, recorded, rfl⟩ := written
  obtain ⟨isReady, notes⟩ := notes_statusAfter count reported recorded
  obtain ⟨c₁, grows, h⟩ := h.of_notes_bind notes
  exact ⟨c₁, grows.applies, h⟩

theorem Ends.of_writeAfter {resource : Json} {t : Topology} {applied : Applied}
    {directive : Directive δ} {outcome : Except Fault (Directive δ)}
    (h : Ends (statusAfter t applied (.arr (conditionsIn resource)) >>= fun status =>
      writeStatus resource status directive) c tr outcome c')
    (shaped : StorageShaped resource) (seen : applied.Counted)
    (settled : ∀ fault attempt, applied ≠ .conflicted fault attempt)
    (replies : ∀ e ∈ tr, e.Shaped) :
    ∃ status reply, AppliedStatus c.clock resource t applied status ∧
      tr = [⟨statusRequest resource status, reply⟩] ∧
      outcome = .ok (directive.afterStatus reply) ∧ c.Applies [] c' := by
  obtain ⟨after, recorded, _⟩ := recordAll_entries c.clock.texts
    (appliedReports t (readyReplicas (applied.live?.getD .null)) applied) shaped.entries
  obtain ⟨c₁, applies, h⟩ := h.of_statusAfter_bind
    ⟨_, _, after, seen, reports_int t _ settled, recorded, rfl⟩
  obtain ⟨reply, asked, ended, applies'⟩ := h.of_writeStatus shaped replies
  exact ⟨_, reply, ⟨after, recorded, rfl⟩, asked, ended, applies.trans applies'⟩

/-- A topology is applied. A fault or a conflict ends the pass, after anything else the status
follows. -/
theorem Ends.steps_of_applyAndReport {s : Settings δ} {resource conditions : Json}
    {metadata : Fields} {t : Topology} {outcome : Except Fault (Directive δ)}
    (h : Ends (applyAndReport s resource conditions t) c tr outcome c')
    (found : metadataIn resource = .ok (.obj metadata)) :
    ∃ applying rest applied, tr = applying ++ rest ∧ Application t resource applying applied ∧
      ((∃ fault, applied = .error fault ∧ rest = [] ∧ outcome = .error fault ∧ c.Applies [] c') ∨
      (∃ fault attempt, applied = .ok (.conflicted fault attempt) ∧ rest = [] ∧
        outcome = .ok (.requeueAfter s.conflictRequeueDelay) ∧
        c.Applies [(Applied.conflicted fault attempt).outcome] c') ∨
      ∃ a c₁, applied = .ok a ∧ (∀ fault attempt, a ≠ .conflicted fault attempt) ∧
        c.Applies [a.outcome] c₁ ∧
        Ends (statusAfter t a conditions >>= fun status =>
          writeStatus resource status (directiveOf s a)) c₁ rest outcome c') := by
  obtain ⟨_, c₁, c₂, first, rest, inner, rfl, grows₁, made, h⟩ := h.of_span_bind
  obtain ⟨rfl, rfl, rfl⟩ := ends_pure_iff.mp made
  rcases h with ⟨_, no, _⟩ | ⟨_, c₃, _, grows₃, h⟩
  · cases no
  obtain ⟨_, c₄, c₅, applying, writing, applied, rfl, grows₄, made, h⟩ := h.of_span_bind
  obtain ⟨way, counted, counts, grows₅⟩ := made.of_apply
  refine ⟨applying, writing, applied, rfl, way, ?_⟩
  rcases h with ⟨fault, rfl, ended, rfl, grows₆⟩ | ⟨a, c₆, rfl, grows₆, h⟩
  · have grows := (((grows₁.trans grows₃).trans grows₄).trans grows₅).trans grows₆
    have none : appliedOutcomes counted = [] := counts.outcomes
    exact Or.inl ⟨fault, rfl, rfl, ended, _, grows, by simpa using none⟩
  have applies : c.Applies [a.outcome] c₆ := by
    have grows := (((grows₁.trans grows₃).trans grows₄).trans grows₅).trans grows₆
    have only : appliedOutcomes counted = [a.outcome] := counts.outcomes
    exact ⟨_, grows, by simpa using only⟩
  obtain ⟨c₇, applies₇, h⟩ := h.of_directiveFor_bind found
  cases a with
  | conflicted fault attempt =>
    obtain ⟨rfl, rfl, rfl⟩ := ends_pure_iff.mp h
    exact Or.inr (Or.inl ⟨fault, attempt, rfl, rfl, rfl, applies.trans applies₇⟩)
  | _ => exact Or.inr (Or.inr ⟨_, c₇, rfl, by simp, applies.trans applies₇, h⟩)

/-- A round in which the topology was applied: the outcome decides what follows. -/
theorem Ends.of_applyAndReport {s : Settings δ} {ns name resource : Json} {t : Topology}
    {outcome : Except Fault (Directive δ)} (shaped : StorageShaped resource)
    (staying : deleting resource = false) (accepted : Topology.ofResource resource = .ok t)
    (h : Ends (applyAndReport s resource (.arr (conditionsIn resource)) t) c tr outcome c')
    (replies : ∀ e ∈ tr, e.Shaped) :
    ∃ applied directive, outcome = .ok directive ∧
      Round s ns name c.clock (⟨.readStorage ns name, .ok resource⟩ :: tr) (some applied)
        directive ∧
      c.Applies [applied.outcome] c' := by
  obtain ⟨fields, metadata, rfl, hm⟩ := shaped.obj
  obtain ⟨applying, rest, applied, rfl, way, h⟩ := h.steps_of_applyAndReport (metadataIn_obj hm)
  obtain ⟨first, last⟩ := List.forall_mem_append.mp replies
  obtain ⟨applied, rfl, seen⟩ := way.counted shaped first
  rcases h with ⟨_, no, _⟩ | ⟨fault, attempt, same, rfl, rfl, applies⟩ |
    ⟨a, c₁, same, settled, applies, h⟩
  · cases no
  · cases same
    exact ⟨_, _, rfl, by simpa using Round.conflicted staying accepted way, applies⟩
  cases same
  obtain ⟨status, reply, written, rfl, rfl, applies'⟩ := h.of_writeAfter shaped seen settled last
  rw [applies.clock] at written
  refine ⟨applied, _, rfl, ?_, by simpa using applies.trans applies'⟩
  cases applied with
  | conflicted fault attempt => exact absurd rfl (settled fault attempt)
  | failed fault attempt =>
    have directive : (Directive.requeueError (some fault)).afterStatus reply =
        (.requeueError fault : Directive δ) := afterStatus_requeueError fault reply
    change Round s ns name c.clock _ _ ((Directive.requeueError (some fault)).afterStatus reply)
    rw [directive]
    exact Round.failed staying accepted way written
  | _ => exact Round.applied staying accepted way rfl written

omit [Redaction.VisitingOrder] in
/-- The metadata in which a deletion is looked for: those of the resource, or its identity in place
of empty ones, which names no deletion either. -/
theorem deletion_obj {fields metadata : Fields} (ns name : Json)
    (hm : fields.lookup "metadata" = some (.obj metadata)) :
    ∃ inside, (Json.obj fields).lookupOr "metadata" (metadataOf ns name) = .ok (.obj inside) ∧
      ((inside.lookup "deletionTimestamp").getD .null).truthy = deleting (.obj fields) := by
  rw [deleting, path?_metadata _ hm, lookupOr_obj, hm]
  cases metadata with
  | nil => exact ⟨_, rfl, rfl⟩
  | cons field rest => exact ⟨field :: rest, rfl, rfl⟩

/-- A resource that was read is being deleted, malformed, or accepted. -/
theorem Ends.cases_of_reconcileResource {s : Settings δ} {ns name resource : Json}
    {outcome : Except Fault (Directive δ)} (shaped : StorageShaped resource)
    (h : Ends (reconcileResource s (metadataOf ns name) resource) c tr outcome c') :
    (deleting resource = true ∧ tr = [] ∧ outcome = .ok .done ∧ c.Applies [] c') ∨
    (deleting resource = false ∧ ∃ c₁, c.Applies [] c₁ ∧
      ((∃ message, Topology.ofResource resource = .error (.invalid message) ∧
        Ends (reportInvalid resource (.arr (conditionsIn resource)) (.invalid message)) c₁ tr
          outcome c') ∨
      ∃ t, Topology.ofResource resource = .ok t ∧
        Ends (applyAndReport s resource (.arr (conditionsIn resource)) t) c₁ tr outcome c')) := by
  obtain ⟨fields, metadata, rfl, hm⟩ := shaped.obj
  obtain ⟨inside, found, deletion⟩ := deletion_obj ns name hm
  replace h := h.of_ok_bind found
  replace h := h.of_ok_bind (lookupD_obj inside "deletionTimestamp" .null)
  rw [deletion] at h
  split at h
  next leaving =>
    obtain ⟨c₁, grows₁, h⟩ := h.of_notes_bind (notes_logInfo _ _ _ _ _ c)
    obtain ⟨rfl, rfl, rfl⟩ := ends_pure_iff.mp h
    exact Or.inl ⟨leaving, rfl, rfl, grows₁.applies⟩
  next staying =>
    obtain ⟨c₁, grows₁, h⟩ := h.of_notes_bind (notes_emit _ c)
    obtain ⟨status, hs, hc, _⟩ := shaped.conditions
    replace h := h.of_ok_bind hs
    replace h := h.of_ok_bind hc
    refine Or.inr ⟨Bool.eq_false_iff.mpr staying, c₁, grows₁.applies, ?_⟩
    split at h
    next t accepted => exact Or.inr ⟨t, accepted, h⟩
    next message rejected => exact Or.inl ⟨message, rejected, h⟩
    next fault other rejected =>
      obtain ⟨_, found⟩ := shaped.metadata
      obtain ⟨message, rfl⟩ := Topology.onlyInvalid_ofResource found fault rejected
      exact absurd rfl (other message)

theorem Ends.of_reconcileResource {s : Settings δ} {ns name resource : Json}
    {outcome : Except Fault (Directive δ)} (shaped : StorageShaped resource)
    (h : Ends (reconcileResource s (metadataOf ns name) resource) c tr outcome c')
    (replies : ∀ e ∈ tr, e.Shaped) :
    ∃ applied? directive, outcome = .ok directive ∧
      Round s ns name c.clock (⟨.readStorage ns name, .ok resource⟩ :: tr) applied? directive ∧
      c.Applies (applied?.toList.map Applied.outcome) c' := by
  rcases h.cases_of_reconcileResource shaped with ⟨leaving, rfl, rfl, applies⟩ |
    ⟨staying, c₁, applies, ⟨message, rejected, h⟩ | ⟨t, accepted, h⟩⟩
  · exact ⟨none, .done, rfl, .deleting leaving, applies⟩
  · obtain ⟨status, reply, written, rfl, rfl, applies'⟩ := h.of_reportInvalid shaped replies
    rw [applies.clock] at written
    exact ⟨none, _, rfl, .malformed staying rejected written, applies.trans applies'⟩
  · obtain ⟨applied, directive, rfl, round, applies'⟩ :=
      h.of_applyAndReport shaped staying accepted replies
    rw [applies.clock] at round
    exact ⟨some applied, directive, rfl, round, applies.trans applies'⟩

theorem Ends.of_reconcileOnce {s : Settings δ} {ns name : Json}
    {outcome : Except Fault (Directive δ)}
    (h : Ends (reconcileOnce s ns name) c tr outcome c') (replies : ∀ e ∈ tr, e.Shaped) :
    ∃ applied? directive, outcome = .ok directive ∧
      Round s ns name c.clock tr applied? directive ∧
      c.Applies (applied?.toList.map Applied.outcome) c' := by
  obtain ⟨reply, rest, rfl, answered⟩ := h.of_ask_bind
  obtain ⟨first, others⟩ := List.forall_mem_cons.mp replies
  split at answered
  next resource => exact answered.of_reconcileResource first others
  next message =>
    obtain ⟨c₁, grows₁, logged⟩ := answered.of_notes_bind (notes_logInfo _ _ _ _ _ c)
    obtain ⟨rfl, rfl, rfl⟩ := ends_pure_iff.mp logged
    exact ⟨none, .done, rfl, .missing, grows₁.applies⟩
  next fault other =>
    have operator : fault.isOperator = true := first
    have present : ∀ message, fault ≠ .notFound message := by
      intro message eq
      subst eq
      exact other message rfl
    rw [if_pos operator] at answered
    obtain ⟨c₁, grows₁, counted⟩ := answered.of_notes_bind (notes_countFault _ fault c)
    obtain ⟨c₂, grows₂, logged⟩ := counted.of_notes_bind (notes_logFault _ _ _ _ _ c₁)
    obtain ⟨rfl, rfl, rfl⟩ := ends_pure_iff.mp logged
    exact ⟨none, .requeueError fault, rfl, .unread present, (grows₁.trans grows₂).applies⟩

/-- What is around the pass itself only counts and logs. -/
theorem Ends.once_of_reconcile {s : Settings δ} {ns name : Json}
    {outcome : Except Fault (Directive δ)} (h : Ends (reconcile s ns name) c tr outcome c') :
    ∃ c₁ c₂, c.Applies [] c₁ ∧ Ends (reconcileOnce s ns name) c₁ tr outcome c₂ ∧
      c₂.Applies [] c' := by
  obtain ⟨c₁, c₂, grows₁, h, grows₂⟩ := h.of_correlated
  obtain ⟨_, c₃, c₄, grows₃, h, grows₄⟩ := h.of_span
  rcases h.of_bind with ⟨fault, rfl, failed⟩ | ⟨directive, c₅, first, rest, rfl, ended, tagged⟩
  · obtain ⟨c₅, c₆, grows₅, once, grows₆⟩ := failed.of_measured
    exact ⟨c₅, c₆, ((grows₁.trans grows₃).trans grows₅).applies, once,
      ((grows₆.trans grows₄).trans grows₂).applies⟩
  · obtain ⟨c₆, grows₆, tagged⟩ := tagged.of_notes_bind (notes_tag _ _ c₅)
    obtain ⟨rfl, rfl, rfl⟩ := ends_pure_iff.mp tagged
    obtain ⟨c₇, c₈, grows₇, once, grows₈⟩ := ended.of_measured
    rw [List.append_nil]
    exact ⟨c₇, c₈, ((grows₁.trans grows₃).trans grows₇).applies, once,
      (((grows₈.trans grows₆).trans grows₄).trans grows₂).applies⟩

/-- A pass never fails when the replies are well-shaped, and it is one of the rounds. -/
theorem Ends.of_reconcile {s : Settings δ} {ns name : Json}
    {outcome : Except Fault (Directive δ)}
    (h : Ends (reconcile s ns name) c tr outcome c') (replies : ∀ e ∈ tr, e.Shaped) :
    ∃ applied? directive, outcome = .ok directive ∧
      Round s ns name c.clock tr applied? directive ∧
      c.Applies (applied?.toList.map Applied.outcome) c' := by
  obtain ⟨c₁, c₂, before, once, after⟩ := h.once_of_reconcile
  obtain ⟨applied?, directive, rfl, round, applies⟩ := once.of_reconcileOnce replies
  rw [before.clock] at round
  refine ⟨applied?, directive, rfl, round, ?_⟩
  simpa using (before.trans applies).trans after

end Pass

end StorageController
