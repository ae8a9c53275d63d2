import StorageController.Proofs.Pass.Twins
import StorageController.Proofs.Cluster.ReadyCount

namespace StorageController

open Json Cluster

/-- The namespace and the name that a request is about. A StatefulSet is created under the name in
its body. -/
def Request.identity : Request → Identity
  | .createSet ns body => ⟨ns, (body.path? ["metadata", "name"]).getD .null⟩
  | .readStorage ns name | .readSet ns name => ⟨ns, name⟩
  | .patchStatus ns name _ | .annotate ns name _ | .patchSet ns name _ => ⟨ns, name⟩

/-- The StatefulSet as it was just read in each of two runs, if it was. -/
abbrev Reading := Option (Json × Json)

/-- Requests of one identity in two runs. They are the same, but for patches, which are conditional
on what each run has read. -/
inductive Asked (i : Identity) : Reading → Request → Request → Prop
  | same {reading : Reading} {r : Request} (own : r.identity = i)
      (plain : ∀ ns name patch, r ≠ .patchSet ns name patch) : Asked i reading r r
  | patch {live live' : Json} (fields : Fields) :
      Asked i (some (live, live'))
        (.patchSet i.ns i.name (Managed.guarded (versionIn live) fields))
        (.patchSet i.ns i.name (Managed.guarded (versionIn live') fields))

/-- What was just read after a request was answered in each of two runs. -/
def Reading.after : Request → Reply → Reply → Reading
  | .readSet _ _, .ok live, .ok live' => some (live, live')
  | _, _, _ => none

theorem Reading.of_after {r : Request} {reply reply' : Reply} {live live' : Json}
    (h : Reading.after r reply reply' = some (live, live')) :
    (∃ ns name, r = .readSet ns name) ∧ reply = .ok live ∧ reply' = .ok live' := by
  unfold Reading.after at h
  split at h
  · obtain ⟨rfl, rfl⟩ := Prod.mk.inj (Option.some.inj h)
    exact ⟨⟨_, _, rfl⟩, rfl, rfl⟩
  · cases h

/-- A resource that is read bears the identity. -/
def Fits (i : Identity) (r : Request) (reply : Reply) : Prop :=
  ∀ ns name resource, r = .readStorage ns name → reply = .ok resource → Named i resource

namespace Calls

variable {α β : Type} {i : Identity} {reading : Reading}

/-- Two programs of one identity that ask alike as long as they are answered alike, and end alike. -/
inductive Like (i : Identity) (Q : Reading → α → α → Prop) : Reading → Calls α → Calls α → Prop
  | ret {reading : Reading} {a b : α} (ended : Q reading a b) : Like i Q reading (.ret a) (.ret b)
  | call {reading : Reading} {r r' : Request} {next next' : Reply → Calls α}
      (asked : Asked i reading r r')
      (further : ∀ reply reply', Agree Renumbered reply reply' → Fits i r reply →
        Like i Q (.after r reply reply') (next reply) (next' reply')) :
      Like i Q reading (.call r next) (.call r' next')

theorem Like.bind {Q : Reading → α → α → Prop} {R : Reading → β → β → Prop}
    {program program' : Calls α} {f f' : α → Calls β} (h : Like i Q reading program program')
    (hf : ∀ reading a b, Q reading a b → Like i R reading (f a) (f' b)) :
    Like i R reading (program.bind f) (program'.bind f') := by
  induction h with
  | ret ended => exact hf _ _ _ ended
  | call asked further ih =>
    exact .call asked fun reply reply' agree fits => ih reply reply' agree fits

theorem Like.mono {Q R : Reading → α → α → Prop} {program program' : Calls α}
    (h : Like i Q reading program program') (weaker : ∀ reading a b, Q reading a b → R reading a b) :
    Like i R reading program program' := by
  induction h with
  | ret ended => exact .ret (weaker _ _ _ ended)
  | call asked further ih =>
    exact .call asked fun reply reply' agree fits => ih reply reply' agree fits

end Calls

namespace Pass

variable {α β δ : Type} {i : Identity} {reading : Reading} {pass pass' : Pass α}
  {f f' : α → Pass β} {Q : Reading → α → α → Prop} {R : Reading → β → β → Prop}

/-- Two parts of a pass that ask alike and end alike, and leave the same context. -/
def Like (i : Identity) (Q : Reading → α → α → Prop) (reading : Reading) (pass pass' : Pass α) :
    Prop :=
  ∀ c, Calls.Like i (fun reading x y => Agree (Q reading) x.1 y.1 ∧ x.2 = y.2) reading
    (pass.start c) (pass'.start c)

namespace Like

theorem bind (h : Like i Q reading pass pass')
    (hf : ∀ reading a b, Q reading a b → Like i R reading (f a) (f' b)) :
    Like i R reading (pass >>= f) (pass' >>= f') := by
  intro c
  rw [start_bind, start_bind]
  refine (h c).bind ?_
  rintro reading ⟨x, after⟩ ⟨y, after'⟩ ⟨agree, rfl⟩
  cases agree with
  | ok related => exact hf _ _ _ related _
  | error fault => exact .ret ⟨.error fault, rfl⟩

theorem attempt (h : Like i Q reading pass pass') :
    Like i (fun reading => Agree (Q reading)) reading (attempt pass) (attempt pass') := by
  intro c
  rw [start_attempt, start_attempt]
  refine (h c).bind ?_
  rintro reading ⟨x, after⟩ ⟨y, after'⟩ ⟨agree, rfl⟩
  exact .ret ⟨.ok agree, rfl⟩

theorem ofExcept {x y : Except Fault α} (agree : Agree (Q reading) x y) :
    Like i Q reading (ofExcept x) (ofExcept y) :=
  fun _ => .ret ⟨agree, rfl⟩

theorem ofExcept_bind {P : α → α → Prop} {x y : Except Fault α} (agree : Agree P x y)
    (hf : ∀ a b, P a b → Like i R reading (f a) (f' b)) :
    Like i R reading (Pass.ofExcept x >>= f) (Pass.ofExcept y >>= f') := by
  cases agree with
  | ok related => exact hf _ _ related
  | error fault => exact fun _ => .ret ⟨.error fault, rfl⟩

theorem pure {a b : α} (related : Q reading a b) : Like i Q reading (pure a) (pure b) :=
  ofExcept (.ok related)

theorem throw (fault : Fault) : Like i Q reading (throw fault) (throw fault) :=
  ofExcept (.error fault)

theorem quiet (h : Quiet pass) (related : ∀ a, Q reading a a) : Like i Q reading pass pass := by
  intro c
  obtain ⟨tr, x, ends⟩ := (pass.start c).exists_ends
  obtain rfl : tr = [] := h c tr x.1 x.2 ends
  generalize pass.start c = program at ends
  cases ends with
  | ret =>
    refine .ret ⟨?_, rfl⟩
    cases x.1 with
    | ok a => exact .ok (related a)
    | error fault => exact .error fault

theorem quiet_bind (h : Quiet pass) (hf : ∀ a, Like i R reading (f a) (f' a)) :
    Like i R reading (pass >>= f) (pass >>= f') := by
  have first : Like i (fun reading' a b => reading' = reading ∧ a = b) reading pass pass :=
    quiet h fun _ => ⟨rfl, rfl⟩
  refine first.bind ?_
  rintro _ a _ ⟨rfl, rfl⟩
  exact hf a

theorem ask_bind {r r' : Request} {f f' : Reply → Pass β} (asked : Asked i reading r r')
    (hf : ∀ reply reply', Agree Renumbered reply reply' → Fits i r reply →
      Like i R (.after r reply reply') (f reply) (f' reply')) :
    Like i R reading (Pass.attempt (request r) >>= f) (Pass.attempt (request r') >>= f') := by
  intro c
  exact .call asked fun reply reply' agree fits => hf reply reply' agree fits c

theorem context_bind {f f' : Context → Pass β} (hf : ∀ c, Like i R reading (f c) (f' c)) :
    Like i R reading (context >>= f) (context >>= f') :=
  quiet_bind (Within.context composes_quiet) hf

theorem note_bind {f f' : Unit → Pass β} (n : Note) (hf : Like i R reading (f ()) (f' ())) :
    Like i R reading (note n >>= f) (note n >>= f') :=
  quiet_bind (Quiet.note n) fun _ => hf

theorem modify_bind {f f' : Unit → Pass β} (change : Context → Context)
    (hf : Like i R reading (f ()) (f' ())) :
    Like i R reading (modify change >>= f) (modify change >>= f') := by
  refine quiet_bind ?_ fun _ => hf
  intro c tr outcome c' ends
  exact (Calls.ends_ret_iff.mp ends).1

theorem span {block block' : Option String → Pass α}
    (h : ∀ label, Like i Q reading (block label) (block' label)) (name : String) (kind : Json)
    (attributes : Fields) :
    Like i Q reading (span name kind attributes block) (span name kind attributes block') := by
  refine context_bind fun c => ?_
  cases c.tracer with
  | off => exact h none
  | on recording =>
    refine note_bind _ (modify_bind _ ?_)
    refine (h (some name)).attempt.bind fun reading x y agree => ?_
    have close : ∀ note : Pass Unit, Quiet note →
        Like i Q reading
          (note >>= fun _ => modify (fun c => { c with openSpans := c.openSpans.tail }) >>= fun _ =>
            noteSpan (.finish name) >>= fun _ => Pass.ofExcept x)
          (note >>= fun _ => modify (fun c => { c with openSpans := c.openSpans.tail }) >>= fun _ =>
            noteSpan (.finish name) >>= fun _ => Pass.ofExcept y) := by
      intro note quiet
      exact quiet_bind quiet fun _ => modify_bind _ (note_bind _ (ofExcept agree))
    cases agree with
    | ok related => exact close (Pure.pure ()) (Quiet.pure ())
    | error fault =>
      refine close (recordOutcome name recording (.error fault : Except Fault α)) ?_
      cases recording with
      | false => exact Quiet.pure ()
      | true => exact (Quiet.note _).bind fun _ => Quiet.note _

theorem correlated (h : Like i Q reading pass pass') (given : Option String) :
    Like i Q reading (correlated given pass) (correlated given pass') := by
  refine modify_bind _ ?_
  refine h.attempt.bind fun reading x y agree => ?_
  exact modify_bind _ (ofExcept agree)

theorem measured [Redaction.VisitingOrder] {pass pass' : Pass (Directive δ)}
    (h : Like i (fun _ => Eq) reading pass pass') (kind : String) (metadata : Json) :
    Like i (fun _ => Eq) reading (measured kind metadata pass) (measured kind metadata pass') := by
  refine note_bind _ ?_
  refine h.attempt.bind fun reading x y agree => ?_
  cases agree with
  | ok related =>
    subst related
    exact note_bind _ (note_bind _ (pure rfl))
  | error fault =>
    have reported : Quiet (reportEscaped kind metadata fault) :=
      (Quiet.note _).bind fun _ => (quiet_log _ _ _ _).bind fun _ => Quiet.note _
    refine (quiet reported fun _ => rfl : Like i (fun _ => Eq) reading _ _).attempt.bind ?_
    intro reading x y agree
    refine note_bind _ ?_
    exact (ofExcept (Q := fun _ => Eq) agree).bind fun _ _ _ _ => throw fault

end Like

end Pass

/-- Two outcomes that differ in the version of the StatefulSet at most, and in the patch by which it
was guarded. -/
inductive Applied.Alike : Applied → Applied → Prop
  | created {live live' : Json} (seen : Renumbered live live') :
      Alike (.created live) (.created live')
  | unchanged {live live' : Json} (seen : Renumbered live live') :
      Alike (.unchanged live) (.unchanged live')
  | patched {patch patch' live live' : Json} (seen : Renumbered live live') :
      Alike (.patched patch live) (.patched patch' live')
  | conflicted {attempt attempt' : Option (Json × Json)} (fault : Fault) :
      Alike (.conflicted fault attempt) (.conflicted fault attempt')
  | failed {attempt attempt' : Option (Json × Json)} (fault : Fault)
      (seen : Renumbered ((attempt.map (·.2)).getD .null) ((attempt'.map (·.2)).getD .null)) :
      Alike (.failed fault attempt) (.failed fault attempt')

namespace Pass

variable {α δ : Type} {i : Identity} {reading : Reading} {t : Topology} {live live' : Json}
  {applied applied' : Applied}

theorem quiet_tag (key : String) (value : Json) : Quiet (tag key value) := by
  refine (Within.context composes_quiet).bind composes_quiet fun c => ?_
  split
  · exact Quiet.note _
  · exact Quiet.pure ()

theorem like_finish (alike : applied.Alike applied') :
    Like i (fun _ => Applied.Alike) reading (finish applied) (finish applied') := by
  have outcome : applied.outcome = applied'.outcome := by
    cases alike <;> rfl
  rw [finish, finish, outcome]
  exact Like.note_bind _ (Like.quiet_bind (quiet_tag _ _) fun _ => Like.pure alike)

variable [Redaction.VisitingOrder]

theorem like_finishFailed {attempt attempt' : Option (Json × Json)} (metadata : Json)
    (fault : Fault) (conflictMessage message reason : String)
    (seen : Renumbered ((attempt.map (·.2)).getD .null) ((attempt'.map (·.2)).getD .null)) :
    Like i (fun _ => Applied.Alike) reading
      (finishFailed metadata fault conflictMessage message reason attempt)
      (finishFailed metadata fault conflictMessage message reason attempt') := by
  unfold finishFailed
  split
  · exact Like.quiet_bind (quiet_log _ _ _ _) fun _ => like_finish (.conflicted _)
  · split
    · exact Like.quiet_bind (quiet_log _ _ _ _) fun _ => like_finish (.failed _ seen)
    · exact Like.throw fault

theorem like_createSet (own : (⟨t.ns, t.name⟩ : Identity) = i) (owner : Json) :
    Like i (fun _ => Applied.Alike) reading (createSet t owner) (createSet t owner) := by
  refine Like.quiet_bind (Within.ofExcept composes_quiet _) fun reference => ?_
  refine Like.ask_bind (.same own (by simp)) fun reply reply' agree _ => ?_
  cases agree with
  | ok seen =>
    exact Like.quiet_bind (quiet_log _ _ _ _) fun _ => like_finish (.created seen)
  | error fault => exact like_finishFailed _ _ _ _ _ (.refl _)

theorem quiet_reportDrift (t : Topology) (live : Json) : Quiet (reportDrift t live) := by
  rw [reportDrift]
  split
  · exact Quiet.pure ()
  · exact (Quiet.note _).bind fun _ => quiet_log _ _ _ _

theorem like_patchSet (own : (⟨t.ns, t.name⟩ : Identity) = i) (seen : Renumbered live live') :
    Like i (fun _ => Applied.Alike) (some (live, live')) (patchSet t live) (patchSet t live') := by
  have drift : reportDrift t live = reportDrift t live' := by
    rw [reportDrift, reportDrift, seen.immutableDrift]
  rw [patchSet, patchSet, drift, seen.patch?]
  refine Like.quiet_bind (quiet_reportDrift t live') fun _ => ?_
  cases Managed.patch? t.manifest live' with
  | none => exact like_finish (.unchanged seen)
  | some fields =>
    refine Like.note_bind _ ?_
    refine Like.ofExcept_bind seen.versionOf fun v w versions => ?_
    obtain ⟨rfl, rfl⟩ := versions
    subst own
    refine Like.ask_bind (.patch fields) fun reply reply' agree _ => ?_
    cases agree with
    | ok patched =>
      exact Like.quiet_bind (quiet_log _ _ _ _) fun _ => like_finish (.patched patched)
    | error fault => exact like_finishFailed _ _ _ _ _ seen

theorem like_apply (own : (⟨t.ns, t.name⟩ : Identity) = i) (owner : Json) :
    Like i (fun _ => Applied.Alike) reading (apply t owner) (apply t owner) := by
  refine Like.ask_bind (.same own (by simp)) fun reply reply' agree _ => ?_
  cases agree with
  | ok seen => exact like_patchSet own seen
  | error fault =>
    split
    · cases ‹Except.error fault = .ok _›
    · exact like_createSet own owner
    · split
      · exact Like.quiet_bind (quiet_log _ _ _ _) fun _ => like_finish (.failed _ (.refl _))
      · exact Like.throw _

/-- The version of the StatefulSet does not show in what comes after it was applied. -/
theorem directiveFor_congr (alike : applied.Alike applied') (s : Settings δ) (resource : Json) :
    directiveFor s resource applied = directiveFor s resource applied' := by
  cases alike <;> rfl

theorem statusAfter_congr (alike : applied.Alike applied')
    (settled : ∀ fault attempt, applied ≠ .conflicted fault attempt) (t : Topology)
    (conditions : Json) : statusAfter t applied conditions = statusAfter t applied' conditions := by
  have counted : readyCount (applied.live?.getD .null) = readyCount (applied'.live?.getD .null) := by
    cases alike with
    | conflicted => exact absurd rfl (settled _ _)
    | created seen | unchanged seen | patched seen => exact seen.readyCount
    | failed fault seen => exact seen.readyCount
  have reported : reportApplied t applied = reportApplied t applied' := by
    cases alike <;> rfl
  rw [statusAfter, statusAfter, counted, reported]

theorem like_writeStatus {resource : Json} (named : Named i resource) (status : Json)
    (directive : Directive δ) :
    Like i (fun _ => Eq) reading (writeStatus resource status directive)
      (writeStatus resource status directive) := by
  obtain ⟨metadata, hm, ns, name⟩ := named.found
  obtain ⟨fields, rfl, mem⟩ := eq_obj_of_get? hm
  simp only [writeStatus, metadataIn, lookupOr_metadata mem, ok_bind, lookupD_obj, ns, name,
    Option.getD_some]
  refine Like.ask_bind (.same rfl (by simp)) fun reply reply' agree _ => ?_
  cases agree with
  | ok _ => exact Like.pure rfl
  | error fault =>
    refine Like.quiet ?_ fun _ => rfl
    split
    · exact Quiet.pure _
    · exact (quiet_log _ _ _ _).bind fun _ => Quiet.pure _
    · split
      · refine (Quiet.note _).bind fun _ => (quiet_log _ _ _ _).bind fun _ => ?_
        split <;> exact Quiet.pure _
      · exact Quiet.throw _

theorem like_reportInvalid {resource : Json} (named : Named i resource) (conditions : Json)
    (fault : Fault) :
    Like i (fun _ => Eq) reading (reportInvalid resource conditions fault : Pass (Directive δ))
      (reportInvalid resource conditions fault) := by
  have law := composes_quiet
  refine Like.quiet_bind (Within.ofExcept law _) fun metadata => ?_
  refine Like.quiet_bind (Within.ofExcept law _) fun generation => Like.note_bind _ ?_
  refine Like.quiet_bind (quiet_log _ _ _ _) fun _ => Like.note_bind _ ?_
  refine Like.quiet_bind (Within.report law _ _) fun conditions => ?_
  refine Like.quiet_bind (Within.report law _ _) fun conditions => Like.note_bind _ ?_
  exact like_writeStatus named _ _

theorem quiet_directiveFor (s : Settings δ) (resource : Json) (applied : Applied) :
    Quiet (directiveFor s resource applied) := by
  have law := composes_quiet
  refine (Within.ofExcept law _).bind law fun metadata => ?_
  refine (Within.ofExcept law _).bind law fun name => ?_
  cases applied with
  | created | patched => exact (Quiet.note _).bind fun _ => Quiet.pure _
  | unchanged | conflicted => exact Quiet.pure _
  | failed =>
    exact (Quiet.note _).bind fun _ => (Quiet.note _).bind fun _ => Quiet.pure _

theorem like_applyAndReport {resource : Json} (named : Named i resource)
    (own : (⟨t.ns, t.name⟩ : Identity) = i) (s : Settings δ) (conditions : Json) :
    Like i (fun _ => Eq) reading (applyAndReport s resource conditions t)
      (applyAndReport s resource conditions t) := by
  refine (Like.span (Q := fun _ => Eq) (fun _ => Like.pure rfl) _ _ _).bind fun reading _ _ _ => ?_
  refine (Like.span (fun _ => like_apply own resource) _ _ _).bind ?_
  intro reading applied applied' alike
  by_cases settled : ∀ fault attempt, applied ≠ .conflicted fault attempt
  · rw [statusAfter_congr alike settled, directiveFor_congr alike]
    refine Like.quiet_bind (quiet_directiveFor s resource applied') fun directive => ?_
    split
    · exact Like.pure rfl
    · refine Like.quiet_bind (quiet_statusAfter t applied' conditions) fun status => ?_
      exact like_writeStatus named status _
  · -- After a conflict nothing is said of the StatefulSet, in neither run.
    cases alike with
    | @conflicted attempt attempt' fault =>
      have delayed : Like i (fun _ d d' => d = .requeueAfter s.conflictRequeueDelay ∧ d' = d)
          reading (directiveFor s resource (.conflicted fault attempt))
          (directiveFor s resource (.conflicted fault attempt')) := by
        refine Like.quiet_bind (Within.ofExcept composes_quiet _) fun metadata => ?_
        exact Like.quiet_bind (Within.ofExcept composes_quiet _) fun name => Like.pure ⟨rfl, rfl⟩
      refine delayed.bind ?_
      rintro reading _ _ ⟨rfl, rfl⟩
      exact Like.pure rfl
    | _ => exact absurd (by simp) settled

/-- A pass over a resource of its identity asks for nothing else. -/
theorem like_reconcileResource {resource : Json} (named : Named i resource) (s : Settings δ)
    (identity : Json) :
    Like i (fun _ => Eq) reading (reconcileResource s identity resource)
      (reconcileResource s identity resource) := by
  have law := composes_quiet
  refine Like.quiet_bind (Within.ofExcept law _) fun metadata => ?_
  refine Like.quiet_bind (Within.ofExcept law _) fun deleted => ?_
  split
  · exact Like.quiet_bind (quiet_log _ _ _ _) fun _ => Like.pure rfl
  refine Like.note_bind _ ?_
  refine Like.quiet_bind (Within.ofExcept law _) fun status => ?_
  refine Like.quiet_bind (Within.ofExcept law _) fun conditions => ?_
  split
  next t accepted =>
    have own := Topology.identity_of_ofResource accepted (named.own ▸ named.ns)
    exact like_applyAndReport named (own.trans named.own) s conditions
  next => exact like_reportInvalid named _ _
  next => exact Like.throw _

theorem like_reconcileOnce (i : Identity) (s : Settings δ) :
    Like i (fun _ => Eq) reading (reconcileOnce s i.ns i.name) (reconcileOnce s i.ns i.name) := by
  refine Like.ask_bind (.same rfl (by simp)) fun reply reply' agree fits => ?_
  cases agree with
  | ok seen =>
    have named := fits _ _ _ rfl rfl
    change Like _ _ _ (reconcileResource s _ _) (reconcileResource s _ _)
    rw [← seen.reconcileResource named]
    exact like_reconcileResource named s _
  | error fault =>
    refine Like.quiet ?_ fun _ => rfl
    split
    · cases ‹Except.error fault = .ok _›
    · exact (quiet_log _ _ _ _).bind fun _ => Quiet.pure _
    · split
      · exact (Quiet.note _).bind fun _ => (quiet_log _ _ _ _).bind fun _ => Quiet.pure _
      · exact Quiet.throw _

theorem like_reconcile (i : Identity) (s : Settings δ) :
    Like i (fun _ => Eq) reading (reconcile s i.ns i.name) (reconcile s i.ns i.name) := by
  refine Like.correlated (Like.span (fun _ => ?_) _ _ _) none
  refine (Like.measured (like_reconcileOnce i s) _ _).bind ?_
  rintro reading directive _ rfl
  exact Like.quiet_bind (quiet_tag _ _) fun _ => Like.pure rfl

theorem like_start (i : Identity) (s : Settings δ) (c : Context) :
    Calls.Like i (fun _ => Eq) reading ((reconcile s i.ns i.name).start c)
      ((reconcile s i.ns i.name).start c) := by
  refine (like_reconcile i s c).mono ?_
  rintro reading ⟨x, after⟩ ⟨y, after'⟩ ⟨agree, rfl⟩
  cases agree with
  | ok same => exact same ▸ rfl
  | error fault => rfl

end Pass

end StorageController
