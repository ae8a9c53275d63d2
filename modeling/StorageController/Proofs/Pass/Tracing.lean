import StorageController.Pass.Work
import StorageController.Proofs.Pass.Ends
import StorageController.Proofs.Pass.SpanHistory

namespace StorageController

/-- The route of some work: the fault that leaves it, if one does, the faults caught in it, the
attributes set in it outside the spans that it opens, and these spans, as a tracer is told of them
that records or does not. -/
structure Route where
  fault : Option Fault := none
  caught : List Fault := []
  tags : Fields := []
  spans : (recording : Bool) → List SpanRecord := fun _ => []

namespace Route

def outcome (route : Route) : Except Fault Unit :=
  match route.fault with
  | none => .ok ()
  | some fault => .error fault

/-- What follows is not reached if a fault leaves what is before it. -/
def andThen (first rest : Route) : Route :=
  match first.fault with
  | some _ => first
  | none =>
    { fault := rest.fault
      caught := first.caught ++ rest.caught
      tags := first.tags ++ rest.tags
      spans := fun recording => first.spans recording ++ rest.spans recording }

/-- A fault that would leave the block is caught. -/
def guarded (inside : Route) : Route :=
  { inside with fault := none, caught := inside.caught ++ inside.fault.toList }

/-- What is recorded as the failure of a span: the fault that leaves it, if the span records. -/
def failures (recording : Bool) (inside : Route) : List Fault :=
  if recording then inside.fault.toList else []

/-- A span takes the attributes set in its block, if it records, and leaves them to no other. -/
def inSpan (name : String) (attributes : Fields) (inside : Route) : Route where
  fault := inside.fault
  caught := inside.caught
  spans := fun recording =>
    [{ name, attributes
       tags := if recording then inside.tags else []
       exceptions := (inside.failures recording).map fun fault => (fault.kind, fault.text)
       errors := (inside.failures recording).map Fault.text
       inner := inside.spans recording }]

end Route

namespace Work

mutual

def route : Work → Route
  | .span name kind attributes body =>
    (routeAll body).inSpan name (Pass.spanAttributes kind attributes)
  | .tag key value => { tags := [(key, value)] }
  | .fail fault => { fault := some fault }
  | .guarded body => (routeAll body).guarded

/-- The route of pieces of work one after the other. -/
def routeAll : List Work → Route
  | [] => {}
  | work :: rest => (route work).andThen (routeAll rest)

end

end Work

/-- The attributes that reach a span. -/
def Tracer.kept : Tracer → Fields → Fields
  | .on true, tags => tags
  | _, _ => []

/-- The spans that a tracer is told of. -/
def Tracer.told : Tracer → Route → List SpanRecord
  | .off, _ => []
  | .on recording, route => route.spans recording

namespace Route

variable {first : Route}

theorem andThen_of_fault {fault : Fault} (left : first.fault = some fault) (rest : Route) :
    first.andThen rest = first := by
  rw [andThen, left]

theorem andThen_of_none (left : first.fault = none) (rest : Route) :
    first.andThen rest =
      { fault := rest.fault
        caught := first.caught ++ rest.caught
        tags := first.tags ++ rest.tags
        spans := fun recording => first.spans recording ++ rest.spans recording } := by
  rw [andThen, left]

theorem outcome_of_none (left : first.fault = none) : first.outcome = .ok () := by
  rw [outcome, left]

theorem outcome_of_fault {fault : Fault} (left : first.fault = some fault) :
    first.outcome = .error fault := by
  rw [outcome, left]

end Route

/-- The state of the open spans after a route, as the tracer is told of it. -/
def SpanState.after (st : SpanState) (tracer : Tracer) (route : Route) : SpanState :=
  st.place (tracer.kept route.tags) (tracer.told route)

theorem SpanState.after_outcome (st : SpanState) (tracer : Tracer) (fault : Option Fault) :
    st.after tracer { fault } = st := by
  have kept : tracer.kept [] = [] := by rcases tracer with _ | _ | _ <;> rfl
  have told : tracer.told { fault } = [] := by cases tracer <;> rfl
  rw [after, kept, told, place_nil]

theorem SpanState.after_andThen (st : SpanState) (tracer : Tracer) {first : Route}
    (left : first.fault = none) (rest : Route) :
    st.after tracer (first.andThen rest) = (st.after tracer first).after tracer rest := by
  rw [after, after, after, place_place, Route.andThen_of_none left]
  rcases tracer with _ | _ | _ <;> rfl

namespace Context

/-- The context with a history of spans noted. -/
def noted (c : Context) (history : List SpanNote) : Context :=
  { c with journal := c.journal ++ history.map .span }

theorem noted_nil (c : Context) : c.noted [] = c := by
  rw [noted, List.map_nil, List.append_nil]

theorem noted_noted (c : Context) (history further : List SpanNote) :
    (c.noted history).noted further = c.noted (history ++ further) := by
  simp only [noted, List.map_append, List.append_assoc]

/-- The context inside a span that was just opened. -/
def inside (c : Context) (name : String) (attributes : Fields) : Context :=
  { c.noted [.start name attributes] with openSpans := name :: c.openSpans }

/-- Closing the span leaves the context as it was, with the history of the span. -/
theorem noted_inside (c : Context) (name : String) (attributes : Fields)
    (history : List SpanNote) :
    ({ (c.inside name attributes).noted history with openSpans := c.openSpans } : Context) =
      c.noted (.start name attributes :: history) := by
  simp [noted, inside]

end Context

namespace Pass

open Context

variable {α β : Type} {pass first rest : Pass Unit} {route before after : Route}
  {c c₁ : Context} {st : SpanState}

theorem start_bind_of_ok {pass : Pass α} {f : α → Pass β} {a : α}
    (h : pass.start c = .ret (.ok a, c₁)) : (pass >>= f).start c = (f a).start c₁ := by
  rw [start_bind, h]
  rfl

theorem start_bind_of_error {pass : Pass α} {f : α → Pass β} {fault : Fault}
    (h : pass.start c = .ret (.error fault, c₁)) :
    (pass >>= f).start c = .ret (.error fault, c₁) := by
  rw [start_bind, h]
  rfl

theorem start_attempt_of_ret {pass : Pass α} {outcome : Except Fault α}
    (h : pass.start c = .ret (outcome, c₁)) :
    (attempt pass).start c = .ret (.ok outcome, c₁) := by
  rw [start_attempt, h]
  rfl

theorem start_noteSpan (n : SpanNote) (c : Context) :
    (noteSpan n).start c = .ret (.ok (), c.noted [n]) := rfl

/-- The pass takes the route under any tracer: it ends as the route does and only adds a history of
spans, in which the faults of the route are caught, and which says of the spans that are open and of
those opened and closed since what the route has for them. -/
def Takes (pass : Pass Unit) (route : Route) : Prop :=
  ∀ (c : Context) (st : SpanState), c.openSpans = st.names → (c.tracer = .off → st.opened = []) →
    ∃ history, pass.start c = .ret (route.outcome, c.noted history) ∧
      caughtIn history = route.caught.map (fun fault => (fault.kind, fault.text)) ∧
      st.readAll history = some (st.after c.tracer route)

/-- Work of which only the outcome is to be seen. -/
theorem takes_outcome {fault : Option Fault}
    (h : ∀ c, pass.start c = .ret (Route.outcome { fault }, c)) : Takes pass { fault } := by
  intro c st _ _
  refine ⟨[], ?_, rfl, ?_⟩
  · rw [noted_nil, h]
  · rw [st.after_outcome, SpanState.readAll_nil]

theorem takes_tag (key : String) (value : Json) :
    Takes (tag key value) { tags := [(key, value)] } := by
  intro c st names off
  obtain ⟨opened, closed⟩ := st
  obtain ⟨clock, correlation, tracer, openSpans, journal⟩ := c
  cases names
  cases opened with
  | nil =>
    refine ⟨[], ?_, rfl, ?_⟩
    · rw [noted_nil]
      rcases tracer with _ | _ | _ <;> rfl
    · rcases tracer with _ | _ | _ <;>
        simp [SpanState.readAll_nil, SpanState.after, SpanState.place, Tracer.told]
  | cons span outer =>
    rcases tracer with _ | _ | _
    · cases off rfl
    · refine ⟨[], ?_, rfl, ?_⟩
      · rw [noted_nil]
        rfl
      · rw [SpanState.readAll_nil]
        exact congrArg some (SpanState.place_nil _).symm
    · refine ⟨[.tagged span.name key value], rfl, rfl, ?_⟩
      simp [SpanState.readAll_singleton, SpanState.read, SpanState.change, SpanState.after,
        SpanState.place, Tracer.kept, Tracer.told]

theorem Takes.andThen (h : Takes first before) (h' : Takes rest after) :
    Takes (do first; rest) (before.andThen after) := by
  intro c st names off
  obtain ⟨history, run, caught, read⟩ := h c st names off
  cases left : before.fault with
  | some fault =>
    rw [Route.andThen_of_fault left]
    rw [Route.outcome_of_fault left] at run ⊢
    exact ⟨history, start_bind_of_error run, caught, read⟩
  | none =>
    rw [Route.outcome_of_none left] at run
    obtain ⟨further, run', caught', read'⟩ := h' (c.noted history) (st.after c.tracer before)
      (names.trans (st.names_place _ _).symm)
      fun isOff => (st.opened_place_eq_nil_iff _ _).mpr (off isOff)
    refine ⟨history ++ further, ?_, ?_, ?_⟩
    · rw [start_bind_of_ok run, run', noted_noted, Route.andThen_of_none left]
      rfl
    · rw [caughtIn_append, caught, caught', Route.andThen_of_none left, List.map_append]
    · rw [SpanState.readAll_append read, read', st.after_andThen _ left]
      rfl

theorem Takes.guarded (h : Takes pass route) :
    Takes (do
      match ← attempt pass with
      | .ok _ => return ()
      | .error fault => noteSpan (.caught fault.kind fault.text)) route.guarded := by
  intro c st names off
  obtain ⟨history, run, caught, read⟩ := h c st names off
  have tried := start_attempt_of_ret run
  have same : st.after c.tracer route.guarded = st.after c.tracer route := by
    rw [SpanState.after, SpanState.after]
    cases c.tracer <;> rfl
  rw [same]
  cases left : route.fault with
  | none =>
    rw [Route.outcome_of_none left] at tried
    refine ⟨history, start_bind_of_ok tried, ?_, read⟩
    rw [caught, Route.guarded, left, Option.toList_none, List.append_nil]
  | some fault =>
    rw [Route.outcome_of_fault left] at tried
    refine ⟨history ++ [.caught fault.kind fault.text], ?_, ?_, ?_⟩
    · rw [start_bind_of_ok tried, ← noted_noted]
      rfl
    · rw [caughtIn_append, caught, Route.guarded, left, Option.toList_some, List.map_append]
      rfl
    · rw [SpanState.readAll_append read]
      rfl

/-- The notes of the failures of a span. -/
def failureNotes (name : String) (failures : List Fault) : List SpanNote :=
  failures.flatMap fun fault => [.exception name fault.kind fault.text, .failed name fault.text]

theorem caughtIn_failureNotes (name : String) (failures : List Fault) :
    caughtIn (failureNotes name failures) = [] := by
  induction failures with
  | nil => rfl
  | cons fault rest ih => exact ih

theorem start_recordOutcome (name : String) (recording : Bool) (inside : Route) (c : Context) :
    (recordOutcome name recording inside.outcome).start c =
      .ret (.ok (), c.noted (failureNotes name (inside.failures recording))) := by
  have silent : (.ret (.ok (), c) : Calls (Except Fault Unit × Context)) =
      .ret (.ok (), c.noted (failureNotes name [])) := by
    rw [failureNotes, List.flatMap_nil, noted_nil]
  unfold Route.outcome Route.failures
  cases inside.fault with
  | none => cases recording <;> exact silent
  | some fault =>
    cases recording with
    | false => exact silent
    | true =>
      refine (start_bind_of_ok (start_noteSpan _ c)).trans ?_
      rw [start_noteSpan, noted_noted]
      rfl

theorem readAll_failureNotes (failures : List Fault) (span : SpanRecord)
    (outer closed : List SpanRecord) :
    SpanState.readAll ⟨span :: outer, closed⟩ (failureNotes span.name failures) =
      some ⟨{ span with
        exceptions := span.exceptions ++ failures.map (fun fault => (fault.kind, fault.text))
        errors := span.errors ++ failures.map Fault.text } :: outer, closed⟩ := by
  induction failures generalizing span with
  | nil =>
    cases span
    simp [failureNotes, SpanState.readAll_nil]
  | cons fault rest ih =>
    rw [failureNotes, List.flatMap_cons, ← failureNotes]
    have here : SpanState.readAll ⟨span :: outer, closed⟩
        [.exception span.name fault.kind fault.text, .failed span.name fault.text] =
          some ⟨{ span with
            exceptions := span.exceptions ++ [(fault.kind, fault.text)]
            errors := span.errors ++ [fault.text] } :: outer, closed⟩ := by
      simp [SpanState.readAll, SpanState.read, SpanState.change]
    rw [SpanState.readAll_append here]
    refine (ih _).trans ?_
    simp

/-- The history of a span is read as the span closed inside the one around it. -/
theorem readAll_span {name : String} {attributes tags : Fields} {spans : List SpanRecord}
    {history : List SpanNote} (failures : List Fault) (st : SpanState)
    (h : (st.enter name attributes).readAll history =
      some ((st.enter name attributes).place tags spans)) :
    st.readAll (.start name attributes :: .entered (some name) ::
        (history ++ (failureNotes name failures ++ [.finish name]))) =
      some (st.place []
        [{ name, attributes, tags
           exceptions := failures.map fun fault => (fault.kind, fault.text)
           errors := failures.map Fault.text
           inner := spans }]) := by
  have started : st.read (.start name attributes) = some (st.enter name attributes) := rfl
  have entered : (st.enter name attributes).read (.entered (some name)) =
      some (st.enter name attributes) := if_pos rfl
  have failed := readAll_failureNotes failures
    { name, attributes, tags := [] ++ tags, inner := [] ++ spans } st.opened st.closed
  rw [SpanState.readAll_cons started, SpanState.readAll_cons entered, SpanState.readAll_append h]
  refine (SpanState.readAll_append failed _).trans ?_
  exact (SpanState.readAll_singleton _ _).trans (if_pos rfl)

section Span

variable {name : String} {kind : Json} {attributes : Fields} {recording : Bool}
  {history : List SpanNote}

theorem start_span_off (traced : c.tracer = .off) (block : Option String → Pass Unit) :
    (span name kind attributes block).start c = (block none).start c := by
  have seen : context.start c = .ret (.ok c, c) := rfl
  refine (start_bind_of_ok seen).trans ?_
  simp only [traced]

theorem start_span_on (traced : c.tracer = .on recording)
    (run : pass.start ((c.inside name (spanAttributes kind attributes)).noted
        [.entered (some name)]) =
      .ret (route.outcome, ((c.inside name (spanAttributes kind attributes)).noted
        [.entered (some name)]).noted history)) :
    (span name kind attributes fun seen => do
        noteSpan (.entered seen)
        pass).start c =
      .ret (route.outcome, c.noted
        (.start name (spanAttributes kind attributes) :: .entered (some name) ::
          (history ++ (failureNotes name (route.failures recording) ++ [.finish name])))) := by
  have seen : context.start c = .ret (.ok c, c) := rfl
  have opened : (modify fun c => { c with openSpans := name :: c.openSpans } : Pass Unit).start
      (c.noted [.start name (spanAttributes kind attributes)]) =
        .ret (.ok (), c.inside name (spanAttributes kind attributes)) := rfl
  have inside : (noteSpan (.entered (some name)) >>= fun _ => pass).start
      (c.inside name (spanAttributes kind attributes)) = _ :=
    (start_bind_of_ok (start_noteSpan _ _)).trans run
  have closed (body : List SpanNote) :
      (modify fun c => { c with openSpans := c.openSpans.tail } : Pass Unit).start
          ((c.inside name (spanAttributes kind attributes)).noted body) =
        .ret (.ok (), c.noted (.start name (spanAttributes kind attributes) :: body)) := by
    rw [← noted_inside]
    rfl
  refine (start_bind_of_ok seen).trans ?_
  simp only [traced]
  refine (start_bind_of_ok (start_noteSpan _ c)).trans ?_
  refine (start_bind_of_ok opened).trans ?_
  refine (start_bind_of_ok (start_attempt_of_ret inside)).trans ?_
  refine (start_bind_of_ok (start_recordOutcome name recording route _)).trans ?_
  rw [noted_noted, noted_noted]
  refine (start_bind_of_ok (closed _)).trans ?_
  refine (start_bind_of_ok (start_noteSpan _ _)).trans ?_
  rw [noted_noted]
  simp only [List.cons_append, List.nil_append, List.append_assoc]
  rfl

end Span

theorem Takes.inSpan (h : Takes pass route) (name : String) (kind : Json) (attributes : Fields) :
    Takes
      (span name kind attributes fun seen => do
        noteSpan (.entered seen)
        pass)
      (route.inSpan name (spanAttributes kind attributes)) := by
  intro c st names off
  cases traced : c.tracer with
  | off =>
    have outside : st.names = [] := by rw [SpanState.names, off traced, List.map_nil]
    have unseen : st.read (.entered none) = some st := by
      rw [SpanState.read, outside]
      rfl
    obtain ⟨history, run, caught, read⟩ := h (c.noted [.entered none]) st names off
    have told : st.readAll (.entered none :: history) = some (st.after c.tracer route) :=
      (SpanState.readAll_cons unseen history).trans read
    rw [traced] at told
    refine ⟨.entered none :: history, ?_, caught, told⟩
    rw [start_span_off traced, start_bind_of_ok (start_noteSpan _ c), run, noted_noted]
    rfl
  | on recording =>
    let inside := (c.inside name (spanAttributes kind attributes)).noted [.entered (some name)]
    have there : inside.tracer = .on recording := traced
    obtain ⟨history, run, caught, read⟩ := h inside (st.enter name _)
      (congrArg (name :: ·) names) (fun isOff => nomatch there.symm.trans isOff)
    rw [there] at read
    refine ⟨_, start_span_on traced run, ?_, ?_⟩
    · change caughtIn (history ++ (_ ++ [_])) = _
      rw [caughtIn_append, caughtIn_append, caught, caughtIn_failureNotes]
      exact List.append_nil _
    · refine (readAll_span (route.failures recording) st read).trans ?_
      cases recording <;> rfl

end Pass

namespace Work

open Pass

mutual

theorem takes_route : (work : Work) → Takes work.run work.route
  | .span name kind attributes body => (takes_routeAll body).inSpan name kind attributes
  | .tag key value => takes_tag key value
  | .fail _ => takes_outcome fun _ => rfl
  | .guarded body => (takes_routeAll body).guarded

theorem takes_routeAll : (works : List Work) → Takes (runAll works) (routeAll works)
  | [] => takes_outcome fun _ => rfl
  | work :: rest => (takes_route work).andThen (takes_routeAll rest)

end

end Work

/-- Tracing is transparent and balanced. Under every tracer the work ends as its route does, with
the same faults caught. The history that it leaves is balanced and says of the spans what the route
has for the tracer: without one there are no spans; with one every span has the attributes set in
its block outside further spans, and the exception and the error of the fault that left its block,
if the tracer records, and none of them otherwise. -/
theorem tracing_transparent (works : List Work) (tracer : Tracer) (c : Context) :
    ∃ history : List SpanNote,
      (Work.runAll works).start { c with tracer, openSpans := [] } =
        .ret ((Work.routeAll works).outcome,
          ({ c with tracer, openSpans := [] } : Context).noted history) ∧
      caughtIn history =
        (Work.routeAll works).caught.map (fun fault => (fault.kind, fault.text)) ∧
      spansOf? history = some (tracer.told (Work.routeAll works)) := by
  obtain ⟨history, run, caught, read⟩ :=
    Work.takes_routeAll works { c with tracer, openSpans := [] } {} rfl fun _ => rfl
  refine ⟨history, run, caught, ?_⟩
  rw [spansOf?, read]
  rfl

-- A fault that leaves one span is caught in the span around it, which goes on.
example :
    (Tracer.on true).told (Work.routeAll
      [.span "outer" .null []
        [.guarded [.span "inner" .null [] [.tag "k" "v", .fail (.unexpected "lost")]],
         .tag "n" "w"]]) =
      [{ name := "outer", attributes := [], tags := [("n", "w")],
         inner := [{ name := "inner", attributes := [], tags := [("k", "v")],
                     exceptions := [("Exception", "lost")], errors := ["lost"] }] }] := rfl

end StorageController
