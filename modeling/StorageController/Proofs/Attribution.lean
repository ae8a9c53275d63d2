import StorageController.Proofs.Pass.Labels

namespace StorageController

open Json Redaction

/-- What a process does: passes, log lines outside of them about objects in their metadata or as they
are told, faults and what catches them, and blocks with an identifier, which is generated if none is
given. -/
inductive Activity (δ : Type) where
  | idle
  | pass (s : Settings δ) (ns name : Json)
  | line (kind metadata : Json) (report : Pass.Report) (further : Fields)
  | told (kind name ns uid : Json) (report : Pass.Report) (further : Fields)
  | fail (fault : Fault)
  | both (first second : Activity δ)
  | guarded (body : Activity δ)
  | block (given : Option String) (body : Activity δ)

variable {δ : Type}

section

variable [VisitingOrder]

def Activity.run : Activity δ → Pass Unit
  | .idle => return ()
  | .pass s ns name => do
    let _ ← Pass.reconcile s ns name
  | .line kind metadata report further => Pass.log kind metadata report further
  | .told kind name ns uid report further => Pass.logAbout kind name ns uid report further
  | .fail fault => throw fault
  | .both first second => do
    first.run
    second.run
  | .guarded body => do
    let _ ← Pass.attempt body.run
  | .block given body => Pass.correlated given body.run

/-- The further members of a log line outside of passes. -/
def Activity.further? : Activity δ → Option Fields
  | .line _ _ _ further | .told _ _ _ _ _ further => some further
  | _ => none

/-- The identifier of a block that is entered in a context. -/
def blockIdentifier (given : Option String) (c : Context) : String :=
  match given with
  | some id => if id = "" then c.correlation.identifier (c.correlation.generated + 1) else id
  | none => c.correlation.identifier (c.correlation.generated + 1)

/-- A pass, a line or a block as it was carried out, with the identifiers of the blocks around it, the
innermost first, and the contexts before and after it. -/
structure Moment (δ : Type) where
  activity : Activity δ
  blocks : List String
  before : Context
  after : Context

/-- How an activity is carried out inside blocks with the given identifiers. -/
inductive Traced : List String → Activity δ → Context → Except Fault Unit → Context →
    List (Moment δ) → Prop
  | idle {blocks : List String} {c : Context} : Traced blocks .idle c (.ok ()) c []
  | pass {blocks : List String} {s : Settings δ} {ns name : Json} {c c' : Context}
      {tr : List Exchange} {outcome : Except Fault Unit}
      (ends : Pass.Ends (Activity.pass s ns name).run c tr outcome c') :
      Traced blocks (.pass s ns name) c outcome c' [⟨.pass s ns name, blocks, c, c'⟩]
  | line {blocks : List String} {a : Activity δ} {further : Fields} {c c' : Context}
      {tr : List Exchange} {outcome : Except Fault Unit} (isLine : a.further? = some further)
      (ends : Pass.Ends a.run c tr outcome c') : Traced blocks a c outcome c' [⟨a, blocks, c, c'⟩]
  | fail {blocks : List String} {fault : Fault} {c : Context} :
      Traced blocks (.fail fault) c (.error fault) c []
  | stop {blocks : List String} {first second : Activity δ} {c c' : Context} {fault : Fault}
      {moments : List (Moment δ)} (failed : Traced blocks first c (.error fault) c' moments) :
      Traced blocks (.both first second) c (.error fault) c' moments
  | both {blocks : List String} {first second : Activity δ} {c c₁ c' : Context}
      {outcome : Except Fault Unit} {moments later : List (Moment δ)}
      (done : Traced blocks first c (.ok ()) c₁ moments)
      (rest : Traced blocks second c₁ outcome c' later) :
      Traced blocks (.both first second) c outcome c' (moments ++ later)
  | guarded {blocks : List String} {body : Activity δ} {c c' : Context}
      {outcome : Except Fault Unit} {moments : List (Moment δ)}
      (inside : Traced blocks body c outcome c' moments) :
      Traced blocks (.guarded body) c (.ok ()) c' moments
  | block {blocks : List String} {given : Option String} {body : Activity δ} {c c₁ : Context}
      {outcome : Except Fault Unit} {moments : List (Moment δ)}
      (inside : Traced (blockIdentifier given c :: blocks) body
        { c with correlation := c.correlation.enter given } outcome c₁ moments) :
      Traced blocks (.block given body) c outcome { c₁ with correlation := c₁.correlation.leave }
        (moments ++ [⟨.block given body, blocks, c,
          { c₁ with correlation := c₁.correlation.leave }⟩])

variable {a : Activity δ} {c c₁ c' : Context} {tr : List Exchange} {outcome : Except Fault Unit}
  {blocks : List String} {moments later : List (Moment δ)}

/-- Every run of an activity is carried out so. -/
theorem Activity.traced (h : Pass.Ends a.run c tr outcome c') (blocks : List String) :
    ∃ moments, Traced blocks a c outcome c' moments := by
  induction a generalizing c tr outcome c' blocks with
  | idle =>
    obtain ⟨_, rfl, rfl⟩ := Pass.ends_pure_iff.mp h
    exact ⟨_, .idle⟩
  | pass s ns name => exact ⟨_, .pass h⟩
  | line kind metadata report further => exact ⟨_, .line rfl h⟩
  | told kind name ns uid report further => exact ⟨_, .line rfl h⟩
  | fail fault =>
    obtain ⟨_, rfl, rfl⟩ := Pass.ends_throw_iff.mp h
    exact ⟨_, .fail⟩
  | both first second ih ih' =>
    rcases h.of_bind with ⟨fault, rfl, failed⟩ | ⟨_, c₁, tr₁, tr₂, _, done, rest⟩
    · obtain ⟨moments, traced⟩ := ih failed blocks
      exact ⟨moments, .stop traced⟩
    · obtain ⟨moments, traced⟩ := ih done blocks
      obtain ⟨later, traced'⟩ := ih' rest blocks
      exact ⟨moments ++ later, .both traced traced'⟩
  | guarded body ih =>
    obtain ⟨inner, c₁, first, second, _, tried, rest⟩ := Pass.Ends.of_attempt_bind h
    obtain ⟨_, rfl, rfl⟩ := Pass.ends_pure_iff.mp rest
    obtain ⟨moments, traced⟩ := ih tried blocks
    exact ⟨moments, .guarded traced⟩
  | block given body ih =>
    obtain ⟨c₁, inside, rfl⟩ := Pass.Ends.inside_of_correlated h
    obtain ⟨moments, traced⟩ := ih inside (blockIdentifier given c :: blocks)
    exact ⟨_, .block traced⟩

namespace Moment

def IsPass (m : Moment δ) : Prop :=
  ∃ s ns name, m.activity = .pass s ns name

/-- How many identifiers had been generated when the one for the pass was. -/
def number (m : Moment δ) : Nat :=
  m.before.correlation.generated + 1

def identifier (m : Moment δ) : String :=
  m.before.correlation.identifier m.number

/-- The lines that were logged between the contexts. -/
def lines (m : Moment δ) : List LogLine :=
  m.after.journal.logs.drop m.before.journal.logs.length

/-- The lines of a pass, or a line outside of all passes; those of a block are of what is inside. -/
def own (m : Moment δ) : List LogLine :=
  match m.activity with
  | .block _ _ => []
  | _ => m.lines

/-- The lines are attributed as they have to be, and the identifiers in force are those before. -/
structure Attributed (m : Moment δ) : Prop where
  restored : m.after.correlation.active = m.before.correlation.active
  pass : m.IsPass → ∀ l ∈ m.lines, l.correlationId = some (.str m.identifier)
  line : ∀ further, m.activity.further? = some further → Pass.Anonymous further →
    ∀ l ∈ m.lines, l.correlationId = m.blocks.head?.map fun id => .str (redact id)

end Moment

/-- What is known of an activity that was carried out between two contexts. -/
structure Kept (c c' : Context) (moments : List (Moment δ)) : Prop where
  active : c'.correlation.active = c.correlation.active
  generated : c.correlation.generated ≤ c'.correlation.generated
  draw : c'.correlation.draw = c.correlation.draw
  logs : c'.journal.logs = c.journal.logs ++ moments.flatMap Moment.own
  attributed : ∀ m ∈ moments, m.Attributed
  numbered : ∀ m ∈ moments, m.IsPass →
    c.correlation.generated < m.number ∧ m.number ≤ c'.correlation.generated
  drawn : ∀ m ∈ moments, m.IsPass → m.before.correlation.draw = c.correlation.draw
  apart : moments.Pairwise fun m m' => m.IsPass → m'.IsPass → m.number < m'.number

namespace Kept

theorem refl (c : Context) : Kept c c ([] : List (Moment δ)) :=
  ⟨rfl, Nat.le_refl _, rfl, (List.append_nil _).symm, by simp, by simp, by simp, .nil⟩

theorem append (h : Kept c c₁ moments) (h' : Kept c₁ c' later) :
    Kept c c' (moments ++ later) where
  active := h'.active.trans h.active
  generated := Nat.le_trans h.generated h'.generated
  draw := h'.draw.trans h.draw
  logs := by rw [h'.logs, h.logs, List.flatMap_append, List.append_assoc]
  attributed := List.forall_mem_append.mpr ⟨h.attributed, h'.attributed⟩
  numbered := by
    intro m mem isPass
    rcases List.mem_append.mp mem with early | late
    · have bounds := h.numbered m early isPass
      have more := h'.generated
      omega
    · have bounds := h'.numbered m late isPass
      have more := h.generated
      omega
  drawn := List.forall_mem_append.mpr
    ⟨h.drawn, fun m mem isPass => (h'.drawn m mem isPass).trans h.draw⟩
  apart := by
    refine List.pairwise_append.mpr ⟨h.apart, h'.apart, ?_⟩
    intro m mem m' mem' isPass isPass'
    have early := (h.numbered m mem isPass).2
    have late := (h'.numbered m' mem' isPass').1
    omega

end Kept

omit [VisitingOrder] in
theorem Moment.lines_eq {m : Moment δ} {added : List LogLine}
    (logged : m.after.journal.logs = m.before.journal.logs ++ added) : m.lines = added := by
  rw [Moment.lines, logged, List.drop_left]

/-- A pass or a line by itself. -/
theorem Kept.single {m : Moment δ} {added : List LogLine} (attributed : m.Attributed)
    (own : m.own = m.lines)
    (logged : m.after.journal.logs = m.before.journal.logs ++ added)
    (generated : m.before.correlation.generated ≤ m.after.correlation.generated)
    (draw : m.after.correlation.draw = m.before.correlation.draw)
    (numbered : m.IsPass → m.after.correlation.generated = m.number) :
    Kept m.before m.after [m] where
  active := attributed.restored
  generated := generated
  draw := draw
  logs := by rw [List.flatMap_singleton, own, m.lines_eq logged, logged]
  attributed := by
    intro m' mem
    cases List.mem_singleton.mp mem
    exact attributed
  numbered := by
    intro m' mem isPass
    cases List.mem_singleton.mp mem
    exact ⟨Nat.lt_succ_self _, Nat.le_of_eq (numbered isPass).symm⟩
  drawn := by
    intro m' mem _
    cases List.mem_singleton.mp mem
    rfl
  apart := List.pairwise_singleton _ _

theorem Pass.Ends.kept_of_pass {s : Settings δ} {ns name : Json}
    (h : Ends (Activity.pass s ns name).run c tr outcome c') (blocks : List String) :
    Kept c c' [⟨.pass s ns name, blocks, c, c'⟩] := by
  obtain ⟨inner, ends⟩ : ∃ inner, Ends (reconcile s ns name) c tr inner c' := by
    rcases h.of_bind with ⟨fault, _, failed⟩ | ⟨directive, c₁, first, second, rfl, done, rest⟩
    · exact ⟨_, failed⟩
    · obtain ⟨rfl, _, rfl⟩ := ends_pure_iff.mp rest
      exact ⟨_, by rwa [List.append_nil]⟩
  obtain ⟨correlation, added, logged, each⟩ := ends.labelled_of_reconcile
  have generated : c'.correlation.generated = c.correlation.generated + 1 := by rw [correlation]
  refine Kept.single (m := ⟨.pass s ns name, blocks, c, c'⟩) ⟨?_, ?_, ?_⟩ rfl logged ?_ ?_ ?_
  · change c'.correlation.active = _
    rw [correlation]
  · intro _
    rw [Moment.lines_eq logged]
    exact each
  · intro _ isLine
    cases isLine
  · change _ ≤ c'.correlation.generated
    rw [generated]
    exact Nat.le_succ _
  · change c'.correlation.draw = _
    rw [correlation]
  · exact fun _ => generated

theorem Pass.Ends.lined {further : Fields} (h : Ends a.run c tr outcome c')
    (isLine : a.further? = some further) : Lined further c c' := by
  cases a with
  | line kind metadata report own =>
    cases isLine
    exact Ends.of_log h
  | told kind name ns uid report own =>
    cases isLine
    exact Ends.of_logAbout h
  | _ => cases isLine

theorem Pass.Ends.kept_of_line {further : Fields} (h : Ends a.run c tr outcome c')
    (isLine : a.further? = some further) (standing : c.correlation.active = blocks) :
    Kept c c' [⟨a, blocks, c, c'⟩] := by
  have lined := h.lined isLine
  obtain ⟨same, added, logged⟩ := lined.grown
  have noPass : ¬ (⟨a, blocks, c, c'⟩ : Moment δ).IsPass := by
    rintro ⟨_, _, _, rfl⟩
    cases isLine
  have own : (⟨a, blocks, c, c'⟩ : Moment δ).own = Moment.lines ⟨a, blocks, c, c'⟩ := by
    cases a with
    | block given body => cases isLine
    | _ => rfl
  refine Kept.single (m := ⟨a, blocks, c, c'⟩) ⟨?_, ?_, ?_⟩ own logged ?_ ?_ ?_
  · exact congrArg Correlation.active same
  · exact fun isPass => absurd isPass noPass
  · intro members isLine' anonymous
    obtain rfl : further = members := Option.some.inj (isLine.symm.trans isLine')
    obtain ⟨_, written, logged', each⟩ := lined.labelled anonymous
    rw [Moment.lines_eq logged', ← standing]
    exact each
  · exact Nat.le_of_eq (congrArg Correlation.generated same).symm
  · exact congrArg Correlation.draw same
  · exact fun isPass => absurd isPass noPass

omit [VisitingOrder] in
theorem active_enter (given : Option String) (c : Context) :
    (c.correlation.enter given).active = blockIdentifier given c :: c.correlation.active := by
  cases given with
  | none => rfl
  | some id =>
    by_cases empty : id = "" <;>
      simp only [Correlation.enter, Correlation.generate, blockIdentifier, empty, if_true, if_false]

omit [VisitingOrder] in
theorem generated_enter (given : Option String) (c : Context) :
    c.correlation.generated ≤ (c.correlation.enter given).generated := by
  unfold Correlation.enter
  split
  · split
    · exact Nat.le_succ _
    · exact Nat.le_refl _
  · exact Nat.le_succ _

omit [VisitingOrder] in
theorem draw_enter (given : Option String) (c : Context) :
    (c.correlation.enter given).draw = c.correlation.draw := by
  unfold Correlation.enter
  split
  · split <;> rfl
  · rfl

theorem Kept.block {given : Option String} {body : Activity δ}
    (h : Kept { c with correlation := c.correlation.enter given } c₁ moments) :
    Kept c { c₁ with correlation := c₁.correlation.leave }
      (moments ++ [⟨.block given body, blocks, c,
        { c₁ with correlation := c₁.correlation.leave }⟩]) := by
  have restored : c₁.correlation.leave.active = c.correlation.active := by
    change c₁.correlation.active.tail = _
    rw [h.active, active_enter, List.tail_cons]
  have entered := generated_enter given c
  have noPass : ¬ (⟨.block given body, blocks, c,
      { c₁ with correlation := c₁.correlation.leave }⟩ : Moment δ).IsPass :=
    fun ⟨_, _, _, isPass⟩ => nomatch isPass
  have draw := draw_enter given c
  refine ⟨restored, Nat.le_trans entered h.generated, h.draw.trans draw, ?_, ?_, ?_, ?_, ?_⟩
  · rw [List.flatMap_append]
    change c₁.journal.logs = c.journal.logs ++ (moments.flatMap Moment.own ++ [])
    rw [List.append_nil]
    exact h.logs
  · refine List.forall_mem_append.mpr ⟨h.attributed, ?_⟩
    intro m mem
    cases List.mem_singleton.mp mem
    exact ⟨restored, fun isPass => absurd isPass noPass, fun _ isLine => nomatch isLine⟩
  · intro m mem isPass
    rcases List.mem_append.mp mem with inside | last
    · have bounds := h.numbered m inside isPass
      exact ⟨Nat.lt_of_le_of_lt entered bounds.1, bounds.2⟩
    · cases List.mem_singleton.mp last
      exact absurd isPass noPass
  · intro m mem isPass
    rcases List.mem_append.mp mem with inside | last
    · exact (h.drawn m inside isPass).trans draw
    · cases List.mem_singleton.mp last
      exact absurd isPass noPass
  · refine List.pairwise_append.mpr ⟨h.apart, List.pairwise_singleton _ _, ?_⟩
    intro m _ m' mem' _ isPass
    cases List.mem_singleton.mp mem'
    exact absurd isPass noPass

theorem Traced.kept (h : Traced blocks a c outcome c' moments)
    (standing : c.correlation.active = blocks) : Kept c c' moments := by
  induction h with
  | idle | fail => exact .refl _
  | pass ends => exact ends.kept_of_pass _
  | line isLine ends => exact ends.kept_of_line isLine standing
  | stop _ ih => exact ih standing
  | both _ _ ih ih' =>
    have first := ih standing
    exact first.append (ih' (first.active.trans standing))
  | guarded _ ih => exact ih standing
  | block _ ih =>
    refine (ih ?_).block
    rw [← standing]
    exact active_enter _ _

/-- From one identifier to another, the generator draws no number twice. -/
def Correlation.NeverRepeats (c : Correlation) (last : Nat) : Prop :=
  ∀ i j, c.generated < i → i < j → j ≤ last → c.draw i ≠ c.draw j

/-- Log lines can be attributed. A run is a sequence of moments, whose lines are all that it logs. The
lines of a pass carry the identifier that was generated for it, which is that of no other pass if the
generator never repeats. Other lines carry the identifier of the innermost block around them, redacted
as all further texts are, if they do not name one of their own. After every pass and every block the
identifiers in force are those before it, whether it returned or failed. -/
theorem log_lines_attributed (h : Pass.Ends a.run c tr outcome c') :
    ∃ moments, Traced c.correlation.active a c outcome c' moments ∧
      c'.correlation.active = c.correlation.active ∧
      c'.journal.logs = c.journal.logs ++ moments.flatMap Moment.own ∧
      (∀ m ∈ moments, m.Attributed) ∧
      (c.correlation.NeverRepeats c'.correlation.generated →
        moments.Pairwise fun m m' => m.IsPass → m'.IsPass → m.identifier ≠ m'.identifier) := by
  obtain ⟨moments, traced⟩ := Activity.traced h c.correlation.active
  have kept := traced.kept rfl
  refine ⟨moments, traced, kept.active, kept.logs, kept.attributed, ?_⟩
  intro fresh
  refine kept.apart.imp_of_mem ?_
  intro m m' mem mem' apart isPass isPass' same
  have eq := Correlation.draw_of_identifier same
  rw [kept.drawn m mem isPass, kept.drawn m' mem' isPass'] at eq
  exact fresh _ _ (kept.numbered m mem isPass).1 (apart isPass isPass')
    (kept.numbered m' mem' isPass').2 eq

end

namespace Deploying

def context : Context :=
  ⟨0, {}, .off, [], []⟩

/-- A line about nothing in particular. -/
def line : Activity Nat :=
  .line Cluster.storageKind (.obj []) ⟨.info, "m", "info", "Info"⟩ []

/-- A line and a pass in a block, whose fault is caught outside, and another line. -/
def activity : Activity Nat :=
  .both (.guarded (.block (some "deploy-7") (.both line
    (.pass ⟨8080, 30, 4, 1, 60, 2, 5, 300, ""⟩ "swift" "storage")))) line

open TokenFirst in
/-- Three lines, one of them while the fault is on its way. -/
theorem ends_lost : ∃ (c' : Context) (first failed last : LogLine),
    Pass.Ends activity.run context
      [⟨.readStorage "swift" "storage", .error (.unexpected "lost")⟩] (.ok ()) c' ∧
    c'.journal.logs = [first, failed, last] ∧
    first.correlationId = some (.str "deploy-7") ∧
    failed.correlationId = some (.str (context.correlation.identifier 1)) ∧
    last.correlationId = none := by
  have unmasked : redact "deploy-7" = "deploy-7" := by decide +kernel
  refine ⟨_, _, _, _, .call (.ret _), rfl, ?_, ?_, ?_⟩
  · refine (Pass.lookup_describe Pass.anonymous_nil rfl).trans ?_
    change some (Json.str (redact "deploy-7")) = _
    rw [unmasked]
  · refine (Pass.lookup_describe (Pass.anonymous_faultFields _) rfl).trans ?_
    change some (Json.str (redact (context.correlation.identifier 1))) = _
    rw [redact_identifier]
  · exact Pass.lookup_describe Pass.anonymous_nil rfl

end Deploying

open Deploying TokenFirst in
/-- A pass fails inside a block, and the fault leaves both. The lines before, in and after the pass tell
where they are from. -/
theorem log_lines_attributed_failing :
    ∃ (c' : Context) (first failed last : LogLine) (moments : List (Moment Nat)),
      Pass.Ends activity.run context
        [⟨.readStorage "swift" "storage", .error (.unexpected "lost")⟩] (.ok ()) c' ∧
      [first, failed, last] = moments.flatMap Moment.own ∧
      first.correlationId = some (.str "deploy-7") ∧
      failed.correlationId = some (.str (context.correlation.identifier 1)) ∧
      last.correlationId = none ∧
      c'.correlation.active = [] ∧ (∀ m ∈ moments, m.Attributed) ∧
      moments.Pairwise fun m m' => m.IsPass → m'.IsPass → m.identifier ≠ m'.identifier := by
  obtain ⟨c', first, failed, last, ends, lines, inside, within, outside⟩ := ends_lost
  have fresh : context.correlation.NeverRepeats c'.correlation.generated :=
    fun i j _ less _ => Nat.ne_of_lt less
  obtain ⟨moments, _, restored, logged, attributed, apart⟩ := log_lines_attributed ends
  exact ⟨c', first, failed, last, moments, ends, lines.symm.trans logged, inside, within, outside,
    restored, attributed, apart fresh⟩

open Deploying TokenFirst in
/-- A block whose identifier looks like a secret: its lines do not carry it. -/
theorem identifier_of_secret_redacted :
    ∃ (c' : Context) (l : LogLine),
      Pass.Ends (Activity.block (some "token=abc") line).run context [] (.ok ()) c' ∧
      c'.journal.logs = [l] ∧ l.correlationId = some (.str "token: [REDACTED]") ∧
      l.correlationId ≠ some (.str "token=abc") := by
  have masked : redact "token=abc" = "token: [REDACTED]" := by decide +kernel
  have carried : ∀ l : LogLine, l.correlationId = some (.str (redact "token=abc")) →
      l.correlationId = some (.str "token: [REDACTED]") ∧
        l.correlationId ≠ some (.str "token=abc") := by
    intro l eq
    rw [eq, masked]
    decide +kernel
  refine ⟨_, _, .ret _, rfl, ?_⟩
  exact carried _ (Pass.lookup_describe Pass.anonymous_nil rfl)

end StorageController
