import StorageController.Cluster.Api
import StorageController.Journal

namespace StorageController

/-- The correlation identifiers in force, innermost first, how many were generated, and the numbers
that their generator draws, one after the other. -/
structure Correlation where
  active : List String := []
  generated : Nat := 0
  draw : Nat → Nat := id

inductive Tracer where
  | off
  | on (recording : Bool)
deriving DecidableEq

/-- The clock of a pass. It is read for every condition that is reported, of each type once at most, so
a reading for each type is all that a pass sees of it. -/
structure Clock where
  reading : Json → Int

/-- A clock that stands still. -/
instance : Coe Int Clock :=
  ⟨fun time => ⟨fun _ => time⟩⟩

instance (n : Nat) : OfNat Clock n :=
  ⟨⟨fun _ => n⟩⟩

/-- What a pass sees and changes besides the cluster. -/
structure Context where
  clock : Clock
  correlation : Correlation := {}
  tracer : Tracer := .on true
  openSpans : List String := []
  journal : Journal := []

/-- A program with requests, faults and a context. -/
abbrev Pass := ExceptT Fault (StateT Context Calls)

namespace Pass

variable {α : Type}

def request (r : Request) : Pass Json :=
  ExceptT.mk (StateT.lift (Calls.ask r))

/-- The outcome of a part of the pass, a fault included. -/
def attempt (part : Pass α) : Pass (Except Fault α) :=
  ExceptT.mk (.ok <$> part.run)

def ofExcept (result : Except Fault α) : Pass α :=
  ExceptT.mk (pure result)

def context : Pass Context :=
  get

def note (n : Note) : Pass Unit :=
  modify fun c => { c with journal := c.journal ++ [n] }

def count (m : Metric) : Pass Unit :=
  note (.metric m)

def emit (e : Event) : Pass Unit :=
  note (.event e)

def clock (type : Json) : Pass Int :=
  return (← context).clock.reading type

/-- The requests of a pass that starts in a context, with its outcome and the context after it. -/
def start (pass : Pass α) (c : Context) : Calls (Except Fault α × Context) :=
  pass.run.run c

end Pass

end StorageController
