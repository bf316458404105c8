import Migration.Failure

namespace Migration

/-! Leveled diagnostics.

Every component is handed the verbosity it runs under, and keeps only the messages that the
verbosity shows.  Messages are collected in order, also on the way to a failure.
-/

inductive Verbosity where
  | quiet
  | warn
  | info
  | debug
  | raw
deriving DecidableEq, Repr

namespace Verbosity

/-- The level reached by asking `count` times for more output; warnings need no asking. -/
def ofCount : Nat → Verbosity
  | 0 => warn
  | 1 => info
  | 2 => debug
  | _ => raw

def rank : Verbosity → Nat
  | quiet => 0
  | warn => 1
  | info => 2
  | debug => 3
  | raw => 4

def label : Verbosity → String
  | quiet => "quiet"
  | warn => "warn"
  | info => "info"
  | debug => "debug"
  | raw => "raw"

/-- Whether a message of the given level is kept.  Nothing is ever reported at the quiet level. -/
def shows (verbosity level : Verbosity) : Bool :=
  level != quiet && level.rank ≤ verbosity.rank

end Verbosity

structure Entry where
  level : Verbosity
  message : String
deriving DecidableEq

def Entry.line (entry : Entry) : String :=
  s!"[{entry.level.label}] {entry.message}"

/-- A computation that reports diagnostics and may fail. -/
def Reporting (α : Type) : Type :=
  Verbosity → Except Failure α × List Entry

namespace Reporting

def run (computation : Reporting α) (verbosity : Verbosity) : Except Failure α × List Entry :=
  computation verbosity

instance : Monad Reporting where
  pure value := fun _ => (.ok value, [])
  bind first next := fun verbosity =>
    match first verbosity with
    | (.ok value, entries) =>
        let (outcome, more) := next value verbosity
        (outcome, entries ++ more)
    | (.error failure, entries) => (.error failure, entries)

def fail (failure : Failure) : Reporting α :=
  fun _ => (.error failure, [])

def ofExcept : Except Failure α → Reporting α
  | .ok value => pure value
  | .error failure => fail failure

/-- Whether messages of a level are shown, so that those nobody reads need not be collected. -/
def isShown (level : Verbosity) : Reporting Bool :=
  fun verbosity => (.ok (verbosity.shows level), [])

/-- Reports a message, if the verbosity shows its level. -/
def emit (level : Verbosity) (message : String) : Reporting Unit :=
  fun verbosity => (.ok (), if verbosity.shows level then [⟨level, message⟩] else [])

def warn (message : String) : Reporting Unit := emit .warn message

def info (message : String) : Reporting Unit := emit .info message

def debug (message : String) : Reporting Unit := emit .debug message

def raw (message : String) : Reporting Unit := emit .raw message

/-- The same message level for each of several messages, in order. -/
def emitAll (level : Verbosity) : List String → Reporting Unit
  | [] => pure ()
  | message :: rest => do
      emit level message
      emitAll level rest

/-- Runs a computation for each element, in order; the first failure ends it. -/
def forEach (step : α → Reporting β) : List α → Reporting (List β)
  | [] => pure []
  | first :: rest => do
      let value ← step first
      let values ← forEach step rest
      return value :: values

/-- The computation with its failure changed, as when a place is noted. -/
def mapFailure (change : Failure → Failure) (computation : Reporting α) : Reporting α :=
  fun verbosity =>
    match computation verbosity with
    | (.ok value, entries) => (.ok value, entries)
    | (.error failure, entries) => (.error (change failure), entries)

end Reporting

end Migration
