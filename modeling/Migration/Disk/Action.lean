import Migration.Diagnostics
import Migration.Disk.Basic
import Migration.Text.Utf8

namespace Migration

/-! Computations on a disk, which report diagnostics and may fail.

A failure keeps the disk as it is by then.
-/

def Action (α : Type) : Type :=
  Verbosity → Disk → Except Failure α × Disk × List Entry

namespace Action

def run (action : Action α) (verbosity : Verbosity) (disk : Disk) :
    Except Failure α × Disk × List Entry :=
  action verbosity disk

instance : Monad Action where
  pure value := fun _ disk => (.ok value, disk, [])
  bind first next := fun verbosity disk =>
    match first verbosity disk with
    | (.ok value, disk, entries) =>
        let (outcome, disk, more) := next value verbosity disk
        (outcome, disk, entries ++ more)
    | (.error failure, disk, entries) => (.error failure, disk, entries)

/-- A computation that needs no disk leaves it alone. -/
instance : MonadLift Reporting Action where
  monadLift computation := fun verbosity disk =>
    let (outcome, entries) := computation verbosity
    (outcome, disk, entries)

def disk : Action Disk :=
  fun _ disk => (.ok disk, disk, [])

def setDisk (disk : Disk) : Action PUnit :=
  fun _ _ => (.ok (), disk, [])

def fail (failure : Failure) : Action α :=
  fun _ disk => (.error failure, disk, [])

def ofExcept : Except Failure α → Action α
  | .ok value => pure value
  | .error failure => fail failure

def forEach (step : α → Action β) : List α → Action (List β)
  | [] => pure []
  | first :: rest => do
      let value ← step first
      let values ← forEach step rest
      return value :: values

end Action

/-- The failure of a call, with what the call was for. -/
def DiskError.during (error : DiskError) (context : String) : Failure :=
  Cause.device error.message (some context)

namespace Disk

/-- The text of a file that must be strict UTF-8. -/
def readText (disk : Disk) (path : Text) : Except Failure Text :=
  match disk.readFile path with
  | .error error => .error (error.during s!"read {path.str}")
  | .ok bytes =>
      match Utf8.decode bytes with
      | .ok text => .ok text
      | .error fault =>
          .error (Cause.undecodableFile path.str (fault.line bytes) fault.message)

/-- The text of a file, or one sentence on why there is none. -/
def readWhole (disk : Disk) (path : Text) : Except String Text :=
  match disk.readFile path with
  | .error error => .error error.message
  | .ok bytes =>
      match Utf8.decode bytes with
      | .ok text => .ok text
      | .error _ => .error "stream did not contain valid UTF-8"

end Disk

end Migration
