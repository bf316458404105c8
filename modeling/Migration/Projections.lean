import Std.Data.TreeMap
import Migration.Table.Rows

namespace Migration

/-! Packages and where their members went.

A wildcard reference to a package can be migrated if all members of the package that the table
knows moved to one package.
-/

/-- The package of a dotted name, with the dot that ends it; a name without a dot is in the package
written as a single dot. -/
def packageOf (name : Text) : Text :=
  match Text.splitLast '.' name with
  | some (before, _) => before ++ ['.']
  | none => ['.']

/-- A package and the packages its members went to. -/
structure Projection where
  package : Text
  targets : List Text
deriving DecidableEq, Repr

def Projection.isUnique (projection : Projection) : Bool :=
  projection.targets.length == 1

structure Projections where
  targets : Std.TreeMap Text (List Text) := {}

namespace Projections

def size (projections : Projections) : Nat :=
  projections.targets.size

def isEmpty (projections : Projections) : Bool :=
  projections.targets.isEmpty

/-- Destinations of a package, in the order in which they were first seen. -/
def targetsOf (projections : Projections) (package : Text) : List Text :=
  projections.targets[package]?.getD []

/-- Records that a member of `package` went to `target`. -/
def add (projections : Projections) (package target : Text) : Projections :=
  let known := projections.targetsOf package
  ⟨projections.targets.insert package (if target ∈ known then known else known ++ [target])⟩

def addRow (projections : Projections) (row : Row) : Projections :=
  projections.add (packageOf row.old) (packageOf row.new)

/-- Every row counts, also one whose name a later row maps elsewhere. -/
def ofRows (rows : List Row) : Projections :=
  rows.foldl addRow {}

/-- All packages in order. -/
def list (projections : Projections) : List Projection :=
  projections.targets.toList.map fun (package, targets) => ⟨package, targets⟩

/-- The reference with its package replaced, for a wildcard reference to a known package. -/
def unique (projections : Projections) (reference : Text) : Except Failure (Option Text) :=
  if reference.getLast? = some '*' then
    match projections.targetsOf (packageOf reference) with
    | [] => .ok none
    | [target] => .ok (some (target ++ ['*']))
    | targets =>
        .error (Cause.ambiguousProjection reference.str (packageOf reference).str
          (targets.map Text.str))
  else .ok none

end Projections

end Migration
