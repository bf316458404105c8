import Migration.Text.Basic

namespace Migration

/-! Files, links and folders.

A folder lists its entries by name, in the order of their names.  A location is the list of names
that leads from the outermost folder to an entry, links not followed.
-/

inductive Node where
  | file (content : List UInt8)
  | link (target : Text)
  | folder (entries : List (Text × Node))

abbrev Location := List Text

namespace Node

def emptyFolder : Node := .folder []

/-- The entries with `node` under `name`, in the place of what was there. -/
def putEntry (name : Text) (node : Node) : List (Text × Node) → List (Text × Node)
  | [] => [(name, node)]
  | (other, present) :: rest =>
      match compare name other with
      | .lt => (name, node) :: (other, present) :: rest
      | .eq => (name, node) :: rest
      | .gt => (other, present) :: putEntry name node rest

theorem lookup_entry_cons (other wanted : Text) (node : Node) (rest : List (Text × Node)) :
    ((other, node) :: rest).lookup wanted =
      if wanted = other then some node else rest.lookup wanted := by
  by_cases same : wanted = other
  · simp [same]
  · simp [same, List.lookup_cons, beq_false_of_ne same]

/-- Putting an entry changes what is found under its name only. -/
theorem lookup_putEntry (name wanted : Text) (node : Node) (entries : List (Text × Node)) :
    (putEntry name node entries).lookup wanted =
      if wanted = name then some node else entries.lookup wanted := by
  induction entries with
  | nil => exact lookup_entry_cons ..
  | cons entry rest ih =>
      obtain ⟨other, present⟩ := entry
      cases order : compare name other with
      | lt => simp only [putEntry, order, lookup_entry_cons]
      | eq =>
          obtain rfl := Std.LawfulEqOrd.eq_of_compare order
          by_cases same : wanted = name <;> simp [putEntry, same, lookup_entry_cons]
      | gt =>
          have different : other ≠ name := by
            rintro rfl
            simp at order
          by_cases found : wanted = other
          · simp [putEntry, order, found, different]
          · simp [putEntry, order, lookup_entry_cons, found, ih]

def eraseEntry (name : Text) (entries : List (Text × Node)) : List (Text × Node) :=
  entries.filter fun entry => entry.1 ≠ name

/-- Erasing an entry changes what is found under its name only. -/
theorem lookup_eraseEntry (name wanted : Text) (entries : List (Text × Node)) :
    (eraseEntry name entries).lookup wanted =
      if wanted = name then none else entries.lookup wanted := by
  induction entries with
  | nil => simp [eraseEntry]
  | cons entry rest ih =>
      obtain ⟨other, present⟩ := entry
      have step : eraseEntry name ((other, present) :: rest) =
          if other = name then eraseEntry name rest
          else (other, present) :: eraseEntry name rest := by
        by_cases erased : other = name <;> simp [eraseEntry, erased]
      rw [step]
      by_cases erased : other = name
      · rw [if_pos erased, ih, lookup_entry_cons, erased]
        by_cases same : wanted = name <;> simp [same]
      · by_cases found : wanted = other
        · simp [erased, found]
        · simp [erased, found, ih, lookup_entry_cons]

/-- What is at a location. -/
def node? : Node → Location → Option Node
  | node, [] => some node
  | .folder entries, name :: rest => (entries.lookup name).bind (·.node? rest)
  | _, _ :: _ => none

/-- The tree with `new` at the location; folders on the way to it are made where there is
nothing. -/
def put : Node → Location → Node → Node
  | _, [], new => new
  | .folder entries, name :: rest, new =>
      .folder (putEntry name (((entries.lookup name).getD emptyFolder).put rest new) entries)
  | other, _ :: _, _ => other

/-- The tree with nothing at the location. -/
def erase : Node → Location → Node
  | node, [] => node
  | .folder entries, [name] => .folder (eraseEntry name entries)
  | .folder entries, name :: rest =>
      match entries.lookup name with
      | some child => .folder (putEntry name (child.erase rest) entries)
      | none => .folder entries
  | other, _ :: _ => other

def isFolder : Node → Bool
  | .folder _ => true
  | _ => false

def isFile : Node → Bool
  | .file _ => true
  | _ => false

mutual

/-- Every entry below a node with its location, folders before what is in them. -/
def listing (here : Location) : Node → List (Location × Node)
  | .folder entries => listingEntries here entries
  | _ => []

def listingEntries (here : Location) : List (Text × Node) → List (Location × Node)
  | [] => []
  | (name, node) :: rest =>
      (here ++ [name], node) :: listing (here ++ [name]) node ++ listingEntries here rest

end

end Node

end Migration
