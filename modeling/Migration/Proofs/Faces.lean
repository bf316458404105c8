import Migration.Proofs.Tree

namespace Migration.Node

/-! Making and removing a file.

What stands at a location is a file with its content, a link with its target, or a folder, whatever
is in it.  A file that is put where no folder is, or taken away from there, changes what stands in
its own place and nothing else.
-/

/-- What a node is, apart from what is in it. -/
inductive Face where
  | file (content : List UInt8)
  | link (target : Text)
  | folder
deriving DecidableEq

def face : Node → Face
  | .file content => .file content
  | .link target => .link target
  | .folder _ => .folder

def face? (root : Node) (location : Location) : Option Face :=
  (root.node? location).map face

theorem face?_eq_folder {root : Node} {location : Location} :
    root.face? location = some .folder ↔
      ∃ entries, root.node? location = some (.folder entries) := by
  rw [face?]
  cases root.node? location with
  | none => simp
  | some node => cases node <;> simp [face]

theorem face?_eq_file {root : Node} {location : Location} {content : List UInt8} :
    root.face? location = some (.file content) ↔
      root.node? location = some (.file content) := by
  rw [face?]
  cases root.node? location with
  | none => simp
  | some node => cases node <;> simp [face]

theorem face?_eq_link {root : Node} {location : Location} {target : Text} :
    root.face? location = some (.link target) ↔ root.node? location = some (.link target) := by
  rw [face?]
  cases root.node? location with
  | none => simp
  | some node => cases node <;> simp [face]

theorem face?_nil (root : Node) : root.face? [] = some root.face := by
  rw [face?, node?_nil]
  rfl

theorem face?_folder_cons (entries : List (Text × Node)) (name : Text) (rest : Location) :
    (folder entries).face? (name :: rest) = (entries.lookup name).bind (·.face? rest) := by
  simp only [face?, node?, Option.map_bind]
  rfl

theorem face?_putEntry (entries : List (Text × Node)) (name : Text) (child : Node) (step : Text)
    (rest : Location) :
    (folder (putEntry name child entries)).face? (step :: rest) =
      if step = name then child.face? rest else (folder entries).face? (step :: rest) := by
  rw [face?_folder_cons, face?_folder_cons, lookup_putEntry]
  split <;> rfl

theorem face?_eraseEntry (entries : List (Text × Node)) (name step : Text) (rest : Location) :
    (folder (eraseEntry name entries)).face? (step :: rest) =
      if step = name then none else (folder entries).face? (step :: rest) := by
  rw [face?_folder_cons, face?_folder_cons, lookup_eraseEntry]
  split <;> rfl

/-- Nothing is below an entry that is no folder. -/
theorem face?_below {entries : List (Text × Node)} {name : Text}
    (noFolder : ∀ inner, entries.lookup name ≠ some (folder inner)) (step : Text)
    (rest : Location) : (folder entries).face? (name :: step :: rest) = none := by
  rw [face?_folder_cons]
  cases found : entries.lookup name with
  | none => rfl
  | some node =>
      cases node with
      | folder inner => exact absurd found (noFolder inner)
      | file content => rfl
      | link target => rfl

section

variable {root : Node} {parents : Location} {name : Text} {entries : List (Text × Node)}

theorem noFolder_below {siblings : List (Text × Node)} {first : Text} {child : Node}
    {location : Location} (inside : siblings.lookup first = some child)
    (noFolder : ∀ inner, (folder siblings).node? (first :: location) ≠ some (folder inner)) :
    ∀ inner, child.node? location ≠ some (folder inner) := by
  intro inner found
  refine noFolder inner ?_
  rw [node?, inside, Option.bind_some, found]

/-- A file is seen in the place where it is put, and nothing else changes. -/
theorem face?_put_file (parent : root.node? parents = some (folder entries))
    (noFolder : ∀ inner, root.node? (parents ++ [name]) ≠ some (folder inner))
    (content : List UInt8) (other : Location) :
    (root.put (parents ++ [name]) (file content)).face? other =
      if other = parents ++ [name] then some (.file content) else root.face? other := by
  induction parents generalizing root other with
  | nil =>
      rw [node?_nil] at parent
      cases parent
      rw [List.nil_append, node?_folder_singleton] at noFolder
      rcases other with - | ⟨step, rest⟩
      · rfl
      · rw [List.nil_append, put, put, face?_putEntry]
        by_cases same : step = name
        · cases rest with
          | nil => simp [same, face?_nil, face]
          | cons next rest =>
              rw [if_pos same, same, face?_below noFolder]
              simp [face?, node?]
        · simp [same]
  | cons first parents ih =>
      obtain ⟨siblings, child, rfl, inside, below⟩ := eq_folder_of_node?_cons parent
      rcases other with - | ⟨step, rest⟩
      · rfl
      · rw [List.cons_append, put, face?_putEntry, inside, Option.getD_some,
          ih below (noFolder_below inside noFolder) rest]
        by_cases same : step = first
        · simp [same, face?_folder_cons, inside]
        · simp [same]

/-- A file or a link that is taken away is missed in its place only. -/
theorem face?_erase (parent : root.node? parents = some (folder entries))
    (noFolder : ∀ inner, root.node? (parents ++ [name]) ≠ some (folder inner))
    (other : Location) :
    (root.erase (parents ++ [name])).face? other =
      if other = parents ++ [name] then none else root.face? other := by
  induction parents generalizing root other with
  | nil =>
      rw [node?_nil] at parent
      cases parent
      rw [List.nil_append, node?_folder_singleton] at noFolder
      rcases other with - | ⟨step, rest⟩
      · rfl
      · rw [List.nil_append, erase, face?_eraseEntry]
        by_cases same : step = name
        · cases rest with
          | nil => simp [same]
          | cons next rest => simp [same, face?_below noFolder]
        · simp [same]
  | cons first parents ih =>
      obtain ⟨siblings, child, rfl, inside, below⟩ := eq_folder_of_node?_cons parent
      have more : parents ++ [name] ≠ [] := by simp
      rw [List.cons_append, erase]
      · rw [inside]
        rcases other with - | ⟨step, rest⟩
        · rfl
        · dsimp only
          rw [face?_putEntry, ih below (noFolder_below inside noFolder) rest]
          by_cases same : step = first
          · simp [same, face?_folder_cons, inside]
          · simp [same]
      · exact more

end

end Migration.Node
