import Migration.Disk.Basic

namespace Migration

/-! Trees of files, links and folders.

A well-formed tree has its folders in the order of their names, and names that a path can lead
through.  On such trees a new text for a file changes what is seen at that file's location and
nothing else, and an entry that is made and removed again leaves the tree as it was.
-/

/-- A field of a path that stands for one entry of a folder. -/
structure Path.IsComponent (field : Text) : Prop where
  notEmpty : field ≠ []
  notHere : field ≠ ['.']
  notUp : field ≠ ['.', '.']
  noSlash : '/' ∉ field

structure Path.IsName (name : Text) : Prop extends Path.IsComponent name where
  noNul : '\x00' ∉ name
  short : name.str.utf8ByteSize ≤ Disk.nameLimit

instance (name : Text) : Decidable (Path.IsName name) :=
  decidable_of_iff
    (name ≠ [] ∧ name ≠ ['.'] ∧ name ≠ ['.', '.'] ∧ '/' ∉ name ∧ '\x00' ∉ name ∧
      name.str.utf8ByteSize ≤ Disk.nameLimit)
    ⟨fun ⟨notEmpty, notHere, notUp, noSlash, noNul, short⟩ =>
        ⟨⟨notEmpty, notHere, notUp, noSlash⟩, noNul, short⟩,
      fun name => ⟨name.notEmpty, name.notHere, name.notUp, name.noSlash, name.noNul, name.short⟩⟩

namespace Node

/-! Locations. -/

theorem node?_nil (root : Node) : root.node? [] = some root := by
  cases root <;> rfl

theorem node?_cons (root : Node) (name : Text) (rest : Location) :
    root.node? (name :: rest) = (root.node? [name]).bind (·.node? rest) := by
  cases root with
  | folder entries =>
      simp only [node?]
      cases entries.lookup name with
      | none => rfl
      | some child => simp only [Option.bind_some]
  | file content => rfl
  | link target => rfl

theorem node?_folder_singleton (entries : List (Text × Node)) (name : Text) :
    (folder entries).node? [name] = entries.lookup name := by
  simp only [node?]
  cases entries.lookup name with
  | none => rfl
  | some child => simp only [Option.bind_some]

theorem node?_append (root : Node) (first rest : Location) :
    root.node? (first ++ rest) = (root.node? first).bind (·.node? rest) := by
  induction first generalizing root with
  | nil => rw [List.nil_append, node?_nil, Option.bind_some]
  | cons name first ih =>
      rw [List.cons_append, node?_cons, node?_cons root name first]
      cases root.node? [name] with
      | none => rfl
      | some child => exact ih child

theorem eq_folder_of_node?_cons {root found : Node} {name : Text} {rest : Location}
    (present : root.node? (name :: rest) = some found) :
    ∃ entries child, root = folder entries ∧ entries.lookup name = some child ∧
      child.node? rest = some found := by
  cases root with
  | folder entries =>
      obtain ⟨child, inside, below⟩ := Option.bind_eq_some_iff.mp present
      exact ⟨entries, child, rfl, inside, below⟩
  | file content => simp [node?] at present
  | link target => simp [node?] at present

theorem exists_folder_of_append {root : Node} {first rest : Location}
    {entries : List (Text × Node)} (present : root.node? (first ++ rest) = some (folder entries)) :
    ∃ siblings, root.node? first = some (folder siblings) := by
  rw [node?_append] at present
  obtain ⟨found, above, below⟩ := Option.bind_eq_some_iff.mp present
  cases rest with
  | nil =>
      rw [node?_nil, Option.some.injEq] at below
      exact ⟨entries, above.trans (congrArg some below)⟩
  | cons name rest =>
      obtain ⟨siblings, _, rfl, _⟩ := eq_folder_of_node?_cons below
      exact ⟨siblings, above⟩

/-! Well-formedness. -/

/-- The names of the entries come in order, so that none comes twice. -/
def InOrder (entries : List (Text × Node)) : Prop :=
  (entries.map (·.1)).Pairwise fun left right => compare left right = .lt

instance (entries : List (Text × Node)) : Decidable (InOrder entries) :=
  inferInstanceAs (Decidable (List.Pairwise _ _))

mutual

def wellFormed : Node → Bool
  | .folder entries => decide (InOrder entries) && wellFormedEntries entries
  | _ => true

def wellFormedEntries : List (Text × Node) → Bool
  | [] => true
  | (name, node) :: rest =>
      decide (Path.IsName name) && node.wellFormed && wellFormedEntries rest

end

theorem wellFormedEntries_iff {entries : List (Text × Node)} :
    wellFormedEntries entries = true ↔
      ∀ entry ∈ entries, Path.IsName entry.1 ∧ entry.2.wellFormed = true := by
  induction entries with
  | nil => simp [wellFormedEntries]
  | cons entry rest ih =>
      simp only [wellFormedEntries, Bool.and_eq_true, decide_eq_true_eq, ih, List.forall_mem_cons]

theorem wellFormed_folder {entries : List (Text × Node)} :
    (folder entries).wellFormed = true ↔
      InOrder entries ∧ ∀ entry ∈ entries, Path.IsName entry.1 ∧ entry.2.wellFormed = true := by
  rw [wellFormed, Bool.and_eq_true, decide_eq_true_eq, wellFormedEntries_iff]

theorem mem_of_lookup {entries : List (Text × Node)} {name : Text} {node : Node}
    (found : entries.lookup name = some node) : (name, node) ∈ entries := by
  induction entries with
  | nil => simp at found
  | cons entry rest ih =>
      rw [lookup_entry_cons] at found
      split at found
      · next same =>
          cases found
          exact List.mem_cons.mpr (.inl (Prod.ext same rfl))
      · exact List.mem_cons_of_mem _ (ih found)

theorem before_of_lookup {entry : Text × Node} {rest : List (Text × Node)} {name : Text}
    {node : Node} (inOrder : InOrder (entry :: rest)) (found : rest.lookup name = some node) :
    compare entry.1 name = .lt := by
  obtain ⟨before, _⟩ := List.pairwise_cons.mp inOrder
  exact before name (List.mem_map_of_mem (f := (·.1)) (mem_of_lookup found))

theorem wellFormed_node? {root found : Node} {location : Location}
    (formed : root.wellFormed = true) (present : root.node? location = some found) :
    (∀ name ∈ location, Path.IsName name) ∧ found.wellFormed = true := by
  induction location generalizing root with
  | nil =>
      rw [node?_nil] at present
      cases present
      exact ⟨by simp, formed⟩
  | cons name rest ih =>
      obtain ⟨entries, child, rfl, inside, below⟩ := eq_folder_of_node?_cons present
      obtain ⟨named, childFormed⟩ :=
        (wellFormed_folder.mp formed).2 (name, child) (mem_of_lookup inside)
      obtain ⟨names, foundFormed⟩ := ih childFormed below
      exact ⟨List.forall_mem_cons.mpr ⟨named, names⟩, foundFormed⟩

/-! Putting and erasing entries. -/

theorem mem_putEntry {name : Text} {node : Node} {entries : List (Text × Node)}
    {entry : Text × Node} (member : entry ∈ putEntry name node entries) :
    entry = (name, node) ∨ entry ∈ entries := by
  induction entries with
  | nil => exact .inl (by simpa [putEntry] using member)
  | cons present rest ih =>
      simp only [putEntry] at member
      split at member
      · exact List.mem_cons.mp member
      · exact (List.mem_cons.mp member).imp_right (List.mem_cons_of_mem _)
      · rcases List.mem_cons.mp member with rfl | member
        · exact .inr List.mem_cons_self
        · exact (ih member).imp_right (List.mem_cons_of_mem _)

theorem putEntry_putEntry (name : Text) (first second : Node) (entries : List (Text × Node)) :
    putEntry name second (putEntry name first entries) = putEntry name second entries := by
  induction entries with
  | nil => simp [putEntry]
  | cons entry rest ih =>
      cases order : compare name entry.1 with
      | lt => simp [putEntry, order]
      | eq => simp [putEntry, order]
      | gt => simp [putEntry, order, ih]

theorem eraseEntry_of_absent {name : Text} {entries : List (Text × Node)}
    (absent : entries.lookup name = none) : eraseEntry name entries = entries := by
  apply List.filter_eq_self.mpr
  intro entry member
  have different := List.lookup_eq_none_iff.mp absent entry member
  exact decide_eq_true fun same => by simp [same] at different

theorem eraseEntry_putEntry {name : Text} {node : Node} {entries : List (Text × Node)}
    (absent : entries.lookup name = none) :
    eraseEntry name (putEntry name node entries) = entries := by
  induction entries with
  | nil => simp [putEntry, eraseEntry]
  | cons entry rest ih =>
      have unchanged := eraseEntry_of_absent absent
      rw [lookup_entry_cons] at absent
      split at absent
      · contradiction
      · next different =>
          cases order : compare name entry.1 with
          | lt =>
              simp only [putEntry, order]
              rw [eraseEntry, List.filter_cons_of_neg (by simp)]
              exact unchanged
          | eq => exact absurd (Std.LawfulEqOrd.eq_of_compare order) different
          | gt =>
              simp only [putEntry, order]
              rw [eraseEntry, List.filter_cons_of_pos (by simpa using Ne.symm different)]
              exact congrArg (entry :: ·) (ih absent)

theorem putEntry_self {name : Text} {node : Node} {entries : List (Text × Node)}
    (inOrder : InOrder entries) (found : entries.lookup name = some node) :
    putEntry name node entries = entries := by
  induction entries with
  | nil => simp at found
  | cons entry rest ih =>
      rw [lookup_entry_cons] at found
      split at found
      · next same =>
          cases found
          simp [putEntry, same]
      · rw [putEntry, Std.OrientedCmp.gt_of_lt (before_of_lookup inOrder found)]
        exact congrArg (entry :: ·) (ih (List.pairwise_cons.mp inOrder).2 found)

theorem names_putEntry {name : Text} {old new : Node} {entries : List (Text × Node)}
    (inOrder : InOrder entries) (found : entries.lookup name = some old) :
    (putEntry name new entries).map (·.1) = entries.map (·.1) := by
  induction entries with
  | nil => simp at found
  | cons entry rest ih =>
      rw [lookup_entry_cons] at found
      split at found
      · next same => simp [putEntry, same]
      · rw [putEntry, Std.OrientedCmp.gt_of_lt (before_of_lookup inOrder found)]
        exact congrArg (entry.1 :: ·) (ih (List.pairwise_cons.mp inOrder).2 found)

theorem put_put (root : Node) (location : Location) (first second : Node) :
    (root.put location first).put location second = root.put location second := by
  induction location generalizing root with
  | nil => cases root <;> rfl
  | cons name rest ih =>
      cases root with
      | folder entries =>
          simp only [put, lookup_putEntry, if_pos, Option.getD_some, putEntry_putEntry, ih]
      | file content => rfl
      | link target => rfl

theorem node?_put {root : Node} {parents : Location} {entries : List (Text × Node)}
    (parent : root.node? parents = some (folder entries)) (name : Text) (new : Node) :
    (root.put (parents ++ [name]) new).node? (parents ++ [name]) = some new := by
  induction parents generalizing root with
  | nil =>
      rw [node?_nil] at parent
      cases parent
      simp [put, node?, lookup_putEntry]
  | cons step parents ih =>
      obtain ⟨siblings, child, rfl, inside, below⟩ := eq_folder_of_node?_cons parent
      simp [put, node?, lookup_putEntry, inside, ih below]

theorem node?_parent_put {root : Node} {parents : Location} {entries : List (Text × Node)}
    (parent : root.node? parents = some (folder entries)) (name : Text) (new : Node) :
    (root.put (parents ++ [name]) new).node? parents =
      some (folder (putEntry name new entries)) := by
  induction parents generalizing root with
  | nil =>
      rw [node?_nil] at parent
      cases parent
      simp [put, node?_nil]
  | cons step parents ih =>
      obtain ⟨siblings, child, rfl, inside, below⟩ := eq_folder_of_node?_cons parent
      simp [put, node?, lookup_putEntry, inside, ih below]

/-- An entry that is made and removed again leaves the tree as it was. -/
theorem erase_put {root : Node} {parents : Location} {entries : List (Text × Node)} {name : Text}
    (formed : root.wellFormed = true) (parent : root.node? parents = some (folder entries))
    (absent : entries.lookup name = none) (new : Node) :
    (root.put (parents ++ [name]) new).erase (parents ++ [name]) = root := by
  induction parents generalizing root with
  | nil =>
      rw [node?_nil] at parent
      cases parent
      simp [put, erase, eraseEntry_putEntry absent]
  | cons step parents ih =>
      obtain ⟨siblings, child, rfl, inside, below⟩ := eq_folder_of_node?_cons parent
      obtain ⟨inOrder, members⟩ := wellFormed_folder.mp formed
      have childFormed := (members (step, child) (mem_of_lookup inside)).2
      have restored := ih childFormed below
      have more : parents ++ [name] ≠ [] := by simp
      simp only [List.cons_append, put, inside, Option.getD_some]
      rw [erase]
      · simp only [lookup_putEntry, if_pos, putEntry_putEntry, restored,
          putEntry_self inOrder inside]
      · exact more

/-! What is seen of a tree. -/

/-- What is seen of a node from outside: a folder shows the names of its entries. -/
inductive Surface where
  | file (content : List UInt8)
  | link (target : Text)
  | folder (names : List Text)
deriving DecidableEq

def surface : Node → Surface
  | .file content => .file content
  | .link target => .link target
  | .folder entries => .folder (entries.map (·.1))

def surface? (root : Node) (location : Location) : Option Surface :=
  (root.node? location).map surface

/-- What a path can meet. -/
inductive Shape where
  | file
  | link (target : Text)
  | folder
deriving DecidableEq

def shape : Node → Shape
  | .file _ => .file
  | .link target => .link target
  | .folder _ => .folder

def Surface.shape : Surface → Shape
  | .file _ => .file
  | .link target => .link target
  | .folder _ => .folder

theorem shape_surface? (root : Node) (location : Location) :
    (root.surface? location).map Surface.shape = (root.node? location).map shape := by
  rw [surface?, Option.map_map]
  congr 1
  funext node
  cases node <;> rfl

/-- A new content for a file is seen at the file and nowhere else. -/
theorem surface?_put_file {root : Node} {location : Location} {old : List UInt8}
    (formed : root.wellFormed = true) (present : root.node? location = some (file old))
    (new : List UInt8) (other : Location) :
    (root.put location (file new)).surface? other =
      if other = location then some (.file new) else root.surface? other := by
  induction location generalizing root other with
  | nil =>
      rw [node?_nil] at present
      cases present
      cases other <;> simp [put, surface?, node?, surface]
  | cons name rest ih =>
      obtain ⟨entries, child, rfl, inside, below⟩ := eq_folder_of_node?_cons present
      obtain ⟨inOrder, members⟩ := wellFormed_folder.mp formed
      have childFormed := (members (name, child) (mem_of_lookup inside)).2
      cases other with
      | nil => simp [put, surface?, node?_nil, surface, inside, names_putEntry inOrder inside]
      | cons step other =>
          have below := ih childFormed below other
          simp only [surface?, put, node?, lookup_putEntry, inside, Option.getD_some] at below ⊢
          by_cases same : step = name
          · simp [same, below, inside]
          · simp [same]

theorem shape_put_file {root : Node} {location : Location} {old : List UInt8}
    (formed : root.wellFormed = true) (present : root.node? location = some (file old))
    (new : List UInt8) (other : Location) :
    ((root.put location (file new)).node? other).map shape = (root.node? other).map shape := by
  rw [← shape_surface?, ← shape_surface?, surface?_put_file formed present]
  split
  · next same => rw [same, surface?, present]; rfl
  · rfl

theorem wellFormed_put_file {root : Node} {location : Location} {old : List UInt8}
    (formed : root.wellFormed = true) (present : root.node? location = some (file old))
    (new : List UInt8) : (root.put location (file new)).wellFormed = true := by
  induction location generalizing root with
  | nil => cases root <;> rfl
  | cons name rest ih =>
      obtain ⟨entries, child, rfl, inside, below⟩ := eq_folder_of_node?_cons present
      obtain ⟨inOrder, members⟩ := wellFormed_folder.mp formed
      obtain ⟨named, childFormed⟩ := members (name, child) (mem_of_lookup inside)
      simp only [put, inside, Option.getD_some]
      refine wellFormed_folder.mpr ⟨?_, ?_⟩
      · rw [InOrder, names_putEntry inOrder inside]
        exact inOrder
      · intro entry member
        rcases mem_putEntry member with rfl | member
        · exact ⟨named, ih childFormed below⟩
        · exact members entry member

end Node

end Migration
