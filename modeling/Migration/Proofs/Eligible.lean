import Migration.Classifier
import Migration.Proofs.Action
import Migration.Proofs.Resolution

namespace Migration

/-! The files that a walk is to list.

A path below a folder is given by its names.  The walk goes through folders that are neither links
nor left out, and it takes the files whose kind their name tells.  Both are said here for a whole
path and unfolded name by name, the way the walk meets them.
-/

namespace Path

/-- The names on a path.  What adds nothing to it does not count. -/
def components (path : Text) : List Text :=
  (Text.fields '/' path).filter fun field => !isTrivial field

def below (path : Text) (names : List Text) : Text :=
  names.foldl join path

def Before (first second : Text) : Prop :=
  compare (components first) (components second) = .lt

theorem below_nil (path : Text) : below path [] = path := rfl

theorem below_cons (path name : Text) (names : List Text) :
    below path (name :: names) = below (join path name) names := rfl

theorem components_name {name : Text} (named : IsComponent name) : components name = [name] := by
  rw [components, Text.fields_of_not_mem named.noSlash]
  simp [named.notTrivial]

theorem components_slash (path name : Text) :
    components (path ++ '/' :: name) = components path ++ components name := by
  rw [components, Text.fields_append, List.filter_append]
  rfl

theorem components_join (path : Text) {name : Text} (named : IsComponent name) :
    components (join path name) = components path ++ [name] := by
  have relative : isAbsolute name = false := by
    simpa using named.notAbsolute []
  rw [join, if_neg (by simp [relative])]
  split
  · next nothing =>
      rw [nothing, components_name named]
      rfl
  · split
    · next slash =>
        obtain ⟨front, rfl⟩ := List.getLast?_eq_some_iff.mp slash
        have nothing : components [] = [] := rfl
        rw [List.append_assoc, List.singleton_append, components_slash, components_slash,
          components_name named, nothing, List.append_nil]
    · rw [components_slash, components_name named]

theorem components_below (path : Text) {names : List Text}
    (named : ∀ name ∈ names, IsComponent name) :
    components (below path names) = components path ++ names := by
  induction names generalizing path with
  | nil => rw [below_nil, List.append_nil]
  | cons name rest ih =>
      obtain ⟨first, others⟩ := List.forall_mem_cons.mp named
      rw [below_cons, ih (join path name) others, components_join path first, List.append_assoc]
      rfl

theorem join_ne_nil {path : Text} (some : path ≠ []) {name : Text} (named : IsComponent name) :
    join path name ≠ [] ∧ isAbsolute (join path name) = isAbsolute path := by
  have relative : isAbsolute name = false := by
    simpa using named.notAbsolute []
  obtain ⟨c, rest, rfl⟩ := List.exists_cons_of_ne_nil some
  rw [join, if_neg (by simp [relative]), if_neg some]
  split <;> exact ⟨List.cons_ne_nil _ _, rfl⟩

/-- A path below a folder is taken from where the path of the folder is taken from. -/
theorem isAbsolute_below {path : Text} (some : path ≠ []) {names : List Text}
    (named : ∀ name ∈ names, IsComponent name) :
    isAbsolute (below path names) = isAbsolute path := by
  induction names generalizing path with
  | nil => rfl
  | cons name rest ih =>
      obtain ⟨first, others⟩ := List.forall_mem_cons.mp named
      obtain ⟨joined, kept⟩ := join_ne_nil some first
      rw [below_cons, ih joined others, kept]

end Path

theorem compare_cons_self (name : Text) (first second : List Text) :
    compare (name :: first) (name :: second) = compare first second := by
  have same : compare name name = .eq := Std.ReflOrd.compare_self
  rw [List.compare_cons_cons, same]
  rfl

theorem compare_cons_of_lt {name other : Text} (before : compare name other = .lt)
    (first second : List Text) : compare (name :: first) (other :: second) = .lt := by
  rw [List.compare_cons_cons, before]
  rfl

theorem compare_append_self (front first second : List Text) :
    compare (front ++ first) (front ++ second) = compare first second := by
  induction front with
  | nil => rfl
  | cons name front ih => rw [List.cons_append, List.cons_append, compare_cons_self, ih]

theorem Disk.WellFormed.nodeAt? {disk : Disk} {path : Text} {node : Node}
    (formed : disk.WellFormed) (found : disk.nodeAt? path = some node) :
    node.wellFormed = true := by
  rw [Disk.nodeAt?] at found
  split at found
  · exact (Node.wellFormed_node? formed.tree found).2
  · cases found

namespace Classifier

variable {classifier : Classifier} {disk : Disk} {verbosity : Verbosity}

def isLeftOut (classifier : Classifier) (path name : Text) : Bool :=
  skippedFolders.contains name || classifier.excludes.any (·.occursIn path)

theorem answer_leavesOut (path name : Text) :
    (classifier.leavesOut path name).answer verbosity = .ok (classifier.isLeftOut path name) := by
  rw [leavesOut, isLeftOut]
  by_cases skipped : skippedFolders.contains name = true
  · rw [if_pos skipped, skipped]
    rfl
  · rw [if_neg skipped]
    by_cases excluded : (classifier.excludes.any (·.occursIn path)) = true
    · rw [if_pos excluded, excluded, Bool.or_true]
      rfl
    · rw [if_neg excluded, Bool.eq_false_iff.mpr skipped, Bool.eq_false_iff.mpr excluded]
      rfl

theorem answer_recordOf (path : Text) :
    (classifier.recordOf path).answer verbosity =
      .ok ((classifier.kindOf path).toList.map fun kind => ⟨path, kind⟩) := by
  rw [recordOf]
  cases classifier.kindOf path <;> rfl

theorem forall_front_cons {first : Text} {names : List Text}
    {holds : List Text → Text → Prop} :
    (∀ front name rest, first :: names = front ++ name :: rest → holds front name) ↔
      holds [] first ∧
        ∀ front name rest, names = front ++ name :: rest → holds (first :: front) name := by
  constructor
  · intro all
    exact ⟨all [] first names rfl, fun front name rest split =>
      all (first :: front) name rest (congrArg (first :: ·) split)⟩
  · rintro ⟨here, later⟩ front name rest split
    cases front with
    | nil =>
        cases split
        exact here
    | cons _ front =>
        cases split
        exact later front name rest rfl

/-- Every folder that the names lead through is a folder itself and no link to one, is not one of
those always skipped, and has no path that an exclude pattern fits. -/
structure Entered (classifier : Classifier) (path : Text) (entries : List (Text × Node))
    (names : List Text) : Prop where
  isFolder : ∀ front name rest, names = front ++ name :: rest →
    ∃ inner, (Node.folder entries).node? (front ++ [name]) = some (.folder inner)
  notSkipped : ∀ front name rest, names = front ++ name :: rest → name ∉ skippedFolders
  notExcluded : ∀ front name rest, names = front ++ name :: rest →
    ∀ pattern ∈ classifier.excludes, pattern.occursIn (Path.below path (front ++ [name])) = false

/-- The names lead to a file of the given kind, or to a link that leads to a file and whose own name
tells the kind, through folders that are entered. -/
structure Eligible (classifier : Classifier) (disk : Disk) (path : Text)
    (entries : List (Text × Node)) (names : List Text) (kind : FileKind) : Prop where
  notRoot : names ≠ []
  entered : classifier.Entered path entries names.dropLast
  regular : (∃ content, (Node.folder entries).node? names = some (.file content)) ∨
    (∃ target, (Node.folder entries).node? names = some (.link target)) ∧
      disk.isFile (Path.below path names) = true
  hasKind : classifier.kindOf (Path.below path names) = some kind

theorem Eligible.named {path : Text} {entries : List (Text × Node)} {names : List Text}
    {kind : FileKind} (eligible : classifier.Eligible disk path entries names kind)
    (formed : (Node.folder entries).wellFormed = true) :
    ∀ name ∈ names, Path.IsComponent name := by
  have present : ∃ node, (Node.folder entries).node? names = some node := by
    rcases eligible.regular with ⟨content, found⟩ | ⟨⟨target, found⟩, _⟩
    · exact ⟨_, found⟩
    · exact ⟨_, found⟩
  obtain ⟨node, found⟩ := present
  intro name member
  exact ((Node.wellFormed_node? formed found).1 name member).toIsComponent

theorem isLeftOut_eq_false {path name : Text} :
    classifier.isLeftOut path name = false ↔ name ∉ skippedFolders ∧
      ∀ pattern ∈ classifier.excludes, pattern.occursIn path = false := by
  rw [isLeftOut, Bool.or_eq_false_iff, List.any_eq_false]
  simp

theorem entered_nil (path : Text) (entries : List (Text × Node)) :
    classifier.Entered path entries [] where
  isFolder front name rest split := by simp at split
  notSkipped front name rest split := by simp at split
  notExcluded front name rest split := by simp at split

/-- The names lead on into a folder, or they stop at it. -/
def EnteredAt (classifier : Classifier) (path name : Text) : Node → List Text → Prop
  | .folder inner, rest =>
      classifier.isLeftOut path name = false ∧ classifier.Entered path inner rest
  | _, _ => False

theorem node?_folder_cons {entries inner : List (Text × Node)} {name : Text}
    (found : entries.lookup name = some (.folder inner)) (rest : Location) :
    (Node.folder entries).node? (name :: rest) = (Node.folder inner).node? rest := by
  rw [Node.node?_cons, Node.node?_folder_singleton, found, Option.bind_some]

theorem entered_cons {path name : Text} {entries : List (Text × Node)} {rest : List Text} :
    classifier.Entered path entries (name :: rest) ↔
      ∃ node, entries.lookup name = some node ∧
        classifier.EnteredAt (Path.join path name) name node rest := by
  constructor
  · intro entered
    obtain ⟨⟨inner, found⟩, folders⟩ := forall_front_cons.mp entered.isFolder
    obtain ⟨notSkipped, noneSkipped⟩ := forall_front_cons.mp entered.notSkipped
    obtain ⟨notExcluded, noneExcluded⟩ := forall_front_cons.mp entered.notExcluded
    rw [List.nil_append, Node.node?_folder_singleton] at found
    refine ⟨.folder inner, found, isLeftOut_eq_false.mpr ⟨notSkipped, notExcluded⟩, ?_,
      noneSkipped, noneExcluded⟩
    intro front last behind split
    have below := folders front last behind split
    rwa [List.cons_append, node?_folder_cons found] at below
  · rintro ⟨node, found, inside⟩
    cases node with
    | file content => cases inside
    | link target => cases inside
    | folder inner =>
        obtain ⟨notLeftOut, folders, noneSkipped, noneExcluded⟩ := inside
        obtain ⟨notSkipped, notExcluded⟩ := isLeftOut_eq_false.mp notLeftOut
        refine ⟨forall_front_cons.mpr ⟨⟨inner, ?_⟩, ?_⟩,
          forall_front_cons.mpr ⟨notSkipped, noneSkipped⟩,
          forall_front_cons.mpr ⟨notExcluded, noneExcluded⟩⟩
        · rw [List.nil_append, Node.node?_folder_singleton, found]
        · intro front last behind split
          rw [List.cons_append, node?_folder_cons found]
          exact folders front last behind split

def EligibleAt (classifier : Classifier) (disk : Disk) (path name : Text) :
    Node → List Text → FileKind → Prop
  | .file _, rest, kind => rest = [] ∧ classifier.kindOf path = some kind
  | .link _, rest, kind =>
      rest = [] ∧ disk.isFile path = true ∧ classifier.kindOf path = some kind
  | .folder inner, rest, kind =>
      classifier.isLeftOut path name = false ∧ classifier.Eligible disk path inner rest kind

theorem eligible_nil {path : Text} {entries : List (Text × Node)} {kind : FileKind} :
    ¬ classifier.Eligible disk path entries [] kind :=
  fun eligible => eligible.notRoot rfl

theorem eligible_singleton {path name : Text} {entries : List (Text × Node)} {kind : FileKind} :
    classifier.Eligible disk path entries [name] kind ↔
      ∃ node, entries.lookup name = some node ∧
        classifier.EligibleAt disk (Path.join path name) name node [] kind := by
  constructor
  · intro eligible
    have regular := eligible.regular
    rw [Node.node?_folder_singleton] at regular
    rcases regular with ⟨content, found⟩ | ⟨⟨target, found⟩, isFile⟩
    · exact ⟨.file content, found, rfl, eligible.hasKind⟩
    · exact ⟨.link target, found, rfl, isFile, eligible.hasKind⟩
  · rintro ⟨node, found, inside⟩
    have entered : classifier.Entered path entries [name].dropLast := entered_nil path entries
    cases node with
    | file content =>
        refine ⟨List.cons_ne_nil _ _, entered, .inl ⟨content, ?_⟩, inside.2⟩
        rw [Node.node?_folder_singleton, found]
    | link target =>
        refine ⟨List.cons_ne_nil _ _, entered, .inr ⟨⟨target, ?_⟩, inside.2.1⟩, inside.2.2⟩
        rw [Node.node?_folder_singleton, found]
    | folder inner => exact absurd inside.2 eligible_nil

theorem eligible_cons {path name : Text} {entries : List (Text × Node)} {rest : List Text}
    {kind : FileKind} :
    classifier.Eligible disk path entries (name :: rest) kind ↔
      ∃ node, entries.lookup name = some node ∧
        classifier.EligibleAt disk (Path.join path name) name node rest kind := by
  cases rest with
  | nil => exact eligible_singleton
  | cons next rest =>
      constructor
      · intro eligible
        obtain ⟨node, found, inside⟩ := entered_cons.mp eligible.entered
        cases node with
        | file content => cases inside
        | link target => cases inside
        | folder inner =>
            have regular := eligible.regular
            rw [node?_folder_cons found] at regular
            exact ⟨.folder inner, found, inside.1, List.cons_ne_nil _ _, inside.2, regular,
              eligible.hasKind⟩
      · rintro ⟨node, found, inside⟩
        cases node with
        | file content => cases inside.1
        | link target => cases inside.1
        | folder inner =>
            obtain ⟨notLeftOut, eligible⟩ := inside
            refine ⟨List.cons_ne_nil _ _, ?_, ?_, eligible.hasKind⟩
            · exact entered_cons.mpr ⟨.folder inner, found, notLeftOut, eligible.entered⟩
            · rw [node?_folder_cons found]
              exact eligible.regular

end Classifier

end Migration
