import Migration.Proofs.Tree

namespace Migration

/-! Where paths lead.

The names of a location put together are a path that leads to it, and a path continued by names of
folders and a file leads to that file.  What files contain has no part in where a path leads, and
where a path leads is the same whichever places it may pass.
-/

namespace Text

theorem fields_cons (separator c : Char) (text : Text) :
    fields separator (c :: text) =
      if c = separator then [] :: fields separator text
      else match fields separator text with
        | [] => [[c]]
        | first :: others => (c :: first) :: others := rfl

theorem fields_of_not_mem {separator : Char} {text : Text} (absent : separator ∉ text) :
    fields separator text = [text] := by
  induction text with
  | nil => rfl
  | cons c rest ih =>
      rw [List.mem_cons, not_or] at absent
      obtain ⟨different, absent⟩ := absent
      rw [fields_cons, if_neg (Ne.symm different), ih absent]

theorem fields_front {separator : Char} {front : Text} (absent : separator ∉ front)
    (text : Text) :
    fields separator (front ++ text) =
      match fields separator text with
      | [] => [front]
      | first :: others => (front ++ first) :: others := by
  induction front with
  | nil =>
      cases split : fields separator text with
      | nil => exact absurd split (fields_ne_nil separator text)
      | cons first others => exact split
  | cons c front ih =>
      rw [List.mem_cons, not_or] at absent
      rw [List.cons_append, fields_cons, if_neg (Ne.symm absent.1), ih absent.2]
      cases fields separator text <;> rfl

theorem fields_append (separator : Char) (first rest : Text) :
    fields separator (first ++ separator :: rest) =
      fields separator first ++ fields separator rest := by
  induction first with
  | nil => rw [List.nil_append, fields_cons, if_pos rfl]; rfl
  | cons c first ih =>
      rw [List.cons_append, fields_cons, fields_cons separator c first, ih]
      by_cases mark : c = separator
      · simp [mark]
      · rw [if_neg mark, if_neg mark]
        cases split : fields separator first with
        | nil => exact absurd split (fields_ne_nil separator first)
        | cons field others => rfl

theorem fields_intercalate {separator : Char} {names : List Text} (some : names ≠ [])
    (absent : ∀ name ∈ names, separator ∉ name) :
    fields separator ([separator].intercalate names) = names := by
  induction names with
  | nil => contradiction
  | cons name rest ih =>
      obtain ⟨first, others⟩ := List.forall_mem_cons.mp absent
      cases rest with
      | nil =>
          rw [List.intercalate_singleton]
          exact fields_of_not_mem first
      | cons second rest =>
          rw [List.intercalate_cons_cons, List.append_assoc, List.singleton_append,
            fields_append, fields_of_not_mem first, ih (by simp) others]
          rfl

theorem mem_intercalate {mark c : Char} {fields : List Text}
    (member : c ∈ [mark].intercalate fields) : c = mark ∨ ∃ field ∈ fields, c ∈ field := by
  induction fields with
  | nil => cases member
  | cons first rest ih =>
      cases rest with
      | nil => exact .inr ⟨first, by simp, by simpa using member⟩
      | cons second rest =>
          rw [List.intercalate_cons_cons, List.append_assoc] at member
          rcases List.mem_append.mp member with inside | member
          · exact .inr ⟨first, by simp, inside⟩
          · rcases List.mem_cons.mp member with same | member
            · exact .inl same
            · exact (ih member).imp_right fun ⟨field, later, inside⟩ =>
                ⟨field, List.mem_cons_of_mem _ later, inside⟩

end Text

namespace Path

theorem IsComponent.notTrivial {name : Text} (named : IsComponent name) :
    isTrivial name = false := by
  simp [isTrivial, named.notEmpty, named.notHere]

theorem IsComponent.notAbsolute {name : Text} (named : IsComponent name) (addition : Text) :
    isAbsolute (name ++ addition) = false := by
  cases name with
  | nil => exact absurd rfl named.notEmpty
  | cons c rest =>
      have different : c ≠ '/' := fun same => named.noSlash (by simp [same])
      simp [isAbsolute, different]

theorem trimFields_of_names {names : List Text} (named : ∀ name ∈ names, IsComponent name) :
    trimFields names = names := by
  rcases List.eq_nil_or_concat names with rfl | ⟨others, last, rfl⟩
  · rfl
  · have lastNamed := (named last (by simp)).notTrivial
    simp [trimFields, lastNamed]

theorem steps_of_fields {path name : Text} {front : List Text}
    (split : Text.fields '/' path = front ++ [name]) (some : name ≠ []) :
    steps path = front.filter (· ≠ []) ++ [name] := by
  rw [steps, split]
  simp only [List.dropLast_concat, List.getLast?_concat]

end Path

namespace Disk

theorem components_concat {parents : Location} {name : Text}
    (named : ∀ name ∈ parents, Path.IsComponent name) (last : Path.IsComponent name) :
    ∀ other ∈ parents ++ [name], Path.IsComponent other := by
  intro other member
  rcases List.mem_append.mp member with member | member
  · exact named other member
  · rw [List.mem_singleton.mp member]
    exact last

theorem fields_pathOf {location : Location} (named : ∀ name ∈ location, Path.IsComponent name)
    (some : location ≠ []) : Text.fields '/' (pathOf location) = [] :: location := by
  rw [pathOf, Text.fields_cons, if_pos rfl,
    Text.fields_intercalate some fun name member => (named name member).noSlash]

theorem pathOf_append {parents : Location} (some : parents ≠ []) (name : Text) :
    pathOf (parents ++ [name]) = pathOf parents ++ '/' :: name := by
  have joined : ['/'].intercalate (parents ++ [name]) =
      ['/'].intercalate parents ++ '/' :: name := by
    induction parents with
    | nil => contradiction
    | cons first rest ih =>
        cases rest with
        | nil => simp [List.intercalate_cons_cons]
        | cons second rest =>
            have rejoined := ih (by simp)
            simp only [List.cons_append, List.intercalate_cons_cons] at rejoined ⊢
            rw [rejoined]
            simp
  rw [pathOf, joined]
  rfl

theorem getLast?_pathOf (parents : Location) {name : Text} (named : Path.IsComponent name) :
    (pathOf (parents ++ [name])).getLast? ≠ some '/' := by
  obtain ⟨before, ends⟩ : ∃ before, pathOf (parents ++ [name]) = before ++ name := by
    by_cases outermost : parents = []
    · exact ⟨['/'], by rw [outermost, List.nil_append, pathOf, List.intercalate_singleton]; rfl⟩
    · exact ⟨pathOf parents ++ ['/'], by simp [pathOf_append outermost]⟩
  rw [ends, List.getLast?_append]
  intro slash
  cases last : name.getLast? with
  | none => exact named.notEmpty (List.getLast?_eq_none_iff.mp last)
  | some c =>
      rw [last, Option.some_or, Option.some.injEq] at slash
      exact named.noSlash (slash ▸ List.mem_of_getLast? last)

theorem join_pathOf {parents : Location} (named : ∀ name ∈ parents, Path.IsComponent name)
    {name : Text} (relative : Path.isAbsolute name = false) :
    Path.join (pathOf parents) name = pathOf (parents ++ [name]) := by
  rcases List.eq_nil_or_concat parents with rfl | ⟨others, last, rfl⟩
  · simp [Path.join, pathOf, relative]
  · rw [List.concat_eq_append] at named ⊢
    have noSlash := getLast?_pathOf others (named last (by simp))
    have more : others ++ [last] ≠ [] := by simp
    rw [Path.join, relative, if_neg (by simp), if_neg (by simp [pathOf]), if_neg noSlash,
      ← pathOf_append more]

theorem split?_pathOf {parents : Location} {name : Text}
    (named : ∀ name ∈ parents, Path.IsComponent name) (last : Path.IsComponent name) :
    Path.split? (pathOf (parents ++ [name])) = some (pathOf parents, name) := by
  have all := components_concat named last
  rw [Path.split?, fields_pathOf all (by simp)]
  simp only [Path.trimFields_of_names all, List.getLast?_concat, last.notUp, if_false,
    List.dropLast_concat, Path.trimFields_of_names named]
  cases parents with
  | nil => rfl
  | cons first rest => simp [pathOf, List.intercalate_cons_cons]

theorem steps_pathOf {parents : Location} {name : Text}
    (named : ∀ name ∈ parents, Path.IsComponent name) (last : Path.IsComponent name) :
    Path.steps (pathOf (parents ++ [name])) = parents ++ [name] := by
  have split : Text.fields '/' (pathOf (parents ++ [name])) = ([] :: parents) ++ [name] :=
    fields_pathOf (components_concat named last) (by simp)
  have kept : ([] :: parents).filter (· ≠ []) = parents := by
    rw [List.filter_cons_of_neg (by simp)]
    exact List.filter_eq_self.mpr fun other member => by simpa using (named other member).notEmpty
  rw [Path.steps_of_fields split last.notEmpty, kept]

/-! Walking. -/

variable {root : Node} {admits : Text → Bool}
  {follow : Location → List Text → Except DiskError Location}

/-- A step to an entry of the folder `here` that is looked at with `rest` still to go. -/
structure Passed (root : Node) (admits : Text → Bool) (here : Location) (step : Text)
    (rest : List Text) : Prop where
  notHere : step ≠ ['.']
  notUp : step ≠ ['.', '.']
  short : step.str.utf8ByteSize ≤ nameLimit
  admitted : admits (lookedAt (here ++ [step]) (root.node? (here ++ [step])) rest) = true

theorem Passed.ofName {here : Location} {name : Text} {rest : List Text}
    (named : Path.IsName name)
    (admitted : admits (lookedAt (here ++ [name]) (root.node? (here ++ [name])) rest) = true) :
    Passed root admits here name rest :=
  ⟨named.notHere, named.notUp, named.short, admitted⟩

theorem Passed.walk {here : Location} {step : Text} {rest : List Text}
    (passed : Passed root admits here step rest) :
    walk root admits follow here (step :: rest) =
      match root.node? (here ++ [step]) with
      | none => if rest = [] then .ok (here ++ [step]) else .error .noEntry
      | some (.folder _) => Disk.walk root admits follow (here ++ [step]) rest
      | some (.file _) => if rest = [] then .ok (here ++ [step]) else .error .notFolder
      | some (.link target) =>
          follow (if Path.isAbsolute target then [] else here) (Path.steps target ++ rest) := by
  rw [Disk.walk, if_neg passed.notHere, if_neg passed.notUp, if_neg (Nat.not_lt.mpr passed.short),
    passed.admitted]
  rfl

theorem asksFolder_name {name : Text} (named : Path.IsComponent name) (rest : List Text) :
    asksFolder (name :: rest) = false := by
  rw [asksFolder, if_neg named.notHere, decide_eq_false named.notUp]

theorem lookedAt_of_asksFolder {rest : List Text} (asks : asksFolder rest = false)
    (place : Location) (found : Option Node) : lookedAt place found rest = pathOf place := by
  simp only [lookedAt, asks, Bool.false_eq_true, if_false]
  split <;> rfl

/-- Every place on the way from a folder along the names is passed. -/
def Passes (root : Node) (admits : Text → Bool) (here names : Location) (rest : List Text) : Prop :=
  ∀ front name behind, names = front ++ name :: behind →
    admits (lookedAt (here ++ front ++ [name]) (root.node? (here ++ front ++ [name]))
      (behind ++ rest)) = true

theorem passes_anyPlace (root : Node) (here names : Location) (rest : List Text) :
    Passes root anyPlace here names rest :=
  fun _ _ _ _ => rfl

theorem walk_folders {here names : Location} {entries : List (Text × Node)}
    (named : ∀ name ∈ names, Path.IsName name)
    (present : root.node? (here ++ names) = some (.folder entries)) {rest : List Text}
    (passed : Passes root admits here names rest) :
    walk root admits follow here (names ++ rest) = walk root admits follow (here ++ names) rest := by
  induction names generalizing here with
  | nil => simp
  | cons name names ih =>
      have inside : root.node? ((here ++ [name]) ++ names) = some (.folder entries) := by
        simpa using present
      obtain ⟨siblings, found⟩ := Node.exists_folder_of_append inside
      obtain ⟨first, others⟩ := List.forall_mem_cons.mp named
      have firstPassed := passed [] name names rfl
      rw [List.append_nil] at firstPassed
      have othersPassed : Passes root admits (here ++ [name]) names rest := by
        intro front last behind split
        simpa using passed (name :: front) last behind (by rw [split]; rfl)
      rw [List.cons_append, (Passed.ofName first firstPassed).walk, found]
      simpa using ih others inside othersPassed

theorem locateFrom_nil (links : Nat) (here : Location) :
    locateFrom root admits links here [] = .ok here := by
  cases links <;> rfl

theorem locateFrom_folders (here : Location) {names : Location} {entries : List (Text × Node)}
    (named : ∀ name ∈ names, Path.IsName name)
    (present : root.node? (here ++ names) = some (.folder entries)) (links : Nat)
    {rest : List Text} (passed : Passes root admits here names rest) :
    locateFrom root admits links here (names ++ rest) =
      locateFrom root admits links (here ++ names) rest := by
  cases links <;> exact walk_folders named present passed

theorem locateFrom_last {here : Location} {name : Text} (named : Path.IsName name)
    (passed : admits (pathOf (here ++ [name])) = true)
    (notLink : ∀ target, root.node? (here ++ [name]) ≠ some (.link target)) (links : Nat) :
    locateFrom root admits links here [name] = .ok (here ++ [name]) := by
  have step {follow : Location → List Text → Except DiskError Location} :
      walk root admits follow here [name] = .ok (here ++ [name]) := by
    rw [(Passed.ofName named (by rwa [lookedAt_of_asksFolder rfl])).walk]
    cases found : root.node? (here ++ [name]) with
    | none => rfl
    | some node =>
        cases node with
        | file content => rfl
        | folder entries => rfl
        | link target => exact absurd found (notLink target)
  cases links <;> exact step

theorem locateFrom_long {here : Location} {name : Text} (named : Path.IsComponent name)
    (long : nameLimit < name.str.utf8ByteSize) (links : Nat) :
    locateFrom root admits links here [name] = .error .nameTooLong := by
  have step {follow : Location → List Text → Except DiskError Location} :
      walk root admits follow here [name] = .error .nameTooLong := by
    rw [walk, if_neg named.notHere, if_neg named.notUp, if_pos long]
  cases links <;> exact step

theorem lookedAt_congr (place : Location) {left right : Option Node}
    (same : left.map Node.shape = right.map Node.shape) (rest : List Text) :
    lookedAt place left rest = lookedAt place right rest := by
  rcases left with - | left <;> rcases right with - | right
  · rfl
  · cases same
  · cases same
  · cases left <;> cases right <;> first | rfl | cases same

/-- Where the same folders, files and links are, the same steps lead to the same place. -/
theorem walk_congr {left right : Node}
    (same : ∀ location,
      (left.node? location).map Node.shape = (right.node? location).map Node.shape)
    (here : Location) (steps : List Text) :
    walk left admits follow here steps = walk right admits follow here steps := by
  induction steps generalizing here with
  | nil => rfl
  | cons step rest ih =>
      have there := same (here ++ [step])
      have seen := lookedAt_congr (here ++ [step]) there rest
      simp only [walk, ih, seen]
      cases found : left.node? (here ++ [step]) with
      | none =>
          rw [found] at there
          rw [Option.map_eq_none_iff.mp there.symm]
      | some node =>
          obtain ⟨other, otherFound, shapes⟩ := Option.map_eq_some_iff.mp (found ▸ there).symm
          rw [otherFound]
          cases node <;> cases other <;> simp_all [Node.shape]

theorem locateFrom_congr {left right : Node}
    (same : ∀ location,
      (left.node? location).map Node.shape = (right.node? location).map Node.shape)
    (links : Nat) (here : Location) (steps : List Text) :
    locateFrom left admits links here steps = locateFrom right admits links here steps := by
  induction links generalizing here steps with
  | zero => exact walk_congr same here steps
  | succ links ih =>
      have next : locateFrom left admits links = locateFrom right admits links := by
        funext here steps
        exact ih here steps
      rw [locateFrom, locateFrom, next]
      exact walk_congr same here steps

/-! Locations that can be reached by the path put together from their names. -/

/-- The outermost folder is a folder, and everything below it is well-formed. -/
structure WellFormed (disk : Disk) : Prop where
  isFolder : disk.root.isFolder = true
  tree : disk.root.wellFormed = true

variable {disk : Disk}

theorem WellFormed.folderOf {location : Location} {content : List UInt8}
    (formed : disk.WellFormed) (present : disk.root.node? location = some (.file content)) :
    ∃ parents name entries, location = parents ++ [name] ∧
      disk.root.node? parents = some (.folder entries) := by
  rcases List.eq_nil_or_concat location with rfl | ⟨parents, name, rfl⟩
  · rw [Node.node?_nil, Option.some.injEq] at present
    have isFolder := formed.isFolder
    simp [present, Node.isFolder] at isFolder
  · rw [List.concat_eq_append, Node.node?_append] at present
    obtain ⟨folder, found, inside⟩ := Option.bind_eq_some_iff.mp present
    obtain ⟨entries, _, rfl, _⟩ := Node.eq_folder_of_node?_cons inside
    exact ⟨parents, name, entries, List.concat_eq_append .., found⟩

theorem mem_pathOf {location : Location} {c : Char} (member : c ∈ pathOf location) :
    c = '/' ∨ ∃ name ∈ location, c ∈ name := by
  rcases List.mem_cons.mp member with slash | member
  · exact .inl slash
  · exact Text.mem_intercalate member

theorem nul_not_mem_pathOf {location : Location} (absent : ∀ name ∈ location, '\x00' ∉ name) :
    '\x00' ∉ pathOf location := by
  intro member
  rcases mem_pathOf member with slash | ⟨name, present, inside⟩
  · exact absurd slash (by decide)
  · exact absent name present inside

theorem follow_pathOf (location : Location) :
    disk.follow admits (pathOf location) =
      locateFrom disk.root admits linkLimit [] (Path.steps (pathOf location)) := by
  rw [Disk.follow, if_neg (by simp [pathOf]), if_pos (by simp [pathOf, Path.isAbsolute])]

theorem follow_pathOf_folder {location : Location} {entries : List (Text × Node)}
    (named : ∀ name ∈ location, Path.IsName name)
    (present : disk.root.node? location = some (.folder entries)) :
    disk.follow anyPlace (pathOf location) = .ok location := by
  rw [follow_pathOf]
  rcases List.eq_nil_or_concat location with rfl | ⟨parents, name, rfl⟩
  · rfl
  · rw [List.concat_eq_append] at named present ⊢
    have led := locateFrom_folders [] named present linkLimit
      (passes_anyPlace disk.root [] (parents ++ [name]) [])
    rw [List.append_nil, locateFrom_nil] at led
    rw [steps_pathOf (fun other member => (named other (by simp [member])).toIsComponent)
      (named name (by simp)).toIsComponent]
    exact led

theorem resolve_pathOf_folder {location : Location} {entries : List (Text × Node)}
    (named : ∀ name ∈ location, Path.IsName name)
    (present : disk.root.node? location = some (.folder entries))
    (fits : isTooLong (pathOf location) = false) :
    disk.resolve (pathOf location) = .ok location := by
  have noNul := nul_not_mem_pathOf fun name member => (named name member).noNul
  rw [resolve, locate, if_neg noNul, if_neg (by simp [fits]), follow_pathOf_folder named present]
  simp only [bind, Except.bind, Disk.present, present]

theorem follow_pathOf_entry {parents : Location} {entries : List (Text × Node)} {name : Text}
    (named : ∀ name ∈ parents, Path.IsName name)
    (parent : disk.root.node? parents = some (.folder entries)) (last : Path.IsComponent name)
    (passed : Passes disk.root admits [] parents [name]) :
    disk.follow admits (pathOf (parents ++ [name])) =
      locateFrom disk.root admits linkLimit parents [name] := by
  rw [follow_pathOf, steps_pathOf (fun other member => (named other member).toIsComponent) last]
  exact locateFrom_folders [] named parent linkLimit passed

theorem locate_pathOf_entry {parents : Location} {entries : List (Text × Node)} {name : Text}
    (named : ∀ name ∈ parents, Path.IsName name)
    (parent : disk.root.node? parents = some (.folder entries)) (last : Path.IsName name)
    (notLink : ∀ target, disk.root.node? (parents ++ [name]) ≠ some (.link target))
    (fits : isTooLong (pathOf (parents ++ [name])) = false) :
    disk.locate (pathOf (parents ++ [name])) = .ok (parents ++ [name]) := by
  have noNul : '\x00' ∉ pathOf (parents ++ [name]) := by
    apply nul_not_mem_pathOf
    intro other member
    rcases List.mem_append.mp member with member | member
    · exact (named other member).noNul
    · rw [List.mem_singleton.mp member]
      exact last.noNul
  rw [locate, if_neg noNul, if_neg (by simp [fits]),
    follow_pathOf_entry named parent last.toIsComponent (passes_anyPlace _ _ _ _),
    locateFrom_last last rfl notLink]

theorem follow_of_locate {path : Text} {location : Location}
    (located : disk.locate path = .ok location) :
    '\x00' ∉ path ∧ isTooLong path = false ∧ disk.follow anyPlace path = .ok location := by
  rw [locate] at located
  split at located
  · cases located
  · next noNul =>
      split at located
      · cases located
      · next fits => exact ⟨noNul, by simpa using fits, located⟩

theorem isTooLong_append {first rest : Text} (fits : isTooLong (first ++ rest) = false) :
    isTooLong first = false := by
  rw [isTooLong, decide_eq_false_iff_not] at fits ⊢
  rw [Text.str, String.ofList_append, String.utf8ByteSize_append] at fits
  exact fun long => fits (Nat.le_trans long (Nat.le_add_right _ _))

end Disk

end Migration
