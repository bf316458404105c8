import Migration.Proofs.RealLocation
import Migration.Publication

namespace Migration

/-! Publishing a text.

Where nothing stands at the staging path, publishing replaces the content of one file and leaves
no trace of the staging file.
-/

theorem stagingSuffix_noSlash : '/' ∉ stagingSuffix := by decide

theorem stagingSuffix_noNul : '\x00' ∉ stagingSuffix := by decide

theorem stagingSuffix_length : stagingSuffix.length = 14 := by decide

/-- The suffix alone makes a name of what has no slash. -/
theorem isComponent_staging {name : Text} (noSlash : '/' ∉ name) :
    Path.IsComponent (name ++ stagingSuffix) where
  notEmpty := List.append_ne_nil_of_right_ne_nil name (by decide)
  notHere := by
    intro same
    have shorter := congrArg List.length same
    rw [List.length_append, stagingSuffix_length] at shorter
    simp at shorter
  notUp := by
    intro same
    have shorter := congrArg List.length same
    rw [List.length_append, stagingSuffix_length] at shorter
    simp at shorter
  noSlash := by
    rw [List.mem_append, not_or]
    exact ⟨noSlash, stagingSuffix_noSlash⟩

theorem Path.IsComponent.staging {name : Text} (named : Path.IsComponent name) :
    Path.IsComponent (name ++ stagingSuffix) :=
  isComponent_staging named.noSlash

theorem stagingPath_pathOf {parents : Location} {name : Text}
    (named : ∀ name ∈ parents, Path.IsComponent name) (last : Path.IsComponent name) :
    stagingPath (Disk.pathOf (parents ++ [name])) =
      .ok (Disk.pathOf (parents ++ [name ++ stagingSuffix])) := by
  rw [stagingPath, Disk.split?_pathOf named last]
  simp only [Disk.join_pathOf named (last.notAbsolute stagingSuffix)]

namespace Publication

variable {disk : Disk} {verbosity : Verbosity}

/-- The text for the file that a path leads to is staged at `place`. -/
def StagesAt (disk : Disk) (path : Text) (place : Location) : Prop :=
  ∃ location staging, disk.realLocation path = .ok location ∧
    stagingPath (Disk.pathOf location) = .ok staging ∧ disk.entryLocation staging = .ok place

/-- There is a real file, nothing is where its text is to be staged, and a file can be made
there. -/
structure StagingClear (disk : Disk) (path : Text) : Prop where
  isReal : ∃ location, disk.realLocation path = .ok location
  nothing : ∀ place, StagesAt disk path place → disk.root.node? place = none
  creates : ∀ location staging, disk.realLocation path = .ok location →
    stagingPath (Disk.pathOf location) = .ok staging → ∃ place, disk.createFile staging = .ok place

def stagingLocation (parents : Location) (name : Text) : Location :=
  parents ++ [name ++ stagingSuffix]

/-- The text for a file of a folder can be staged beside it. -/
structure StagingPlace (disk : Disk) (parents : Location) (name : Text)
    (entries : List (Text × Node)) : Prop where
  parent : disk.root.node? parents = some (.folder entries)
  parentsNamed : ∀ other ∈ parents, Path.IsName other
  named : Path.IsName name
  stagingNamed : Path.IsName (name ++ stagingSuffix)
  fits : Disk.isTooLong (Disk.pathOf (stagingLocation parents name)) = false
  absent : entries.lookup (name ++ stagingSuffix) = none

theorem entryLocation_staging {parents : Location} {entries : List (Text × Node)} {name : Text}
    (parent : disk.root.node? parents = some (.folder entries))
    (parentsNamed : ∀ other ∈ parents, Path.IsName other) (last : Path.IsComponent name)
    (fits : Disk.isTooLong (Disk.pathOf (parents ++ [name])) = false) :
    disk.entryLocation (Disk.pathOf (parents ++ [name])) = .ok (parents ++ [name]) := by
  have components : ∀ other ∈ parents, Path.IsComponent other := fun other member =>
    (parentsNamed other member).toIsComponent
  have parentFits : Disk.isTooLong (Disk.pathOf parents) = false := by
    by_cases outermost : parents = []
    · rw [outermost]
      decide
    · rw [Disk.pathOf_append outermost] at fits
      exact Disk.isTooLong_append fits
  have found := Disk.resolve_pathOf_folder parentsNamed parent parentFits
  simp only [Disk.entryLocation, Disk.split?_pathOf components last]
  rw [if_neg (by simp [Disk.pathOf]), found]
  rfl

/-- There is a place beside a file for its text to be staged. -/
structure Beside (disk : Disk) (parents : Location) (name : Text) : Prop where
  parent : ∃ entries, disk.root.node? parents = some (.folder entries)
  parentsNamed : ∀ other ∈ parents, Path.IsName other
  named : Path.IsName name

theorem beside_of_file {parents : Location} {name : Text} {content : List UInt8}
    (formed : disk.WellFormed)
    (present : disk.root.node? (parents ++ [name]) = some (.file content)) :
    Beside disk parents name := by
  obtain ⟨folder, last, entries, same, parent⟩ := formed.folderOf present
  obtain ⟨rfl, _⟩ := List.append_inj' same rfl
  exact ⟨⟨entries, parent⟩, (Node.wellFormed_node? formed.tree parent).1,
    (Node.wellFormed_node? formed.tree present).1 name (by simp)⟩

namespace Beside

variable {parents : Location} {name : Text}

theorem stagingPath (beside : Beside disk parents name) :
    Migration.stagingPath (Disk.pathOf (parents ++ [name])) =
      .ok (Disk.pathOf (stagingLocation parents name)) :=
  stagingPath_pathOf (fun other member => (beside.parentsNamed other member).toIsComponent)
    beside.named.toIsComponent

theorem stagesAt (beside : Beside disk parents name) {path : Text}
    (real : disk.realLocation path = .ok (parents ++ [name]))
    (fits : Disk.isTooLong (Disk.pathOf (stagingLocation parents name)) = false) :
    StagesAt disk path (stagingLocation parents name) := by
  obtain ⟨entries, parent⟩ := beside.parent
  exact ⟨_, _, real, beside.stagingPath,
    entryLocation_staging parent beside.parentsNamed beside.named.toIsComponent.staging fits⟩

theorem entryLocation (beside : Beside disk parents name)
    (fits : Disk.isTooLong (Disk.pathOf (stagingLocation parents name)) = false)
    (content : List UInt8) :
    (disk.setFile (stagingLocation parents name) content).entryLocation
        (Disk.pathOf (stagingLocation parents name)) = .ok (stagingLocation parents name) := by
  obtain ⟨entries, parent⟩ := beside.parent
  exact entryLocation_staging (Node.node?_parent_put parent _ _) beside.parentsNamed
    beside.named.toIsComponent.staging fits

/-- Where a staging file can be made, its name and its path are not too long. -/
theorem usable_of_createFile (beside : Beside disk parents name) {opened : Location}
    (created : disk.createFile (Disk.pathOf (stagingLocation parents name)) = .ok opened) :
    Path.IsName (name ++ stagingSuffix) ∧
      Disk.isTooLong (Disk.pathOf (stagingLocation parents name)) = false := by
  obtain ⟨entries, parent⟩ := beside.parent
  have staging := beside.named.toIsComponent.staging
  obtain ⟨location, located, _⟩ := bind_eq_ok.mp created
  obtain ⟨_, fits, followed⟩ := Disk.follow_of_locate located
  have short : (name ++ stagingSuffix).str.utf8ByteSize ≤ Disk.nameLimit := by
    apply Nat.le_of_not_lt
    intro long
    rw [stagingLocation, Disk.follow_pathOf_entry beside.parentsNamed parent staging
      (Disk.passes_anyPlace _ _ _ _), Disk.locateFrom_long staging long] at followed
    cases followed
  have noNul : '\x00' ∉ name ++ stagingSuffix := by
    rw [List.mem_append, not_or]
    exact ⟨beside.named.noNul, stagingSuffix_noNul⟩
  exact ⟨⟨staging, noNul, short⟩, fits⟩

end Beside

theorem StagingClear.place {path : Text} {location : Location} {old : List UInt8}
    (formed : disk.WellFormed) (clear : StagingClear disk path)
    (real : disk.realLocation path = .ok location)
    (present : disk.root.node? location = some (.file old)) :
    ∃ parents name entries, location = parents ++ [name] ∧
      StagingPlace disk parents name entries := by
  obtain ⟨parents, name, entries, rfl, parent⟩ := formed.folderOf present
  have beside := beside_of_file formed present
  obtain ⟨place, created⟩ := clear.creates _ _ real beside.stagingPath
  obtain ⟨stagingNamed, fits⟩ := beside.usable_of_createFile created
  have absent := clear.nothing _ (beside.stagesAt real fits)
  rw [stagingLocation, Node.node?_append, parent, Option.bind_some,
    Node.node?_folder_singleton] at absent
  exact ⟨parents, name, entries, rfl, parent, beside.parentsNamed, beside.named, stagingNamed, fits,
    absent⟩

namespace StagingPlace

variable {parents : Location} {name : Text} {entries : List (Text × Node)}

theorem beside (place : StagingPlace disk parents name entries) : Beside disk parents name :=
  ⟨⟨entries, place.parent⟩, place.parentsNamed, place.named⟩

theorem createFile (place : StagingPlace disk parents name entries) :
    disk.createFile (Disk.pathOf (stagingLocation parents name)) =
      .ok (stagingLocation parents name) := by
  have nothing : disk.root.node? (parents ++ [name ++ stagingSuffix]) = none := by
    rw [Node.node?_append, place.parent, Option.bind_some, Node.node?_folder_singleton,
      place.absent]
  -- As the entry does not exist yet, no link leads elsewhere from its place.
  have located := Disk.locate_pathOf_entry place.parentsNamed place.parent place.stagingNamed
    (by simp [nothing]) place.fits
  rw [Disk.createFile, stagingLocation, located]
  simp only [bind, Except.bind, nothing]
  rfl

theorem moveEntry (formed : disk.WellFormed) (place : StagingPlace disk parents name entries)
    (content : List UInt8) (target : Location) :
    (disk.setFile (stagingLocation parents name) content).moveEntry
        (stagingLocation parents name) target = disk.setFile target content := by
  simp only [Disk.moveEntry, Disk.setFile, stagingLocation, Node.node?_put place.parent,
    Node.erase_put formed.tree place.parent place.absent]

end StagingPlace

/-! The calls one after the other. -/

theorem attempt_yields (context : String) (value : α) :
    (attempt context (.ok value)).Yields verbosity disk value disk :=
  ⟨rfl, rfl⟩

theorem resolveTarget_yields {path : Text} {location : Location}
    (granted : disk.refused .resolve = none) (real : disk.realLocation path = .ok location) :
    (resolveTarget path).Yields verbosity disk location disk := by
  refine .bind ⟨rfl, rfl⟩ ?_
  have outcome : Publication.granted disk .resolve *> disk.realLocation path = .ok location := by
    rw [Publication.granted, granted, real]
    rfl
  rw [outcome]
  exact attempt_yields _ location

theorem createStaging_yields {staging : Text} {opened : Location}
    (granted : disk.refused .create = none) (created : disk.createFile staging = .ok opened) :
    (createStaging staging).Yields verbosity disk opened (disk.setFile opened []) := by
  refine .bind ⟨rfl, rfl⟩ ?_
  have outcome : Publication.granted disk .create *> disk.createFile staging = .ok opened := by
    rw [Publication.granted, granted, created]
    rfl
  rw [outcome]
  exact .bind (attempt_yields _ opened) (.bind ⟨rfl, rfl⟩ ⟨rfl, rfl⟩)

theorem writeStaging_yields {staging : Text} (granted : disk.refused .write = none) :
    (writeStaging staging).Yields verbosity disk () disk := by
  refine .bind ⟨rfl, rfl⟩ ?_
  simp only [Publication.granted, granted]
  exact ⟨rfl, rfl⟩

theorem flushStaging_yields {opened : Location} {text target : Text}
    (granted : disk.refused .flush = none) :
    (flushStaging opened text target).Yields verbosity disk ()
      (disk.setFile opened (Utf8.encode text)) := by
  refine .bind ⟨rfl, rfl⟩ ?_
  simp only [Publication.granted, granted]
  exact .bind (attempt_yields _ ()) ⟨rfl, rfl⟩

theorem plainCall_yields {call : PublishCall} {context : String}
    (granted : disk.refused call = none) :
    (plainCall call context).Yields verbosity disk () disk := by
  refine .bind ⟨rfl, rfl⟩ ?_
  simp only [Publication.granted, granted]
  exact attempt_yields _ ()

theorem renameStaging_yields {staging : Text} {source location : Location}
    (granted : disk.refused .rename = none) (found : disk.entryLocation staging = .ok source) :
    (renameStaging staging location).Yields verbosity disk () (disk.moveEntry source location) := by
  refine .bind ⟨rfl, rfl⟩ ?_
  have outcome : Publication.granted disk .rename *> disk.entryLocation staging = .ok source := by
    rw [Publication.granted, granted, found]
    rfl
  rw [outcome]
  exact .bind (attempt_yields _ source) ⟨rfl, rfl⟩

/-- Where the staging path is clear, publishing replaces the content of the file and does nothing
else. -/
theorem publish_yields {path text : Text} {location : Location} {old : List UInt8}
    (formed : disk.WellFormed) (granted : ∀ call, disk.refused call = none)
    (clear : StagingClear disk path) (resolved : disk.resolve path = .ok location)
    (present : disk.root.node? location = some (.file old)) :
    (publish path text).Yields verbosity disk () (disk.setFile location (Utf8.encode text)) := by
  obtain ⟨_, real⟩ := clear.isReal
  obtain rfl := Disk.realLocation_unique real resolved
  obtain ⟨parents, name, entries, rfl, place⟩ := clear.place formed real present
  have emptied : (disk.setFile (stagingLocation parents name) []).setFile
      (stagingLocation parents name) (Utf8.encode text) =
      disk.setFile (stagingLocation parents name) (Utf8.encode text) := by
    simp only [Disk.setFile, Node.put_put]
  refine .bind (resolveTarget_yields (granted .resolve) real) ?_
  have staged : (Action.ofExcept (Migration.stagingPath (Disk.pathOf (parents ++ [name])))).Yields
      verbosity disk (Disk.pathOf (stagingLocation parents name)) disk :=
    ⟨(Action.answer_ofExcept _).trans place.beside.stagingPath, Action.after_ofExcept _⟩
  refine .bind staged ?_
  refine .bind (createStaging_yields (granted .create) place.createFile) ?_
  refine .bind (writeStaging_yields (granted .write)) ?_
  refine .bind (flushStaging_yields (granted .flush)) ?_
  rw [emptied]
  refine .bind (plainCall_yields (granted .sync)) ?_
  refine .bind (plainCall_yields (granted .setPermissions)) ?_
  rw [← place.moveEntry formed (Utf8.encode text) (parents ++ [name])]
  exact renameStaging_yields (granted .rename) (place.beside.entryLocation place.fits _)

end Publication

end Migration
