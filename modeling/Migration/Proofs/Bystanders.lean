import Migration.Proofs.ChangedFiles
import Migration.Proofs.FailedPublication

namespace Migration

/-! Files that a run has no business with.

A run publishes to the real files of what it found and stages the texts beside them.  Where no link
stands in a staging place, files come and go in these places only, whichever call fails, and every
path that leads anywhere still leads where it led at the start.
-/

namespace Node

/-- Nothing, or a file. -/
def IsPlain (face : Option Face) : Prop :=
  face = none ∨ ∃ content, face = some (.file content)

theorem isPlain_iff {root : Node} {location : Location} :
    IsPlain (root.face? location) ↔
      root.node? location = none ∨ ∃ content, root.node? location = some (.file content) := by
  simp only [IsPlain, face?_eq_file]
  rw [face?, Option.map_eq_none_iff]

theorem IsPlain.ne_folder {root : Node} {location : Location}
    (plain : IsPlain (root.face? location)) (entries : List (Text × Node)) :
    root.node? location ≠ some (.folder entries) := by
  rcases isPlain_iff.mp plain with nothing | ⟨content, isFile⟩
  · simp [nothing]
  · simp [isFile]

/-- Both trees have the same folders and links, and files or nothing elsewhere. -/
def Agrees (left right : Node) : Prop :=
  ∀ location, left.face? location = right.face? location ∨
    (IsPlain (left.face? location) ∧ IsPlain (right.face? location))

theorem Agrees.cases {left right : Node} (agrees : left.Agrees right) (location : Location) :
    (IsPlain (left.face? location) ∧ IsPlain (right.face? location)) ∨
      (∃ entries others, left.node? location = some (.folder entries) ∧
        right.node? location = some (.folder others)) ∨
      ∃ target, left.node? location = some (.link target) ∧
        right.node? location = some (.link target) := by
  rcases agrees location with same | plain
  · cases face : left.face? location with
    | none => exact .inl ⟨.inl rfl, .inl (same.symm.trans face)⟩
    | some seen =>
        have also := same.symm.trans face
        cases seen with
        | file content => exact .inl ⟨.inr ⟨content, rfl⟩, .inr ⟨content, also⟩⟩
        | folder =>
            obtain ⟨entries, found⟩ := face?_eq_folder.mp face
            obtain ⟨others, kept⟩ := face?_eq_folder.mp also
            exact .inr (.inl ⟨entries, others, found, kept⟩)
        | link target =>
            exact .inr (.inr ⟨target, face?_eq_link.mp face, face?_eq_link.mp also⟩)
  · exact .inl plain

end Node

open Node (IsPlain)

namespace Disk

theorem resolve_eq_ok {disk : Disk} {path : Text} {location : Location} :
    disk.resolve path = .ok location ↔
      disk.locate path = .ok location ∧ disk.root.face? location ≠ none := by
  rw [resolve, bind_eq_ok, Node.face?, ne_eq, Option.map_eq_none_iff, ← ne_eq,
    Option.ne_none_iff_exists']
  constructor
  · rintro ⟨found, located, present⟩
    obtain ⟨rfl, there⟩ := present_eq_ok.mp present
    exact ⟨located, there⟩
  · rintro ⟨located, there⟩
    exact ⟨location, located, present_eq_ok.mpr ⟨rfl, there⟩⟩

theorem Passed.of_looked {left right : Node} {admits : Text → Bool} {here : Location} {step : Text}
    {rest : List Text} (passed : Passed left admits here step rest)
    (same : lookedAt (here ++ [step]) (left.node? (here ++ [step])) rest =
      lookedAt (here ++ [step]) (right.node? (here ++ [step])) rest) :
    Passed right admits here step rest :=
  { passed with admitted := same ▸ passed.admitted }

/-- A walk that arrives has seen folders and links only before its last step, so it ends in the same
place. -/
theorem Leads.of_agrees {left right : Node} (agrees : left.Agrees right) {admits : Text → Bool}
    {links : Nat} {here place : Location} {steps : List Text}
    (leads : Leads left admits links here steps place) :
    Leads right admits links here steps place := by
  induction leads with
  | arrives links here => exact .arrives links here
  | stays _ ih => exact .stays ih
  | leaves _ ih => exact .leaves ih
  | @enters _ here _ step _ _ passed isFolder _ ih =>
      rcases agrees.cases (here ++ [step]) with
        ⟨plain, _⟩ | ⟨_, others, _, kept⟩ | ⟨_, isLink, _⟩
      · exact absurd isFolder (plain.ne_folder _)
      · exact .enters (passed.of_looked (by rw [isFolder, kept]; rfl)) kept ih
      · simp [isFolder] at isLink
  | @ends links here step passed isPlain =>
      rcases agrees.cases (here ++ [step]) with
        ⟨_, stillPlain⟩ | ⟨_, _, isFolder, _⟩ | ⟨_, isLink, _⟩
      · refine .ends links (passed.of_looked ?_) (Node.isPlain_iff.mp stillPlain)
        rw [lookedAt_of_asksFolder rfl, lookedAt_of_asksFolder rfl]
      · simp [isFolder] at isPlain
      · simp [isLink] at isPlain
  | @follows _ here _ step _ _ passed isLink _ ih =>
      rcases agrees.cases (here ++ [step]) with
        ⟨plain, _⟩ | ⟨_, _, isFolder, _⟩ | ⟨_, also, kept⟩
      · rcases Node.isPlain_iff.mp plain with nothing | ⟨_, isFile⟩
        · simp [isLink] at nothing
        · simp [isLink] at isFile
      · simp [isLink] at isFolder
      · cases isLink.symm.trans also
        exact .follows (passed.of_looked (by rw [isLink, kept])) kept ih

/-- `current` is `start` with files made, rewritten or removed in the `owned` places. -/
structure Confined (owned : Location → Prop) (start current : Disk) : Prop where
  faces : ∀ location, current.root.face? location = start.root.face? location ∨
    (owned location ∧ IsPlain (current.root.face? location) ∧
      IsPlain (start.root.face? location))
  workingFolder : current.workingFolder = start.workingFolder

namespace Confined

variable {owned : Location → Prop} {start current : Disk}

theorem refl (owned : Location → Prop) (start : Disk) : Confined owned start start :=
  ⟨fun _ => .inl rfl, rfl⟩

theorem agrees (confined : Confined owned start current) : current.root.Agrees start.root :=
  fun location => (confined.faces location).imp_right And.right

theorem follow (confined : Confined owned start current) {admits : Text → Bool} {path : Text}
    {location : Location} (followed : current.follow admits path = .ok location) :
    start.follow admits path = .ok location := by
  obtain ⟨some, leads⟩ := follow_eq_ok.mp followed
  rw [confined.workingFolder] at leads
  exact follow_eq_ok.mpr ⟨some, leads.of_agrees confined.agrees⟩

theorem locate (confined : Confined owned start current) {path : Text} {location : Location}
    (located : current.locate path = .ok location) : start.locate path = .ok location := by
  obtain ⟨noNul, fits, followed⟩ := follow_of_locate located
  rw [Disk.locate, if_neg noNul, if_neg (by simp [fits])]
  exact confined.follow followed

theorem realLocation (confined : Confined owned start current) {path : Text}
    {location : Location} (real : current.realLocation path = .ok location)
    (present : ∃ node, start.root.node? location = some node) :
    start.realLocation path = .ok location := by
  obtain ⟨noNul, followed, _⟩ := realLocation_eq_ok.mp real
  exact realLocation_eq_ok.mpr ⟨noNul, confined.follow followed, present⟩

/-- A folder is still a folder. -/
theorem folder (confined : Confined owned start current) {location : Location}
    (isFolder : start.root.face? location = some .folder) :
    ∃ entries, current.root.node? location = some (.folder entries) := by
  rcases confined.faces location with same | ⟨_, _, plain⟩
  · exact Node.face?_eq_folder.mp (same.trans isFolder)
  · obtain ⟨entries, found⟩ := Node.face?_eq_folder.mp isFolder
    exact absurd found (plain.ne_folder entries)

/-- A place for files at the start is one still. -/
theorem plain (confined : Confined owned start current) {location : Location}
    (wasPlain : IsPlain (start.root.face? location)) :
    IsPlain (current.root.face? location) := by
  rcases confined.faces location with same | ⟨_, isPlain, _⟩
  · exact same ▸ wasPlain
  · exact isPlain

theorem noLink {place : Location} (confined : Confined owned start current)
    (wasUnlinked : Publication.NoLink start place) : Publication.NoLink current place := by
  intro fits target link
  rcases confined.agrees.cases place with
    ⟨plain, _⟩ | ⟨_, _, isFolder, _⟩ | ⟨other, _, wasLink⟩
  · rcases Node.isPlain_iff.mp plain with nothing | ⟨_, isFile⟩
    · simp [link] at nothing
    · simp [link] at isFile
  · simp [link] at isFolder
  · exact wasUnlinked fits other wasLink

theorem wasPlain {place : Location} (confined : Confined owned start current)
    (noFolder : ∀ entries, current.root.node? place ≠ some (.folder entries))
    (wasUnlinked : ∀ target, start.root.node? place ≠ some (.link target)) :
    IsPlain (start.root.face? place) := by
  rcases confined.agrees.cases place with
    ⟨_, plain⟩ | ⟨entries, _, isFolder, _⟩ | ⟨target, _, wasLink⟩
  · exact plain
  · exact absurd isFolder (noFolder entries)
  · exact absurd wasLink (wasUnlinked target)

end Confined

/-- A place in a folder where files may come and go. -/
structure IsFree (owned : Location → Prop) (start : Disk) (parents : Location) (name : Text) :
    Prop where
  isOwned : owned (parents ++ [name])
  parent : start.root.face? parents = some .folder
  plain : IsPlain (start.root.face? (parents ++ [name]))

namespace Confined

variable {owned : Location → Prop} {start current : Disk} {parents : Location} {name : Text}

theorem face?_setFile (confined : Confined owned start current)
    (free : IsFree owned start parents name) (content : List UInt8) (location : Location) :
    (current.setFile (parents ++ [name]) content).root.face? location =
      if location = parents ++ [name] then some (.file content)
      else current.root.face? location := by
  obtain ⟨entries, parent⟩ := confined.folder free.parent
  exact Node.face?_put_file parent (confined.plain free.plain).ne_folder content location

theorem face?_removeEntry (confined : Confined owned start current)
    (free : IsFree owned start parents name) (location : Location) :
    (current.removeEntry (parents ++ [name])).root.face? location =
      if location = parents ++ [name] then none else current.root.face? location := by
  obtain ⟨entries, parent⟩ := confined.folder free.parent
  exact Node.face?_erase parent (confined.plain free.plain).ne_folder location

/-- What is in a free place can be exchanged for a file or nothing. -/
theorem exchange (confined : Confined owned start current)
    (free : IsFree owned start parents name) {final : Disk} {face : Option Node.Face}
    (plain : IsPlain face) (folder : final.workingFolder = current.workingFolder)
    (faces : ∀ location, final.root.face? location =
      if location = parents ++ [name] then face else current.root.face? location) :
    Confined owned start final where
  faces location := by
    rw [faces]
    split
    · next same => exact .inr ⟨same ▸ free.isOwned, plain, same ▸ free.plain⟩
    · exact confined.faces location
  workingFolder := folder.trans confined.workingFolder

theorem setFile (confined : Confined owned start current)
    (free : IsFree owned start parents name) (content : List UInt8) :
    Confined owned start (current.setFile (parents ++ [name]) content) :=
  confined.exchange free (.inr ⟨content, rfl⟩) rfl (confined.face?_setFile free content)

theorem removeEntry (confined : Confined owned start current)
    (free : IsFree owned start parents name) :
    Confined owned start (current.removeEntry (parents ++ [name])) :=
  confined.exchange free (.inl rfl) rfl (confined.face?_removeEntry free)

/-- A file that was just made is moved from one free place to another. -/
theorem moveEntry_setFile (confined : Confined owned start current)
    (source : IsFree owned start parents name) (content : List UInt8) (target : Location) :
    (current.setFile (parents ++ [name]) content).moveEntry (parents ++ [name]) target =
      ((current.setFile (parents ++ [name]) content).removeEntry (parents ++ [name])).setFile
        target content := by
  have made := confined.face?_setFile source content (parents ++ [name])
  rw [if_pos rfl, Node.face?_eq_file] at made
  simp only [moveEntry, made]
  rfl

end Confined

end Disk

namespace Publication

open Disk (Confined IsFree)

/-- Wherever a publication stops, files have come and gone in its two places only. -/
theorem leftBy_confined {owned : Location → Prop} {start current : Disk} {parents : Location}
    {name : Text} (confined : Confined owned start current)
    (staging : IsFree owned start parents (name ++ stagingSuffix))
    (target : IsFree owned start parents name) (text : Text) (call : Option PublishCall) :
    Confined owned start
      (leftBy current (stagingLocation parents name) (parents ++ [name]) text call).2 := by
  have made (content : List UInt8) :
      Confined owned start (current.setFile (stagingLocation parents name) content) :=
    confined.setFile staging content
  rcases call with - | call
  · rw [leftBy, stagingLocation, confined.moveEntry_setFile staging]
    exact ((made _).removeEntry staging).setFile target _
  · cases call with
    | resolve => exact confined
    | create => exact confined
    | write => exact (made []).removeEntry staging
    | flush => exact made []
    | sync => exact made _
    | setPermissions => exact made _
    | rename => exact made _

/-- A published text is in its file, and nothing is where it was staged. -/
theorem face?_leftBy_none {owned : Location → Prop} {start current : Disk} {parents : Location}
    {name : Text} (confined : Confined owned start current)
    (staging : IsFree owned start parents (name ++ stagingSuffix))
    (target : IsFree owned start parents name) (text : Text) (location : Location) :
    (leftBy current (stagingLocation parents name) (parents ++ [name]) text none).2.root.face?
        location =
      if location = parents ++ [name] then some (.file (Utf8.encode text))
      else if location = stagingLocation parents name then none
      else current.root.face? location := by
  have made := confined.setFile staging (Utf8.encode text)
  rw [leftBy, stagingLocation, confined.moveEntry_setFile staging,
    (made.removeEntry staging).face?_setFile target, made.face?_removeEntry staging,
    confined.face?_setFile staging]
  split
  · rfl
  · split <;> rfl

end Publication

namespace Run

open Disk (Confined IsFree)
open Publication (Beside NoLink StagesAt stagingLocation)

/-- The places that a run over the files is about. -/
def Owned (start : Disk) (files : List TreeFile) (place : Location) : Prop :=
  ∃ file ∈ files, start.resolve file.path = .ok place ∨ StagesAt start file.path place

/-- Every place that was empty at the start is empty. -/
def NothingMade (start current : Disk) : Prop :=
  ∀ location, start.root.face? location = none → current.root.face? location = none

variable {start current : Disk} {files : List TreeFile} {file : TreeFile}

/-- A file that can be read was there at the start, in a folder where its text can be staged. -/
theorem exists_target {owned : Location → Prop} (formed : start.WellFormed)
    (confined : Confined owned start current) (nothingMade : NothingMade start current)
    {path text : Text} (read : current.readText path = .ok text) :
    ∃ parents name content, current.resolve path = .ok (parents ++ [name]) ∧
      start.resolve path = .ok (parents ++ [name]) ∧
      start.root.node? (parents ++ [name]) = some (.file content) := by
  obtain ⟨location, content, resolved, present, _⟩ := Disk.file_of_readText read
  obtain ⟨located, there⟩ := Disk.resolve_eq_ok.mp resolved
  -- A staging file of an earlier file is gone, so what is read now was there at the start.
  have wasThere : start.root.face? location ≠ none := fun nothing =>
    there (nothingMade location nothing)
  have resolvedBefore := Disk.resolve_eq_ok.mpr ⟨confined.locate located, wasThere⟩
  have wasFile : ∃ old, start.root.node? location = some (.file old) := by
    rcases confined.faces location with same | ⟨_, _, nothing | ⟨old, isFile⟩⟩
    · exact ⟨content, Node.face?_eq_file.mp (same ▸ Node.face?_eq_file.mpr present)⟩
    · exact absurd nothing wasThere
    · exact ⟨old, Node.face?_eq_file.mp isFile⟩
  obtain ⟨old, wasPresent⟩ := wasFile
  obtain ⟨parents, name, _, rfl, _⟩ := formed.folderOf wasPresent
  exact ⟨parents, name, old, resolved, resolvedBefore, wasPresent⟩

/-- No link stands where a text for one of the files is staged. -/
def NoStagingLinks (start : Disk) (files : List TreeFile) : Prop :=
  ∀ file ∈ files, ∀ place target, StagesAt start file.path place →
    start.root.node? place ≠ some (.link target)

theorem publish_of_real {parents : Location} {name : Text} {content : List UInt8}
    (formed : start.WellFormed) (noLinks : NoStagingLinks start files) (member : file ∈ files)
    (confined : Confined (Owned start files) start current)
    (nothingMade : NothingMade start current)
    (resolved : current.resolve file.path = .ok (parents ++ [name]))
    (wasResolved : start.resolve file.path = .ok (parents ++ [name]))
    (wasReal : start.realLocation file.path = .ok (parents ++ [name]))
    (wasPresent : start.root.node? (parents ++ [name]) = some (.file content)) (output : Text)
    (verbosity : Verbosity) :
    Confined (Owned start files) start
        ((Publication.publish file.path output).after verbosity current) ∧
      ((Publication.publish file.path output).answer verbosity current = .ok () →
        NothingMade start ((Publication.publish file.path output).after verbosity current)) := by
  have before := Publication.beside_of_file formed wasPresent
  have parent := Node.face?_eq_folder.mpr before.parent
  have beside : Beside current parents name :=
    ⟨confined.folder parent, before.parentsNamed, before.named⟩
  have wasUnlinked : NoLink start (stagingLocation parents name) := fun fits target =>
    noLinks file member _ target (before.stagesAt wasReal fits)
  have noLink := confined.noLink wasUnlinked
  have outcome := @Publication.outcome_publish current verbosity file.path output parents name
    beside noLink resolved
  have answers := congrArg Prod.fst outcome
  have left : (Publication.publish file.path output).after verbosity current = _ :=
    congrArg Prod.snd outcome
  rw [left]
  -- A folder in the staging place, or too long a path, stops the publication before it begins.
  cases created : current.createFile (Disk.pathOf (stagingLocation parents name)) with
  | error error =>
      rcases @Publication.stoppedAt_of_uncreated current file.path (stagingLocation parents name)
        (by rw [created]; rfl) with stopped | stopped <;> rw [stopped]
      · exact ⟨confined, fun _ => nothingMade⟩
      · exact ⟨confined, fun _ => nothingMade⟩
  | ok opened =>
      obtain ⟨_, fits, noFolder⟩ := beside.createFile_eq_ok noLink created
      have staging : IsFree (Owned start files) start parents (name ++ stagingSuffix) :=
        ⟨⟨file, member, .inr (before.stagesAt wasReal fits)⟩, parent,
          confined.wasPlain noFolder (wasUnlinked fits)⟩
      have target : IsFree (Owned start files) start parents name :=
        ⟨⟨file, member, .inl wasResolved⟩, parent,
          .inr ⟨content, Node.face?_eq_file.mpr wasPresent⟩⟩
      refine ⟨Publication.leftBy_confined confined staging target output _, ?_⟩
      intro published
      rw [Action.outcome, published] at answers
      rw [Publication.eq_none_of_leftBy answers.symm]
      intro location nothing
      rw [Publication.face?_leftBy_none confined staging target]
      split
      · next same => simp [same, Node.face?, wasPresent] at nothing
      · split
        · rfl
        · exact nothingMade location nothing

/-- Publishing to one of the files keeps to the places of the run.  If it succeeds, nothing is in a
place that was empty. -/
theorem publish_confined (formed : start.WellFormed) (noLinks : NoStagingLinks start files)
    (member : file ∈ files) (confined : Confined (Owned start files) start current)
    (nothingMade : NothingMade start current) {text : Text}
    (read : current.readText file.path = .ok text) (output : Text) (verbosity : Verbosity) :
    Confined (Owned start files) start
        ((Publication.publish file.path output).after verbosity current) ∧
      ((Publication.publish file.path output).answer verbosity current = .ok () →
        NothingMade start ((Publication.publish file.path output).after verbosity current)) := by
  obtain ⟨parents, name, content, resolved, wasResolved, wasPresent⟩ :=
    exists_target formed confined nothingMade read
  cases real : current.realLocation file.path with
  | error error =>
      have left : (Publication.publish file.path output).after verbosity current = current :=
        congrArg Prod.snd (Publication.outcome_publish_of_unreal real output)
      rw [left]
      exact ⟨confined, fun _ => nothingMade⟩
  | ok location =>
      obtain rfl := Disk.realLocation_unique real resolved
      exact publish_of_real formed noLinks member confined nothingMade resolved wasResolved
        (confined.realLocation real ⟨_, wasPresent⟩) wasPresent output verbosity

/-- Whatever becomes of one file, its migration keeps to the places of the run. -/
theorem migrateFile_confined (formed : start.WellFormed) (noLinks : NoStagingLinks start files)
    (member : file ∈ files) (confined : Confined (Owned start files) start current)
    (nothingMade : NothingMade start current) (known : Correspondences) (trailer : List Text)
    (verbosity : Verbosity) :
    let migrated := FileEdit.migrateFile known { mode := .apply, trailer } file
    Confined (Owned start files) start (migrated.after verbosity current) ∧
      ∀ outcome, migrated.answer verbosity current = .ok outcome →
        NothingMade start (migrated.after verbosity current) := by
  intro migrated
  cases reached : FileEdit.editedText known trailer file verbosity current with
  | error failure =>
      rw [(FileEdit.migrateFile_of_error { mode := .apply, trailer } reached).2]
      exact ⟨confined, fun _ _ => nothingMade⟩
  | ok edited =>
      cases changed : (FileOutcome.ofEdited file edited).isChange with
      | false =>
          rw [(FileEdit.migrateFile_apply_unchanged reached changed).2]
          exact ⟨confined, fun _ _ => nothingMade⟩
      | true =>
          obtain ⟨text, read, _⟩ := bind_eq_ok.mp reached
          obtain ⟨answers, left⟩ := FileEdit.migrateFile_apply_publishes reached changed
          obtain ⟨stillConfined, stillNothingMade⟩ := publish_confined formed noLinks member
            confined nothingMade read edited.text verbosity
          rw [answers, left]
          refine ⟨stillConfined, fun outcome answered => stillNothingMade ?_⟩
          cases published :
            (Publication.publish file.path edited.text).answer verbosity current with
          | error failure =>
              rw [published] at answered
              cases answered
          | ok _ => rfl

/-- A run keeps to its places, as far as it gets. -/
theorem forEach_confined (formed : start.WellFormed) (noLinks : NoStagingLinks start files)
    (known : Correspondences) (trailer : List Text) (verbosity : Verbosity) {rest : List TreeFile}
    (members : ∀ file ∈ rest, file ∈ files)
    (confined : Confined (Owned start files) start current)
    (nothingMade : NothingMade start current) :
    Confined (Owned start files) start
      ((Action.forEach (FileEdit.migrateFile known { mode := .apply, trailer }) rest).after
        verbosity current) := by
  induction rest generalizing current with
  | nil => exact confined
  | cons file rest ih =>
      obtain ⟨member, members⟩ := List.forall_mem_cons.mp members
      obtain ⟨stillConfined, stillNothingMade⟩ := migrateFile_confined formed noLinks member
        confined nothingMade known trailer verbosity
      rw [Action.after_forEach_cons]
      cases answered : (FileEdit.migrateFile known { mode := .apply, trailer } file).answer
          verbosity current with
      | error failure => exact stillConfined
      | ok outcome => exact ih members stillConfined (stillNothingMade outcome answered)

/-- Where no link stands in a staging place, a run changes what is in the real files of what it
found and in their staging places, and nothing else, whether it succeeds or fails. -/
theorem migrate_apply_spares_bystanders (options : RunOptions) (verbosity : Verbosity)
    (disk : Disk) (formed : disk.WellFormed)
    (noLinks : ∀ found, (survey options).answer verbosity disk = .ok found →
      NoStagingLinks disk found.files)
    (location : Location)
    (bystander : ∀ found, (survey options).answer verbosity disk = .ok found →
      ¬ Owned disk found.files location) :
    ((migrate { options with mode := .apply }).after verbosity disk).root.face? location =
      disk.root.face? location := by
  cases surveyed : (survey options).answer verbosity disk with
  | error failure => rw [(@migrate_of_error { options with mode := .apply } _ _ _ surveyed).2]
  | ok found =>
      rw [(@migrate_of_survey { options with mode := .apply } _ _ _ surveyed).2]
      have confined := forEach_confined formed (noLinks found surveyed) found.known
        found.setup.config.configTrailer verbosity (fun _ member => member) (.refl _ disk)
        (fun _ nothing => nothing)
      rcases confined.faces location with same | ⟨owned, _⟩
      · exact same
      · exact absurd owned (bystander found surveyed)

/-- A run over one file is about two places. -/
theorem Owned.eq_or_eq {path : Text} {kind : FileKind} {location place other : Location}
    {staging : Text} (resolves : start.resolve path = .ok location)
    (stages : stagingPath (Disk.pathOf location) = .ok staging)
    (leads : start.entryLocation staging = .ok place)
    (owned : Owned start [⟨path, kind⟩] other) : other = location ∨ other = place := by
  obtain ⟨file, member, owned⟩ := owned
  cases List.mem_singleton.mp member
  rcases owned with resolved | ⟨_, _, real, staged, entry⟩
  · exact .inl (Except.ok.inj (resolved.symm.trans resolves))
  · cases Disk.realLocation_unique real resolves
    cases staged.symm.trans stages
    exact .inr (Except.ok.inj (entry.symm.trans leads))

/-- A tree with one source file and something in its staging place, and a file outside. -/
def stagedDisk (staging : Node) : Disk where
  root := .folder [
    ("a".toList, .file (Utf8.encode "o,n\ng:m,x:y:1\n".toList)),
    ("notes".toList, .file (Utf8.encode "keep\n".toList)),
    ("p".toList, .folder [
      ("A.java".toList, .file (Utf8.encode "a.B\n".toList)),
      ("A.java.nsmigrate.tmp".toList, staging)]),
    ("s".toList, .file (Utf8.encode "o,n\na.B,c.D\n".toList))]
  workingFolder := []

theorem stagedDisk_owned {staging : Node} {found : Survey} {other : Location}
    (surveyed : (survey sampleOptions).answer .quiet (stagedDisk staging) = .ok found)
    (files : ((survey sampleOptions).answer .quiet (stagedDisk staging)).map (·.files) =
      .ok [⟨"p/A.java".toList, .source⟩])
    (resolves : (stagedDisk staging).resolve "p/A.java".toList =
      .ok ["p".toList, "A.java".toList])
    (leads : (stagedDisk staging).entryLocation "/p/A.java.nsmigrate.tmp".toList =
      .ok ["p".toList, "A.java.nsmigrate.tmp".toList])
    (owned : Owned (stagedDisk staging) found.files other) :
    other = ["p".toList, "A.java".toList] ∨
      other = ["p".toList, "A.java.nsmigrate.tmp".toList] := by
  rw [surveyed] at files
  have single : found.files = [⟨"p/A.java".toList, .source⟩] := Except.ok.inj files
  rw [single] at owned
  exact owned.eq_or_eq resolves rfl leads

def staleFile : Node :=
  .file (Utf8.encode "old\n".toList)

theorem staleFile_owned {found : Survey} {other : Location}
    (surveyed : (survey sampleOptions).answer .quiet (stagedDisk staleFile) = .ok found)
    (owned : Owned (stagedDisk staleFile) found.files other) :
    other = ["p".toList, "A.java".toList] ∨
      other = ["p".toList, "A.java.nsmigrate.tmp".toList] :=
  stagedDisk_owned surveyed (by decide +kernel) (by decide +kernel) (by decide +kernel) owned

/-- A file that was left in the staging place is used up, and the file outside is kept. -/
theorem staleFile_migrate_apply_spares_bystanders :
    (stagedDisk staleFile).WellFormed ∧
      (∀ found, (survey sampleOptions).answer .quiet (stagedDisk staleFile) = .ok found →
        NoStagingLinks (stagedDisk staleFile) found.files ∧
          ¬ Owned (stagedDisk staleFile) found.files ["notes".toList]) ∧
      ((migrate { sampleOptions with mode := .apply }).after .quiet
        (stagedDisk staleFile)).root.face? ["p".toList, "A.java".toList] =
          some (.file (Utf8.encode "c.D\n".toList)) ∧
      ((migrate { sampleOptions with mode := .apply }).after .quiet
        (stagedDisk staleFile)).root.face? ["notes".toList] =
          (stagedDisk staleFile).root.face? ["notes".toList] := by
  have formed : (stagedDisk staleFile).WellFormed := ⟨rfl, by decide +kernel⟩
  have noLinks : ∀ found, (survey sampleOptions).answer .quiet (stagedDisk staleFile) = .ok found →
      NoStagingLinks (stagedDisk staleFile) found.files := by
    intro found surveyed file member place target stages
    rcases staleFile_owned surveyed ⟨file, member, .inr stages⟩ with rfl | rfl <;> nofun
  have bystander : ∀ found,
      (survey sampleOptions).answer .quiet (stagedDisk staleFile) = .ok found →
      ¬ Owned (stagedDisk staleFile) found.files ["notes".toList] := by
    intro found surveyed owned
    rcases staleFile_owned surveyed owned with same | same <;> revert same <;> decide
  exact ⟨formed, fun found surveyed => ⟨noLinks found surveyed, bystander found surveyed⟩,
    by decide +kernel,
    migrate_apply_spares_bystanders sampleOptions .quiet _ formed noLinks _ bystander⟩

def outwardLink : Node :=
  .link "../notes".toList

/-- Where a link stands in the staging place, the text is written into the file it leads to. -/
theorem outwardLink_migrate_apply_overwrites_bystander :
    (stagedDisk outwardLink).WellFormed ∧
      (∃ found, (survey sampleOptions).answer .quiet (stagedDisk outwardLink) = .ok found ∧
        ¬ Owned (stagedDisk outwardLink) found.files ["notes".toList]) ∧
      (stagedDisk outwardLink).root.face? ["notes".toList] =
        some (.file (Utf8.encode "keep\n".toList)) ∧
      ((migrate { sampleOptions with mode := .apply }).after .quiet
        (stagedDisk outwardLink)).root.face? ["notes".toList] =
          some (.file (Utf8.encode "c.D\n".toList)) := by
  refine ⟨⟨rfl, by decide +kernel⟩, ?_, by decide +kernel, by decide +kernel⟩
  have files : ((survey sampleOptions).answer .quiet (stagedDisk outwardLink)).map (·.files) =
      .ok [⟨"p/A.java".toList, .source⟩] := by decide +kernel
  cases surveyed : (survey sampleOptions).answer .quiet (stagedDisk outwardLink) with
  | error failure =>
      rw [surveyed] at files
      cases files
  | ok found =>
      refine ⟨found, rfl, ?_⟩
      intro owned
      rcases stagedDisk_owned surveyed files (by decide +kernel) (by decide +kernel) owned with
        same | same <;> revert same <;> decide

end Run

end Migration
