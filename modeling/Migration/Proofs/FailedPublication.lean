import Migration.Proofs.Decisions
import Migration.Proofs.Faces

namespace Migration

/-! Where a publication stops.

Each call of a publication can fail, and the first that does ends it.  A staging file that was made
by then is removed if the text could not be handed over, and stays where it is if anything fails
later.  The real file is not touched before the last call.
-/

namespace Action

variable {verbosity : Verbosity} {start : Disk}

/-- The value that an action answers, if it answers one, and the disk that it leaves behind. -/
def outcome (action : Action α) (verbosity : Verbosity) (start : Disk) : Option α × Disk :=
  ((action.answer verbosity start).toOption, action.after verbosity start)

theorem outcome_bind (first : Action α) (next : α → Action β) :
    (first >>= next).outcome verbosity start =
      match first.outcome verbosity start with
      | (some value, middle) => (next value).outcome verbosity middle
      | (none, final) => (none, final) := by
  rw [outcome, outcome, answer_bind, after_bind]
  cases first.answer verbosity start <;> rfl

theorem outcome_disk_bind (next : Disk → Action α) :
    (Action.disk >>= next).outcome verbosity start = (next start).outcome verbosity start :=
  outcome_bind ..

theorem Yields.outcome {action : Action α} {value : α} {final : Disk}
    (yields : action.Yields verbosity start value final) :
    action.outcome verbosity start = (some value, final) := by
  rw [Action.outcome, yields.1, yields.2]
  rfl

end Action

namespace PublishCall

/-- The calls that bring a text into the staging file and put that in place, in order. -/
def late : List PublishCall :=
  [.write, .flush, .sync, .setPermissions, .rename]

/-- The calls of a publication in the order in which they are made. -/
def inOrder : List PublishCall :=
  .resolve :: .create :: late

end PublishCall

namespace Publication

variable {disk : Disk} {verbosity : Verbosity}

/-- No link stands in a place, unless its path is too long to be used. -/
def NoLink (disk : Disk) (place : Location) : Prop :=
  Disk.isTooLong (Disk.pathOf place) = false →
    ∀ target, disk.root.node? place ≠ some (.link target)

namespace Beside

variable {parents : Location} {name : Text}

/-- A staging file that can be made is made in its own place, where there is no folder. -/
theorem createFile_eq_ok (beside : Beside disk parents name)
    (noLink : NoLink disk (stagingLocation parents name)) {opened : Location}
    (created : disk.createFile (Disk.pathOf (stagingLocation parents name)) = .ok opened) :
    opened = stagingLocation parents name ∧
      Disk.isTooLong (Disk.pathOf (stagingLocation parents name)) = false ∧
      ∀ entries, disk.root.node? (stagingLocation parents name) ≠ some (.folder entries) := by
  obtain ⟨entries, parent⟩ := beside.parent
  obtain ⟨stagingNamed, fits⟩ := beside.usable_of_createFile created
  obtain ⟨location, located, ended⟩ := bind_eq_ok.mp created
  have led := Disk.locate_pathOf_entry beside.parentsNamed parent stagingNamed (noLink fits) fits
  rw [stagingLocation, led] at located
  cases located
  split at ended
  · cases ended
  · next notFolder =>
      cases ended
      exact ⟨rfl, fits, notFolder⟩

end Beside

/-- Whether a call fails: the device refuses it, the path has no real location, or no staging file
can be made. -/
def fails (disk : Disk) (path : Text) (staging : Location) (call : PublishCall) : Bool :=
  (disk.refused call).isSome ||
    (call = .resolve && (disk.realLocation path).toOption.isNone) ||
    (call = .create && (disk.createFile (Disk.pathOf staging)).toOption.isNone)

/-- The call that ends a publication before its time. -/
def stoppedAt (disk : Disk) (path : Text) (staging : Location) : Option PublishCall :=
  PublishCall.inOrder.find? (fails disk path staging)

/-- What a publication leaves behind that stops at a call, or does not stop. -/
def leftBy (disk : Disk) (staging location : Location) (text : Text) :
    Option PublishCall → Option PUnit × Disk
  | some .resolve | some .create => (none, disk)
  | some .write => (none, (disk.setFile staging []).removeEntry staging)
  | some .flush => (none, disk.setFile staging [])
  | some _ => (none, disk.setFile staging (Utf8.encode text))
  | none => (some (), (disk.setFile staging (Utf8.encode text)).moveEntry staging location)

theorem stoppedAt_of_uncreated (path : Text) {staging : Location}
    (failed : (disk.createFile (Disk.pathOf staging)).toOption = none) :
    stoppedAt disk path staging = some .resolve ∨ stoppedAt disk path staging = some .create := by
  have uncreated : fails disk path staging .create = true := by simp [fails, failed]
  simp only [stoppedAt, PublishCall.inOrder, List.find?_cons, uncreated]
  cases fails disk path staging .resolve <;> simp

theorem eq_none_of_leftBy {staging location : Location} {text : Text}
    {call : Option PublishCall}
    (answered : (leftBy disk staging location text call).1 = some ()) : call = none := by
  rcases call with - | call
  · rfl
  · cases call <;> cases answered

/-! The calls that fail. -/

section

variable {error : DiskError}

theorem outcome_attempt (context : String) (result : Except DiskError α) :
    (attempt context result).outcome verbosity disk = (result.toOption, disk) := by
  cases result <;> rfl

theorem granted_error {call : PublishCall} (refused : disk.refused call = some error)
    (result : Except DiskError α) : granted disk call *> result = .error error := by
  rw [granted, refused]
  rfl

theorem resolveTarget_fails {path : Text}
    (failed : granted disk .resolve *> disk.realLocation path = .error error) :
    (resolveTarget path).outcome verbosity disk = (none, disk) := by
  rw [resolveTarget, Action.outcome_disk_bind, outcome_attempt, failed]
  rfl

theorem createStaging_fails {staging : Text}
    (failed : granted disk .create *> disk.createFile staging = .error error) :
    (createStaging staging).outcome verbosity disk = (none, disk) := by
  rw [createStaging, Action.outcome_disk_bind, Action.outcome_bind, outcome_attempt, failed]
  rfl

theorem writeStaging_fails {staging : Text} {place : Location}
    (refused : disk.refused .write = some error)
    (found : disk.entryLocation staging = .ok place) :
    (writeStaging staging).outcome verbosity disk = (none, disk.removeEntry place) := by
  rw [writeStaging, Action.outcome_disk_bind]
  simp only [granted, refused, found]
  rfl

theorem flushStaging_fails {opened : Location} {text target : Text}
    (refused : disk.refused .flush = some error) :
    (flushStaging opened text target).outcome verbosity disk = (none, disk) := by
  rw [flushStaging, Action.outcome_disk_bind, Action.outcome_bind, outcome_attempt, granted,
    refused]
  rfl

theorem plainCall_fails {call : PublishCall} {context : String}
    (refused : disk.refused call = some error) :
    (plainCall call context).outcome verbosity disk = (none, disk) := by
  rw [plainCall, Action.outcome_disk_bind, outcome_attempt, granted, refused]
  rfl

theorem renameStaging_fails {staging : Text} {location : Location}
    (refused : disk.refused .rename = some error) :
    (renameStaging staging location).outcome verbosity disk = (none, disk) := by
  rw [renameStaging, Action.outcome_disk_bind, Action.outcome_bind, outcome_attempt,
    granted_error refused]
  rfl

end

theorem refused_cases (disk : Disk) (call : PublishCall) :
    (∃ error, disk.refused call = some error) ∨ disk.refused call = none :=
  (Option.eq_none_or_eq_some _).symm

theorem resolveTarget_of_unreal {path : Text} {error : DiskError}
    (unreal : disk.realLocation path = .error error) :
    (resolveTarget path).outcome verbosity disk = (none, disk) := by
  rcases refused_cases disk .resolve with ⟨_, refused⟩ | resolving
  · exact resolveTarget_fails (granted_error refused _)
  · exact resolveTarget_fails (by rw [granted, resolving, unreal]; rfl)

/-- Without a real location for its path, a publication does nothing. -/
theorem outcome_publish_of_unreal {path : Text} {error : DiskError}
    (unreal : disk.realLocation path = .error error) (text : Text) :
    (publish path text).outcome verbosity disk = (none, disk) := by
  rw [publish, Action.outcome_bind, resolveTarget_of_unreal unreal]

/-- Of a file that is there, the real location is found or there is none. -/
theorem outcome_resolveTarget {path : Text} {location : Location}
    (resolved : disk.resolve path = .ok location) (staging : Location) :
    (fails disk path staging .resolve = true ∧
      (resolveTarget path).outcome verbosity disk = (none, disk)) ∨
    (fails disk path staging .resolve = false ∧
      (resolveTarget path).outcome verbosity disk = (some location, disk)) := by
  cases real : disk.realLocation path with
  | error error =>
      exact .inl ⟨by simp [fails, real, Except.toOption], resolveTarget_of_unreal real⟩
  | ok found =>
      obtain rfl := Disk.realLocation_unique real resolved
      rcases refused_cases disk .resolve with ⟨error, refused⟩ | resolving
      · exact .inl ⟨by simp [fails, refused], resolveTarget_fails (granted_error refused _)⟩
      · exact .inr ⟨by simp [fails, resolving, real, Except.toOption],
          (resolveTarget_yields resolving real).outcome⟩

theorem outcome_late {made full : Disk} {path staging text target : Text}
    {place location : Location} {syncing copying : String} (isMade : disk.setFile place [] = made)
    (isFull : disk.setFile place (Utf8.encode text) = full)
    (found : made.entryLocation staging = .ok place)
    (foundFull : full.entryLocation staging = .ok place) :
    (do
      writeStaging staging
      flushStaging place text target
      plainCall .sync syncing
      plainCall .setPermissions copying
      renameStaging staging location : Action PUnit).outcome verbosity made =
      leftBy disk place location text (PublishCall.late.find? (fails disk path place)) := by
  have madeRefused : made.refused = disk.refused := isMade ▸ rfl
  have fullRefused : full.refused = disk.refused := isFull ▸ rfl
  have filled : made.setFile place (Utf8.encode text) = full := by
    simp only [← isMade, ← isFull, Disk.setFile, Node.put_put]
  simp only [PublishCall.late, List.find?_cons, List.find?_nil, fails, reduceCtorEq, decide_false,
    Bool.false_and, Bool.or_false]
  rw [← madeRefused, Action.outcome_bind]
  rcases refused_cases made .write with ⟨error, refused⟩ | writing
  · rw [writeStaging_fails refused found, refused, ← isMade]
    rfl
  rw [(writeStaging_yields writing).outcome, writing]
  dsimp only
  rw [Action.outcome_bind]
  rcases refused_cases made .flush with ⟨error, refused⟩ | flushing
  · rw [flushStaging_fails refused, refused, ← isMade]
    rfl
  rw [(flushStaging_yields flushing).outcome, flushing, filled]
  dsimp only
  rw [madeRefused, ← fullRefused, Action.outcome_bind]
  rcases refused_cases full .sync with ⟨error, refused⟩ | syncing
  · rw [plainCall_fails refused, refused, ← isFull]
    rfl
  rw [(plainCall_yields syncing).outcome, syncing]
  dsimp only
  rw [Action.outcome_bind]
  rcases refused_cases full .setPermissions with ⟨error, refused⟩ | copying
  · rw [plainCall_fails refused, refused, ← isFull]
    rfl
  rw [(plainCall_yields copying).outcome, copying]
  dsimp only
  rcases refused_cases full .rename with ⟨error, refused⟩ | moving
  · rw [renameStaging_fails refused, refused, ← isFull]
    rfl
  rw [(renameStaging_yields moving foundFull).outcome, moving, ← isFull]
  rfl

/-- A publication leaves behind what its first call that fails makes it leave. -/
theorem outcome_publish {path text : Text} {parents : Location} {name : Text}
    (beside : Beside disk parents name) (noLink : NoLink disk (stagingLocation parents name))
    (resolved : disk.resolve path = .ok (parents ++ [name])) :
    (publish path text).outcome verbosity disk =
      leftBy disk (stagingLocation parents name) (parents ++ [name]) text
        (stoppedAt disk path (stagingLocation parents name)) := by
  have staged : (Action.ofExcept (Migration.stagingPath (Disk.pathOf (parents ++ [name])))).Yields
      verbosity disk (Disk.pathOf (stagingLocation parents name)) disk :=
    ⟨(Action.answer_ofExcept _).trans beside.stagingPath, Action.after_ofExcept _⟩
  simp only [stoppedAt, PublishCall.inOrder, List.find?_cons]
  rw [publish, Action.outcome_bind]
  rcases outcome_resolveTarget resolved (stagingLocation parents name) with
    ⟨stops, outcome⟩ | ⟨passes, outcome⟩
  · rw [outcome, stops]
    rfl
  rw [outcome, passes]
  dsimp only
  rw [Action.outcome_bind, staged.outcome]
  dsimp only
  rw [Action.outcome_bind, fails]
  rcases refused_cases disk .create with ⟨error, refused⟩ | creating
  · rw [createStaging_fails (granted_error refused _), refused]
    rfl
  cases created : disk.createFile (Disk.pathOf (stagingLocation parents name)) with
  | error error =>
      have failed : granted disk .create *>
          disk.createFile (Disk.pathOf (stagingLocation parents name)) = .error error := by
        rw [granted, creating, created]
        rfl
      rw [createStaging_fails failed, creating]
      rfl
  | ok opened =>
      obtain ⟨rfl, fits, _⟩ := beside.createFile_eq_ok noLink created
      rw [(createStaging_yields creating created).outcome, creating]
      exact outcome_late rfl rfl (beside.entryLocation fits _) (beside.entryLocation fits _)

/-- What is left in the staging place, where there was nothing before. -/
def remains (text : Text) : PublishCall → Option Node.Face
  | .resolve | .create | .write => none
  | .flush => some (.file [])
  | .sync | .setPermissions | .rename => some (.file (Utf8.encode text))

theorem stagingLocation_ne (parents : Location) (name : Text) :
    parents ++ [name] ≠ stagingLocation parents name := by
  intro same
  have names := (List.append_inj' same rfl).2
  have lengths := congrArg List.length (List.cons.inj names).1
  rw [List.length_append, stagingSuffix_length] at lengths
  omega

/-- A publication that fails leaves the file as it was, and a staging file if it failed after the
text was handed over. -/
theorem face?_leftBy {parents : Location} {name : Text} {content : List UInt8}
    (formed : disk.WellFormed)
    (present : disk.root.node? (parents ++ [name]) = some (.file content))
    (absent : disk.root.node? (stagingLocation parents name) = none) (text : Text)
    (call : PublishCall) :
    let left := leftBy disk (stagingLocation parents name) (parents ++ [name]) text (some call)
    left.1 = none ∧ left.2.root.face? (parents ++ [name]) = some (.file content) ∧
      left.2.root.face? (stagingLocation parents name) = remains text call := by
  obtain ⟨entries, parent⟩ := (beside_of_file formed present).parent
  have kept : disk.root.face? (parents ++ [name]) = some (.file content) :=
    Node.face?_eq_file.mpr present
  have nothing : disk.root.face? (stagingLocation parents name) = none := by
    rw [Node.face?, absent]
    rfl
  have noFolder : ∀ inner, disk.root.node? (stagingLocation parents name) ≠
      some (.folder inner) := by
    simp [absent]
  have made (bytes : List UInt8) (other : Location) :
      (disk.setFile (stagingLocation parents name) bytes).root.face? other =
        if other = stagingLocation parents name then some (.file bytes)
        else disk.root.face? other :=
    Node.face?_put_file parent noFolder bytes other
  have unmade : (disk.setFile (stagingLocation parents name) []).removeEntry
      (stagingLocation parents name) = disk := by
    rw [stagingLocation, Node.node?_append, parent, Option.bind_some,
      Node.node?_folder_singleton] at absent
    simp only [Disk.removeEntry, Disk.setFile, stagingLocation,
      Node.erase_put formed.tree parent absent]
  cases call <;> simp [leftBy, remains, made, unmade, kept, nothing, stagingLocation_ne]

end Publication

namespace FileEdit

open Publication (stagingLocation stoppedAt remains)

variable {file : TreeFile} {editor : LineEditor} {disk : Disk} {parents : Location} {name : Text}
  {content : List UInt8}

/-- A change whose publication fails, at whichever call, is answered with a failure and leaves the
file as it was.  The staging file is gone only if the failure came before the text was brought onto
the disk. -/
theorem finish_failed_leaves_staging_file {call : PublishCall} (formed : disk.WellFormed)
    (resolved : disk.resolve file.path = .ok (parents ++ [name]))
    (present : disk.root.node? (parents ++ [name]) = some (.file content))
    (absent : disk.root.node? (stagingLocation parents name) = none)
    (changed : (FileOutcome.ofEdited file editor.finish).isChange = true)
    (stopped : stoppedAt disk file.path (stagingLocation parents name) = some call)
    (verbosity : Verbosity) :
    stagingPath (Disk.pathOf (parents ++ [name])) =
        .ok (Disk.pathOf (stagingLocation parents name)) ∧
      (∃ failure, (finish file .apply editor).answer verbosity disk = .error failure) ∧
      ((finish file .apply editor).after verbosity disk).root.node? (parents ++ [name]) =
        some (.file content) ∧
      ((finish file .apply editor).after verbosity disk).root.face?
        (stagingLocation parents name) = remains editor.finish.text call := by
  have beside := Publication.beside_of_file formed present
  have outcome := @Publication.outcome_publish disk verbosity file.path editor.finish.text
    parents name beside (fun _ => by simp [absent]) resolved
  rw [stopped] at outcome
  have answers := congrArg Prod.fst outcome
  have left : (Publication.publish file.path editor.finish.text).after verbosity disk = _ :=
    congrArg Prod.snd outcome
  obtain ⟨failed, kept, remaining⟩ :=
    Publication.face?_leftBy formed present absent editor.finish.text call
  obtain ⟨answered, leaves⟩ := @finish_apply_publishes file verbosity disk editor changed
  refine ⟨beside.stagingPath, ?_, ?_, ?_⟩
  · rw [answered]
    cases published : (Publication.publish file.path editor.finish.text).answer verbosity disk with
    | error failure => exact ⟨failure, rfl⟩
    | ok _ =>
        rw [failed, Action.outcome, published] at answers
        cases answers
  · rw [leaves, left, ← Node.face?_eq_file]
    exact kept
  · rw [leaves, left]
    exact remaining

/-- A disk that is full when the text is to be brought onto it. -/
def fullDisk : Disk where
  root := .folder [("A.java".toList, .file (Utf8.encode "a.B\n".toList))]
  workingFolder := []
  refused call := if call = .flush then some ⟨"No space left on device", some 28⟩ else none

def sampleEditor : LineEditor :=
  (LineEditor.ofText .source [] "a.B\n".toList).next.1.replace "c.D\n".toList

theorem fullDisk_wellFormed : fullDisk.WellFormed where
  isFolder := rfl
  tree := by decide

theorem fullDisk_finish_failed_leaves_staging_file :
    fullDisk.WellFormed ∧
      (∃ failure, (finish ⟨"A.java".toList, .source⟩ .apply sampleEditor).answer .quiet fullDisk =
        .error failure) ∧
      ((finish ⟨"A.java".toList, .source⟩ .apply sampleEditor).after .quiet fullDisk).root.node?
        ["A.java".toList] = some (.file (Utf8.encode "a.B\n".toList)) ∧
      ((finish ⟨"A.java".toList, .source⟩ .apply sampleEditor).after .quiet fullDisk).root.face?
        ["A.java.nsmigrate.tmp".toList] = some (.file []) := by
  have stopped : stoppedAt fullDisk "A.java".toList (stagingLocation [] "A.java".toList) =
      some .flush := by
    decide
  have resolved : fullDisk.resolve "A.java".toList = .ok ["A.java".toList] := rfl
  obtain ⟨_, failed, kept, remaining⟩ := @finish_failed_leaves_staging_file
    ⟨"A.java".toList, .source⟩ sampleEditor fullDisk [] "A.java".toList _ .flush
    fullDisk_wellFormed resolved rfl rfl (by decide) stopped .quiet
  exact ⟨fullDisk_wellFormed, failed, kept, remaining⟩

/-- One call is refused, and there is a file in the staging place where there was nothing. -/
theorem fullDisk_finish_leaves_staging_file :
    fullDisk.WellFormed ∧
      (∀ call, (fullDisk.refused call).isSome = true ↔ call = .flush) ∧
      (FileOutcome.ofEdited ⟨"A.java".toList, .source⟩ sampleEditor.finish).isChange = true ∧
      stagingPath (Disk.pathOf ["A.java".toList]) =
        .ok (Disk.pathOf ["A.java.nsmigrate.tmp".toList]) ∧
      fullDisk.root.face? ["A.java.nsmigrate.tmp".toList] = none ∧
      ((finish ⟨"A.java".toList, .source⟩ .apply sampleEditor).after .quiet fullDisk).root.face?
        ["A.java.nsmigrate.tmp".toList] ≠ none := by
  refine ⟨fullDisk_wellFormed, ?_, by decide, rfl, rfl, by decide⟩
  rintro (_ | _) <;> decide

end FileEdit

end Migration
