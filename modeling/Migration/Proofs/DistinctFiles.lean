import Migration.Classifier
import Migration.Proofs.RealLocation

namespace Migration

/-! One record for each file of a tree.

Of the records with the same real path the first is kept, so that no file is migrated twice.
-/

namespace Classifier

variable {disk : Disk} {verbosity : Verbosity}

/-- The records with a real path that is not among `seen` nor that of an earlier record. -/
def distinctFiles (disk : Disk) : (seen : List Text) → List TreeFile → List TreeFile
  | _, [] => []
  | seen, file :: rest =>
      if seen.contains (disk.realPath file.path) then distinctFiles disk seen rest
      else file :: distinctFiles disk (disk.realPath file.path :: seen) rest

theorem distinctFiles_of_seen {seen : List Text} {file : TreeFile}
    (known : disk.realPath file.path ∈ seen) (rest : List TreeFile) :
    distinctFiles disk seen (file :: rest) = distinctFiles disk seen rest :=
  if_pos (List.contains_iff_mem.mpr known)

theorem distinctFiles_of_new {seen : List Text} {file : TreeFile}
    (new : disk.realPath file.path ∉ seen) (rest : List TreeFile) :
    distinctFiles disk seen (file :: rest) =
      file :: distinctFiles disk (disk.realPath file.path :: seen) rest :=
  if_neg fun known => new (List.contains_iff_mem.mp known)

theorem answer_firstPaths (seen : List Text) (files : List TreeFile) :
    (firstPaths disk seen files).answer verbosity = .ok (distinctFiles disk seen files) := by
  induction files generalizing seen with
  | nil => rfl
  | cons file rest ih =>
      rw [firstPaths, distinctFiles]
      by_cases known : seen.contains (disk.realPath file.path) = true
      · rw [if_pos known, if_pos known, Reporting.answer_bind, Reporting.answer_info, ok_bind, ih]
      · rw [if_neg known, if_neg known, Reporting.answer_bind, ih]
        rfl

theorem distinctFiles_sublist (disk : Disk) (seen : List Text) (files : List TreeFile) :
    (distinctFiles disk seen files).Sublist files := by
  induction files generalizing seen with
  | nil => exact .slnil
  | cons file rest ih =>
      by_cases known : disk.realPath file.path ∈ seen
      · rw [distinctFiles_of_seen known]
        exact (ih seen).cons file
      · rw [distinctFiles_of_new known]
        exact (ih _).cons_cons file

theorem realPath_not_seen {seen : List Text} {files : List TreeFile} {file : TreeFile}
    (member : file ∈ distinctFiles disk seen files) : disk.realPath file.path ∉ seen := by
  induction files generalizing seen with
  | nil => simp [distinctFiles] at member
  | cons first rest ih =>
      by_cases known : disk.realPath first.path ∈ seen
      · rw [distinctFiles_of_seen known] at member
        exact ih member
      · rw [distinctFiles_of_new known] at member
        rcases List.mem_cons.mp member with rfl | member
        · exact known
        · exact fun later => ih member (List.mem_cons_of_mem _ later)

theorem distinctFiles_pairwise (disk : Disk) (seen : List Text) (files : List TreeFile) :
    (distinctFiles disk seen files).Pairwise fun first second =>
      disk.realPath first.path ≠ disk.realPath second.path := by
  induction files generalizing seen with
  | nil => exact .nil
  | cons file rest ih =>
      by_cases known : disk.realPath file.path ∈ seen
      · rw [distinctFiles_of_seen known]
        exact ih seen
      · rw [distinctFiles_of_new known]
        refine .cons ?_ (ih _)
        intro other member same
        exact realPath_not_seen member (same ▸ List.mem_cons_self)

/-- Records with real paths of their own are all kept. -/
theorem distinctFiles_of_nodup {seen : List Text} {files : List TreeFile}
    (own : (files.map fun file => disk.realPath file.path).Nodup)
    (new : ∀ file ∈ files, disk.realPath file.path ∉ seen) :
    distinctFiles disk seen files = files := by
  induction files generalizing seen with
  | nil => rfl
  | cons file rest ih =>
      obtain ⟨fileNew, restNew⟩ := List.forall_mem_cons.mp new
      obtain ⟨apart, own⟩ := List.nodup_cons.mp own
      rw [distinctFiles_of_new fileNew, ih own]
      intro other member
      rw [List.mem_cons, not_or]
      exact ⟨fun same => apart (List.mem_map.mpr ⟨other, member, same⟩), restNew other member⟩

/-- For every record, one with the same real path is kept, and it does not come later. -/
theorem exists_distinctFile {order : TreeFile → TreeFile → Prop} {seen : List Text}
    {files : List TreeFile} {file : TreeFile} (inOrder : files.Pairwise order)
    (member : file ∈ files) (new : disk.realPath file.path ∉ seen) :
    ∃ first ∈ distinctFiles disk seen files,
      disk.realPath first.path = disk.realPath file.path ∧ (first = file ∨ order first file) := by
  induction files generalizing seen with
  | nil => simp at member
  | cons head rest ih =>
      obtain ⟨before, restInOrder⟩ := List.pairwise_cons.mp inOrder
      rcases List.mem_cons.mp member with rfl | member
      · rw [distinctFiles_of_new new]
        exact ⟨file, List.mem_cons_self, rfl, .inl rfl⟩
      · by_cases known : disk.realPath head.path ∈ seen
        · rw [distinctFiles_of_seen known]
          exact ih restInOrder member new
        · rw [distinctFiles_of_new known]
          by_cases same : disk.realPath head.path = disk.realPath file.path
          · exact ⟨head, List.mem_cons_self, same, .inr (before file member)⟩
          · have stillNew : disk.realPath file.path ∉ disk.realPath head.path :: seen := by
              simp [Ne.symm same, new]
            obtain ⟨first, kept, found⟩ := ih restInOrder member stillNew
            exact ⟨first, List.mem_cons_of_mem _ kept, found⟩

theorem answer_scan {classifier : Classifier} {root : Text} {entries : List (Text × Node)}
    (isFolder : disk.nodeAt? root = some (.folder entries)) :
    (classifier.scan disk root).answer verbosity =
      ((walkEntries classifier disk root entries).answer verbosity).map
        (distinctFiles disk []) := by
  simp only [scan, isFolder, Reporting.answer_bind, answer_firstPaths, ok_bind,
    Reporting.answer_info, Reporting.answer_pure]
  cases (walkEntries classifier disk root entries).answer verbosity <;> rfl

theorem scan_pairwise {classifier : Classifier} {root : Text} {files : List TreeFile}
    (scanned : (classifier.scan disk root).answer verbosity = .ok files) :
    files.Pairwise fun first second =>
      disk.realPath first.path ≠ disk.realPath second.path := by
  cases found : disk.nodeAt? root with
  | none => simp [scan, found] at scanned
  | some node =>
      cases node with
      | file content => simp [scan, found] at scanned
      | link target => simp [scan, found] at scanned
      | folder entries =>
          rw [answer_scan found] at scanned
          cases walked : (walkEntries classifier disk root entries).answer verbosity with
          | error failure => simp [walked, Except.map] at scanned
          | ok listed =>
              rw [walked] at scanned
              cases scanned
              exact distinctFiles_pairwise disk [] listed

end Classifier

end Migration
