import Mathlib.Data.List.Nodup
import Migration.Proofs.DistinctFiles
import Migration.Proofs.Eligible
import Migration.Proofs.Encoding

namespace Migration

/-! What a scan finds.

The walk lists every eligible file, in the order of the names on the way.  Of the paths to one file
the scan keeps the first.  A folder whose path is too long for the system ends the scan, and a file
whose real path is too long has no place that other paths to it could be known by.
-/

theorem Disk.size_pathOf_append {parents : Location} (some : parents ≠ []) (name : Text) :
    (pathOf (parents ++ [name])).str.utf8ByteSize =
      (pathOf parents).str.utf8ByteSize + (1 + name.str.utf8ByteSize) := by
  rw [pathOf_append some, ← List.singleton_append, Utf8.utf8ByteSize_append,
    Utf8.utf8ByteSize_append]
  rfl

namespace Classifier

variable {classifier : Classifier} {disk : Disk} {verbosity : Verbosity}

/-- What a walk answers: the files in the order of the names on the way to them, or the failure of
a folder that cannot be read. -/
def Lists (path : Text) (entered : List Text → Prop) (eligible : List Text → FileKind → Prop)
    (answer : Except Failure (List TreeFile)) : Prop :=
  (∃ names, entered names ∧ Disk.isTooLong (Path.below path names) = true ∧
    answer = .error (DiskError.nameTooLong.during s!"read dir {(Path.below path names).str}")) ∨
  ((∀ names, entered names → Disk.isTooLong (Path.below path names) = false) ∧
    ∃ listed : List (List Text × FileKind),
      answer = .ok (listed.map fun entry => ⟨Path.below path entry.1, entry.2⟩) ∧
      (listed.Pairwise fun first second => compare first.1 second.1 = .lt) ∧
      ∀ names kind, (names, kind) ∈ listed ↔ eligible names kind)

theorem lists_nil {path : Text} {entered : List Text → Prop}
    {eligible : List Text → FileKind → Prop} (noneEntered : ∀ names, ¬ entered names)
    (noneEligible : ∀ names kind, ¬ eligible names kind) :
    Lists path entered eligible (.ok []) := by
  refine .inr ⟨fun names inside => absurd inside (noneEntered names), [], rfl, .nil, ?_⟩
  intro names kind
  simp [noneEligible names kind]

theorem lists_record {path : Text} {entered : List Text → Prop}
    {eligible : List Text → FileKind → Prop} (noneEntered : ∀ names, ¬ entered names)
    (eligible_iff : ∀ names kind, eligible names kind ↔
      names = [] ∧ classifier.kindOf path = some kind) :
    Lists path entered eligible ((classifier.recordOf path).answer verbosity) := by
  rw [answer_recordOf]
  cases kindIs : classifier.kindOf path with
  | none =>
      refine lists_nil noneEntered fun names kind inside => ?_
      rw [eligible_iff, kindIs] at inside
      cases inside.2
  | some kind =>
      refine .inr ⟨fun names inside => absurd inside (noneEntered names), [([], kind)], rfl,
        List.pairwise_singleton _ _, ?_⟩
      intro names other
      rw [eligible_iff, kindIs, List.mem_singleton, Prod.mk.injEq, Option.some.injEq]
      exact and_congr_right fun _ => eq_comm

theorem lists_folder {path name : Text} {inner : List (Text × Node)}
    (entriesList : Lists path (fun names => names ≠ [] ∧ classifier.Entered path inner names)
      (classifier.Eligible disk path inner)
      ((walkEntries classifier disk path inner).answer verbosity)) :
    Lists path (classifier.EnteredAt path name (.folder inner))
      (classifier.EligibleAt disk path name (.folder inner))
      ((walkEntry classifier disk path name (.folder inner)).answer verbosity) := by
  rw [walkEntry, Reporting.answer_bind, answer_leavesOut, ok_bind]
  cases leftOut : classifier.isLeftOut path name with
  | true =>
      refine lists_nil (fun names inside => ?_) (fun names kind inside => ?_)
      · rw [inside.1] at leftOut
        cases leftOut
      · rw [inside.1] at leftOut
        cases leftOut
  | false =>
      cases long : Disk.isTooLong path with
      | true => exact .inl ⟨[], ⟨leftOut, entered_nil path inner⟩, long, rfl⟩
      | false =>
          rcases entriesList with ⟨names, ⟨_, entered⟩, tooLong, failed⟩ |
            ⟨fits, listed, answered, inOrder, eligible⟩
          · exact .inl ⟨names, ⟨leftOut, entered⟩, tooLong, failed⟩
          · refine .inr ⟨?_, listed, answered, inOrder, ?_⟩
            · rintro names ⟨_, entered⟩
              cases names with
              | nil => exact long
              | cons first rest => exact fits (first :: rest) ⟨List.cons_ne_nil _ _, entered⟩
            · intro names kind
              rw [eligible]
              exact ⟨fun inside => ⟨leftOut, inside⟩, fun inside => inside.2⟩

section Entries

variable {path name : Text} {node : Node} {rest : List (Text × Node)}

theorem ne_of_before {other : Text} (before : compare name other = .lt) : other ≠ name := by
  rintro rfl
  have same : compare other other = .eq := Std.ReflOrd.compare_self
  rw [same] at before
  cases before

theorem entered_first {names : List Text} :
    classifier.Entered path ((name, node) :: rest) (name :: names) ↔
      classifier.EnteredAt (Path.join path name) name node names := by
  rw [entered_cons, Node.lookup_entry_cons, if_pos rfl]
  simp

theorem entered_later {other : Text} {names : List Text} (different : other ≠ name) :
    classifier.Entered path ((name, node) :: rest) (other :: names) ↔
      classifier.Entered path rest (other :: names) := by
  rw [entered_cons, entered_cons, Node.lookup_entry_cons, if_neg different]

theorem eligible_first {names : List Text} {kind : FileKind} :
    classifier.Eligible disk path ((name, node) :: rest) (name :: names) kind ↔
      classifier.EligibleAt disk (Path.join path name) name node names kind := by
  rw [eligible_cons, Node.lookup_entry_cons, if_pos rfl]
  simp

theorem eligible_later {other : Text} {names : List Text} {kind : FileKind}
    (different : other ≠ name) :
    classifier.Eligible disk path ((name, node) :: rest) (other :: names) kind ↔
      classifier.Eligible disk path rest (other :: names) kind := by
  rw [eligible_cons, eligible_cons, Node.lookup_entry_cons, if_neg different]

theorem before_of_eligible (inOrder : Node.InOrder ((name, node) :: rest)) {names : List Text}
    {kind : FileKind} (eligible : classifier.Eligible disk path rest names kind) :
    ∃ other others, names = other :: others ∧ compare name other = .lt := by
  cases names with
  | nil => exact absurd eligible eligible_nil
  | cons other others =>
      obtain ⟨found, present, _⟩ := eligible_cons.mp eligible
      exact ⟨other, others, rfl, Node.before_of_lookup inOrder present⟩

theorem mem_listed_cons (inOrder : Node.InOrder ((name, node) :: rest))
    {first second : List (List Text × FileKind)}
    (firstEligible : ∀ names kind, (names, kind) ∈ first ↔
      classifier.EligibleAt disk (Path.join path name) name node names kind)
    (secondEligible : ∀ names kind, (names, kind) ∈ second ↔
      classifier.Eligible disk path rest names kind) (names : List Text) (kind : FileKind) :
    (names, kind) ∈ first.map (fun entry => (name :: entry.1, entry.2)) ++ second ↔
      classifier.Eligible disk path ((name, node) :: rest) names kind := by
  cases names with
  | nil =>
      have none : ([], kind) ∉ second := fun member =>
        eligible_nil ((secondEligible [] kind).mp member)
      simp [none, eligible_nil]
  | cons other others =>
      by_cases same : other = name
      · subst same
        have none : (other :: others, kind) ∉ second := by
          intro member
          obtain ⟨_, _, split, before⟩ :=
            before_of_eligible inOrder ((secondEligible _ _).mp member)
          cases split
          exact ne_of_before before rfl
        rw [eligible_first, ← firstEligible]
        simp [none]
      · rw [eligible_later same, ← secondEligible]
        simp [Ne.symm same]

/-- The files of the first entry come before those of the others. -/
theorem lists_cons (inOrder : Node.InOrder ((name, node) :: rest))
    {first second : Except Failure (List TreeFile)}
    (firstLists : Lists (Path.join path name)
      (classifier.EnteredAt (Path.join path name) name node)
      (classifier.EligibleAt disk (Path.join path name) name node) first)
    (restLists : Lists path (fun names => names ≠ [] ∧ classifier.Entered path rest names)
      (classifier.Eligible disk path rest) second) :
    Lists path (fun names => names ≠ [] ∧ classifier.Entered path ((name, node) :: rest) names)
      (classifier.Eligible disk path ((name, node) :: rest))
      (first >>= fun found => second >>= fun others => .ok (found ++ others)) := by
  rcases firstLists with ⟨names, entered, long, rfl⟩ |
    ⟨firstFits, firstListed, rfl, firstOrder, firstEligible⟩
  · exact .inl ⟨name :: names, ⟨List.cons_ne_nil _ _, entered_first.mpr entered⟩, long, rfl⟩
  · rcases restLists with ⟨names, ⟨some, entered⟩, long, rfl⟩ |
      ⟨restFits, restListed, rfl, restOrder, restEligible⟩
    · obtain ⟨other, others, rfl⟩ := List.exists_cons_of_ne_nil some
      obtain ⟨found, present, _⟩ := entered_cons.mp entered
      have different := ne_of_before (Node.before_of_lookup inOrder present)
      exact .inl ⟨other :: others, ⟨some, (entered_later different).mpr entered⟩, long, rfl⟩
    · refine .inr ⟨?_, firstListed.map (fun entry => (name :: entry.1, entry.2)) ++ restListed,
        ?_, ?_, mem_listed_cons inOrder firstEligible restEligible⟩
      · rintro names ⟨some, entered⟩
        obtain ⟨other, others, rfl⟩ := List.exists_cons_of_ne_nil some
        by_cases same : other = name
        · subst same
          exact firstFits others (entered_first.mp entered)
        · exact restFits (other :: others) ⟨some, (entered_later same).mp entered⟩
      · rw [ok_bind, ok_bind, List.map_append, List.map_map]
        rfl
      · refine List.pairwise_append.mpr ⟨?_, restOrder, ?_⟩
        · refine List.pairwise_map.mpr (firstOrder.imp fun before => ?_)
          rw [compare_cons_self]
          exact before
        · intro front frontMember back backMember
          obtain ⟨entry, _, rfl⟩ := List.mem_map.mp frontMember
          obtain ⟨names, kind⟩ := back
          obtain ⟨other, others, rfl, before⟩ :=
            before_of_eligible inOrder ((restEligible names kind).mp backMember)
          exact compare_cons_of_lt before entry.1 others

end Entries

mutual

theorem walkEntry_lists (path name : Text) (node : Node) (formed : node.wellFormed = true) :
    Lists path (classifier.EnteredAt path name node) (classifier.EligibleAt disk path name node)
      ((walkEntry classifier disk path name node).answer verbosity) :=
  match node with
  | .file content => by
      rw [walkEntry]
      exact lists_record (fun _ inside => inside) fun _ _ => Iff.rfl
  | .link target => by
      rw [walkEntry]
      cases isFile : disk.isFile path with
      | true =>
          refine lists_record (fun _ inside => inside) fun names kind => ?_
          rw [EligibleAt, isFile]
          simp
      | false =>
          refine lists_nil (fun _ inside => inside) fun names kind inside => ?_
          rw [EligibleAt, isFile] at inside
          cases inside.2.1
  | .folder inner => by
      rw [Node.wellFormed, Bool.and_eq_true, decide_eq_true_eq] at formed
      exact lists_folder (walkEntries_lists path inner formed.1 formed.2)

theorem walkEntries_lists (path : Text) (entries : List (Text × Node))
    (inOrder : Node.InOrder entries) (formed : Node.wellFormedEntries entries = true) :
    Lists path (fun names => names ≠ [] ∧ classifier.Entered path entries names)
      (classifier.Eligible disk path entries)
      ((walkEntries classifier disk path entries).answer verbosity) :=
  match entries with
  | [] => by
      refine lists_nil ?_ ?_
      · rintro names ⟨some, entered⟩
        obtain ⟨name, rest, rfl⟩ := List.exists_cons_of_ne_nil some
        obtain ⟨node, found, _⟩ := entered_cons.mp entered
        cases found
      · intro names kind eligible
        obtain ⟨name, rest, rfl⟩ := List.exists_cons_of_ne_nil eligible.notRoot
        obtain ⟨node, found, _⟩ := eligible_cons.mp eligible
        cases found
  | (name, node) :: rest => by
      rw [Node.wellFormedEntries, Bool.and_eq_true, Bool.and_eq_true] at formed
      obtain ⟨⟨_, nodeFormed⟩, restFormed⟩ := formed
      have firstLists := walkEntry_lists (Path.join path name) name node nodeFormed
      have restLists := walkEntries_lists path rest (List.pairwise_cons.mp inOrder).2 restFormed
      rw [walkEntries, Reporting.answer_bind]
      simp only [Reporting.answer_bind, Reporting.answer_pure]
      exact lists_cons inOrder firstLists restLists

end

/-- The paths of a scan come in order, lead to files of their own and to eligible ones only.  Of the
eligible paths to one file the scan has the first. -/
structure Finds (classifier : Classifier) (disk : Disk) (root : Text)
    (entries : List (Text × Node)) (files : List TreeFile) : Prop where
  inOrder : files.Pairwise fun first second => Path.Before first.path second.path
  distinct : files.Pairwise fun first second => ¬ disk.SameFile first.path second.path
  eligible : ∀ file ∈ files, ∃ names, file.path = Path.below root names ∧
    classifier.Eligible disk root entries names file.kind
  firstPath : ∀ names kind, classifier.Eligible disk root entries names kind →
    ∃ file ∈ files,
      (∀ other ∈ files, disk.SameFile other.path (Path.below root names) ↔ other = file) ∧
      ∀ others otherKind, classifier.Eligible disk root entries others otherKind →
        disk.SameFile (Path.below root others) (Path.below root names) →
        file.path = Path.below root others ∨ Path.Before file.path (Path.below root others)

theorem before_below {root : Text} {entries : List (Text × Node)}
    (formed : (Node.folder entries).wellFormed = true) {first second : List Text}
    {firstKind secondKind : FileKind}
    (firstEligible : classifier.Eligible disk root entries first firstKind)
    (secondEligible : classifier.Eligible disk root entries second secondKind)
    (before : compare first second = .lt) :
    Path.Before (Path.below root first) (Path.below root second) := by
  rw [Path.Before, Path.components_below root (firstEligible.named formed),
    Path.components_below root (secondEligible.named formed), compare_append_self]
  exact before

/-- Dropping the later paths to a file keeps the order and loses no file. -/
theorem finds_distinctFiles {root : Text} {entries : List (Text × Node)} {walked : List TreeFile}
    (inOrder : walked.Pairwise fun first second => Path.Before first.path second.path)
    (sound : ∀ file ∈ walked, ∃ names, file.path = Path.below root names ∧
      classifier.Eligible disk root entries names file.kind)
    (complete : ∀ names kind, classifier.Eligible disk root entries names kind →
      ⟨Path.below root names, kind⟩ ∈ walked)
    (realPath_eq_iff : ∀ first ∈ walked, ∀ second ∈ walked,
      disk.realPath first.path = disk.realPath second.path ↔
        disk.SameFile first.path second.path) :
    classifier.Finds disk root entries (distinctFiles disk [] walked) := by
  have kept := distinctFiles_sublist disk [] walked
  have distinct := distinctFiles_pairwise disk [] walked
  have unique := List.inj_on_of_nodup_map (List.pairwise_map.mpr distinct)
  have first : ∀ names kind, classifier.Eligible disk root entries names kind →
      ∃ file ∈ distinctFiles disk [] walked,
        disk.realPath file.path = disk.realPath (Path.below root names) ∧
          (file.path = Path.below root names ∨ Path.Before file.path (Path.below root names)) := by
    intro names kind eligible
    obtain ⟨file, member, real, same | before⟩ :=
      exists_distinctFile inOrder (complete names kind eligible) List.not_mem_nil
    · exact ⟨file, member, real, .inl (by rw [same])⟩
    · exact ⟨file, member, real, .inr before⟩
  refine ⟨inOrder.sublist kept, ?_, fun file member => sound file (kept.subset member), ?_⟩
  · refine distinct.imp_of_mem fun {first second} firstMember secondMember different => ?_
    rwa [← realPath_eq_iff first (kept.subset firstMember) second (kept.subset secondMember)]
  intro names kind eligible
  obtain ⟨file, member, real, _⟩ := first names kind eligible
  refine ⟨file, member, ?_, ?_⟩
  · intro other otherMember
    rw [← realPath_eq_iff other (kept.subset otherMember) _ (complete names kind eligible)]
    constructor
    · intro same
      exact unique otherMember member (same.trans real.symm)
    · rintro rfl
      exact real
  · intro others otherKind otherEligible same
    rw [← realPath_eq_iff _ (complete others otherKind otherEligible) _
      (complete names kind eligible)] at same
    obtain ⟨earliest, earliestMember, earliestReal, least⟩ := first others otherKind otherEligible
    have isFile : earliest = file :=
      unique earliestMember member (earliestReal.trans (same.trans real.symm))
    rw [isFile] at least
    exact least

theorem finds_listed {root : Text} {entries : List (Text × Node)} (formed : disk.WellFormed)
    (isFolder : disk.nodeAt? root = some (.folder entries)) {listed : List (List Text × FileKind)}
    (inOrder : listed.Pairwise fun first second => compare first.1 second.1 = .lt)
    (mem_listed : ∀ names kind,
      (names, kind) ∈ listed ↔ classifier.Eligible disk root entries names kind) :
    classifier.Finds disk root entries
      (distinctFiles disk [] (listed.map fun entry => ⟨Path.below root entry.1, entry.2⟩)) := by
  have folderFormed := formed.nodeAt? isFolder
  refine finds_distinctFiles ?_ ?_ ?_ ?_
  · refine List.pairwise_map.mpr (inOrder.imp_of_mem fun firstMember secondMember before => ?_)
    exact before_below folderFormed ((mem_listed _ _).mp firstMember)
      ((mem_listed _ _).mp secondMember) before
  · intro file member
    obtain ⟨entry, entryMember, rfl⟩ := List.mem_map.mp member
    exact ⟨entry.1, rfl, (mem_listed _ _).mp entryMember⟩
  · intro names kind eligible
    exact List.mem_map.mpr ⟨(names, kind), (mem_listed names kind).mpr eligible, rfl⟩
  · have some : root ≠ [] := by
      rintro rfl
      cases isFolder
    have alike : ∀ entry ∈ listed, Path.isAbsolute (Path.below root entry.1) =
        Path.isAbsolute root := fun entry member =>
      Path.isAbsolute_below some (((mem_listed _ _).mp member).named folderFormed)
    intro first firstMember second secondMember
    obtain ⟨entry, entryMember, rfl⟩ := List.mem_map.mp firstMember
    obtain ⟨other, otherMember, rfl⟩ := List.mem_map.mp secondMember
    exact Disk.realPath_eq_iff formed ((alike entry entryMember).trans (alike other otherMember).symm)

/-- A scan of a folder finds the eligible files, each at the first of its paths.  It fails only at a
folder below the root that it enters and whose path is too long for the system. -/
theorem scan_finds_eligible_files {root : Text} {entries : List (Text × Node)}
    (formed : disk.WellFormed) (isFolder : disk.nodeAt? root = some (.folder entries)) :
    (∃ names, (names ≠ [] ∧ classifier.Entered root entries names) ∧
      Disk.isTooLong (Path.below root names) = true ∧
      (classifier.scan disk root).answer verbosity =
        .error (DiskError.nameTooLong.during s!"read dir {(Path.below root names).str}")) ∨
    (∀ names, names ≠ [] ∧ classifier.Entered root entries names →
      Disk.isTooLong (Path.below root names) = false) ∧
    ∃ files, (classifier.scan disk root).answer verbosity = .ok files ∧
      classifier.Finds disk root entries files := by
  have folderFormed := formed.nodeAt? isFolder
  rw [answer_scan isFolder]
  rw [Node.wellFormed, Bool.and_eq_true, decide_eq_true_eq] at folderFormed
  rcases walkEntries_lists root entries folderFormed.1 folderFormed.2 with
    ⟨names, entered, long, failed⟩ | ⟨fits, listed, answered, inOrder, mem_listed⟩
  · exact .inl ⟨names, entered, long, by rw [failed]; rfl⟩
  · refine .inr ⟨fits, _, by rw [answered]; rfl, ?_⟩
    exact finds_listed formed isFolder inOrder mem_listed

/-- A link into a folder, the folder, a file whose name continues the name of the folder, a folder
that is skipped, a link back to where it is, and a link to nothing. -/
def sampleEntries : List (Text × Node) := [
  ("A.java".toList, .link "a/x.java".toList),
  ("a".toList, .folder [("x.java".toList, .file []), ("y.kt".toList, .file [])]),
  ("a.java".toList, .file []),
  ("build".toList, .folder [("Z.java".toList, .file [])]),
  ("loop".toList, .link ".".toList),
  ("none.java".toList, .link "nothing".toList)]

def sampleTree : Disk where
  root := .folder [("p".toList, .folder sampleEntries)]
  workingFolder := []

def sampleFiles : List TreeFile := [
  ⟨"p/A.java".toList, .source⟩, ⟨"p/a/y.kt".toList, .source⟩, ⟨"p/a.java".toList, .source⟩]

theorem sampleTree_scan :
    (scan ⟨defaultRules, []⟩ sampleTree "p".toList).answer .quiet = .ok sampleFiles :=
  ok_of_toOption (by decide +kernel)

theorem sampleTree_scan_finds_eligible_files :
    sampleTree.WellFormed ∧ sampleTree.nodeAt? "p".toList = some (.folder sampleEntries) ∧
      (scan ⟨defaultRules, []⟩ sampleTree "p".toList).answer .quiet = .ok sampleFiles ∧
      Finds ⟨defaultRules, []⟩ sampleTree "p".toList sampleEntries sampleFiles := by
  have formed : sampleTree.WellFormed := ⟨rfl, by decide +kernel⟩
  have isFolder : sampleTree.nodeAt? "p".toList = some (.folder sampleEntries) := rfl
  have answered := sampleTree_scan
  refine ⟨formed, isFolder, answered, ?_⟩
  rcases scan_finds_eligible_files formed isFolder with
    ⟨names, _, _, failed⟩ | ⟨_, files, found, finds⟩
  · rw [answered] at failed
    cases failed
  · rw [answered] at found
    cases found
    exact finds

/-! Paths that are too long. -/

def farName : Text :=
  List.replicate 200 'd'

/-- Folders in one another whose path leaves no room for another one. -/
def farFolders : Location :=
  List.replicate 20 farName

theorem size_farName : farName.str.utf8ByteSize = 200 :=
  Utf8.utf8ByteSize_replicate 200 'd'

theorem not_mem_farName {c : Char} (other : c ≠ 'd') : c ∉ farName :=
  fun member => other (List.eq_of_mem_replicate member)

theorem farName_isName : Path.IsName farName where
  notEmpty := by decide
  notHere := by decide
  notUp := by decide
  noSlash := not_mem_farName (by decide)
  noNul := not_mem_farName (by decide)
  short := by rw [size_farName]; decide

theorem farFolders_areNames : ∀ name ∈ farFolders, Path.IsName name := fun _ member =>
  List.eq_of_mem_replicate member ▸ farName_isName

theorem size_farFolders : (Disk.pathOf farFolders).str.utf8ByteSize = 4020 := by
  have size (depth : Nat) : (Disk.pathOf (List.replicate (depth + 1) farName)).str.utf8ByteSize =
      201 * (depth + 1) := by
    induction depth with
    | zero =>
        rw [List.replicate_one, Disk.pathOf, List.intercalate_singleton, ← List.singleton_append,
          Utf8.utf8ByteSize_append, size_farName]
        rfl
    | succ depth ih =>
        have above : List.replicate (depth + 1) farName ≠ [] := List.cons_ne_nil _ _
        rw [List.replicate_succ', Disk.size_pathOf_append above, ih, size_farName]
        omega
  exact size 19

/-- The path of a folder so far down cannot be used. -/
theorem isTooLong_below {name : Text} (long : 75 ≤ name.str.utf8ByteSize) :
    Disk.isTooLong (Disk.pathOf (farFolders ++ [name])) = true := by
  have above : farFolders ≠ [] := List.cons_ne_nil _ _
  rw [Disk.isTooLong, Disk.size_pathOf_append above, size_farFolders]
  exact decide_eq_true (Nat.le_trans (by decide : 4096 ≤ 4020 + (1 + 75)) (by omega))

/-- A folder with the entries that many folders further down. -/
def folderAbove (entries : List (Text × Node)) : Nat → Node
  | 0 => .folder entries
  | depth + 1 => .folder [(farName, folderAbove entries depth)]

theorem node?_folderAbove (entries : List (Text × Node)) (depth : Nat) :
    (folderAbove entries depth).node? (List.replicate depth farName) = some (.folder entries) := by
  induction depth with
  | zero => rfl
  | succ depth ih =>
      rw [folderAbove, List.replicate_succ, Node.node?_cons, Node.node?_folder_singleton,
        Node.lookup_entry_cons, if_pos rfl, Option.bind_some, ih]

theorem wellFormed_folderAbove {entries : List (Text × Node)}
    (formed : (Node.folder entries).wellFormed = true) (depth : Nat) :
    (folderAbove entries depth).wellFormed = true := by
  induction depth with
  | zero => exact formed
  | succ depth ih =>
      refine Node.wellFormed_folder.mpr ⟨List.pairwise_singleton _ _, ?_⟩
      exact List.forall_mem_singleton.mpr ⟨farName_isName, ih⟩

def farEntries : List (Text × Node) :=
  [(farName, .folder [("A.java".toList, .file [])])]

def farTree : Disk where
  root := folderAbove farEntries 20
  workingFolder := []

/-- A path to a folder that leaves no room for a long name. -/
def farRoot : Text :=
  Disk.pathOf farFolders

theorem farTree_wellFormed : farTree.WellFormed := by
  have inner : (Node.folder [("A.java".toList, .file [])]).wellFormed = true := by decide
  have entries : (Node.folder farEntries).wellFormed = true :=
    Node.wellFormed_folder.mpr ⟨List.pairwise_singleton _ _,
      List.forall_mem_singleton.mpr ⟨farName_isName, inner⟩⟩
  exact ⟨rfl, wellFormed_folderAbove entries 20⟩

theorem farTree_nodeAt? : farTree.nodeAt? farRoot = some (.folder farEntries) := by
  have present : farTree.root.node? farFolders = some (.folder farEntries) :=
    node?_folderAbove farEntries 20
  have fits : Disk.isTooLong (Disk.pathOf farFolders) = false := by
    rw [Disk.isTooLong, size_farFolders]
    rfl
  rw [Disk.nodeAt?, farRoot, Disk.resolve_pathOf_folder farFolders_areNames present fits]
  exact present

theorem join_farName : Path.join farRoot farName = Disk.pathOf (farFolders ++ [farName]) :=
  Disk.join_pathOf (fun name member => (farFolders_areNames name member).toIsComponent)
    (by decide)

theorem farTree_eligible : Eligible ⟨defaultRules, []⟩ farTree farRoot farEntries
    [farName, "A.java".toList] .source := by
  have named : ∀ name ∈ farFolders ++ [farName], Path.IsComponent name := by
    intro name member
    rcases List.mem_append.mp member with above | here
    · exact (farFolders_areNames name above).toIsComponent
    · exact List.mem_singleton.mp here ▸ farName_isName.toIsComponent
  have isSource : kindOf ⟨defaultRules, []⟩
      (Path.join (Path.join farRoot farName) "A.java".toList) = some .source := by
    rw [join_farName, Disk.join_pathOf named (by decide), kindOf, Path.fileName?,
      Disk.split?_pathOf named ⟨by decide, by decide, by decide, by decide⟩]
    decide
  exact eligible_cons.mpr ⟨_, rfl, rfl, eligible_cons.mpr ⟨_, rfl, rfl, isSource⟩⟩

theorem farTree_scan_finds_nothing :
    farTree.WellFormed ∧ farTree.nodeAt? farRoot = some (.folder farEntries) ∧
      Eligible ⟨defaultRules, []⟩ farTree farRoot farEntries [farName, "A.java".toList] .source ∧
      ¬ ∃ files, (scan ⟨defaultRules, []⟩ farTree farRoot).answer .quiet = .ok files ∧
        Finds ⟨defaultRules, []⟩ farTree farRoot farEntries files := by
  refine ⟨farTree_wellFormed, farTree_nodeAt?, farTree_eligible, ?_⟩
  rintro ⟨files, found, _⟩
  have entered (path : Text) : isLeftOut ⟨defaultRules, []⟩ path farName = false := rfl
  have long : Disk.isTooLong (Path.join farRoot farName) = true := by
    rw [join_farName]
    exact isTooLong_below (by rw [size_farName]; decide)
  rw [answer_scan farTree_nodeAt?, farEntries, walkEntries, walkEntry, Reporting.answer_bind,
    Reporting.answer_bind, answer_leavesOut, entered, long] at found
  cases found

def deepName : Text :=
  List.replicate 80 'A' ++ ".java".toList

/-- A file and a link to it. -/
def deepEntries : List (Text × Node) := [
  (deepName, .file []),
  ("B.java".toList, .link deepName)]

/-- A link to a folder that is so far down that the paths of its files are too long. -/
def deepTree : Disk where
  root := .folder [
    (farName, folderAbove deepEntries 19),
    ("r".toList, .link (['/'].intercalate farFolders))]
  workingFolder := []

def deepFiles : List TreeFile := [
  ⟨"r/".toList ++ deepName, .source⟩, ⟨"r/B.java".toList, .source⟩]

theorem deepTree_wellFormed : deepTree.WellFormed := by
  have entries : (Node.folder deepEntries).wellFormed = true := by decide +kernel
  refine ⟨rfl, Node.wellFormed_folder.mpr ⟨by decide, List.forall_mem_cons.mpr
    ⟨⟨farName_isName, wellFormed_folderAbove entries 19⟩, List.forall_mem_singleton.mpr ?_⟩⟩⟩
  decide

theorem deepTree_node? : deepTree.root.node? farFolders = some (.folder deepEntries) :=
  node?_folderAbove deepEntries 19

/-- Behind the link the way goes on in the folder far down. -/
theorem deepTree_leads {links : Nat} {rest : List Text} {place : Location}
    (later : Disk.Leads deepTree.root Disk.anyPlace links farFolders rest place) :
    Disk.Leads deepTree.root Disk.anyPlace (links + 1) [] ("r".toList :: rest) place := by
  have steps : Path.steps (['/'].intercalate farFolders) = farFolders := by
    have split : Text.fields '/' (['/'].intercalate farFolders) =
        List.replicate 19 farName ++ [farName] :=
      Text.fields_intercalate (List.cons_ne_nil _ _) fun name member =>
        (farFolders_areNames name member).noSlash
    rw [Path.steps_of_fields split (by decide), List.filter_replicate_of_pos (by decide)]
    rfl
  refine .follows (.ofName (by decide) rfl) rfl ?_
  rw [if_neg (by decide), steps, ← Disk.locateFrom_eq_ok,
    Disk.locateFrom_folders [] farFolders_areNames deepTree_node? links
      (Disk.passes_anyPlace _ _ _ _)]
  exact Disk.locateFrom_eq_ok.mpr later

theorem deepTree_resolve_of_leads {path : Text} {place : Location} {node : Node}
    (plain : '\x00' ∉ path ∧ path ≠ [] ∧ deepTree.start path = [])
    (fits : Disk.isTooLong path = false)
    (leads : Disk.Leads deepTree.root Disk.anyPlace 40 [] (Path.steps path) place)
    (present : deepTree.root.node? place = some node) : deepTree.resolve path = .ok place := by
  obtain ⟨noNul, some, begins⟩ := plain
  have followed : deepTree.follow Disk.anyPlace path = .ok place := by
    rw [Disk.follow_eq_ok, ← Disk.start, begins]
    exact ⟨some, leads⟩
  rw [Disk.resolve, Disk.locate, if_neg noNul, fits, if_neg (by decide), followed]
  exact Disk.present_eq_ok.mpr ⟨rfl, node, present⟩

theorem deepTree_resolve {file : TreeFile} (member : file ∈ deepFiles) :
    deepTree.resolve file.path = .ok (farFolders ++ [deepName]) := by
  have inside (name : Text) : deepTree.root.node? (farFolders ++ [name]) =
      (Node.folder deepEntries).node? [name] := by
    rw [Node.node?_append, deepTree_node?]
    rfl
  have ends (links : Nat) : Disk.Leads deepTree.root Disk.anyPlace links farFolders [deepName]
      (farFolders ++ [deepName]) :=
    .ends links (.ofName (by decide) rfl) (.inr ⟨[], inside deepName⟩)
  have leads : Disk.Leads deepTree.root Disk.anyPlace 40 [] (Path.steps file.path)
      (farFolders ++ [deepName]) := by
    rcases List.mem_cons.mp member with rfl | member
    · exact deepTree_leads (ends 39)
    · rcases List.mem_singleton.mp member with rfl
      refine deepTree_leads (.follows (.ofName (by decide) rfl)
        (inside "B.java".toList) ?_)
      rw [if_neg (by decide), (by decide : Path.steps deepName = [deepName])]
      exact ends 38
  have plain : ∀ file ∈ deepFiles, '\x00' ∉ file.path ∧ file.path ≠ [] ∧
      deepTree.start file.path = [] := by decide
  have fits : ∀ file ∈ deepFiles, Disk.isTooLong file.path = false := by
    simp only [Disk.isTooLong, Utf8.utf8ByteSize_str]
    decide
  exact deepTree_resolve_of_leads (plain file member) (fits file member) leads (inside deepName)

theorem deepTree_realPath {file : TreeFile} (member : file ∈ deepFiles) :
    deepTree.realPath file.path = file.path := by
  have relative : ∀ file ∈ deepFiles, deepTree.start file.path = [] := by decide
  have long : Disk.isTooLong (Disk.pathOf (farFolders ++ [deepName])) = true :=
    isTooLong_below (by rw [Utf8.utf8ByteSize_str]; decide)
  cases real : deepTree.realLocation file.path with
  | error error => exact Disk.realPath_of_error real
  | ok location =>
      obtain ⟨fits, _⟩ := Disk.realLocation_fits real (by rw [relative file member]; rfl)
        (by rw [relative file member]; decide)
      rw [Disk.realLocation_unique real (deepTree_resolve member), long] at fits
      cases fits

theorem deepTree_scan :
    (scan ⟨defaultRules, []⟩ deepTree "r".toList).answer .quiet = .ok deepFiles := by
  have isFolder : deepTree.nodeAt? "r".toList = some (.folder deepEntries) := by
    have resolved : deepTree.resolve "r".toList = .ok farFolders :=
      deepTree_resolve_of_leads (by decide) (by decide) (deepTree_leads (.arrives 39 farFolders))
        deepTree_node?
    rw [Disk.nodeAt?, resolved]
    exact deepTree_node?
  have walked : (walkEntries ⟨defaultRules, []⟩ deepTree "r".toList deepEntries).answer .quiet =
      .ok deepFiles := ok_of_toOption (by decide +kernel)
  have paths : (deepFiles.map fun file => deepTree.realPath file.path) =
      deepFiles.map TreeFile.path :=
    List.map_congr_left fun _ => deepTree_realPath
  have own : distinctFiles deepTree [] deepFiles = deepFiles :=
    distinctFiles_of_nodup (by rw [paths]; decide) fun _ _ => List.not_mem_nil
  rw [answer_scan isFolder, walked]
  exact congrArg Except.ok own

/-- A scan can stop before a file that is eligible, and it can find a file at two of its paths. -/
theorem scan_of_long_paths :
    (farTree.WellFormed ∧ farTree.nodeAt? farRoot = some (.folder farEntries) ∧
      Eligible ⟨defaultRules, []⟩ farTree farRoot farEntries [farName, "A.java".toList] .source ∧
      ¬ ∃ files, (scan ⟨defaultRules, []⟩ farTree farRoot).answer .quiet = .ok files ∧
        Finds ⟨defaultRules, []⟩ farTree farRoot farEntries files) ∧
    deepTree.WellFormed ∧
      (scan ⟨defaultRules, []⟩ deepTree "r".toList).answer .quiet = .ok deepFiles ∧
      ¬ deepFiles.Pairwise fun first second => ∀ location,
        deepTree.resolve first.path = .ok location →
          deepTree.resolve second.path ≠ .ok location := by
  refine ⟨farTree_scan_finds_nothing, deepTree_wellFormed, deepTree_scan, ?_⟩
  intro distinct
  have apart := (List.pairwise_cons.mp distinct).1 _ List.mem_cons_self
  exact apart _ (deepTree_resolve List.mem_cons_self)
    (deepTree_resolve (List.mem_cons_of_mem _ List.mem_cons_self))

end Classifier

end Migration
