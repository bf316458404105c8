import Migration.Proofs.Audit
import Migration.Proofs.Encoding
import Migration.Proofs.SourceLine

namespace Migration

/-! The files that change.

Whether a file changes is counted line by line.  A line that ends in a line feed is only ever
exchanged for a text that ends in one, so the new text has at least as many line feeds line by
line, and changes on several lines cannot make up for each other.
-/

namespace Text

theorem newline_not_mem {line : Text} (once : '\n' ∉ line.dropLast)
    (unended : line.getLast? ≠ some '\n') : '\n' ∉ line := by
  rcases List.eq_nil_or_concat line with rfl | ⟨body, c, rfl⟩
  · simp
  · simp_all [eq_comm]

end Text

/-- A line that ends in a line feed becomes a text that ends in one. -/
def KeepsEnds (pairs : List (Text × Text)) : Prop :=
  ∀ pair ∈ pairs, pair.1.getLast? = some '\n' → pair.2.getLast? = some '\n'

theorem count_le_of_keepsEnds {pairs : List (Text × Text)}
    (once : ∀ pair ∈ pairs, '\n' ∉ pair.1.dropLast) (keeps : KeepsEnds pairs) :
    (pairs.map (·.1)).flatten.count '\n' ≤ (pairs.map (·.2)).flatten.count '\n' := by
  induction pairs with
  | nil => simp
  | cons pair rest ih =>
      obtain ⟨firstOnce, restOnce⟩ := List.forall_mem_cons.mp once
      obtain ⟨firstKeeps, restKeeps⟩ := List.forall_mem_cons.mp keeps
      have later := ih restOnce restKeeps
      have first : pair.1.count '\n' ≤ pair.2.count '\n' := by
        by_cases ended : pair.1.getLast? = some '\n'
        · obtain ⟨body, line⟩ := List.getLast?_eq_some_iff.mp ended
          obtain ⟨newBody, new⟩ := List.getLast?_eq_some_iff.mp (firstKeeps ended)
          rw [line, List.dropLast_concat] at firstOnce
          rw [line, new, List.count_append, List.count_append, List.count_eq_zero.mpr firstOnce]
          omega
        · rw [List.count_eq_zero.mpr (Text.newline_not_mem firstOnce ended)]
          exact Nat.zero_le _
      simp only [List.map_cons, List.flatten_cons, List.count_append]
      omega

/-- Lines that put together are what they become put together stay one by one. -/
theorem eq_of_flatten_eq {pairs : List (Text × Text)}
    (once : ∀ pair ∈ pairs, '\n' ∉ pair.1.dropLast)
    (ended : ∀ pair ∈ pairs.dropLast, pair.1.getLast? = some '\n') (keeps : KeepsEnds pairs)
    (same : (pairs.map (·.2)).flatten = (pairs.map (·.1)).flatten) :
    ∀ pair ∈ pairs, pair.2 = pair.1 := by
  induction pairs with
  | nil => simp
  | cons pair rest ih =>
      obtain ⟨firstOnce, restOnce⟩ := List.forall_mem_cons.mp once
      obtain ⟨firstKeeps, restKeeps⟩ := List.forall_mem_cons.mp keeps
      simp only [List.map_cons, List.flatten_cons] at same
      cases rest with
      | nil => simpa using same
      | cons second rest =>
          obtain ⟨firstEnded, restEnded⟩ := List.forall_mem_cons.mp ended
          obtain ⟨body, line⟩ := List.getLast?_eq_some_iff.mp firstEnded
          obtain ⟨newBody, new⟩ := List.getLast?_eq_some_iff.mp (firstKeeps firstEnded)
          rw [line, List.dropLast_concat] at firstOnce
          -- The rest has no fewer line feeds than before, so there is only one in front of it.
          have counts := congrArg (List.count '\n') same
          have later := count_le_of_keepsEnds restOnce restKeeps
          rw [line, new, List.append_assoc, List.append_assoc] at same
          rw [line, new] at counts
          simp only [List.count_append, List.count_singleton_self,
            List.count_eq_zero.mpr firstOnce] at counts
          have newOnce : '\n' ∉ newBody := List.count_eq_zero.mp (by omega)
          obtain ⟨bodies, tails⟩ := Text.append_mark_inj newOnce firstOnce same
          refine List.forall_mem_cons.mpr ⟨by rw [line, new, bodies], ?_⟩
          exact ih restOnce restEnded restKeeps tails

namespace Text

theorem getLast?_lineEnding {line : Text} (ended : line.getLast? = some '\n') :
    (lineEnding line).getLast? = some '\n' := by
  rcases lineEnding_cases line with ⟨unended, _⟩ | ⟨_, _, ending⟩ | ⟨_, _, _, ending⟩
  · exact absurd ended unended
  · rw [ending]
    rfl
  · rw [ending]
    rfl

theorem getLast?_append_of_some {first second : Text} {c : Char}
    (last : second.getLast? = some c) : (first ++ second).getLast? = some c := by
  rw [List.getLast?_append, last, Option.some_or]

end Text

namespace QualifiedName

theorem continuesRun_newline {rest : Text} (ended : continuesRun rest = false) :
    continuesRun (rest ++ ['\n']) = false := by
  cases rest with
  | nil => decide +kernel
  | cons c others =>
      cases others with
      | nil =>
          have mark := (Bool.or_eq_false_iff.mp ended).1
          have newline : continuesDot ['\n'] = false := by decide +kernel
          rw [List.singleton_append, continuesRun, mark, newline, Bool.and_false]
          rfl
      | cons d others => exact ended

theorem Cutting.concat_newline {cut : List Piece} (cutting : Cutting cut) :
    Cutting (cut ++ [.gap ['\n']]) := by
  induction cutting with
  | nil => exact .mark Text.newline_not_word .nil
  | mark mark cut ih => exact .mark mark ih
  | @run path rest run ended cut ih =>
      have stillEnded : continuesRun ((rest ++ [Piece.gap ['\n']]).flatMap Piece.text) = false := by
        rw [List.flatMap_append]
        exact continuesRun_newline ended
      exact .run run stillEnded ih
  | star run cut ih => exact .star run ih

theorem pieces_newline (body : Text) :
    pieces (body ++ ['\n']) = pieces body ++ [.gap ['\n']] := by
  have cut := (pieces_cutting body).concat_newline.pieces_flatMap
  rwa [List.flatMap_append, flatMap_pieces] at cut

theorem migrate_keepsEnd {symbols : SymbolTable} {projections : Projections} {line new : Text}
    {verbosity : Verbosity}
    (migrated : (migrate symbols projections line).answer verbosity = .ok (some new))
    (ended : line.getLast? = some '\n') : new.getLast? = some '\n' := by
  obtain ⟨body, rfl⟩ := List.getLast?_eq_some_iff.mp ended
  obtain ⟨texts, renewed, written⟩ := texts_of_migrated migrated
  rw [pieces_newline, ← List.forall₂_reverse_iff, List.reverse_append] at renewed
  obtain ⟨text, others, kept, _, split⟩ := List.forall₂_cons_left_iff.mp renewed
  cases kept
  rw [written, ← List.reverse_reverse texts, split, List.reverse_cons, List.flatten_append]
  exact Text.getLast?_append_of_some rfl

end QualifiedName

namespace Correspondences

theorem builtLine_keepsEnd {known : Correspondences} {line new : Text}
    (built : known.builtLine line = some new) (ended : line.getLast? = some '\n') :
    new.getLast? = some '\n' := by
  obtain ⟨⟨rule, parts⟩, found, rfl⟩ := Option.map_eq_some_iff.mp built
  obtain ⟨_, _, applies⟩ := applicable_eq_some found
  have cut := applies.cut
  rw [Rule.parts?_lineBody] at cut
  obtain ⟨front, _, rfl⟩ := Option.map_eq_some_iff.mp cut
  have filled : ((front ++ Declaration.keptParts (Text.lineEnding line)).flatMap
      (Part.filled rule.fill)).getLast? = some '\n' := by
    rw [List.flatMap_append, Declaration.flatMap_filled_keptParts]
    exact Text.getLast?_append_of_some (Text.getLast?_lineEnding ended)
  exact Text.getLast?_append_of_some (Text.getLast?_lineEnding filled)

/-- What stands for a line ends in a line feed if the line does. -/
theorem migrateLine_keepsEnd {known : Correspondences} {kind : FileKind} {line new : Text}
    {verbosity : Verbosity}
    (migrated : (known.migrateLine kind line).answer verbosity = .ok (some new))
    (ended : line.getLast? = some '\n') : new.getLast? = some '\n' := by
  cases kind with
  | source => exact QualifiedName.migrate_keepsEnd migrated ended
  | buildFile =>
      rw [answer_migrateLine] at migrated
      exact builtLine_keepsEnd (Except.ok.inj migrated) ended
  | config => cases migrated

end Correspondences

theorem map_fst_decidedLines (lines : List Text) (decided : List (Option Text)) :
    (decidedLines lines decided).map (·.1) = lines :=
  List.ext_getElem (by simp [decidedLines]) (by simp [decidedLines])

namespace FileEdit

variable {known : Correspondences} {trailer : List Text} {file : TreeFile}
  {verbosity : Verbosity} {disk : Disk}

theorem decideLine_eq_ok {number : Nat} {line : Text} {decision : Option Text}
    (decided : (decideLine known file number line).answer verbosity = .ok decision) :
    (known.migrateLine file.kind line).answer verbosity = .ok decision := by
  rw [decideLine, Reporting.answer_mapFailure] at decided
  cases answered : (known.migrateLine file.kind line).answer verbosity with
  | error failure =>
      rw [answered] at decided
      cases decided
  | ok found =>
      rw [answered] at decided
      exact decided

theorem decideAll_keepsEnds {number : Nat} {lines : List Text} {decided : List (Option Text)}
    (all : decideAll (decideLine known file) verbosity number lines = .ok decided) :
    KeepsEnds (decidedLines lines decided) := by
  induction lines generalizing number decided with
  | nil => simp [KeepsEnds, decidedLines]
  | cons line rest ih =>
      obtain ⟨decision, first, all⟩ := bind_eq_ok.mp all
      obtain ⟨others, later, all⟩ := bind_eq_ok.mp all
      cases all
      rw [decidedLines_cons]
      refine List.forall_mem_cons.mpr ⟨?_, ih later⟩
      intro ended
      cases decision with
      | none => exact ended
      | some new => exact Correspondences.migrateLine_keepsEnd (decideLine_eq_ok first) ended

/-- The lines that change are counted as none exactly if the text stays. -/
theorem changedCount_eq_zero_iff {text : Text} {decided : List (Option Text)}
    (keeps : KeepsEnds (decidedLines (Text.lines text) decided)) :
    changedCount (decidedLines (Text.lines text) decided) = 0 ↔
      ((decidedLines (Text.lines text) decided).map (·.2)).flatten = text := by
  have lines := map_fst_decidedLines (Text.lines text) decided
  have cut := Text.lines_isCut text
  rw [← lines] at cut
  generalize decidedLines (Text.lines text) decided = pairs at keeps cut
  rw [changedCount, List.countP_eq_zero, ← cut.whole]
  constructor
  · intro same
    congr 1
    exact List.map_congr_left fun pair member => by simpa using same pair member
  · intro same pair member
    have once : ∀ pair ∈ pairs, '\n' ∉ pair.1.dropLast := fun pair member =>
      cut.once _ (List.mem_map_of_mem member)
    have ended : ∀ pair ∈ pairs.dropLast, pair.1.getLast? = some '\n' := fun pair member =>
      cut.ended _ (List.map_dropLast .. ▸ List.mem_map_of_mem member)
    simpa using eq_of_flatten_eq once ended keeps same pair member

theorem decideAll_config (kind : file.kind = .config) {number : Nat} {lines : List Text}
    {decided : List (Option Text)}
    (all : decideAll (decideLine known file) verbosity number lines = .ok decided) :
    decidedLines lines decided = lines.map fun line => (line, line) := by
  induction lines generalizing number decided with
  | nil => rfl
  | cons line rest ih =>
      obtain ⟨decision, first, all⟩ := bind_eq_ok.mp all
      obtain ⟨others, later, all⟩ := bind_eq_ok.mp all
      cases all
      have none := decideLine_eq_ok first
      rw [kind] at none
      cases none
      rw [decidedLines_cons, ih later]
      rfl

theorem trailing_ne_nil {trailer : List Text} (some : trailer ≠ []) (lines : List Text) :
    (trailer.map (· ++ LineEditor.lastNewline lines)).flatten ≠ [] := by
  have newline : LineEditor.lastNewline lines ≠ [] := by
    rw [LineEditor.lastNewline]
    split
    · split <;> simp
    · simp
  obtain ⟨first, rest, rfl⟩ := List.exists_cons_of_ne_nil some
  simp [newline]

theorem isChange_ofEdited (file : TreeFile) (edited : EditedText) :
    (FileOutcome.ofEdited file edited).isChange = true ↔
      0 < edited.changed ∨ edited.appended = true := by
  rw [FileOutcome.isChange, Bool.or_eq_true, decide_eq_true_eq]
  rfl

/-- Lines are counted as changed or appended exactly if the text is another one. -/
theorem isChange_iff_text_ne {text : Text} {edited : EditedText}
    (reached : editText known trailer file verbosity text = .ok edited) :
    (FileOutcome.ofEdited file edited).isChange = true ↔ edited.text ≠ text := by
  rw [editText_eq] at reached
  cases all : decideAll (decideLine known file) verbosity 1 (Text.lines text) with
  | error failure =>
      rw [all] at reached
      cases reached
  | ok decided =>
      rw [all] at reached
      cases reached
      rw [isChange_ofEdited]
      simp only [decidedText, decide_eq_true_eq]
      by_cases appended : file.kind = .config ∧ trailer ≠ []
      · rw [if_pos appended, decideAll_config appended.1 all, List.map_map, Function.comp_def,
          List.map_id', Text.flatten_lines]
        have longer := trailing_ne_nil appended.2 (Text.lines text)
        simp [appended, longer]
      · rw [if_neg appended, Nat.pos_iff_ne_zero, ne_eq,
          changedCount_eq_zero_iff (decideAll_keepsEnds all)]
        simp only [appended, or_false, ne_eq]

theorem migrateFile_of_edited (options : EditOptions) {edited : EditedText}
    (reached : editedText known options.trailer file verbosity disk = .ok edited) :
    ∃ editor : LineEditor, editor.finish = edited ∧
      (migrateFile known options file).answer verbosity disk =
        (finish file options.mode editor).answer verbosity disk ∧
      (migrateFile known options file).after verbosity disk =
        (finish file options.mode editor).after verbosity disk := by
  obtain ⟨text, read, reached⟩ := bind_eq_ok.mp reached
  rw [editText] at reached
  cases decided : (decideLines (decideLine known file) (Text.lines text)
      (LineEditor.ofText file.kind options.trailer text)).answer verbosity with
  | error failure =>
      rw [decided] at reached
      cases reached
  | ok editor =>
      rw [decided] at reached
      have opened : (FileEdit.open file options).answer verbosity disk =
          .ok (LineEditor.ofText file.kind options.trailer text) := by
        rw [answer_open, read]
        rfl
      have kept : (FileEdit.open file options).after verbosity disk = disk :=
        open_keepsDisk options verbosity disk
      refine ⟨editor, Except.ok.inj reached, ?_⟩
      rw [migrateFile_eq]
      simp only [Action.answer_bind, Action.after_bind, Action.answer_lift, Action.after_lift,
        Reporting.answer_debug, ok_bind, opened, kept, LineEditor.upcoming_ofText, decided,
        true_and]

theorem preview_eq_ok {outcome : FileOutcome}
    (previewed : (migrateFile known { mode := .preview, trailer } file).answer verbosity disk =
      .ok outcome) :
    ∃ text edited, disk.readText file.path = .ok text ∧
      editedText known trailer file verbosity disk = .ok edited ∧
      outcome = FileOutcome.preview file edited ∧
      (outcome.isChange = true ↔ edited.text ≠ text) := by
  rw [(migrateFile_preview known trailer file verbosity disk).1] at previewed
  cases reached : editedText known trailer file verbosity disk with
  | error failure =>
      rw [reached] at previewed
      cases previewed
  | ok edited =>
      rw [reached] at previewed
      cases previewed
      obtain ⟨text, read, reached⟩ := bind_eq_ok.mp reached
      exact ⟨text, edited, read, rfl, rfl, isChange_iff_text_ne reached⟩

theorem migrateFile_apply_publishes {edited : EditedText}
    (reached : editedText known trailer file verbosity disk = .ok edited)
    (changed : (FileOutcome.ofEdited file edited).isChange = true) :
    (migrateFile known { mode := .apply, trailer } file).answer verbosity disk =
        ((Publication.publish file.path edited.text).answer verbosity disk).map
          (fun _ => { FileOutcome.ofEdited file edited with written := true }) ∧
      (migrateFile known { mode := .apply, trailer } file).after verbosity disk =
        (Publication.publish file.path edited.text).after verbosity disk := by
  obtain ⟨editor, rfl, answered, left⟩ :=
    migrateFile_of_edited { mode := .apply, trailer } reached
  obtain ⟨publishes, leaves⟩ := @finish_apply_publishes file verbosity disk editor changed
  exact ⟨answered.trans publishes, left.trans leaves⟩

end FileEdit

namespace Utf8

theorem encode_ne_iff {content : List UInt8} {text : Text} (read : decode content = .ok text)
    (output : Text) : output ≠ text ↔ encode output ≠ content := by
  rw [ne_eq, ne_eq, ← decode_eq_ok, read, Except.ok.injEq, eq_comm]

end Utf8

namespace Run

/-- What a preview of a file reports is a change exactly if the text of the file is to be another
one, and so its bytes; only then is anything published.  The report of a tree lists these files. -/
theorem preview_lists_changed_files (verbosity : Verbosity) (disk : Disk) :
    (∀ (known : Correspondences) (trailer : List Text) (file : TreeFile) (outcome : FileOutcome),
      (FileEdit.migrateFile known { mode := .preview, trailer } file).answer verbosity disk =
        .ok outcome →
      ∃ location content text output,
        disk.resolve file.path = .ok location ∧
        disk.root.node? location = some (.file content) ∧ Utf8.decode content = .ok text ∧
        outcome.output = some output ∧
        (0 < outcome.changedLines ∨ outcome.appended = true ↔ output ≠ text) ∧
        (output ≠ text ↔ Utf8.encode output ≠ content) ∧
        (output = text →
          (FileEdit.migrateFile known { mode := .apply, trailer } file).Yields verbosity disk
            { outcome with written := false, output := none } disk) ∧
        (output ≠ text →
          (FileEdit.migrateFile known { mode := .apply, trailer } file).answer verbosity disk =
            ((Publication.publish file.path output).answer verbosity disk).map
              (fun _ => { outcome with written := true, output := none }) ∧
          (FileEdit.migrateFile known { mode := .apply, trailer } file).after verbosity disk =
            (Publication.publish file.path output).after verbosity disk)) ∧
    ∀ (options : RunOptions) (report : MigrationReport),
      (migrate { options with mode := .preview }).answer verbosity disk = .ok report →
      ∃ found, (survey options).answer verbosity disk = .ok found ∧
        (previewed options verbosity disk).map (·.1) = found.files ∧
        report.files = ((previewed options verbosity disk).filter fun reported =>
          reported.2.output ≠ (disk.readText reported.1.path).toOption).map (·.2) := by
  refine ⟨?_, ?_⟩
  · intro known trailer file outcome previewed
    obtain ⟨text, edited, read, reached, rfl, isChange⟩ := FileEdit.preview_eq_ok previewed
    obtain ⟨location, content, resolved, present, decoded⟩ := Disk.file_of_readText read
    refine ⟨location, content, text, edited.text, resolved, present, decoded, rfl, ?_,
      Utf8.encode_ne_iff decoded edited.text, ?_, ?_⟩
    · rw [← isChange]
      exact (FileEdit.isChange_ofEdited file edited).symm
    · intro same
      refine FileEdit.migrateFile_apply_unchanged reached (Bool.eq_false_iff.mpr fun changed => ?_)
      exact isChange.mp changed same
    · intro different
      exact FileEdit.migrateFile_apply_publishes reached (isChange.mpr different)
  · intro options report answered
    obtain ⟨found, surveyed, names, rfl⟩ := preview_eq_ok answered
    refine ⟨found, surveyed, names, ?_⟩
    refine List.filter_map.trans (congrArg _ (List.filter_congr ?_))
    rintro ⟨file, outcome⟩ member
    rw [previewed, surveyed] at member
    obtain ⟨text, edited, read, _, rfl, isChange⟩ :=
      FileEdit.preview_eq_ok (of_mem_previewedFiles member).2
    have texts : some edited.text ≠ (disk.readText file.path).toOption ↔ edited.text ≠ text := by
      rw [read]
      exact not_congr (Option.some_inj)
    exact Bool.eq_iff_iff.mpr (isChange.trans (texts.symm.trans decide_eq_true_iff.symm))

/-- A new name may hold a line feed: the file then has more lines and is listed all the same. -/
theorem sampleRun_preview_lists_changed_files :
    (∃ known outcome,
      (Correspondences.ofRows [⟨"a.B".toList, "c\nd".toList, 2⟩] [] "a").answer .quiet = .ok known ∧
      (FileEdit.migrateFile known { mode := .preview, trailer := [] }
        ⟨"p/A.java".toList, .source⟩).answer .quiet sampleDisk = .ok outcome ∧
      outcome.output = some "c\nd\n".toList ∧
      (0 < outcome.changedLines ∨ outcome.appended = true)) ∧
    ∃ report found,
      (migrate { sampleOptions with mode := .preview }).answer .quiet sampleDisk = .ok report ∧
      (survey sampleOptions).answer .quiet sampleDisk = .ok found ∧
      report.files.map (·.output) = [some "c.D\n".toList] ∧
      report.files = ((previewed sampleOptions .quiet sampleDisk).filter fun reported =>
        reported.2.output ≠ (sampleDisk.readText reported.1.path).toOption).map (·.2) := by
  have lists := preview_lists_changed_files .quiet sampleDisk
  constructor
  · have written : ((Correspondences.ofRows [⟨"a.B".toList, "c\nd".toList, 2⟩] [] "a").answer
        .quiet >>= fun known => (FileEdit.migrateFile known { mode := .preview, trailer := [] }
          ⟨"p/A.java".toList, .source⟩).answer .quiet sampleDisk) =
        .ok { path := "p/A.java".toList, kind := .source, lines := 1, changedLines := 1,
              appended := false, written := false, output := some "c\nd\n".toList } := by
      decide +kernel
    obtain ⟨known, made, answered⟩ := bind_eq_ok.mp written
    obtain ⟨location, content, text, output, resolved, present, decoded, reported, isChange, _⟩ :=
      lists.1 known [] _ _ answered
    refine ⟨known, _, made, answered, rfl, isChange.mpr ?_⟩
    cases reported
    cases resolved
    cases present
    rw [Utf8.decode_encode] at decoded
    cases decoded
    decide
  · have listed : ((migrate { sampleOptions with mode := .preview }).answer .quiet sampleDisk >>=
        fun report => .ok (report.files.map (·.output))) = .ok [some "c.D\n".toList] := by
      decide +kernel
    obtain ⟨report, answered, outputs⟩ := bind_eq_ok.mp listed
    obtain ⟨found, surveyed, _, files⟩ := lists.2 sampleOptions report answered
    exact ⟨report, found, answered, surveyed, Except.ok.inj outputs, files⟩

end Run

end Migration
