import Migration.Proofs.LiteralGlobs
import Migration.Proofs.RawPath

namespace Migration

/-! The kinds that files have by default.

The default globs test how a name ends, and no two kinds have names in common.  No staging file has
a kind, so an interrupted run leaves nothing behind that a later one takes for a source.  Files of
one folder whose names are shown as the same text share their staging file.
-/

namespace Classifier

def sourceEndings : List Text :=
  [".java".toList, ".kt".toList, ".xml".toList]

def buildFileEnding : Text :=
  ".gradle".toList

def configName : Text :=
  "gradle.properties".toList

variable {excludes : List Pattern} {name : Text}

theorem sources_fit :
    (sourceEndings.map ('*' :: ·)).any (Glob.matches · name) = true ↔
      ∃ ending ∈ sourceEndings, ending <:+ name := by
  have unmarked : ∀ ending ∈ sourceEndings, Glob.Unmarked ending := by decide
  rw [List.any_map, List.any_eq_true]
  exact exists_congr fun ending =>
    and_congr_right fun member => Glob.matches_star (unmarked ending member) name

theorem buildFiles_fit :
    Glob.matches ('*' :: buildFileEnding) name = true ↔ buildFileEnding <:+ name :=
  Glob.matches_star (by decide) name

theorem configs_fit : Glob.matches configName name = true ↔ name = configName := by
  rw [Glob.matches_literal (by decide) (by decide)]
  exact eq_comm

theorem kindOfName_eq (classifier : Classifier) (name : Text) :
    classifier.kindOfName name =
      (classifier.rules.find? fun rule => rule.globs.any (Glob.matches · name)).map (·.kind) :=
  Option.map_eq_bind.symm

theorem kindOfName_default (name : Text) :
    kindOfName ⟨defaultRules, excludes⟩ name =
      if ∃ ending ∈ sourceEndings, ending <:+ name then some .source
      else if buildFileEnding <:+ name then some .buildFile
      else if name = configName then some .config
      else none := by
  have rules : defaultRules = [⟨.source, sourceEndings.map ('*' :: ·)⟩,
      ⟨.buildFile, ['*' :: buildFileEnding]⟩, ⟨.config, [configName]⟩] := rfl
  rw [kindOfName_eq, rules]
  by_cases source : ∃ ending ∈ sourceEndings, ending <:+ name
  · rw [if_pos source]
    simp only [List.find?_cons, sources_fit.mpr source]
    rfl
  · have noSource := Bool.eq_false_iff.mpr (mt sources_fit.mp source)
    rw [if_neg source]
    by_cases build : buildFileEnding <:+ name
    · rw [if_pos build]
      simp only [List.find?_cons, noSource, List.any_cons, buildFiles_fit.mpr build]
      rfl
    · have noBuild := Bool.eq_false_iff.mpr (mt buildFiles_fit.mp build)
      rw [if_neg build]
      by_cases config : name = configName
      · rw [if_pos config]
        simp only [List.find?_cons, noSource, List.any_cons, List.any_nil, noBuild,
          configs_fit.mpr config]
        rfl
      · have noConfig := Bool.eq_false_iff.mpr (mt configs_fit.mp config)
        rw [if_neg config]
        simp only [List.find?_cons, noSource, List.any_cons, List.any_nil, noBuild, noConfig]
        rfl

/-! The endings exclude each other, by their last characters. -/

theorem getLast?_of_suffix {ending : Text} {c : Char} (suffix : ending <:+ name)
    (last : ending.getLast? = some c) : name.getLast? = some c := by
  obtain ⟨front, rfl⟩ := suffix
  rw [List.getLast?_append, last, Option.some_or]

theorem not_source_of_last {c : Char} (last : name.getLast? = some c)
    (other : some c ∉ sourceEndings.map List.getLast?) :
    ¬ ∃ ending ∈ sourceEndings, ending <:+ name := by
  have notEmpty : ∀ ending ∈ sourceEndings, ending.getLast?.isSome = true := by decide
  rintro ⟨ending, member, suffix⟩
  obtain ⟨d, lastToo⟩ := Option.isSome_iff_exists.mp (notEmpty ending member)
  rw [← last, getLast?_of_suffix suffix lastToo, ← lastToo] at other
  exact other (List.mem_map_of_mem member)

theorem buildFile_last (build : buildFileEnding <:+ name) : name.getLast? = some 'e' :=
  getLast?_of_suffix build (by decide)

theorem buildFile_apart (build : buildFileEnding <:+ name) :
    (¬ ∃ ending ∈ sourceEndings, ending <:+ name) ∧ name ≠ configName := by
  have last := buildFile_last build
  refine ⟨not_source_of_last last (by decide), ?_⟩
  rintro rfl
  revert last
  decide

theorem config_apart (config : name = configName) :
    ¬ ∃ ending ∈ sourceEndings, ending <:+ name := by
  have last : configName.getLast? = some 's' := by decide
  exact config ▸ not_source_of_last last (by decide)

theorem kindOfName_default_iff (name : Text) :
    (kindOfName ⟨defaultRules, excludes⟩ name = some .source ↔
      ∃ ending ∈ sourceEndings, ending <:+ name) ∧
    (kindOfName ⟨defaultRules, excludes⟩ name = some .buildFile ↔ buildFileEnding <:+ name) ∧
    (kindOfName ⟨defaultRules, excludes⟩ name = some .config ↔ name = configName) ∧
    (kindOfName ⟨defaultRules, excludes⟩ name = none ↔
      (¬ ∃ ending ∈ sourceEndings, ending <:+ name) ∧ ¬ buildFileEnding <:+ name ∧
        name ≠ configName) := by
  rw [kindOfName_default]
  by_cases source : ∃ ending ∈ sourceEndings, ending <:+ name
  · have noBuild : ¬ buildFileEnding <:+ name := fun build => (buildFile_apart build).1 source
    have noConfig : name ≠ configName := fun config => config_apart config source
    rw [if_pos source]
    simp only [source, noBuild, noConfig, Option.some.injEq, reduceCtorEq, not_true_eq_false,
      false_and, iff_self, and_self]
  · rw [if_neg source]
    by_cases build : buildFileEnding <:+ name
    · have noConfig := (buildFile_apart build).2
      rw [if_pos build]
      simp only [source, build, noConfig, Option.some.injEq, reduceCtorEq, not_true_eq_false,
        false_and, and_false, iff_self, and_self]
    · rw [if_neg build]
      by_cases config : name = configName
      · rw [if_pos config]
        simp only [source, build, eq_true config, Option.some.injEq, reduceCtorEq, ne_eq,
          not_true_eq_false, and_false, iff_self, and_self]
      · rw [if_neg config]
        simp only [source, build, config, reduceCtorEq, ne_eq, not_false_eq_true, iff_self,
          and_self]

theorem kindOfName_staging (name : Text) :
    kindOfName ⟨defaultRules, excludes⟩ (name ++ stagingSuffix) = none := by
  have last : (name ++ stagingSuffix).getLast? = some 'p' :=
    getLast?_of_suffix (List.suffix_append name stagingSuffix) (by decide)
  rw [kindOfName_default, if_neg (not_source_of_last last (by decide)), if_neg, if_neg]
  · rintro same
    rw [same] at last
    revert last
    decide
  · intro build
    have lastToo := buildFile_last build
    rw [last] at lastToo
    cases lastToo

theorem exists_sourceEnding :
    (∃ ending ∈ sourceEndings, ending <:+ name) ↔
      ".java".toList <:+ name ∨ ".kt".toList <:+ name ∨ ".xml".toList <:+ name := by
  simp [sourceEndings]

end Classifier

namespace RawPath

theorem kindOf_of_fileName {path : RawPath} {name : Text}
    (named : path.fileName? = some (Utf8.encode name)) (classifier : Classifier) :
    kindOf classifier path = classifier.kindOfName name := by
  simp only [kindOf, named, Option.bind_eq_bind, Option.bind_some, Utf8.decode_encode]
  rfl

/-- By default, names with three endings are sources, those with another one build scripts, and one
name alone is a configuration.  A staging path has the folder of the path it is for, with a name
that has no kind.  It is shared by the files of that folder whose names are shown as the same text,
and by no others.  Where the path is a text, so is the staging path. -/
theorem kindOf_default_and_stagingPath (excludes : List Pattern) (path : RawPath) :
    (∀ name : Text, path.fileName? = some (Utf8.encode name) →
      (kindOf ⟨defaultRules, excludes⟩ path = some .source ↔
        ".java".toList <:+ name ∨ ".kt".toList <:+ name ∨ ".xml".toList <:+ name) ∧
      (kindOf ⟨defaultRules, excludes⟩ path = some .buildFile ↔ ".gradle".toList <:+ name) ∧
      (kindOf ⟨defaultRules, excludes⟩ path = some .config ↔ name = "gradle.properties".toList) ∧
      (kindOf ⟨defaultRules, excludes⟩ path = none ↔
        ¬ (".java".toList <:+ name ∨ ".kt".toList <:+ name ∨ ".xml".toList <:+ name) ∧
          ¬ ".gradle".toList <:+ name ∧ name ≠ "gradle.properties".toList)) ∧
    (∀ staging, path.stagingPath = .ok staging →
      ∃ parent name, path.split? = some (parent, name) ∧ parts path = parts parent ++ [name] ∧
        staging.split? = some (parent, Utf8.encode (Utf8.lossy name ++ stagingSuffix)) ∧
        parts staging = parts parent ++ [Utf8.encode (Utf8.lossy name ++ stagingSuffix)] ∧
        parts staging ≠ parts path ∧ kindOf ⟨defaultRules, excludes⟩ staging = none ∧
        ∀ (other otherStaging otherParent : RawPath) (otherName : List UInt8),
          other.stagingPath = .ok otherStaging → other.split? = some (otherParent, otherName) →
          (parts otherStaging = parts staging ↔
            parts otherParent = parts parent ∧ Utf8.lossy otherName = Utf8.lossy name)) ∧
    ∀ text, path = Utf8.encode text →
      path.stagingPath = (Migration.stagingPath text).map Utf8.encode ∧
        ∀ classifier : Classifier, kindOf classifier path = classifier.kindOf text := by
  refine ⟨?_, ?_, ?_⟩
  · intro name named
    rw [kindOf_of_fileName named, ← Classifier.exists_sourceEnding]
    exact Classifier.kindOfName_default_iff name
  · intro staging staged
    obtain ⟨parent, name, split, stagingSplit⟩ := split?_stagingPath staged
    have pathParts := parts_split split
    have stagingParts := parts_split stagingSplit
    refine ⟨parent, name, split, pathParts, stagingSplit, stagingParts, ?_, ?_, ?_⟩
    · rw [stagingParts, pathParts]
      exact fun same => stagingName_ne name (List.singleton_inj.mp (List.append_cancel_left same))
    · have named : staging.fileName? = some (Utf8.encode (Utf8.lossy name ++ stagingSuffix)) := by
        rw [fileName?, stagingSplit]
        rfl
      rw [kindOf_of_fileName named, Classifier.kindOfName_staging]
    · intro other otherStaging otherParent otherName otherStaged otherSplit
      obtain ⟨_, _, cut, otherStagingSplit⟩ := split?_stagingPath otherStaged
      cases otherSplit.symm.trans cut
      rw [stagingParts, parts_split otherStagingSplit, ← stagingName_inj]
      constructor
      · intro same
        exact (List.append_inj' same rfl).imp_right List.singleton_inj.mp
      · rintro ⟨parents, names⟩
        rw [parents, names]
  · rintro text rfl
    exact ⟨stagingPath_encode text, fun classifier => kindOf_encode classifier text⟩

theorem kindOf_buildScript :
    kindOf ⟨defaultRules, []⟩ (Utf8.encode "app/build.gradle".toList) = some .buildFile ∧
      stagingPath (Utf8.encode "app/build.gradle".toList) =
        .ok (Utf8.encode "app/build.gradle.nsmigrate.tmp".toList) ∧
      kindOf ⟨defaultRules, []⟩ (Utf8.encode "app/build.gradle.nsmigrate.tmp".toList) = none ∧
      parts (Utf8.encode "lib/build.gradle.nsmigrate.tmp".toList) ≠
        parts (Utf8.encode "app/build.gradle.nsmigrate.tmp".toList) := by
  have named : fileName? (Utf8.encode "app/build.gradle".toList) =
      some (Utf8.encode "build.gradle".toList) := by decide
  have cut : split? (Utf8.encode "app/build.gradle".toList) =
      some (Utf8.encode "app".toList, Utf8.encode "build.gradle".toList) := by decide
  obtain ⟨kinds, stagings, texts⟩ :=
    kindOf_default_and_stagingPath [] (Utf8.encode "app/build.gradle".toList)
  obtain ⟨_, build, _, _⟩ := kinds _ named
  have staged := (texts _ rfl).1
  obtain ⟨parent, name, split, _, _, _, _, noKind, shared⟩ := stagings _ staged
  cases cut.symm.trans split
  have otherStaged : stagingPath (Utf8.encode "lib/build.gradle".toList) =
      .ok (Utf8.encode "lib/build.gradle.nsmigrate.tmp".toList) := stagingPath_encode _
  have apart := shared _ _ (Utf8.encode "lib".toList) (Utf8.encode "build.gradle".toList)
    otherStaged (by decide)
  refine ⟨build.mpr (by decide), staged, noKind, fun same => ?_⟩
  exact absurd (apart.mp same).1 (by decide)

/-- A name of the one byte and an ending, in a folder. -/
def unreadable (byte : UInt8) : RawPath :=
  Utf8.encode "d/".toList ++ byte :: Utf8.encode ".java".toList

theorem lossy_unreadable {byte : UInt8} (refused : byte = 0xFE ∨ byte = 0xFF) :
    Utf8.lossy (byte :: Utf8.encode ".java".toList) = "\uFFFD.java".toList := by
  have failed : Utf8.decode (byte :: Utf8.encode ".java".toList) = .error ⟨0, some 1⟩ := by
    rcases refused with rfl | rfl <;> rfl
  obtain ⟨valid, exact⟩ := Utf8.exact_of_decode_eq_error failed
  have nothing : valid = [] := Utf8.eq_nil_of_encode_eq_nil exact.readable
  rw [Utf8.lossy_of_error failed exact, nothing]
  exact congrArg ('\uFFFD' :: ·) (Utf8.lossy_encode ".java".toList)

theorem stagingPath_unreadable {byte : UInt8} (refused : byte = 0xFE ∨ byte = 0xFF) :
    (unreadable byte).split? =
        some (Utf8.encode "d".toList, byte :: Utf8.encode ".java".toList) ∧
      (unreadable byte).stagingPath =
        .ok (Utf8.encode "d/\uFFFD.java.nsmigrate.tmp".toList) := by
  have split : (unreadable byte).split? =
      some (Utf8.encode "d".toList, byte :: Utf8.encode ".java".toList) := by
    rcases refused with rfl | rfl <;> decide
  refine ⟨split, ?_⟩
  rw [stagingPath, split]
  simp only [lossy_unreadable refused]
  rfl

/-- Three files of one folder have names of their own and one staging path. -/
theorem stagingPath_not_injective :
    (unreadable 0xFE).fileName? ≠ (unreadable 0xFF).fileName? ∧
      fileName? (Utf8.encode "d/\uFFFD.java".toList) ≠ (unreadable 0xFF).fileName? ∧
      (unreadable 0xFE).stagingPath =
        .ok (Utf8.encode "d/\uFFFD.java.nsmigrate.tmp".toList) ∧
      (unreadable 0xFF).stagingPath =
        .ok (Utf8.encode "d/\uFFFD.java.nsmigrate.tmp".toList) ∧
      stagingPath (Utf8.encode "d/\uFFFD.java".toList) =
        .ok (Utf8.encode "d/\uFFFD.java.nsmigrate.tmp".toList) := by
  refine ⟨by decide, by decide, (stagingPath_unreadable (.inl rfl)).2,
    (stagingPath_unreadable (.inr rfl)).2, ?_⟩
  rw [stagingPath_encode]
  rfl

end RawPath

end Migration
