import Migration.Config
import Migration.Proofs.Encoding
import Migration.Proofs.JsonSpelling

namespace Migration

/-! A configuration that is written and read.

Members that may be missing are left out when they are absent and stay absent when they are read,
and an empty list is written, so that the default does not come in its place.  Whatever the white
space between the tokens, the file is read as the configuration it was written from.
-/

namespace Json

theorem isGap_lineBreak (depth : Nat) : IsGap (lineBreak depth) := by
  intro c member
  rcases List.mem_cons.mp member with rfl | member
  · rfl
  · rw [(List.mem_replicate.mp member).2]
    rfl

theorem isGap_nil : IsGap [] :=
  nofun

theorem render_array (depth : Nat) (item : Json) (items : List Json) :
    render depth (.array (item :: items)) =
      '[' :: lineBreak (depth + 1) ++ render (depth + 1) item ++ renderItems (depth + 1) items ++
        lineBreak depth ++ [']'] := rfl

theorem renderItems_cons (depth : Nat) (item : Json) (items : List Json) :
    renderItems depth (item :: items) =
      ',' :: lineBreak depth ++ render depth item ++ renderItems depth items := rfl

theorem render_object (depth : Nat) (key : Option Text) (value : Json)
    (members : List (Option Text × Json)) :
    render depth (.object ((key, value) :: members)) =
      '\x7b' :: lineBreak (depth + 1) ++ quote key ++ [':', ' '] ++ render (depth + 1) value ++
        renderMembers (depth + 1) members ++ lineBreak depth ++ ['\x7d'] := rfl

theorem renderMembers_cons (depth : Nat) (key : Option Text) (value : Json)
    (members : List (Option Text × Json)) :
    renderMembers depth ((key, value) :: members) =
      ',' :: lineBreak depth ++ quote key ++ [':', ' '] ++ render depth value ++
        renderMembers depth members := rfl

theorem spells_renderItems {depth outer : Nat} {first : Json} {items : List Json}
    (written : ∀ item ∈ first :: items, Spells (.value item) (render depth item)) :
    Spells (.items (first :: items))
      (lineBreak depth ++
        (render depth first ++ (renderItems depth items ++ lineBreak outer))) := by
  induction items generalizing first with
  | nil =>
      obtain ⟨spelled, _⟩ := List.forall_mem_cons.mp written
      exact .lastItem (isGap_lineBreak depth) spelled (isGap_lineBreak outer)
  | cons next items ih =>
      obtain ⟨spelled, others⟩ := List.forall_mem_cons.mp written
      have body := Spells.nextItem (isGap_lineBreak depth) spelled isGap_nil (ih others)
      simpa only [renderItems_cons, List.nil_append, List.cons_append, List.append_assoc] using body

theorem spells_array {depth : Nat} {items : List Json}
    (written : ∀ item ∈ items, Spells (.value item) (render (depth + 1) item)) :
    Spells (.value (.array items)) (render depth (.array items)) := by
  cases items with
  | nil => exact .noItems isGap_nil
  | cons item items =>
      have spelled := Spells.array (@spells_renderItems (depth + 1) depth item items written)
      simpa only [render_array, List.cons_append, List.append_assoc] using spelled

def keyed (members : List (String × Json)) : List (Option Text × Json) :=
  members.map fun member => (some member.1.toList, member.2)

theorem spells_renderMembers {depth outer : Nat} {first : String × Json}
    {members : List (String × Json)}
    (written : ∀ member ∈ first :: members, Spells (.value member.2) (render depth member.2)) :
    Spells (.members (keyed (first :: members)))
      (lineBreak depth ++ (quote (some first.1.toList) ++ (':' :: ' ' :: (render depth first.2 ++
        (renderMembers depth (keyed members) ++ lineBreak outer))))) := by
  have isGap_space : IsGap [' '] := List.forall_mem_singleton.mpr rfl
  induction members generalizing first with
  | nil =>
      obtain ⟨spelled, _⟩ := List.forall_mem_cons.mp written
      exact .lastMember (isGap_lineBreak depth) isGap_nil isGap_space spelled
        (isGap_lineBreak outer)
  | cons next members ih =>
      obtain ⟨spelled, others⟩ := List.forall_mem_cons.mp written
      have body := @Spells.nextMember first.1.toList _ _ _ _ _ _ _ _ (isGap_lineBreak depth)
        isGap_nil isGap_space spelled isGap_nil (ih others)
      simpa only [keyed, List.map_cons, renderMembers_cons, List.nil_append, List.cons_append,
        List.append_assoc] using body

theorem spells_record {depth : Nat} {members : List (String × Json)}
    (written : ∀ member ∈ members, Spells (.value member.2) (render (depth + 1) member.2)) :
    Spells (.value (.record members)) (render depth (.record members)) := by
  cases members with
  | nil => exact .noMembers isGap_nil
  | cons first members =>
      have spelled :=
        Spells.object (@spells_renderMembers (depth + 1) depth first members written)
      simpa only [record, keyed, List.map_cons, render_object, List.nil_append, List.cons_append,
        List.append_assoc] using spelled

theorem spells_texts {depth : Nat} (contents : List Text) :
    Spells (.value (.texts contents)) (render depth (.texts contents)) := by
  refine spells_array fun item member => ?_
  obtain ⟨content, _, rfl⟩ := List.mem_map.mp member
  exact .text content

end Json

namespace Config

theorem spells_kindSetting {depth : Nat} (setting : KindSetting) :
    Json.Spells (.value setting.toJson) (Json.render depth setting.toJson) := by
  refine Json.spells_record ?_
  rw [List.forall_mem_cons, List.forall_mem_singleton]
  exact ⟨.text setting.kind, Json.spells_texts setting.patterns⟩

/-- The written form of a configuration is one of the ways to write its value. -/
theorem spells_pretty (config : Config) :
    Json.Spells (.value config.toJson) config.toJson.pretty := by
  refine Json.spells_record fun member among => ?_
  simp only [List.mem_append, List.mem_map, List.mem_cons, List.not_mem_nil, or_false] at among
  rcases among with (⟨table, _, rfl⟩ | ⟨table, _, rfl⟩) | rfl | rfl | rfl
  · exact .text table
  · exact .text table
  · exact Json.spells_texts config.excludes
  · refine Json.spells_array fun item inside => ?_
    obtain ⟨setting, _, rfl⟩ := List.mem_map.mp inside
    exact spells_kindSetting setting
  · exact Json.spells_texts config.configTrailer

/-! Members. -/

def takeMember (known : List String) (found : List (Text × Json)) :
    Option Text × Json → Option (List (Text × Json))
  | (name, value) => do
      let name ← name
      if known.any (·.toList = name) then
        if (found.lookup name).isSome then none else some ((name, value) :: found)
      else some found

theorem readMembers_eq (known : List String) (members : List (Option Text × Json)) :
    readMembers known members = members.foldlM (takeMember known) [] := rfl

theorem takeMember_fresh {known : List String} {found : List (Text × Json)} {name : String}
    (familiar : name ∈ known) (fresh : found.lookup name.toList = none) (value : Json) :
    takeMember known found (some name.toList, value) = some ((name.toList, value) :: found) := by
  have isKnown : known.any (·.toList = name.toList) = true :=
    List.any_eq_true.mpr ⟨name, familiar, by simp⟩
  simp only [takeMember, Option.bind_eq_bind, Option.bind_some, isKnown, fresh, if_true,
    Option.isSome_none, Bool.false_eq_true, if_false]

theorem lookup_cons_other {β : Type} {name other : String} (different : name ≠ other) (value : β)
    (found : List (Text × β)) :
    ((other.toList, value) :: found).lookup name.toList = found.lookup name.toList := by
  have unequal : (name.toList == other.toList) = false := by
    simpa [String.toList_inj] using different
  rw [List.lookup_cons, unequal]

/-- Members with distinct known names are found by their names. -/
theorem foldlM_takeMember {known : List String} {members : List (String × Json)}
    {found : List (Text × Json)} (distinct : (members.map (·.1)).Nodup)
    (familiar : ∀ member ∈ members, member.1 ∈ known)
    (fresh : ∀ member ∈ members, found.lookup member.1.toList = none) :
    ∃ all, (Json.keyed members).foldlM (takeMember known) found = some all ∧
      ∀ name, all.lookup name.toList = (members.lookup name).or (found.lookup name.toList) := by
  induction members generalizing found with
  | nil => exact ⟨found, rfl, fun name => rfl⟩
  | cons member members ih =>
      obtain ⟨key, value⟩ := member
      obtain ⟨absent, othersDistinct⟩ := List.nodup_cons.mp distinct
      obtain ⟨familiarKey, familiarOthers⟩ := List.forall_mem_cons.mp familiar
      obtain ⟨freshKey, freshOthers⟩ := List.forall_mem_cons.mp fresh
      have apart : ∀ member ∈ members, member.1 ≠ key := fun member among same =>
        absent (List.mem_map.mpr ⟨member, among, same⟩)
      have stillFresh : ∀ member ∈ members,
          ((key.toList, value) :: found).lookup member.1.toList = none := by
        intro member among
        rw [lookup_cons_other (apart member among), freshOthers member among]
      obtain ⟨all, folded, lookups⟩ := ih othersDistinct familiarOthers stillFresh
      refine ⟨all, ?_, fun name => ?_⟩
      · rw [Json.keyed, List.map_cons, List.foldlM_cons, takeMember_fresh familiarKey freshKey]
        exact folded
      · rw [lookups]
        by_cases same : name = key
        · have missing : members.lookup key = none :=
            List.lookup_eq_none_iff.mpr fun member among => by
              simpa using (apart member among).symm
          rw [same, missing, List.lookup_cons_self, List.lookup_cons_self]
          rfl
        · have unequal : (name == key) = false := beq_false_of_ne same
          rw [lookup_cons_other same, List.lookup_cons, unequal]

theorem readRecord_record {known : List String} {members : List (String × Json)}
    (distinct : (members.map (·.1)).Nodup) (familiar : ∀ member ∈ members, member.1 ∈ known) :
    readRecord known (.record members) = some (known.map fun name => members.lookup name) := by
  obtain ⟨all, folded, lookups⟩ := @foldlM_takeMember known members [] distinct familiar (by simp)
  have same : known.map (fun name => all.lookup name.toList) =
      known.map fun name => members.lookup name :=
    List.map_congr_left fun name _ => by rw [lookups, List.lookup_nil, Option.or_none]
  have read : readMembers known (Json.keyed members) = some all :=
    (readMembers_eq known _).trans folded
  rw [Json.record, readRecord]
  rw [Json.keyed] at read
  rw [read, ← same]
  rfl

/-! Values. -/

theorem mapM_map {α β : Type} {write : α → β} {read : β → Option α}
    (back : ∀ value, read (write value) = some value) (values : List α) :
    (values.map write).mapM read = some values := by
  induction values with
  | nil => rfl
  | cons value values ih =>
      rw [List.map_cons, List.mapM_cons, back, ih]
      rfl

theorem readTexts_texts (contents : List Text) : readTexts (.texts contents) = some contents :=
  @mapM_map _ _ Json.text readText (fun _ => rfl) contents

theorem readKindSetting_toJson (setting : KindSetting) :
    readKindSetting setting.toJson = some setting := by
  have read : readRecord ["kind", "patterns"] setting.toJson =
      some [some (.text setting.kind), some (.texts setting.patterns)] := by
    rw [KindSetting.toJson, readRecord_record (by simp) (by simp)]
    simp [List.lookup_cons]
  rw [readKindSetting, read]
  simp only [Option.bind_eq_bind, Option.bind_some, readTexts_texts]
  rfl

theorem readKindSettings_toJson (settings : List KindSetting) :
    readKindSettings (.array (settings.map KindSetting.toJson)) = some settings :=
  mapM_map readKindSetting_toJson settings

theorem readRecord_toJson (config : Config) :
    readRecord ["symbol_table", "artifact_table", "excludes", "classify", "config_trailer"]
        config.toJson =
      some [config.symbolTable.map .text, config.artifactTable.map .text,
        some (.texts config.excludes), some (.array (config.classify.map KindSetting.toJson)),
        some (.texts config.configTrailer)] := by
  obtain ⟨symbolTable, artifactTable, excludes, classify, configTrailer⟩ := config
  cases symbolTable <;> cases artifactTable <;>
    rw [toJson, readRecord_record (by simp) (by simp)] <;> simp [List.lookup_cons]

theorem readOr_optionalText (table : Option Text) :
    readOr none readOptionalText (table.map .text) = some table := by
  cases table <;> rfl

/-- The value that is written for a configuration stands for that configuration. -/
theorem ofJson_toJson (config : Config) : ofJson config.toJson = some config := by
  rw [ofJson, readRecord_toJson]
  simp only [Option.bind_eq_bind, Option.bind_some, readOr_optionalText]
  simp only [readOr, readTexts_texts, readKindSettings_toJson]
  rfl

/-! Files. -/

theorem readWhole_encode {disk : Disk} {path text : Text}
    (read : disk.readFile path = .ok (Utf8.encode text)) : disk.readWhole path = .ok text := by
  simp only [Disk.readWhole, read, Utf8.decode_encode]

theorem ofFile_of_parse {disk : Disk} {path source : Text} {config : Config}
    (read : disk.readFile path = .ok (Utf8.encode source)) (parsed : parse source = some config) :
    ofFile disk path = .ok config := by
  simp only [ofFile, readWhole_encode read, parsed]

/-- A configuration is read from every file that it was written to, in lines as here or with other
white space between the tokens. -/
theorem ofFile_written (config : Config) :
    Json.Spells (.value config.toJson) config.toJson.pretty ∧
      ∀ before source after, Json.IsGap before → Json.Spells (.value config.toJson) source →
        Json.IsGap after → ∀ disk path,
          disk.readFile path = .ok (Utf8.encode (before ++ (source ++ after))) →
          ofFile disk path = .ok config := by
  refine ⟨spells_pretty config, ?_⟩
  intro before source after blank spelled blankAfter disk path read
  apply ofFile_of_parse read
  rw [parse, spelled.read? blank blankAfter]
  exact ofJson_toJson config

/-- A configuration with a control character, empty lists and an absent table. -/
def bareConfig : Config where
  symbolTable := some ['\x01', '"']
  classify := []
  configTrailer := []

def bareDisk : Disk where
  root := .folder [(fileName, .file (Utf8.encode (bareConfig.toJson.pretty ++ ['\n'])))]
  workingFolder := []

theorem bareConfig_written :
    bareDisk.readFile fileName = .ok (Utf8.encode (bareConfig.toJson.pretty ++ ['\n'])) ∧
      ofFile bareDisk fileName = .ok bareConfig := by
  have read : bareDisk.readFile fileName =
      .ok (Utf8.encode (bareConfig.toJson.pretty ++ ['\n'])) := rfl
  have blankAfter : Json.IsGap ['\n'] := List.forall_mem_singleton.mpr rfl
  obtain ⟨spelled, written⟩ := ofFile_written bareConfig
  exact ⟨read, written [] _ _ Json.isGap_nil spelled blankAfter bareDisk fileName read⟩

end Config

end Migration
