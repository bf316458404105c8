import Migration.Proofs.CharacterBytes
import Migration.Proofs.Faults
import Migration.Proofs.PathParts
import Migration.RawPath

namespace Migration

/-! Paths of bytes.

Bytes taken for characters can be turned back, so what is known of cutting texts is known of cutting
paths of bytes.  Of a path that is a text, the text is cut in the same places.  The text that is
shown for a name has a slash only if the name has one, and a name that is a text is shown as it is.
-/

namespace Utf8

theorem lossy_of_ok {bytes : List UInt8} {text : Text} (read : decode bytes = .ok text) :
    lossy bytes = text := by
  rw [lossy]
  split
  · next other => exact Except.ok.inj (other.symm.trans read)
  · next other => cases other.symm.trans read

theorem lossy_encode (text : Text) : lossy (encode text) = text :=
  lossy_of_ok (decode_encode text)

/-- What can be read is shown, then one mark for the sequence that cannot be, and then what comes
behind it. -/
theorem lossy_of_error {bytes : List UInt8} {fault : Fault} {valid : Text}
    (failed : decode bytes = .error fault) (exact : fault.Exact bytes valid) :
    lossy bytes = valid ++ '\uFFFD' ::
      match fault.width with
      | some width => lossy (bytes.drop (fault.index + width))
      | none => [] := by
  have front : decode (bytes.take fault.index) = .ok valid := decode_eq_ok.mpr exact.readable
  rw [lossy]
  split
  · next other => cases other.symm.trans failed
  · next other =>
      cases Except.error.inj (other.symm.trans failed)
      rw [front]
      cases size : fault.width with
      | none => simp only [lossy_of_ok (show decode [] = .ok [] from rfl)]
      | some width => simp only [Nat.max_eq_left (exact.short width size).1]

theorem slash_mem_encode {text : Text} : (47 : UInt8) ∈ encode text ↔ '/' ∈ text := by
  have small : '/'.toNat < 128 := by decide
  have mark : '/'.toUInt8 = 47 := by decide
  rw [encode, List.mem_flatMap, ← mark]
  constructor
  · rintro ⟨c, member, byte⟩
    exact (mem_encodeChar_iff small).mp byte ▸ member
  · intro member
    exact ⟨'/', member, (mem_encodeChar_iff small).mpr rfl⟩

/-- No slash is shown where there is none. -/
theorem slash_not_mem_lossy {bytes : List UInt8} (absent : 47 ∉ bytes) : '/' ∉ lossy bytes := by
  fun_induction lossy bytes with
  | case1 bytes text read =>
      rwa [← slash_mem_encode, decode_eq_ok.mp read]
  | case2 bytes fault read readable behind ih =>
      have behindAbsent : 47 ∉ behind := by
        intro member
        simp only [behind] at member
        split at member
        · exact absent (List.mem_of_mem_drop member)
        · cases member
      have readableAbsent : '/' ∉ readable := by
        intro member
        simp only [readable] at member
        split at member
        · next text front =>
            rw [← slash_mem_encode, decode_eq_ok.mp front] at member
            exact absent (List.mem_of_mem_take member)
        · cases member
      rw [List.mem_append, List.mem_cons, not_or, not_or]
      exact ⟨readableAbsent, by decide, ih behindAbsent⟩

end Utf8

/-! What paths are cut into has the characters of the path. -/

namespace Path

theorem mem_of_split? {path parent name : Text} (split : split? path = some (parent, name)) :
    (∀ c ∈ parent, c = '/' ∨ c ∈ path) ∧ ∀ c ∈ name, c ∈ path := by
  obtain ⟨head, tail, fieldsIs, _, cut⟩ := exists_fields_of_split? split
  have inPath {field : Text} (member : field ∈ head :: tail) : ∀ c ∈ field, c ∈ path :=
    fun c inside => Text.mem_of_mem_fields (fieldsIs ▸ member) inside
  rcases cut with ⟨_, rfl, rfl, _⟩ | ⟨front, trimmed, rfl⟩
  · exact ⟨nofun, inPath List.mem_cons_self⟩
  · have inTail {field : Text} (member : field ∈ front ++ [name]) : field ∈ tail :=
      mem_of_mem_trimFields (trimmed ▸ member)
    refine ⟨fun c member => ?_, inPath (List.mem_cons_of_mem _ (inTail (by simp)))⟩
    split at member
    · exact .inl (List.mem_singleton.mp member)
    · refine (Text.mem_intercalate member).imp_right fun ⟨field, present, inside⟩ => ?_
      rcases List.mem_cons.mp present with rfl | present
      · exact inPath List.mem_cons_self c inside
      · have inFront := List.mem_append_left [name] (mem_of_mem_trimFields present)
        exact inPath (List.mem_cons_of_mem _ (inTail inFront)) c inside

theorem mem_of_join {base addition : Text} {c : Char} (member : c ∈ join base addition) :
    c = '/' ∨ c ∈ base ∨ c ∈ addition := by
  rw [join] at member
  split at member
  · exact .inr (.inr member)
  · split at member
    · exact .inr (.inr member)
    · split at member
      · exact .inr (List.mem_append.mp member)
      · rcases List.mem_append.mp member with inBase | member
        · exact .inr (.inl inBase)
        · exact (List.mem_cons.mp member).imp_right .inr

theorem mem_of_parts {path part : Text} (present : part ∈ parts path) :
    ∀ c ∈ part, c = '/' ∨ c ∈ path := by
  intro c member
  have inFields : part = ['/'] ∨ part ∈ Text.fields '/' path := by
    rw [parts] at present
    cases fieldsIs : Text.fields '/' path with
    | nil => exact absurd fieldsIs (Text.fields_ne_nil '/' path)
    | cons first rest =>
        rw [fieldsIs] at present
        by_cases nothing : rest = [] ∧ first = []
        · rw [nothing.1, nothing.2] at present
          cases present
        · rw [partsOf_cons fun noRest => mt (And.intro noRest) nothing] at present
          rcases List.mem_cons.mp present with rfl | present
          · split
            · exact .inl rfl
            · exact .inr List.mem_cons_self
          · exact .inr (List.mem_cons_of_mem _ (List.mem_filter.mp present).1)
  rcases inFields with rfl | inFields
  · exact .inl (List.mem_singleton.mp member)
  · exact .inr (Text.mem_of_mem_fields inFields member)

end Path

namespace RawPath

/-! Bytes as characters. -/

/-- A text whose characters stand for bytes. -/
def Narrow (text : Text) : Prop :=
  ∀ c ∈ text, c.toNat < 256

theorem ofNat_toUInt8 {c : Char} (narrow : c.toNat < 256) : Char.ofNat c.toUInt8.toNat = c := by
  have cut : c.toUInt8.toNat = c.toNat % 256 := UInt32.toNat_toUInt8 c.val
  rw [cut, Nat.mod_eq_of_lt narrow, Char.ofNat_toNat]

theorem toNat_ofNat (byte : UInt8) : (Char.ofNat byte.toNat).toNat = byte.toNat := by
  have small : byte.toNat < 256 := byte.toNat_lt
  rw [Char.ofNat, dif_pos (.inl (Nat.lt_trans small (by decide)))]
  rfl

theorem toUInt8_ofNat (byte : UInt8) : (Char.ofNat byte.toNat).toUInt8 = byte := by
  have small : byte.toNat < 256 := byte.toNat_lt
  have cut : (Char.ofNat byte.toNat).toUInt8.toNat = (Char.ofNat byte.toNat).toNat % 256 :=
    UInt32.toNat_toUInt8 _
  rw [← UInt8.toNat_inj, cut, toNat_ofNat, Nat.mod_eq_of_lt small]

theorem narrow_letters (bytes : List UInt8) : Narrow (letters bytes) := by
  intro c member
  obtain ⟨byte, _, rfl⟩ := List.mem_map.mp member
  rw [toNat_ofNat]
  exact byte.toNat_lt

theorem bytesOf_letters (bytes : List UInt8) : bytesOf (letters bytes) = bytes := by
  rw [bytesOf, letters, List.map_map]
  exact (List.map_congr_left fun byte _ => toUInt8_ofNat byte).trans (List.map_id bytes)

theorem letters_bytesOf {text : Text} (narrow : Narrow text) : letters (bytesOf text) = text := by
  rw [letters, bytesOf, List.map_map]
  exact (List.map_congr_left fun c member => ofNat_toUInt8 (narrow c member)).trans
    (List.map_id text)

theorem letters_append (first second : List UInt8) :
    letters (first ++ second) = letters first ++ letters second :=
  List.map_append

theorem slash_mem_letters {bytes : List UInt8} : '/' ∈ letters bytes ↔ 47 ∈ bytes := by
  rw [letters, List.mem_map]
  constructor
  · rintro ⟨byte, member, isSlash⟩
    have same : byte = 47 := (toUInt8_ofNat byte).symm.trans (congrArg Char.toUInt8 isSlash)
    exact same ▸ member
  · intro member
    exact ⟨47, member, by decide⟩

theorem Narrow.of_slash {text path : Text} (narrow : Narrow path)
    (members : ∀ c ∈ text, c = '/' ∨ c ∈ path) : Narrow text := by
  intro c member
  rcases members c member with rfl | member
  · decide
  · exact narrow c member

/-! Cutting. -/

/-- A path of bytes is cut where its characters are. -/
theorem split?_eq_some {path parent name : List UInt8} :
    split? path = some (parent, name) ↔
      Path.split? (letters path) = some (letters parent, letters name) := by
  rw [split?, Option.map_eq_some_iff]
  constructor
  · rintro ⟨⟨front, last⟩, split, same⟩
    obtain ⟨inParent, inName⟩ := Path.mem_of_split? split
    cases same
    rw [split, letters_bytesOf ((narrow_letters path).of_slash inParent),
      letters_bytesOf ((narrow_letters path).of_slash fun c member => .inr (inName c member))]
  · intro split
    exact ⟨_, split, Prod.ext (bytesOf_letters parent) (bytesOf_letters name)⟩

theorem letters_join (base addition : List UInt8) :
    letters (join base addition) = Path.join (letters base) (letters addition) := by
  refine letters_bytesOf fun c member => ?_
  rcases Path.mem_of_join member with rfl | inBase | inAddition
  · decide
  · exact narrow_letters base c inBase
  · exact narrow_letters addition c inAddition

/-- What two paths of bytes have in common that are the same path. -/
def parts (path : RawPath) : List (List UInt8) :=
  (Path.parts (letters path)).map bytesOf

/-- Nothing of the parts is lost by telling them in bytes. -/
theorem map_letters_parts (path : RawPath) :
    (parts path).map letters = Path.parts (letters path) := by
  rw [parts, List.map_map]
  refine (List.map_congr_left fun part member => ?_).trans (List.map_id _)
  exact letters_bytesOf ((narrow_letters path).of_slash (Path.mem_of_parts member))

theorem parts_split {path parent name : List UInt8} (split : split? path = some (parent, name)) :
    parts path = parts parent ++ [name] := by
  rw [parts, (Path.split?_eq_some (split?_eq_some.mp split)).2.2, List.map_append, parts,
    List.map_singleton, bytesOf_letters]

/-! Staging. -/

/-- The name of a staging file, in bytes. -/
def stagingName (name : List UInt8) : List UInt8 :=
  Utf8.encode (Utf8.lossy name ++ stagingSuffix)

theorem letters_stagingName (name : List UInt8) :
    letters (stagingName name) = letters (Utf8.encode (Utf8.lossy name)) ++ stagingSuffix := by
  have suffix : letters (Utf8.encode stagingSuffix) = stagingSuffix := by decide
  rw [stagingName, Utf8.encode_append, letters_append, suffix]

theorem stagingName_ne (name : List UInt8) : stagingName name ≠ name := by
  intro same
  -- A name that is the encoding of a text is shown as that text.
  have shown : Utf8.lossy name = Utf8.lossy name ++ stagingSuffix := by
    conv => lhs; rw [← same, stagingName, Utf8.lossy_encode]
  have lengths := congrArg List.length shown
  rw [List.length_append, stagingSuffix_length] at lengths
  omega

theorem stagingName_inj {name other : List UInt8} :
    stagingName name = stagingName other ↔ Utf8.lossy name = Utf8.lossy other := by
  constructor
  · intro same
    exact List.append_cancel_right (Utf8.encode_injective same)
  · intro same
    rw [stagingName, stagingName, same]

/-- A staging path is cut into the folder of its path and the name of the staging file. -/
theorem split?_stagingPath {path staging : RawPath} (staged : stagingPath path = .ok staging) :
    ∃ parent name, split? path = some (parent, name) ∧
      split? staging = some (parent, stagingName name) := by
  rw [stagingPath] at staged
  cases split : split? path with
  | none =>
      rw [split] at staged
      cases staged
  | some cut =>
      obtain ⟨parent, name⟩ := cut
      rw [split] at staged
      cases staged
      obtain ⟨named, folder, _⟩ := Path.split?_eq_some (split?_eq_some.mp split)
      have noSlash : '/' ∉ letters (Utf8.encode (Utf8.lossy name)) := by
        rw [slash_mem_letters, Utf8.slash_mem_encode]
        exact Utf8.slash_not_mem_lossy (mt slash_mem_letters.mpr named.noSlash)
      refine ⟨parent, name, rfl, split?_eq_some.mpr ?_⟩
      rw [letters_join, ← stagingName, letters_stagingName]
      exact Path.split?_join folder (isComponent_staging noSlash)

/-! Paths that are texts. -/

/-- A text as the characters of its bytes. -/
def spelling (text : Text) : Text :=
  letters (Utf8.encode text)

theorem bytesOf_spelling (text : Text) : bytesOf (spelling text) = Utf8.encode text :=
  bytesOf_letters _

theorem spelling_append (first second : Text) :
    spelling (first ++ second) = spelling first ++ spelling second := by
  rw [spelling, Utf8.encode_append, letters_append]
  rfl

theorem spelling_inj {first second : Text} : spelling first = spelling second ↔ first = second := by
  constructor
  · intro same
    have bytes := congrArg bytesOf same
    rw [bytesOf_spelling, bytesOf_spelling] at bytes
    exact Utf8.encode_injective bytes
  · rintro rfl
    rfl

theorem spelling_eq_nil {text : Text} : spelling text = [] ↔ text = [] :=
  @spelling_inj text []

theorem slash_mem_spelling {text : Text} : '/' ∈ spelling text ↔ '/' ∈ text :=
  slash_mem_letters.trans Utf8.slash_mem_encode

theorem spelling_slash : spelling ['/'] = ['/'] := by decide

theorem spelling_cons (c : Char) (rest : Text) :
    spelling (c :: rest) = spelling [c] ++ spelling rest :=
  spelling_append [c] rest

/-- The character is spelled with slashes only if it is one. -/
theorem spelling_other {c : Char} (other : c ≠ '/') : '/' ∉ spelling [c] := by
  rw [slash_mem_spelling, List.mem_singleton]
  exact Ne.symm other

theorem fields_spelling (text : Text) :
    Text.fields '/' (spelling text) = (Text.fields '/' text).map spelling := by
  induction text with
  | nil => rfl
  | cons c rest ih =>
      rw [spelling_cons, Text.fields_cons]
      by_cases slash : c = '/'
      · rw [if_pos slash, slash, spelling_slash, List.singleton_append, Text.fields_cons,
          if_pos rfl, ih]
        rfl
      · rw [if_neg slash, Text.fields_front (spelling_other slash), ih]
        cases Text.fields '/' rest with
        | nil => rfl
        | cons first others => rw [List.map_cons, List.map_cons, spelling_cons c first]

theorem spelling_intercalate (fields : List Text) :
    spelling (['/'].intercalate fields) = ['/'].intercalate (fields.map spelling) := by
  induction fields with
  | nil => rfl
  | cons first rest ih =>
      cases rest with
      | nil => rw [List.map_singleton, List.intercalate_singleton, List.intercalate_singleton]
      | cons second rest =>
          rw [List.intercalate_cons_cons, spelling_append, spelling_append, spelling_slash, ih]
          exact (List.intercalate_cons_cons ..).symm

theorem isTrivial_spelling (field : Text) :
    Path.isTrivial (spelling field) = Path.isTrivial field := by
  have here : spelling ['.'] = ['.'] := by decide
  rw [Path.isTrivial, Path.isTrivial, ← here, decide_eq_decide.mpr spelling_eq_nil,
    decide_eq_decide.mpr spelling_inj, here]

theorem trimFields_spelling (fields : List Text) :
    Path.trimFields (fields.map spelling) = (Path.trimFields fields).map spelling := by
  have same : Path.isTrivial ∘ spelling = Path.isTrivial := funext isTrivial_spelling
  rw [Path.trimFields, Path.trimFields, ← List.map_reverse, List.dropWhile_map, List.map_reverse,
    same]

theorem split?_spelling (path : Text) :
    Path.split? (spelling path) =
      (Path.split? path).map fun (parent, name) => (spelling parent, spelling name) := by
  have up : spelling ['.', '.'] = ['.', '.'] := by decide
  have isUp (field : Text) : spelling field = ['.', '.'] ↔ field = ['.', '.'] := by
    rw [← up, spelling_inj, up]
  rw [Path.split?, Path.split?, fields_spelling]
  cases Text.fields '/' path with
  | nil => rfl
  | cons head tail =>
      simp only [List.map_cons, trimFields_spelling, List.getLast?_map]
      cases (Path.trimFields tail).getLast? with
      | none =>
          simp only [Option.map_none, isTrivial_spelling, isUp]
          split <;> rfl
      | some name =>
          simp only [Option.map_some, isUp, ← List.map_dropLast, trimFields_spelling,
            List.map_eq_nil_iff, spelling_eq_nil]
          split
          · rfl
          · split
            · rw [Option.map_some, spelling_slash]
            · rw [Option.map_some, spelling_intercalate, List.map_cons]

theorem head?_spelling (text : Text) :
    (spelling text).head? = some '/' ↔ text.head? = some '/' := by
  cases text with
  | nil => rfl
  | cons c rest =>
      by_cases slash : c = '/'
      · rw [slash, spelling_cons, spelling_slash]
        simp
      · obtain ⟨d, more, spelled⟩ := List.exists_cons_of_ne_nil
          (mt spelling_eq_nil.mp (List.cons_ne_nil c []))
        have other : d ≠ '/' := fun same => spelling_other slash (by simp [spelled, same])
        rw [spelling_cons, spelled]
        simp [slash, other]

theorem getLast?_spelling (text : Text) :
    (spelling text).getLast? = some '/' ↔ text.getLast? = some '/' := by
  rcases List.eq_nil_or_concat text with rfl | ⟨front, c, rfl⟩
  · rfl
  · rw [List.concat_eq_append, spelling_append, List.getLast?_concat]
    by_cases slash : c = '/'
    · rw [slash, spelling_slash]
      simp
    · rcases List.eq_nil_or_concat (spelling [c]) with nothing | ⟨more, d, spelled⟩
      · exact absurd (spelling_eq_nil.mp nothing) (List.cons_ne_nil c [])
      · have other : d ≠ '/' := fun same => spelling_other slash (by simp [spelled, same])
        rw [spelled, List.concat_eq_append, ← List.append_assoc, List.getLast?_concat]
        simp [slash, other]

theorem join_spelling (base addition : Text) :
    Path.join (spelling base) (spelling addition) = spelling (Path.join base addition) := by
  have slashed : spelling ('/' :: addition) = '/' :: spelling addition := by
    rw [spelling_cons, spelling_slash]
    rfl
  have absolute : Path.isAbsolute (spelling addition) = Path.isAbsolute addition := by
    simp only [Path.isAbsolute, head?_spelling]
  rw [Path.join, Path.join, absolute]
  by_cases replaces : Path.isAbsolute addition = true
  · rw [if_pos replaces, if_pos replaces]
  rw [if_neg replaces, if_neg replaces]
  by_cases nothing : base = []
  · rw [if_pos nothing, if_pos (spelling_eq_nil.mpr nothing)]
  rw [if_neg nothing, if_neg (mt spelling_eq_nil.mp nothing)]
  by_cases ended : base.getLast? = some '/'
  · rw [if_pos ended, if_pos ((getLast?_spelling base).mpr ended), spelling_append]
  · rw [if_neg ended, if_neg (mt (getLast?_spelling base).mp ended), spelling_append, slashed]

theorem split?_encode (path : Text) :
    split? (Utf8.encode path) =
      (Path.split? path).map fun (parent, name) => (Utf8.encode parent, Utf8.encode name) := by
  rw [split?, ← spelling, split?_spelling, Option.map_map]
  refine congrFun (congrArg Option.map (funext fun cut => ?_)) _
  exact Prod.ext (bytesOf_spelling cut.1) (bytesOf_spelling cut.2)

theorem stagingPath_encode (path : Text) :
    stagingPath (Utf8.encode path) = (Migration.stagingPath path).map Utf8.encode := by
  rw [stagingPath, Migration.stagingPath, split?_encode]
  cases Path.split? path with
  | none => rw [Utf8.lossy_encode]; rfl
  | some cut =>
      obtain ⟨parent, name⟩ := cut
      simp only [Option.map_some, Utf8.lossy_encode, Except.map]
      rw [join, ← spelling, ← spelling, join_spelling, bytesOf_spelling]

theorem kindOf_encode (classifier : Classifier) (path : Text) :
    kindOf classifier (Utf8.encode path) = classifier.kindOf path := by
  rw [kindOf, Classifier.kindOf, fileName?, split?_encode, Path.fileName?]
  cases Path.split? path with
  | none => rfl
  | some cut =>
      simp only [Option.map_some, Option.bind_eq_bind, Option.bind_some, Utf8.decode_encode]
      rfl

end RawPath

end Migration
