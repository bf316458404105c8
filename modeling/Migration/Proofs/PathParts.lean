import Migration.Proofs.Publication
import Migration.Proofs.Trimmed

namespace Migration

/-! The parts of a path.

A path is the folder it is in and a file's name, and the folder has all parts of the path but the
last one.  Put together again with another name, the folder stays what it is, so the staging file of
a path is its sibling.
-/

namespace Path

def partsOf : List Text → List Text
  | [] => []
  | [[]] => []
  | [] :: rest => ['/'] :: rest.filter fun field => !isTrivial field
  | first :: rest => first :: rest.filter fun field => !isTrivial field

/-- What two paths have in common that are the same path, however they are written: the outermost
folder if the path starts there, a dot in front, and the names. -/
def parts (path : Text) : List Text :=
  partsOf (Text.fields '/' path)

theorem partsOf_cons {first : Text} {rest : List Text} (some : rest = [] → first ≠ []) :
    partsOf (first :: rest) =
      (if first = [] then ['/'] else first) :: rest.filter fun field => !isTrivial field := by
  cases first with
  | nil =>
      cases rest with
      | nil => exact absurd rfl (some rfl)
      | cons second rest => rfl
  | cons c first => rfl

/-! Fields without the trivial ones at the end. -/

theorem exists_trimFields (fields : List Text) :
    ∃ after, fields = trimFields fields ++ after ∧ ∀ field ∈ after, isTrivial field = true := by
  have whole := List.takeWhile_append_dropWhile (p := isTrivial) (l := fields.reverse)
  refine ⟨(fields.reverse.takeWhile isTrivial).reverse, ?_, ?_⟩
  · rw [trimFields, ← List.reverse_append, whole, List.reverse_reverse]
  · intro field member
    exact (List.mem_takeWhile_imp (List.mem_reverse.mp member))

theorem trimFields_last {fields : List Text} {last : Text}
    (ends : (trimFields fields).getLast? = some last) : isTrivial last = false := by
  have stopped := List.head?_dropWhile_not isTrivial fields.reverse
  rw [trimFields, List.getLast?_reverse] at ends
  rwa [ends] at stopped

theorem trimFields_of_last {fields : List Text}
    (solid : ∀ last, fields.getLast? = some last → isTrivial last = false) :
    trimFields fields = fields := by
  rcases List.eq_nil_or_concat fields with rfl | ⟨front, last, rfl⟩
  · rfl
  · simp [trimFields, solid last (by simp)]

theorem trimFields_trimFields (fields : List Text) :
    trimFields (trimFields fields) = trimFields fields :=
  trimFields_of_last fun _ ends => trimFields_last ends

theorem filter_trimFields (fields : List Text) :
    (trimFields fields).filter (fun field => !isTrivial field) =
      fields.filter fun field => !isTrivial field := by
  obtain ⟨after, whole, trivial⟩ := exists_trimFields fields
  have nothing : after.filter (fun field => !isTrivial field) = [] :=
    List.filter_eq_nil_iff.mpr fun field member => by simp [trivial field member]
  conv => rhs; rw [whole]
  rw [List.filter_append, nothing, List.append_nil]

/-! Folder and name. -/

/-- The way a path to a folder is written when a path is cut. -/
inductive IsParent : Text → Prop
  | here : IsParent []
  | outermost : IsParent ['/']
  | below {first : Text} {rest : List Text} (some : rest = [] → first ≠ [])
      (trimmed : trimFields rest = rest) (noSlash : ∀ field ∈ first :: rest, '/' ∉ field) :
      IsParent (['/'].intercalate (first :: rest))

theorem parts_intercalate {first : Text} {rest : List Text}
    (some : rest = [] → first ≠ []) (noSlash : ∀ field ∈ first :: rest, '/' ∉ field) :
    parts (['/'].intercalate (first :: rest)) =
      (if first = [] then ['/'] else first) :: rest.filter fun field => !isTrivial field := by
  rw [parts, Text.fields_intercalate (by simp) noSlash, partsOf_cons some]

theorem mem_of_mem_trimFields {fields : List Text} {field : Text}
    (member : field ∈ trimFields fields) : field ∈ fields := by
  obtain ⟨after, whole, _⟩ := exists_trimFields fields
  rw [whole]
  exact List.mem_append_left after member

theorem isTrivial_eq_false {field : Text} :
    isTrivial field = false ↔ field ≠ [] ∧ field ≠ ['.'] := by
  simp [isTrivial]

/-- A path is cut at its only field or in front of the last name of the others. -/
theorem exists_fields_of_split? {path parent name : Text}
    (split : split? path = some (parent, name)) :
    ∃ head tail, Text.fields '/' path = head :: tail ∧ name ≠ ['.', '.'] ∧
      (trimFields tail = [] ∧ parent = [] ∧ name = head ∧ isTrivial head = false ∨
        ∃ front, trimFields tail = front ++ [name] ∧
          parent = if trimFields front = [] ∧ head = [] then ['/']
            else ['/'].intercalate (head :: trimFields front)) := by
  rw [split?] at split
  cases fieldsIs : Text.fields '/' path with
  | nil => exact absurd fieldsIs (Text.fields_ne_nil '/' path)
  | cons head tail =>
      refine ⟨head, tail, rfl, ?_⟩
      rw [fieldsIs] at split
      cases ends : (trimFields tail).getLast? with
      | none =>
          simp only [ends, Option.ite_none_left_eq_some, Bool.or_eq_true, decide_eq_true_eq,
            not_or, Bool.not_eq_true, Option.some.injEq, Prod.mk.injEq] at split
          obtain ⟨⟨solid, notUp⟩, rfl, rfl⟩ := split
          exact ⟨notUp, .inl ⟨List.getLast?_eq_none_iff.mp ends, rfl, rfl, solid⟩⟩
      | some last =>
          obtain ⟨front, trimmed⟩ := List.getLast?_eq_some_iff.mp ends
          simp only [trimmed, List.getLast?_concat, List.dropLast_concat,
            Option.ite_none_left_eq_some] at split
          obtain ⟨notUp, split⟩ := split
          by_cases outermost : trimFields front = [] ∧ head = []
          · rw [if_pos (by simpa using outermost)] at split
            cases split
            exact ⟨notUp, .inr ⟨front, trimmed, (if_pos outermost).symm⟩⟩
          · rw [if_neg (by simpa using outermost)] at split
            cases split
            exact ⟨notUp, .inr ⟨front, trimmed, (if_neg outermost).symm⟩⟩

theorem filter_of_trimFields {tail front : List Text} {name : Text}
    (trimmed : trimFields tail = front ++ [name]) (solid : isTrivial name = false) :
    tail.filter (fun field => !isTrivial field) =
      (trimFields front).filter (fun field => !isTrivial field) ++ [name] := by
  rw [← filter_trimFields, trimmed, List.filter_append, filter_trimFields front]
  simp [solid]

/-- Cutting a path takes its last part off, which is a name. -/
theorem split?_eq_some {path parent name : Text} (split : split? path = some (parent, name)) :
    IsComponent name ∧ IsParent parent ∧ parts path = parts parent ++ [name] := by
  have noSlash := @Text.not_mem_fields '/' path
  obtain ⟨head, tail, fieldsIs, notUp, cut⟩ := exists_fields_of_split? split
  rw [fieldsIs] at noSlash
  rw [parts, fieldsIs]
  rcases cut with ⟨nothing, rfl, rfl, solid⟩ | ⟨front, trimmed, parentIs⟩
  · obtain ⟨notEmpty, notHere⟩ := isTrivial_eq_false.mp solid
    refine ⟨⟨notEmpty, notHere, notUp, noSlash name (by simp)⟩, .here, ?_⟩
    rw [partsOf_cons fun _ => notEmpty, if_neg notEmpty, ← filter_trimFields, nothing]
    rfl
  · have inTail {field : Text} (member : field ∈ front ++ [name]) : field ∈ tail :=
      mem_of_mem_trimFields (trimmed ▸ member)
    have solid : isTrivial name = false :=
      @trimFields_last tail name (by rw [trimmed, List.getLast?_concat])
    obtain ⟨notEmpty, notHere⟩ := isTrivial_eq_false.mp solid
    have named : IsComponent name :=
      ⟨notEmpty, notHere, notUp, noSlash name (List.mem_cons_of_mem _ (inTail (by simp)))⟩
    have some : tail ≠ [] := List.ne_nil_of_mem (@inTail name (by simp))
    rw [partsOf_cons fun nothing => absurd nothing some, filter_of_trimFields trimmed solid]
    by_cases outermost : trimFields front = [] ∧ head = []
    · rw [if_pos outermost] at parentIs
      subst parentIs
      refine ⟨named, .outermost, ?_⟩
      rw [outermost.1, if_pos outermost.2]
      rfl
    · rw [if_neg outermost] at parentIs
      subst parentIs
      have someHead : trimFields front = [] → head ≠ [] := by simpa using outermost
      have noSlashFront : ∀ field ∈ head :: trimFields front, '/' ∉ field := by
        refine List.forall_mem_cons.mpr ⟨noSlash head (by simp), fun field member => ?_⟩
        have inFront := List.mem_append_left [name] (mem_of_mem_trimFields member)
        exact noSlash field (List.mem_cons_of_mem _ (inTail inFront))
      refine ⟨named, .below someHead (trimFields_trimFields front) noSlashFront, ?_⟩
      rw [parts_intercalate someHead noSlashFront, List.cons_append]

theorem getLast?_intercalate {first : Text} {rest : List Text}
    (trimmed : trimFields rest = rest) (noSlash : ∀ field ∈ first :: rest, '/' ∉ field) :
    (['/'].intercalate (first :: rest)).getLast? ≠ some '/' := by
  intro slash
  obtain ⟨front, ends⟩ := List.getLast?_eq_some_iff.mp slash
  have fieldsIs := Text.fields_intercalate (List.cons_ne_nil first rest) noSlash
  rw [ends, Text.fields_append] at fieldsIs
  cases frontFields : Text.fields '/' front with
  | nil => exact Text.fields_ne_nil '/' front frontFields
  | cons field fields =>
      rw [frontFields, List.cons_append] at fieldsIs
      have restIs : rest = fields ++ [[]] := (List.cons.inj fieldsIs).2.symm
      have last : (trimFields rest).getLast? = some [] := by
        rw [trimmed, restIs, List.getLast?_concat]
      exact absurd (trimFields_last last) (by decide)

/-- A name put behind such a folder is cut off again. -/
theorem split?_join {parent name : Text} (folder : IsParent parent) (named : IsComponent name) :
    split? (join parent name) = some (parent, name) := by
  have relative : isAbsolute name = false := by simpa using named.notAbsolute []
  have alone : Text.fields '/' name = [name] := Text.fields_of_not_mem named.noSlash
  rw [join, if_neg (by simp [relative])]
  cases folder with
  | here =>
      rw [if_pos rfl, split?, alone]
      simp [trimFields, named.notTrivial, named.notUp]
  | outermost =>
      have fieldsIs : Text.fields '/' (['/'] ++ name) = [[], name] := by
        rw [List.singleton_append, Text.fields_cons, if_pos rfl, alone]
      rw [if_neg (by decide), if_pos (by decide), split?, fieldsIs]
      simp [trimFields, named.notTrivial, named.notUp]
  | @below first rest some trimmed noSlash =>
      have fieldsIs := Text.fields_intercalate (List.cons_ne_nil first rest) noSlash
      have notEmpty : ['/'].intercalate (first :: rest) ≠ [] := by
        intro nothing
        rw [nothing] at fieldsIs
        obtain ⟨rfl, rfl⟩ := List.cons.inj fieldsIs
        exact some rfl rfl
      have names : trimFields (rest ++ [name]) = rest ++ [name] :=
        trimFields_of_last fun last ends => by
          rw [List.getLast?_concat, Option.some.injEq] at ends
          rw [← ends, named.notTrivial]
      rw [if_neg notEmpty, if_neg (getLast?_intercalate trimmed noSlash), split?,
        Text.fields_append, fieldsIs, alone]
      simp only [List.cons_append, names, List.getLast?_concat, named.notUp, if_false,
        List.dropLast_concat, trimmed]
      exact if_neg (by simpa using some)

end Path

end Migration
