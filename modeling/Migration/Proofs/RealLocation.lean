import Mathlib.Data.List.Induction
import Migration.Proofs.Action
import Migration.Proofs.Resolution

namespace Migration

/-! Real locations.

A walk that arrives is told step by step, so that what one step keeps holds of the whole way.  Two
calls that take the same way arrive at the same place, though one of them may be refused on the way
and the other not.  Where a real location is found, its own path is not too long and leads there.
-/

namespace Disk

variable {root : Node} {admits : Text → Bool}

/-- The steps lead from a folder to a place, with no more than `links` links followed. -/
inductive Leads (root : Node) (admits : Text → Bool) :
    (links : Nat) → Location → List Text → Location → Prop where
  | arrives (links : Nat) (here : Location) : Leads root admits links here [] here
  | stays {links : Nat} {here place : Location} {rest : List Text}
      (later : Leads root admits links here rest place) :
      Leads root admits links here (['.'] :: rest) place
  | leaves {links : Nat} {here place : Location} {rest : List Text}
      (later : Leads root admits links here.dropLast rest place) :
      Leads root admits links here (['.', '.'] :: rest) place
  | enters {links : Nat} {here place : Location} {step : Text} {rest : List Text}
      {entries : List (Text × Node)} (passed : Passed root admits here step rest)
      (isFolder : root.node? (here ++ [step]) = some (.folder entries))
      (later : Leads root admits links (here ++ [step]) rest place) :
      Leads root admits links here (step :: rest) place
  | ends (links : Nat) {here : Location} {step : Text} (passed : Passed root admits here step [])
      (isPlain : root.node? (here ++ [step]) = none ∨
        ∃ content, root.node? (here ++ [step]) = some (.file content)) :
      Leads root admits links here [step] (here ++ [step])
  | follows {links : Nat} {here place : Location} {step target : Text} {rest : List Text}
      (passed : Passed root admits here step rest)
      (isLink : root.node? (here ++ [step]) = some (.link target))
      (later : Leads root admits links (if Path.isAbsolute target then [] else here)
        (Path.steps target ++ rest) place) :
      Leads root admits (links + 1) here (step :: rest) place

theorem leads_of_walk {follow : Location → List Text → Except DiskError Location} {links : Nat}
    (follows : ∀ here steps place, follow here steps = .ok place →
      ∃ fewer, links = fewer + 1 ∧ Leads root admits fewer here steps place)
    {here place : Location} {steps : List Text}
    (reached : walk root admits follow here steps = .ok place) :
    Leads root admits links here steps place := by
  induction steps generalizing here with
  | nil =>
      cases reached
      exact .arrives links _
  | cons step rest ih =>
      by_cases stays : step = ['.']
      · subst stays
        exact .stays (ih reached)
      by_cases leaves : step = ['.', '.']
      · subst leaves
        exact .leaves (ih reached)
      have passed : Passed root admits here step rest := by
        rw [walk, if_neg stays, if_neg leaves] at reached
        split at reached
        · cases reached
        · next short =>
            split at reached
            · cases reached
            · next admitted =>
                exact ⟨stays, leaves, Nat.not_lt.mp short, by simpa using admitted⟩
      rw [passed.walk] at reached
      cases found : root.node? (here ++ [step]) with
      | none =>
          simp only [found] at reached
          split at reached
          · next last =>
              subst last
              cases reached
              exact .ends links passed (.inl found)
          · cases reached
      | some node =>
          cases node with
          | folder entries =>
              simp only [found] at reached
              exact .enters passed found (ih reached)
          | file content =>
              simp only [found] at reached
              split at reached
              · next last =>
                  subst last
                  cases reached
                  exact .ends links passed (.inr ⟨content, found⟩)
              · cases reached
          | link target =>
              simp only [found] at reached
              obtain ⟨fewer, rfl, later⟩ := follows _ _ _ reached
              exact .follows passed found later

/-- A call arrives where the relation says. -/
theorem locateFrom_eq_ok {links : Nat} {here place : Location} {steps : List Text} :
    locateFrom root admits links here steps = .ok place ↔
      Leads root admits links here steps place := by
  constructor
  · intro reached
    induction links generalizing here steps place with
    | zero => exact leads_of_walk (fun _ _ _ refused => by cases refused) reached
    | succ links ih =>
        exact leads_of_walk (fun _ _ _ reached => ⟨links, rfl, ih reached⟩) reached
  · intro leads
    induction leads with
    | arrives links here => exact locateFrom_nil links here
    | @stays links _ _ _ _ ih => cases links <;> exact ih
    | @leaves links _ _ _ _ ih => cases links <;> exact ih
    | @enters links _ _ _ _ _ passed isFolder _ ih =>
        cases links <;> rw [locateFrom, passed.walk, isFolder] <;> exact ih
    | ends links passed isPlain =>
        cases links <;> rw [locateFrom, passed.walk] <;>
          rcases isPlain with nothing | ⟨content, isFile⟩ <;> simp only [*] <;> rfl
    | follows passed isLink _ ih =>
        rw [locateFrom, passed.walk, isLink]
        exact ih

/-- A way stays open if more places are passed. -/
theorem Leads.mono {others : Text → Bool}
    (more : ∀ place, admits place = true → others place = true)
    {links : Nat} {here place : Location} {steps : List Text}
    (leads : Leads root admits links here steps place) :
    Leads root others links here steps place := by
  induction leads with
  | arrives links here => exact .arrives links here
  | stays _ ih => exact .stays ih
  | leaves _ ih => exact .leaves ih
  | enters passed isFolder _ ih =>
      exact .enters { passed with admitted := more _ passed.admitted } isFolder ih
  | ends links passed isPlain =>
      exact .ends links { passed with admitted := more _ passed.admitted } isPlain
  | follows passed isLink _ ih =>
      exact .follows { passed with admitted := more _ passed.admitted } isLink ih

/-! Places with a path that is not too long. -/

theorem fits_of_append {first : Location} (rest : Location)
    (fits : isTooLong (pathOf (first ++ rest)) = false) : isTooLong (pathOf first) = false := by
  induction rest using List.reverseRecOn with
  | nil => rwa [List.append_nil] at fits
  | append_singleton rest name ih =>
      by_cases outermost : first ++ rest = []
      · rw [(List.append_eq_nil_iff.mp outermost).1]
        decide
      · rw [← List.append_assoc, pathOf_append outermost] at fits
        exact ih (isTooLong_append fits)

theorem fits_of_passed {here : Location} {step : Text} {rest : List Text}
    (passed : Passed root shortPlace here step rest) :
    isTooLong (pathOf (here ++ [step])) = false := by
  have fits := passed.admitted
  simp only [shortPlace, Bool.not_eq_true', lookedAt] at fits
  split at fits
  · exact fits
  · by_cases asks : asksFolder rest = true
    · rw [if_pos asks] at fits
      exact isTooLong_append fits
    · rwa [if_neg asks] at fits

theorem isFolder_dropLast {here : Location} {entries : List (Text × Node)}
    (isFolder : root.node? here = some (.folder entries)) :
    ∃ siblings, root.node? here.dropLast = some (.folder siblings) := by
  rcases List.eq_nil_or_concat here with rfl | ⟨parents, name, rfl⟩
  · exact ⟨entries, isFolder⟩
  · rw [List.concat_eq_append] at isFolder ⊢
    rw [List.dropLast_concat]
    exact Node.exists_folder_of_append isFolder

theorem fits_dropLast {here : Location} (fits : isTooLong (pathOf here) = false) :
    isTooLong (pathOf here.dropLast) = false := by
  rcases List.eq_nil_or_concat here with rfl | ⟨parents, name, rfl⟩
  · exact fits
  · rw [List.concat_eq_append] at fits ⊢
    rw [List.dropLast_concat]
    exact fits_of_append [name] fits

/-- A way whose places have short paths ends at such a place, and not at a link. -/
theorem Leads.ends_fit {links : Nat} {here place : Location} {steps : List Text}
    {entries : List (Text × Node)} (leads : Leads root shortPlace links here steps place)
    (isFolder : root.node? here = some (.folder entries))
    (fits : isTooLong (pathOf here) = false) :
    isTooLong (pathOf place) = false ∧ ∀ target, root.node? place ≠ some (.link target) := by
  induction leads generalizing entries with
  | arrives => exact ⟨fits, by simp [isFolder]⟩
  | stays _ ih => exact ih isFolder fits
  | leaves _ ih =>
      obtain ⟨siblings, isFolder⟩ := isFolder_dropLast isFolder
      exact ih isFolder (fits_dropLast fits)
  | enters passed inside _ ih => exact ih inside (fits_of_passed passed)
  | ends _ passed isPlain =>
      refine ⟨fits_of_passed passed, ?_⟩
      rcases isPlain with nothing | ⟨content, isFile⟩
      · simp [nothing]
      · simp [isFile]
  | @follows _ here _ _ target _ _ _ _ ih =>
      by_cases absolute : Path.isAbsolute target = true
      · rw [if_pos absolute] at ih
        obtain ⟨siblings, outermost⟩ := @Node.exists_folder_of_append root [] here _ isFolder
        exact ih outermost (by decide)
      · rw [if_neg absolute] at ih
        exact ih isFolder fits

/-! Where calls arrive. -/

variable {disk : Disk} {path : Text} {location : Location}

theorem follow_eq_ok : disk.follow admits path = .ok location ↔ path ≠ [] ∧
    Leads disk.root admits linkLimit (if Path.isAbsolute path then [] else disk.workingFolder)
      (Path.steps path) location := by
  rw [Disk.follow, ← locateFrom_eq_ok]
  by_cases nothing : path = []
  · simp [nothing]
  · simp [nothing]

theorem present_eq_ok {found : Location} :
    disk.present found = .ok location ↔
      found = location ∧ ∃ node, disk.root.node? location = some node := by
  rw [Disk.present]
  cases there : disk.root.node? found with
  | none =>
      constructor
      · intro failed
        cases failed
      · rintro ⟨rfl, node, present⟩
        simp [present] at there
  | some node =>
      constructor
      · rintro ⟨⟩
        exact ⟨rfl, node, there⟩
      · rintro ⟨rfl, _⟩
        rfl

theorem realLocation_eq_ok : disk.realLocation path = .ok location ↔
    '\x00' ∉ path ∧ disk.follow shortPlace path = .ok location ∧
      ∃ node, disk.root.node? location = some node := by
  rw [realLocation]
  by_cases nul : '\x00' ∈ path
  · simp [nul]
  · rw [if_neg nul, bind_eq_ok]
    simp only [present_eq_ok, nul, not_false_eq_true, true_and]
    constructor
    · rintro ⟨found, followed, rfl, present⟩
      exact ⟨followed, present⟩
    · rintro ⟨followed, present⟩
      exact ⟨location, followed, rfl, present⟩

/-- Where there is a real location, every call that gets through arrives there. -/
theorem realLocation_unique {other : Location} (real : disk.realLocation path = .ok location)
    (resolved : disk.resolve path = .ok other) : location = other := by
  obtain ⟨found, located, present⟩ := bind_eq_ok.mp resolved
  obtain ⟨rfl, _⟩ := present_eq_ok.mp present
  obtain ⟨some, leads⟩ := follow_eq_ok.mp (realLocation_eq_ok.mp real).2.1
  have followed : disk.follow anyPlace path = .ok location :=
    follow_eq_ok.mpr ⟨some, leads.mono fun _ _ => rfl⟩
  exact Except.ok.inj (followed.symm.trans (follow_of_locate located).2.2)

/-- Where the calls of a path begin. -/
def start (disk : Disk) (path : Text) : Location :=
  if Path.isAbsolute path then [] else disk.workingFolder

theorem realLocation_fits {entries : List (Text × Node)}
    (real : disk.realLocation path = .ok location)
    (isFolder : disk.root.node? (disk.start path) = some (.folder entries))
    (fits : isTooLong (pathOf (disk.start path)) = false) :
    isTooLong (pathOf location) = false ∧
      ∀ target, disk.root.node? location ≠ some (.link target) :=
  (follow_eq_ok.mp (realLocation_eq_ok.mp real).2.1).2.ends_fit isFolder fits

/-- A real path leads to its own location. -/
theorem realLocation_pathOf (formed : disk.WellFormed) (absolute : Path.isAbsolute path = true)
    (real : disk.realLocation path = .ok location) :
    disk.realLocation (pathOf location) = .ok location := by
  obtain ⟨_, _, node, present⟩ := realLocation_eq_ok.mp real
  have begins : disk.start path = [] := if_pos absolute
  obtain ⟨entries, outermost⟩ : ∃ entries, disk.root = .folder entries := by
    have isFolder := formed.isFolder
    cases root : disk.root <;> simp_all [Node.isFolder]
  obtain ⟨fits, notLink⟩ := realLocation_fits real
    (by rw [begins, Node.node?_nil, outermost]) (by rw [begins]; decide)
  obtain ⟨named, _⟩ := Node.wellFormed_node? formed.tree present
  refine realLocation_eq_ok.mpr
    ⟨nul_not_mem_pathOf fun name member => (named name member).noNul, ?_, node, present⟩
  rcases List.eq_nil_or_concat location with rfl | ⟨parents, name, rfl⟩
  · rfl
  · rw [List.concat_eq_append] at *
    have parentsNamed := fun other member => named other (List.mem_append_left _ member)
    have last := named name (by simp)
    rw [Node.node?_append] at present
    obtain ⟨folder, parent, inside⟩ := Option.bind_eq_some_iff.mp present
    obtain ⟨siblings, _, rfl, _⟩ := Node.eq_folder_of_node?_cons inside
    have passed : Passes disk.root shortPlace [] parents [name] := by
      intro front other behind split
      have asks : asksFolder (behind ++ [name]) = false := by
        cases behind with
        | nil => exact asksFolder_name last.toIsComponent []
        | cons next behind =>
            exact asksFolder_name (parentsNamed next (by simp [split])).toIsComponent _
      rw [lookedAt_of_asksFolder asks, shortPlace, Bool.not_eq_true', List.nil_append]
      refine fits_of_append (behind ++ [name]) ?_
      rw [split] at fits
      simpa using fits
    rw [follow_pathOf_entry parentsNamed parent last.toIsComponent passed]
    exact locateFrom_last last (by rw [shortPlace, fits]; rfl) notLink linkLimit

theorem pathOf_injective {left right : Location} (named : ∀ name ∈ left, Path.IsComponent name)
    (alsoNamed : ∀ name ∈ right, Path.IsComponent name) (same : pathOf left = pathOf right) :
    left = right := by
  have names (location : Location) (named : ∀ name ∈ location, Path.IsComponent name) :
      (Text.fields '/' (pathOf location)).filter (· ≠ []) = location := by
    by_cases outermost : location = []
    · rw [outermost]
      decide
    · rw [fields_pathOf named outermost, List.filter_cons_of_neg (by simp)]
      exact List.filter_eq_self.mpr fun name member => by simpa using (named name member).notEmpty
  rw [← names left named, same, names right alsoNamed]

/-- Paths are known to lead to the same file if they are the same or have the same real location. -/
def SameFile (disk : Disk) (first second : Text) : Prop :=
  first = second ∨
    ∃ location, disk.realLocation first = .ok location ∧ disk.realLocation second = .ok location

theorem realPath_of_realLocation (real : disk.realLocation path = .ok location) :
    disk.realPath path = pathOf location := by
  rw [realPath, real]

theorem realPath_of_error {error : DiskError} (failed : disk.realLocation path = .error error) :
    disk.realPath path = path := by
  rw [realPath, failed]

/-- A path that stands for itself is not taken for the real path of another one. -/
theorem realPath_ne_of_error {other : Text} {error : DiskError} (formed : disk.WellFormed)
    (alike : Path.isAbsolute path = Path.isAbsolute other)
    (real : disk.realLocation path = .ok location)
    (failed : disk.realLocation other = .error error) :
    disk.realPath path ≠ disk.realPath other := by
  rw [realPath_of_realLocation real, realPath_of_error failed]
  rintro rfl
  have absolute : Path.isAbsolute path = true := alike.trans rfl
  rw [realLocation_pathOf formed absolute real] at failed
  cases failed

theorem realPath_eq_iff {first second : Text} (formed : disk.WellFormed)
    (alike : Path.isAbsolute first = Path.isAbsolute second) :
    disk.realPath first = disk.realPath second ↔ SameFile disk first second := by
  constructor
  · intro same
    cases firstReal : disk.realLocation first with
    | error error =>
        cases secondReal : disk.realLocation second with
        | error _ =>
            rw [realPath_of_error firstReal, realPath_of_error secondReal] at same
            exact .inl same
        | ok _ =>
            exact absurd same.symm (realPath_ne_of_error formed alike.symm secondReal firstReal)
    | ok location =>
        cases secondReal : disk.realLocation second with
        | error _ => exact absurd same (realPath_ne_of_error formed alike firstReal secondReal)
        | ok other =>
            have named {path : Text} {place : Location}
                (real : disk.realLocation path = .ok place) :
                ∀ name ∈ place, Path.IsComponent name := by
              obtain ⟨_, _, node, present⟩ := realLocation_eq_ok.mp real
              exact fun name member =>
                ((Node.wellFormed_node? formed.tree present).1 name member).toIsComponent
            rw [realPath_of_realLocation firstReal, realPath_of_realLocation secondReal] at same
            obtain rfl := pathOf_injective (named firstReal) (named secondReal) same
            exact .inr ⟨location, firstReal, secondReal⟩
  · rintro (rfl | ⟨location, firstReal, secondReal⟩)
    · rfl
    · rw [realPath_of_realLocation firstReal, realPath_of_realLocation secondReal]

end Disk

end Migration
