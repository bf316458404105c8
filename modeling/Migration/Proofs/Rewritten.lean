import Migration.Proofs.FileEdit

namespace Migration

/-! Disks that differ in the content of some files.

On such disks every path leads to the same place, and every file that is not among those is read
with the same text.
-/

theorem Disk.WellFormed.setFile {disk : Disk} {location : Location} {old : List UInt8}
    (formed : disk.WellFormed) (present : disk.root.node? location = some (.file old))
    (new : List UInt8) : (disk.setFile location new).WellFormed where
  isFolder := by
    have same := Node.shape_put_file formed.tree present new []
    simp only [Node.node?_nil, Option.map_some, Option.some.injEq] at same
    have isFolder := formed.isFolder
    rw [Disk.setFile]
    cases before : disk.root <;> cases after : disk.root.put location (.file new) <;>
      simp_all [Node.isFolder, Node.shape]
  tree := Node.wellFormed_put_file formed.tree present new

/-- The disk `current` is `start` with new contents for the files at the `touched` locations. -/
structure Disk.Rewritten (start current : Disk) (touched : List Location) : Prop where
  formed : current.WellFormed
  shape : ∀ location,
    (current.root.node? location).map Node.shape = (start.root.node? location).map Node.shape
  others : ∀ location, location ∉ touched →
    current.root.surface? location = start.root.surface? location
  workingFolder : current.workingFolder = start.workingFolder
  refused : current.refused = start.refused

namespace Disk.Rewritten

variable {start current : Disk} {touched : List Location}

theorem refl (formed : start.WellFormed) : Rewritten start start [] :=
  ⟨formed, fun _ => rfl, fun _ _ => rfl, rfl, rfl⟩

theorem setFile {location : Location} {old : List UInt8}
    (rewritten : Rewritten start current touched)
    (present : current.root.node? location = some (.file old)) (new : List UInt8) :
    Rewritten start (current.setFile location new) (location :: touched) where
  formed := rewritten.formed.setFile present new
  shape other := (Node.shape_put_file rewritten.formed.tree present new other).trans
    (rewritten.shape other)
  others other untouched := by
    rw [List.mem_cons, not_or] at untouched
    rw [← rewritten.others other untouched.2, Disk.setFile,
      Node.surface?_put_file rewritten.formed.tree present, if_neg untouched.1]
  workingFolder := rewritten.workingFolder
  refused := rewritten.refused

theorem present_iff (rewritten : Rewritten start current touched) (location : Location) :
    current.root.node? location = none ↔ start.root.node? location = none := by
  have same := rewritten.shape location
  rw [← Option.map_eq_none_iff (f := Node.shape), same, Option.map_eq_none_iff]

/-- There is a node on both disks, of one shape, or on neither. -/
theorem nodes (rewritten : Rewritten start current touched) (location : Location) :
    (current.root.node? location = none ∧ start.root.node? location = none) ∨
      ∃ node old, current.root.node? location = some node ∧
        start.root.node? location = some old ∧ node.shape = old.shape := by
  have same := rewritten.shape location
  cases there : current.root.node? location with
  | none => exact .inl ⟨rfl, (rewritten.present_iff location).mp there⟩
  | some node =>
      rw [there] at same
      obtain ⟨old, before, shape⟩ := Option.map_eq_some_iff.mp same.symm
      exact .inr ⟨node, old, rfl, before, shape.symm⟩

theorem follow (rewritten : Rewritten start current touched) (admits : Text → Bool)
    (path : Text) : current.follow admits path = start.follow admits path := by
  simp only [Disk.follow, rewritten.workingFolder, locateFrom_congr rewritten.shape]

theorem locate (rewritten : Rewritten start current touched) (path : Text) :
    current.locate path = start.locate path := by
  simp only [Disk.locate, rewritten.follow]

theorem present (rewritten : Rewritten start current touched) :
    current.present = start.present := by
  funext location
  rcases rewritten.nodes location with ⟨there, before⟩ | ⟨_, _, there, before, _⟩ <;>
    simp only [Disk.present, there, before]

theorem resolve (rewritten : Rewritten start current touched) (path : Text) :
    current.resolve path = start.resolve path := by
  rw [Disk.resolve, Disk.resolve, rewritten.locate, rewritten.present]

theorem realLocation (rewritten : Rewritten start current touched) (path : Text) :
    current.realLocation path = start.realLocation path := by
  rw [Disk.realLocation, Disk.realLocation, rewritten.follow, rewritten.present]

theorem createFile (rewritten : Rewritten start current touched) (path : Text) :
    current.createFile path = start.createFile path := by
  simp only [Disk.createFile, rewritten.locate]
  congr
  funext location
  rcases rewritten.nodes location with ⟨there, before⟩ | ⟨node, old, there, before, same⟩
  · rw [there, before]
  · rw [there, before]
    cases node <;> cases old <;> simp_all [Node.shape]

theorem entryLocation (rewritten : Rewritten start current touched) (path : Text) :
    current.entryLocation path = start.entryLocation path := by
  simp only [Disk.entryLocation, rewritten.resolve, rewritten.workingFolder]

theorem stagingClear (rewritten : Rewritten start current touched) {path : Text}
    (clear : Publication.StagingClear start path) : Publication.StagingClear current path where
  isReal := by
    obtain ⟨location, real⟩ := clear.isReal
    exact ⟨location, (rewritten.realLocation path).trans real⟩
  nothing place stages := by
    obtain ⟨location, staging, real, staged, found⟩ := stages
    rw [rewritten.realLocation] at real
    rw [rewritten.entryLocation] at found
    exact (rewritten.present_iff place).mpr
      (clear.nothing place ⟨location, staging, real, staged, found⟩)
  creates location staging real staged := by
    rw [rewritten.realLocation] at real
    rw [rewritten.createFile]
    exact clear.creates location staging real staged

theorem readText (rewritten : Rewritten start current touched) {path : Text}
    (untouched : ∀ location, start.resolve path = .ok location → location ∉ touched) :
    current.readText path = start.readText path := by
  have read : current.readFile path = start.readFile path := by
    simp only [Disk.readFile, rewritten.resolve]
    cases resolved : start.resolve path with
    | error reason => rfl
    | ok location =>
        have same := rewritten.others location (untouched location resolved)
        simp only [ok_bind]
        rcases rewritten.nodes location with ⟨there, before⟩ | ⟨node, old, there, before, _⟩
        · rw [there, before]
        · rw [Node.surface?, Node.surface?, there, before, Option.map_some, Option.map_some,
            Option.some_inj] at same
          rw [there, before]
          cases node <;> cases old <;> simp_all [Node.surface]
  simp only [Disk.readText, read]

end Disk.Rewritten

end Migration
