import Migration.Disk.Node
import Migration.Path

namespace Migration

/-! A disk and the calls that files are reached by.

Paths are taken from the working folder unless they are absolute, and links are followed on the
way.  A call can fail for what is, or is not, at the end of the path; the calls that publish a file
can also be refused by the device.  Names of entries are texts, and of a file only the content is
recorded: neither permissions nor whether two entries share a file.
-/

structure DiskError where
  text : String
  number : Option Nat
deriving DecidableEq, Repr

namespace DiskError

def noEntry : DiskError := ⟨"No such file or directory", some 2⟩

def notFolder : DiskError := ⟨"Not a directory", some 20⟩

def isFolder : DiskError := ⟨"Is a directory", some 21⟩

def nameTooLong : DiskError := ⟨"File name too long", some 36⟩

def tooManyLinks : DiskError := ⟨"Too many levels of symbolic links", some 40⟩

def nulInName : DiskError := ⟨"file name contained an unexpected NUL byte", none⟩

def message (error : DiskError) : String :=
  match error.number with
  | some number => s!"{error.text} (os error {number})"
  | none => error.text

end DiskError

/-- The calls made to publish a file. -/
inductive PublishCall where
  | resolve
  | create
  | write
  | flush
  | sync
  | setPermissions
  | rename
deriving DecidableEq, Repr

structure Disk where
  /-- The outermost folder. -/
  root : Node
  workingFolder : Location
  /-- What a leading tilde stands for. -/
  home : Option Text := none
  /-- The text that a web address yields, or one sentence on why there is none. -/
  download : Text → Except String Text := fun _ => .error "no connection to fetch the table over"
  /-- Calls that the device refuses, and why. -/
  refused : PublishCall → Option DiskError := fun _ => none

namespace Disk

/-- How many links are followed on the way to one entry. -/
def linkLimit : Nat := 40

/-- The length in bytes up to which an entry can have a name. -/
def nameLimit : Nat := 255

/-- The length in bytes that the path given to a call stays below. -/
def pathLimit : Nat := 4096

def isTooLong (path : Text) : Bool :=
  pathLimit ≤ path.str.utf8ByteSize

/-- A location written as an absolute path. -/
def pathOf (location : Location) : Text :=
  '/' :: ['/'].intercalate location

/-- Whether the steps that lead on from a place need a folder there: they lead up from it, or only
back to it. -/
def asksFolder : List Text → Bool
  | [] => false
  | step :: rest =>
      if step = ['.'] then rest.isEmpty || asksFolder rest else step = ['.', '.']

/-- The path by which a place is looked at, with a slash behind it if a folder is needed there.  A
link does not have to be a folder. -/
def lookedAt (place : Location) (found : Option Node) (rest : List Text) : Text :=
  match found with
  | some (.link _) => pathOf place
  | _ => if asksFolder rest then pathOf place ++ ['/'] else pathOf place

/-- Takes the steps one by one from the folder `here`.  A place is passed only if `admits` holds of
the path it is looked at by.  At a link `follow` takes over, with the folder it is in and the steps
that its target adds.  The last step may lead to a place where there is nothing yet. -/
def walk (root : Node) (admits : Text → Bool)
    (follow : Location → List Text → Except DiskError Location) :
    Location → List Text → Except DiskError Location
  | here, [] => .ok here
  | here, step :: rest =>
      if step = ['.'] then walk root admits follow here rest
      else if step = ['.', '.'] then walk root admits follow here.dropLast rest
      else if nameLimit < step.str.utf8ByteSize then .error .nameTooLong
      else if !admits (lookedAt (here ++ [step]) (root.node? (here ++ [step])) rest) then
        .error .nameTooLong
      else
        match root.node? (here ++ [step]) with
        | none => if rest = [] then .ok (here ++ [step]) else .error .noEntry
        | some (.folder _) => walk root admits follow (here ++ [step]) rest
        | some (.file _) => if rest = [] then .ok (here ++ [step]) else .error .notFolder
        | some (.link target) =>
            follow (if Path.isAbsolute target then [] else here) (Path.steps target ++ rest)

/-- The location that the steps lead to, following no more than `links` links. -/
def locateFrom (root : Node) (admits : Text → Bool) :
    (links : Nat) → Location → List Text → Except DiskError Location
  | 0 => walk root admits fun _ _ => .error .tooManyLinks
  | links + 1 => walk root admits (locateFrom root admits links)

/-- Where a path leads. -/
def follow (disk : Disk) (admits : Text → Bool) (path : Text) : Except DiskError Location :=
  if path = [] then .error .noEntry
  else
    locateFrom disk.root admits linkLimit
      (if Path.isAbsolute path then [] else disk.workingFolder) (Path.steps path)

/-- A call goes along the path that it is given, wherever the places on the way are. -/
def anyPlace (_ : Text) : Bool := true

/-- A real path is put together on the way, and each place is looked at by what there is of it. -/
def shortPlace (place : Text) : Bool :=
  !isTooLong place

/-- Where a path given to a call leads, whether or not there is something. -/
def locate (disk : Disk) (path : Text) : Except DiskError Location :=
  if '\x00' ∈ path then .error .nulInName
  else if isTooLong path then .error .nameTooLong
  else disk.follow anyPlace path

def present (disk : Disk) (location : Location) : Except DiskError Location :=
  match disk.root.node? location with
  | some _ => .ok location
  | none => .error .noEntry

/-- Where a path leads, if there is something. -/
def resolve (disk : Disk) (path : Text) : Except DiskError Location :=
  disk.locate path >>= disk.present

def nodeAt? (disk : Disk) (path : Text) : Option Node :=
  match disk.resolve path with
  | .ok location => disk.root.node? location
  | .error _ => none

def «exists» (disk : Disk) (path : Text) : Bool :=
  (disk.nodeAt? path).isSome

def isFolder (disk : Disk) (path : Text) : Bool :=
  (disk.nodeAt? path).any Node.isFolder

def isFile (disk : Disk) (path : Text) : Bool :=
  (disk.nodeAt? path).any Node.isFile

/-- The location of the entry that a path leads to in the end.  The path itself can have any length,
but not the absolute paths of the places on the way. -/
def realLocation (disk : Disk) (path : Text) : Except DiskError Location :=
  if '\x00' ∈ path then .error .nulInName
  else disk.follow shortPlace path >>= disk.present

/-- The real location as a path, or the path itself if there is no telling. -/
def realPath (disk : Disk) (path : Text) : Text :=
  match disk.realLocation path with
  | .ok location => pathOf location
  | .error _ => path

def readFile (disk : Disk) (path : Text) : Except DiskError (List UInt8) := do
  let location ← disk.resolve path
  match disk.root.node? location with
  | some (.file content) => return content
  | some (.folder _) => .error .isFolder
  | _ => .error .noEntry

/-- Opens a path for writing: a file there is emptied, a missing one made, and a link followed. -/
def createFile (disk : Disk) (path : Text) : Except DiskError Location := do
  let location ← disk.locate path
  match disk.root.node? location with
  | some (.folder _) => .error .isFolder
  | _ => return location

def setFile (disk : Disk) (location : Location) (content : List UInt8) : Disk :=
  { disk with root := disk.root.put location (.file content) }

/-- Moves the entry at one location to another, replacing what is there. -/
def moveEntry (disk : Disk) (source target : Location) : Disk :=
  match disk.root.node? source with
  | some node => { disk with root := (disk.root.erase source).put target node }
  | none => disk

def removeEntry (disk : Disk) (location : Location) : Disk :=
  { disk with root := disk.root.erase location }

/-- Where an entry is or would be, a link at the end of the path not followed. -/
def entryLocation (disk : Disk) (path : Text) : Except DiskError Location :=
  match Path.split? path with
  | none => disk.resolve path
  | some (parent, name) => do
      let folder ← if parent = [] then .ok disk.workingFolder else disk.resolve parent
      return folder ++ [name]

end Disk

end Migration
