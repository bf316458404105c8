import Migration.CommandLine

namespace Migration.Machine

/-! The program: a command line carried out on the files of this machine.

What the command can read is first taken over into a disk, on which the command is then answered.
Afterwards what the files of that disk contain is written into the files of the machine, which stay
the same entries.  A link is taken over as a link to the entry it leads to in the end.
-/

def pathString (location : Location) : String :=
  (Disk.pathOf location).str

def locationOf (path : String) : Location :=
  (Path.steps path.toList).filter (· ≠ ['.'])

/-- The type of the entry at a location, a link not followed. -/
def typeAt (location : Location) : IO (Option IO.FS.FileType) := do
  let entry : IO.FS.DirEntry :=
    { root := pathString location.dropLast, fileName := (location.getLast?.getD ['.']).str }
  try return some (← entry.path.symlinkMetadata).type catch _ => return none

/-- Where the entry is that a location leads to. -/
def realLocation? (location : Location) : IO (Option Location) := do
  try return some (locationOf (← IO.FS.realPath (pathString location)).toString)
  catch _ => return none

def put (disk : Disk) (location : Location) (node : Node) : Disk :=
  { disk with root := disk.root.put location node }

def takeFile (disk : Disk) (location : Location) : IO Disk := do
  let content ← IO.FS.readBinFile (pathString location)
  return put disk location (.file content.toList)

/-- Makes sure that there is a folder on the disk, whether or not its entries are there. -/
def takeFolder (disk : Disk) (location : Location) : Disk :=
  match disk.root.node? location with
  | some (.folder _) => disk
  | _ => put disk location .emptyFolder

/-- Takes over a link and the entry that it leads to.  A link that leads nowhere becomes one that
leads to itself. -/
def takeLink (disk : Disk) (location : Location) : IO (Disk × Option Location) := do
  match ← realLocation? location with
  | none => return (put disk location (.link (location.getLast?.getD ['.'])), none)
  | some real =>
      let disk := put disk location (.link (Disk.pathOf real))
      match ← typeAt real with
      | some .file => return (← takeFile disk real, some real)
      | some .dir => return (takeFolder disk real, some real)
      | _ => return (disk, some real)

/-- Takes over what lies on the way from `here` along the steps, and the entry at their end. -/
partial def takePath (disk : Disk) (here : Location) : List Text → IO (Disk × Option Location)
  | [] => return (disk, some here)
  | step :: rest => do
      if step = ['.'] then takePath disk here rest
      else if step = ['.', '.'] then takePath disk here.dropLast rest
      else
        let next := here ++ [step]
        match ← typeAt next with
        | some .dir => takePath (takeFolder disk next) next rest
        | some .symlink =>
            match ← takeLink disk next with
            | (disk, some real) => takePath disk real rest
            | (disk, none) => return (disk, none)
        | some .file => return (← takeFile disk next, some next)
        | _ => return (disk, none)

/-- Makes sure that there is a file on the disk whose content nobody asks for. -/
def takeName (disk : Disk) (location : Location) : Disk :=
  if (disk.root.node? location).isSome then disk else put disk location (.file [])

/-- Takes over what is below a folder: the files to migrate with their content, the others by name.
Folders that are never walked stay empty. -/
partial def takeBelow (classifier : Classifier) (disk : Disk) (location : Location) : IO Disk := do
  let folder ← IO.FS.realPath (pathString location)
  (← folder.readDir).foldlM (fun disk entry => do
    let name := entry.fileName.toList
    let next := location ++ [name]
    match ← typeAt next with
    | some .dir =>
        if skippedFolders.contains name then return takeFolder disk next
        else takeBelow classifier (takeFolder disk next) next
    | some .symlink => return (← takeLink disk next).1
    | some .file =>
        if (classifier.kindOf name).isSome then takeFile disk next else return takeName disk next
    | _ => return disk) disk

def takeEntry (disk : Disk) (path : Text) : IO (Disk × Option Location) :=
  takePath disk (if Path.isAbsolute path then [] else disk.workingFolder) (Path.steps path)

def takeTree (classifier : Classifier) (disk : Disk) (path : Text) : IO Disk := do
  match ← takeEntry disk path with
  | (disk, some location) =>
      if disk.isFolder (Disk.pathOf location) then takeBelow classifier disk location
      else return disk
  | (disk, none) => return disk

def takeTable (disk : Disk) : TableSource → IO Disk
  | .url _ => return disk
  | .file path => return (← takeEntry disk path).1

/-- The disk that a command with the given options is answered on.  Nothing more is taken over once
the command is bound to fail. -/
def takeInputs (disk : Disk) (options : RunOptions) : IO Disk := do
  let config := options.config.getD (Path.join options.root Config.fileName)
  let (disk, _) ← takeEntry disk config
  match Run.prepare disk options with
  | .error _ => return disk
  | .ok setup =>
      let disk ← takeTable (← takeTable disk setup.symbolTable) setup.artifactTable
      match setup.config.classifier with
      | .error _ => return disk
      | .ok classifier => takeTree classifier disk options.root

/-- The files that `after` has and `before` does not have with the same content. -/
def changedFiles (before after : Disk) : List (Location × List UInt8) :=
  (after.root.listing []).filterMap fun (location, node) =>
    match node with
    | .file content =>
        match before.root.node? location with
        | some (.file old) => if old = content then none else some (location, content)
        | _ => some (location, content)
    | _ => none

def emptyDisk : IO Disk := do
  return {
    root := .emptyFolder
    workingFolder := locationOf (← IO.currentDir).toString
    home := (← IO.getEnv "HOME").map String.toList }

def run (given : List Text) : IO UInt32 := do
  let start ← emptyDisk
  let disk ← match CommandLine.parse given with
    | .ok line => takeInputs start (line.runOptions start.home)
    | .error _ => pure start
  let response := CommandLine.respond given disk
  IO.eprint response.diagnostics
  for (location, content) in changedFiles disk response.disk do
    IO.FS.writeBinFile (pathString location) (ByteArray.mk content.toArray)
  IO.print response.output
  return UInt32.ofNat response.exitStatus

end Migration.Machine

def main (arguments : List String) : IO UInt32 :=
  Migration.Machine.run (arguments.map String.toList)
