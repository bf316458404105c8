import Migration.Disk.Action

namespace Migration

/-! Where a mapping table comes from: a web address, or a file. -/

inductive TableSource where
  | url (address : Text)
  | file (path : Text)
deriving DecidableEq, Repr

namespace TableSource

/-- Web addresses are told by their scheme; everything else is a path, with or without the scheme
for files in front. -/
def parse (home : Option Text) (raw : Text) : TableSource :=
  let trimmed := Text.trim raw
  if "http://".toList.isPrefixOf trimmed || "https://".toList.isPrefixOf trimmed then .url trimmed
  else .file (Path.expandHome home (("file://".toList.isPrefixOf? trimmed).getD trimmed))

def label : TableSource → Text
  | url address => address
  | file path => path

/-- A relative path taken from `root`. -/
def relativeTo (root : Text) : TableSource → TableSource
  | url address => .url address
  | file path => if Path.isAbsolute path then .file path else .file (Path.join root path)

/-- The text at the source, or one sentence on why there is none. -/
def read (disk : Disk) : TableSource → Except String Text
  | url address => disk.download address
  | file path => disk.readWhole path

/-- The text of the table. -/
def fetch (source : TableSource) : Action Text := do
  Reporting.info s!"Fetching mapping table {source.label.str}"
  match source.read (← .disk) with
  | .ok text => return text
  | .error problem => .fail (Cause.unreadableTable source.label.str problem)

end TableSource

end Migration
