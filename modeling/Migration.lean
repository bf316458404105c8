import Migration.Text.Basic
import Migration.Text.CharSet
import Migration.Text.Word
import Migration.Text.Case
import Migration.Text.Quoted
import Migration.Text.Utf8
import Migration.Json.Basic
import Migration.Json.Reader
import Migration.Failure
import Migration.Diagnostics
import Migration.Table.Csv
import Migration.Table.Rows
import Migration.Table.Symbols
import Migration.Projections
import Migration.QualifiedName
import Migration.Artifact.Coordinate
import Migration.Artifact.VersionVariable
import Migration.Artifact.Declaration
import Migration.Artifact.FormPattern
import Migration.Artifact.Rule
import Migration.Path
import Migration.Glob
import Migration.Disk.Node
import Migration.Disk.Basic
import Migration.Disk.Action
import Migration.FileKind
import Migration.Table.Source
import Migration.Correspondences
import Migration.LineEditor
import Migration.Publication
import Migration.FileEdit
import Migration.Character.Runs
import Migration.Character.Category
import Migration.Character.Script
import Migration.Character.Age
import Migration.Character.Folding
import Migration.Character.Trait
import Migration.Character.Break
import Migration.Character.Property
import Migration.Pattern.Basic
import Migration.Pattern.Normal
import Migration.Pattern.Problem
import Migration.Pattern.Expression
import Migration.Pattern.Reader
import Migration.Pattern.Meaning
import Migration.Pattern.Footprint
import Migration.Pattern.Parser
import Migration.Pattern.Search
import Migration.Classifier
import Migration.RawPath
import Migration.Config
import Migration.Run
import Migration.Report
import Migration.CommandLine
import Migration.Main
import Migration.Proofs.Action
import Migration.Proofs.Tree
import Migration.Proofs.Resolution
import Migration.Proofs.RealLocation
import Migration.Proofs.Publication
import Migration.Proofs.FileEdit
import Migration.Proofs.DistinctFiles
import Migration.Proofs.Rewritten
import Migration.Proofs.Survey
import Migration.Proofs.Preview
import Migration.Proofs.Lines
import Migration.Proofs.Decisions
import Migration.Proofs.Declaration
import Migration.Proofs.Parts
import Migration.Proofs.Remark
import Migration.Proofs.BuildLine
import Migration.Proofs.Audit
import Migration.Proofs.Eligible
import Migration.Proofs.Scan
import Migration.Proofs.Pieces
import Migration.Proofs.NameTables
import Migration.Proofs.Sequences
import Migration.Proofs.SourceLine
import Migration.Proofs.Wildcards
import Migration.Proofs.FirstMatch
import Migration.Proofs.NameMatches
import Migration.Proofs.Reference
import Migration.Proofs.Encoding
import Migration.Proofs.ChangedFiles
import Migration.Proofs.CharacterSets
import Migration.Proofs.Letters
import Migration.Proofs.YoungLetters
import Migration.Proofs.WordRuns
import Migration.Proofs.VariableName
import Migration.Proofs.PlainText
import Migration.Proofs.Shape
import Migration.Proofs.Placed
import Migration.Proofs.Apart
import Migration.Proofs.Opening
import Migration.Proofs.Tail
import Migration.Proofs.Filled
import Migration.Proofs.Migrated
import Migration.Proofs.BuildIdempotence
import Migration.Proofs.Faces
import Migration.Proofs.FailedPublication
import Migration.Proofs.Bystanders
import Migration.Proofs.Verbosity
import Migration.Proofs.Captures
import Migration.Proofs.TokenMatches
import Migration.Proofs.ValueMatches
import Migration.Proofs.DeclarationMatches
import Migration.Proofs.Edits
import Migration.Proofs.Substitution
import Migration.Proofs.Escape
import Migration.Proofs.CoordinateForm
import Migration.Proofs.KeywordForm
import Migration.Proofs.FirstFailure
import Migration.Proofs.ByteOrder
import Migration.Proofs.Conflicts
import Migration.Proofs.Occurrence
import Migration.Proofs.Balance
import Migration.Proofs.Trimmed
import Migration.Proofs.Destination
import Migration.Proofs.WrittenRecords
import Migration.Proofs.TableRows
import Migration.Proofs.ReportedLines
import Migration.Proofs.ArtifactRows
import Migration.Proofs.Room
import Migration.Proofs.CoordinateFront
import Migration.Proofs.VariableToken
import Migration.Proofs.CharacterBytes
import Migration.Proofs.LiteralGlobs
import Migration.Proofs.PathParts
import Migration.Proofs.RawPath
import Migration.Proofs.DefaultKinds
import Migration.Proofs.Faults
import Migration.Proofs.Undecodable
import Migration.Proofs.JsonSpelling
import Migration.Proofs.ConfigFile
