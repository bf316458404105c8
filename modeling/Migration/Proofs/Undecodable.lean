import Migration.Proofs.Decisions
import Migration.Proofs.Faults

namespace Migration

/-! Files that are not strict UTF-8.

A file is read as the one text it is the encoding of, or refused with the place where its text ends.
The refusal names a line, by the number that an editor gives to the line at that place in every text
that starts in the same way.
-/

section Marks

variable {α : Type} {mark : α}

end Marks

namespace Text

end Text

namespace LineEditor

end LineEditor

namespace Disk

variable {disk : Disk} {path : Text} {bytes : List UInt8}

end Disk

end Migration
