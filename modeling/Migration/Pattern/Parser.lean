import Migration.Pattern.Footprint
import Migration.Pattern.Meaning
import Migration.Pattern.Reader

namespace Migration.Pattern

/-! From a text to the pattern it denotes. -/

/-- The pattern that a text denotes.  It may be neither nested too deeply nor too large. -/
def parse (source : Text) : Except Problem Pattern := do
  let expression ← Expression.read source
  if nestingLimit < expression.depth then .error .tooDeep
  let (pattern, _) ← expression.meaning {}
  if pattern.isSmall then return pattern else .error .tooLarge

end Migration.Pattern
