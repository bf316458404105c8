namespace Migration.Pattern

/-! Why a text is not a pattern. -/

inductive Problem where
  | unclosedGroup
  | unopenedGroup
  | badGroup
  | badFlags
  | nothingToRepeat
  | badCount
  | badEscape
  | badSet
  | unknownProperty
  /-- The pattern could match a part of a character. -/
  | notText
  | tooDeep
  | tooLarge
deriving DecidableEq, Repr

def Problem.message : Problem → String
  | unclosedGroup => "unclosed group"
  | unopenedGroup => "unopened group"
  | badGroup => "invalid group"
  | badFlags => "invalid flags"
  | nothingToRepeat => "repetition operator missing expression"
  | badCount => "invalid repetition count"
  | badEscape => "invalid escape sequence"
  | badSet => "invalid character class"
  | unknownProperty => "Unicode property not found"
  | notText => "pattern can match invalid UTF-8"
  | tooDeep => "pattern is nested too deeply"
  | tooLarge => "pattern is too large"

end Migration.Pattern
