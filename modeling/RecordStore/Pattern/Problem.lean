/-!
What can be wrong with a pattern.
-/

namespace RecordStore.Pattern

/-- Why a pattern was refused. -/
inductive Problem
  | tooMuchNesting
  | repeatedGroupName
  | unclosedGroup
  | groupEnds
  | unopenedGroup
  | lookAround
  | emptyFlags
  | groupNameMissing
  | badGroupName
  | groupNameEnds
  | emptyGroupName
  | unknownFlag
  | repeatedNegation
  | repeatedFlag
  | flagsEnd
  | danglingNegation
  | noDigits
  | badDecimal
  | bracedHexBadDigit
  | bracedHexEnds
  | bracedHexEmpty
  | bracedHexInvalid
  | fixedHexEnds
  | fixedHexBadDigit
  | fixedHexInvalid
  | hexEnds
  | escapeEnds
  | backReference
  | unicodeClass
  | unknownEscape
  | nothingToRepeat
  | nothingToCount
  | countUnclosed
  | countEndsAfterMin
  | countEndsAfterComma
  | countEndsAfterMax
  | badCount
  | badCountRange
  | classEndsAfterItem
  | badRangeItem
  | badClassItem
  | classEndsAfterDash
  | classEndsAfterNegation
  | classEndsAfterBracket
  | badRange
  | unclosedClass
  | nestedClass
  | classIntersection
  | classDifference
  | classSymmetricDifference
  | wordEdgeUnclosed
  | unknownWordEdge
  | wordEdgeEnds
  | programTooLarge
  deriving DecidableEq, Repr

/-- The text of a problem. -/
def Problem.message : Problem → String
  | .tooMuchNesting => "pattern has too much nesting"
  | .repeatedGroupName => "duplicate capture group name"
  | .unclosedGroup => "found open group without closing ')'"
  | .groupEnds => "expected closing ')', but got end of pattern"
  | .unopenedGroup => "found closing ')' without matching '('"
  | .lookAround => "look-around is not supported"
  | .emptyFlags => "empty flag directive '(?)' is not allowed"
  | .groupNameMissing => "expected capture group name, but got end of pattern"
  | .badGroupName => "invalid group name"
  | .groupNameEnds => "expected end of capture group name, but got end of pattern"
  | .emptyGroupName => "empty capture group names are not allowed"
  | .unknownFlag => "unrecognized inline flag"
  | .repeatedNegation => "inline flag negation cannot be repeated"
  | .repeatedFlag => "duplicate inline flag is not allowed"
  | .flagsEnd => "expected ':' or ')' to end inline flags, but got end of pattern"
  | .danglingNegation => "inline flags cannot end with negation directive"
  | .noDigits => "expected decimal number, but found no digits"
  | .badDecimal => "got invalid decimal number"
  | .bracedHexBadDigit => "expected hexadecimal number in braces, but got non-hex digit"
  | .bracedHexEnds =>
    "expected hexadecimal number, but saw end of pattern before closing brace"
  | .bracedHexEmpty => "expected hexadecimal number in braces, but got no digits"
  | .bracedHexInvalid => "got invalid hexadecimal number in braces"
  | .fixedHexEnds => "expected fixed length hexadecimal number, but saw end of pattern first"
  | .fixedHexBadDigit => "expected fixed length hexadecimal number, but got non-hex digit"
  | .fixedHexInvalid => "got invalid fixed length hexadecimal number"
  | .hexEnds => "expected hexadecimal number, but saw end of pattern first"
  | .escapeEnds =>
    "saw start of escape sequence, but saw end of pattern before it finished"
  | .backReference => "backreferences are not supported"
  | .unicodeClass => "Unicode character classes are not supported"
  | .unknownEscape => "unrecognized escape sequence"
  | .nothingToRepeat => "uncounted repetition operator must be applied to a sub-expression"
  | .nothingToCount => "counted repetition operator must be applied to a sub-expression"
  | .countUnclosed => "found unclosed counted repetition operator"
  | .countEndsAfterMin => "found incomplete and unclosed counted repetition operator"
  | .countEndsAfterComma =>
    "found counted repetition operator with a comma that is unclosed"
  | .countEndsAfterMax => "found counted repetition with min and max that is unclosed"
  | .badCount => "expected closing brace for counted repetition, but got something else"
  | .badCountRange => "found counted repetition with a min bigger than its max"
  | .classEndsAfterItem => "non-empty character class has no closing bracket"
  | .badRangeItem => "character class ranges must start and end with a single character"
  | .badClassItem => "invalid escape sequence in character class"
  | .classEndsAfterDash => "non-empty character class has no closing bracket after dash"
  | .classEndsAfterNegation => "negated character class has no closing bracket"
  | .classEndsAfterBracket =>
    "character class begins with literal ']' but has no closing bracket"
  | .badRange => "invalid range in character class"
  | .unclosedClass => "found unclosed character class"
  | .nestedClass => "nested character classes are not supported"
  | .classIntersection => "character class intersection is not supported"
  | .classDifference => "character class difference is not supported"
  | .classSymmetricDifference => "character class symmetric difference is not supported"
  | .wordEdgeUnclosed =>
    "special word boundary assertion is unclosed or has an invalid character"
  | .unknownWordEdge => "special word boundary assertion is unrecognized"
  | .wordEdgeEnds => "found start of special word boundary or repetition without an end"
  | .programTooLarge => "compiled regex exceeded size limit"

end RecordStore.Pattern
