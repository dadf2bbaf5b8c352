import RecordStore.Pattern.Problem
import RecordStore.Pattern.Tree
import RecordStore.Text.Blank
import RecordStore.Text.Letter
import RecordStore.Text.Hex

/-!
Patterns read from their text.

The text is read from left to right; groups that are open are kept on a stack, each
with the flags that hold again behind it. Every part takes the characters that are
left and gives its value with the characters after it. Under the flag `x` blanks and
comments may stand between the parts of a pattern.
-/

namespace RecordStore.Pattern

/-- Switches that a pattern may turn on and off. -/
structure Flags where
  /-- `i`: both cases of an ASCII letter are the same. -/
  anyCase : Bool
  /-- `m`: `^` and `$` also hold at the ends of lines. -/
  perLine : Bool
  /-- `s`: the point stands for the ends of lines as well. -/
  pointAll : Bool
  /-- `U`: repetitions are lazy unless marked. -/
  lazy : Bool
  /-- `R`: a carriage return ends a line as well. -/
  carriageReturn : Bool
  /-- `x`: blanks and comments are passed over. -/
  spaced : Bool

/-- No flag. -/
def Flags.plain : Flags := ⟨false, false, false, false, false, false⟩

/-- What a part of the parser gives. -/
abbrev Parsed (α : Type) := Except Problem (α × List Char)

/-! ### Blanks -/

/-- The characters after a comment, its line feed included. -/
def skipComment : List Char → List Char
  | [] => []
  | c :: rest => if c = '\n' then rest else skipComment rest

/-- The characters after blanks and comments. -/
def skipSpaced : (fuel : Nat) → List Char → List Char
  | 0, rest => rest
  | _, [] => []
  | fuel + 1, c :: rest =>
    if Text.isBlank c then skipSpaced fuel rest
    else if c = '#' then skipSpaced fuel (skipComment rest)
    else c :: rest

/-- Passes over blanks and comments where the flags allow them. -/
def Flags.skip (flags : Flags) (rest : List Char) : List Char :=
  if flags.spaced then skipSpaced rest.length rest else rest

/-- The first character that is neither a blank nor the mark of a comment. -/
def firstVisible (comment : Bool) : List Char → Option Char
  | [] => none
  | c :: rest =>
    if Text.isBlank c then firstVisible comment rest
    else if !comment && c = '#' then firstVisible true rest
    else some c

/-- The character that counts as the next one. -/
def Flags.peek (flags : Flags) (rest : List Char) : Option Char :=
  if flags.spaced then (firstVisible false rest).or rest.head? else rest.head?

/-! ### Characters -/

/-- A character that stands for itself. -/
def Flags.letter (flags : Flags) (c : Char) : Tree :=
  if flags.anyCase && c.isAlpha then .set (CharSet.bothCases (CharSet.ofChar c))
  else .char c

/-- The point. -/
def Flags.point (flags : Flags) : Tree :=
  if flags.pointAll then .set CharSet.any
  else if flags.carriageReturn then .set CharSet.anyButNewlines
  else .set CharSet.anyButNewline

/-- The mark `^`. -/
def Flags.startMark (flags : Flags) : Tree :=
  if flags.perLine then .look (if flags.carriageReturn then .lineStartCr else .lineStart)
  else .look .start

/-- The mark `$`. -/
def Flags.stopMark (flags : Flags) : Tree :=
  if flags.perLine then .look (if flags.carriageReturn then .lineStopCr else .lineStop)
  else .look .stop

/-- The character of a code point. -/
def character? (code : Nat) : Option Char :=
  if code.isValidChar then some (Char.ofNat code) else none

/-- Reads a code point of `count` digits. -/
def fixedHex (flags : Flags) : (count code : Nat) → List Char → Parsed Char
  | 0, code, rest =>
    match character? code with
    | some c => .ok (c, rest)
    | none => .error .fixedHexInvalid
  | _ + 1, _, [] => .error .fixedHexEnds
  | count + 1, code, c :: rest =>
    match Text.hexDigit? c with
    | none => .error .fixedHexBadDigit
    | some digit => fixedHex flags count (code * 16 + digit) (flags.skip rest)

/-- Reads a code point between braces, behind the opening one. -/
def bracedHex (flags : Flags) : (fuel : Nat) → (code : Option Nat) → List Char → Parsed Char
  | 0, _, _ => .error .bracedHexEnds
  | fuel + 1, code, rest =>
    match flags.skip rest with
    | [] => .error .bracedHexEnds
    | c :: rest =>
      if c = '\x7d' then
        match code with
        | none => .error .bracedHexEmpty
        | some code =>
          match character? code with
          | some c => .ok (c, flags.skip rest)
          | none => .error .bracedHexInvalid
      else
        match Text.hexDigit? c with
        | none => .error .bracedHexBadDigit
        | some digit => bracedHex flags fuel (some (code.getD 0 * 16 + digit)) rest

/-- Reads a code point behind the letter that names its width. -/
def hex (flags : Flags) (width : Nat) (rest : List Char) : Parsed Tree :=
  let read : Parsed Char :=
    match flags.skip rest with
    | [] => .error .hexEnds
    | c :: after =>
      if c = '\x7b' then bracedHex flags (after.length + 1) none after
      else fixedHex flags width 0 (c :: after)
  match read with
  | .error problem => .error problem
  | .ok (c, rest) => .ok (flags.letter c, rest)

/-! ### Escapes -/

/-- Whether a character that is not a letter or digit stands for itself behind a backslash. -/
def isPlainEscape (c : Char) : Bool :=
  c.toNat < 128 && !c.isAlphanum && c != '<' && c != '>'

/-- The characters that have a letter of their own behind a backslash. -/
def letterEscapes : List (Char × Char) := [
  ('a', Char.ofNat 7), ('f', Char.ofNat 12), ('t', '\t'), ('n', '\n'), ('r', '\r'),
  ('v', Char.ofNat 11)]

/-- The conditions that have a letter behind a backslash. -/
def lookEscapes : List (Char × Look) := [
  ('A', .start), ('z', .stop), ('B', .noWordEdge), ('<', .wordStart), ('>', .wordStop)]

/-- The classes that have a letter behind a backslash; the capital is the complement. -/
def setEscapes : List (Char × CharSet) := [
  ('d', CharSet.digit), ('s', CharSet.space), ('w', CharSet.word),
  ('D', CharSet.complement CharSet.digit), ('S', CharSet.complement CharSet.space),
  ('W', CharSet.complement CharSet.word)]

/-- The names of word edges. -/
def wordEdges : List (String × Look) := [
  ("start", .wordStart), ("end", .wordStop), ("start-half", .noWordBefore),
  ("end-half", .noWordAfter)]

/-- Whether a character may stand in the name of a word edge. -/
def isEdgeChar (c : Char) : Bool :=
  c.isAlpha || c == '-'

/-- Collects the name of a word edge. -/
def edgeName (flags : Flags) : (fuel : Nat) → List Char → List Char → List Char × List Char
  | 0, name, rest => (name.reverse, rest)
  | _, name, [] => (name.reverse, [])
  | fuel + 1, name, c :: rest =>
    if isEdgeChar c then edgeName flags fuel (c :: name) (flags.skip rest)
    else (name.reverse, c :: rest)

/-- Reads what follows `\b`: the name of an edge between braces, or nothing of its own. -/
def wordEdge (flags : Flags) (rest : List Char) : Parsed Tree :=
  match rest with
  | '\x7b' :: after =>
    match flags.skip after with
    | [] => .error .wordEdgeEnds
    | c :: inner =>
      if isEdgeChar c then
        match edgeName flags (inner.length + 1) [] (c :: inner) with
        | (name, '\x7d' :: rest) =>
          match wordEdges.lookup (String.ofList name) with
          | some look => .ok (.look look, rest)
          | none => .error .unknownWordEdge
        | _ => .error .wordEdgeUnclosed
      else .ok (.look .wordEdge, rest)
  | _ => .ok (.look .wordEdge, rest)

/-- Reads an escape behind its backslash. -/
def escape (flags : Flags) : List Char → Parsed Tree
  | [] => .error .escapeEnds
  | c :: rest =>
    if c.isDigit then .error .backReference
    else if c = 'p' ∨ c = 'P' then .error .unicodeClass
    else if c = 'x' then hex flags 2 rest
    else if c = 'u' then hex flags 4 rest
    else if c = 'U' then hex flags 8 rest
    else if c = 'b' then wordEdge flags rest
    else if isPlainEscape c then .ok (flags.letter c, rest)
    else
      match setEscapes.lookup c, letterEscapes.lookup c, lookEscapes.lookup c with
      | some set, _, _ => .ok (.set set, rest)
      | _, some c, _ => .ok (flags.letter c, rest)
      | _, _, some look => .ok (.look look, rest)
      | _, _, _ => .error .unknownEscape

/-! ### Classes -/

/-- Reads a named class behind its opening bracket; `none` when there is none. -/
def namedClass (rest : List Char) : Option (CharSet × List Char) :=
  match rest with
  | ':' :: after =>
    let (negated, after) : Bool × List Char :=
      match after with
      | '^' :: after => (true, after)
      | _ => (false, after)
    let name := after.takeWhile (· != ':')
    match after.dropWhile (· != ':') with
    | ':' :: ']' :: rest =>
      (CharSet.named.lookup (String.ofList name)).map fun set =>
        (if negated then set.complement else set, rest)
    | _ => none
  | _ => none

/-- Reads one item of a class: a character or an escape. -/
def classItem (flags : Flags) : List Char → Parsed Tree
  | [] => .error .unclosedClass
  | '\\' :: rest => escape flags rest
  | c :: rest => .ok (.char c, rest)

/-- The characters that an item stands for. -/
def itemSet : Tree → Except Problem CharSet
  | .char c => .ok (CharSet.ofChar c)
  | .set ranges => .ok ranges
  | _ => .error .badClassItem

/-- Reads an item of a class, or a range between two items. -/
def classRange (flags : Flags) (rest : List Char) : Parsed CharSet :=
  match classItem flags rest with
  | .error problem => .error problem
  | .ok (first, rest) =>
    match flags.skip rest with
    | [] => .error .classEndsAfterItem
    | c :: after =>
      let next := flags.peek after
      if c ≠ '-' ∨ next = some ']' ∨ next = some '-' then
        match itemSet first with
        | .error problem => .error problem
        | .ok set => .ok (set, c :: after)
      else
        match flags.skip after with
        | [] => .error .classEndsAfterDash
        | after =>
          match classItem flags after with
          | .error problem => .error problem
          | .ok (second, rest) =>
            match first, second with
            | .char low, .char high =>
              if high < low then .error .badRange else .ok ([(low.toNat, high.toNat)], rest)
            | _, _ => .error .badRangeItem

/-- Reads the items that are left of a class, and its closing bracket. -/
def classItems (flags : Flags) : (fuel : Nat) → CharSet → List Char → Parsed CharSet
  | 0, _, _ => .error .unclosedClass
  | fuel + 1, set, rest =>
    match flags.skip rest with
    | [] => .error .unclosedClass
    | c :: after =>
      if c = '[' then
        match namedClass after with
        | some (more, rest) => classItems flags fuel (set ++ more) rest
        | none => .error .nestedClass
      else if c = ']' then .ok (set, after)
      else if c = '&' ∧ after.head? = some '&' then .error .classIntersection
      else if c = '-' ∧ after.head? = some '-' then .error .classDifference
      else if c = '~' ∧ after.head? = some '~' then .error .classSymmetricDifference
      else
        match classRange flags (c :: after) with
        | .error problem => .error problem
        | .ok (more, rest) => classItems flags fuel (set ++ more) rest

/-- Reads the dashes that may open a class. -/
def leadingDashes (flags : Flags) : (fuel : Nat) → CharSet → List Char → Parsed CharSet
  | fuel + 1, set, '-' :: rest =>
    match flags.skip rest with
    | [] => .error .classEndsAfterDash
    | rest => leadingDashes flags fuel (set ++ CharSet.ofChar '-') rest
  | _, set, rest => .ok (set, rest)

/-- Reads the bracket that may open a class and stands for itself there. -/
def leadingBracket (flags : Flags) (set : CharSet) (rest : List Char) : Parsed CharSet :=
  match set, rest with
  | [], ']' :: rest =>
    match flags.skip rest with
    | [] => .error .classEndsAfterBracket
    | rest => .ok (CharSet.ofChar ']', rest)
  | set, rest => .ok (set, rest)

/-- Reads a class behind its opening bracket and its negation. -/
def classBody (flags : Flags) (rest : List Char) : Parsed CharSet :=
  match leadingDashes flags rest.length [] rest with
  | .error problem => .error problem
  | .ok (set, rest) =>
    match leadingBracket flags set rest with
    | .error problem => .error problem
    | .ok (set, rest) => classItems flags (rest.length + 1) set rest

/-- Reads a class behind its opening bracket. -/
def charClass (flags : Flags) (rest : List Char) : Parsed Tree :=
  let finish (negated : Bool) : Parsed CharSet → Parsed Tree
    | .error problem => .error problem
    | .ok (set, rest) =>
      let set := if flags.anyCase then CharSet.bothCases set else set
      .ok (.set (if negated then set.complement else set.canonical), rest)
  match flags.skip rest with
  | [] => .error .unclosedClass
  | '^' :: rest =>
    match flags.skip rest with
    | [] => .error .classEndsAfterNegation
    | rest => finish true (classBody flags rest)
  | rest => finish false (classBody flags rest)

/-! ### Repetitions -/

/-- Reads a natural number below `2 ^ 32`, blanks around it. -/
def decimal (flags : Flags) (rest : List Char) : Parsed Nat :=
  let rest := rest.dropWhile Text.isBlank
  let rec digits : (fuel : Nat) → Option Nat → List Char → Option Nat × List Char
    | fuel + 1, value, c :: rest =>
      if c.isDigit then
        digits fuel (some (value.getD 0 * 10 + (c.toNat - 48))) (flags.skip rest)
      else (value, c :: rest)
    | _, value, rest => (value, rest)
  let (value, rest) := digits rest.length none rest
  let rec blanks : (fuel : Nat) → List Char → List Char
    | fuel + 1, c :: rest => if Text.isBlank c then blanks fuel (flags.skip rest) else c :: rest
    | _, rest => rest
  let rest := blanks rest.length rest
  match value with
  | none => .error .noDigits
  | some n => if n < 1 <<< 32 then .ok (n, rest) else .error .badDecimal

/-- Reads the bounds of a counted repetition behind its opening brace, up to the closing one. -/
def bounds (flags : Flags) (rest : List Char) : Parsed (Nat × Option Nat) :=
  match flags.skip rest with
  | [] => .error .countUnclosed
  | rest =>
    match decimal flags rest with
    | .error problem => .error problem
    | .ok (_, []) => .error .countEndsAfterMin
    | .ok (min, ',' :: rest) =>
      match flags.skip rest with
      | [] => .error .countEndsAfterComma
      | '\x7d' :: rest => .ok ((min, none), '\x7d' :: rest)
      | rest =>
        match decimal flags rest with
        | .error problem => .error problem
        | .ok (_, []) => .error .countEndsAfterMax
        | .ok (max, rest) => .ok ((min, some max), rest)
    | .ok (min, rest) => .ok ((min, some min), rest)

/-- Whether a repetition is greedy, with the characters after the mark that makes it lazy. -/
def greed (flags : Flags) : List Char → Bool × List Char
  | '?' :: rest => (flags.lazy, rest)
  | rest => (!flags.lazy, rest)

/-- Reads a counted repetition of a tree behind its opening brace. -/
def counted (flags : Flags) (body : Tree) (rest : List Char) : Parsed Tree :=
  match bounds flags rest with
  | .error problem => .error problem
  | .ok ((min, max), '\x7d' :: rest) =>
    let (greedy, rest) := greed flags (flags.skip rest)
    if max.any (· < min) then .error .badCountRange
    else .ok (Tree.repeated min max greedy body, rest)
  | .ok _ => .error .badCount

/-! ### Groups -/

/-- A group that is open: what was read before it, and the flags that hold behind it. -/
structure Frame where
  flags : Flags
  group : Option Group
  branches : List Tree
  parts : List Tree

/-- A pattern read so far: the flags, the open groups, the branches and the parts of the
innermost group, last first, the number of the last captured group and the names that are
taken. -/
structure Draft where
  flags : Flags
  frames : List Frame
  branches : List Tree
  parts : List Tree
  captured : Nat
  names : List String

/-- The tree of the innermost group. -/
def Draft.tree (draft : Draft) : Tree :=
  .oneOf ((Tree.inSequence draft.parts.reverse :: draft.branches).reverse)

/-- Adds a part. -/
def Draft.push (draft : Draft) (part : Tree) : Draft :=
  { draft with parts := part :: draft.parts }

/-- Opens a group, within the depth that is allowed. -/
def Draft.openGroup (draft : Draft) (group : Option Group) (inner : Flags) :
    Except Problem Draft :=
  if Tree.depthLimit ≤ draft.frames.length then .error .tooMuchNesting
  else
    .ok { draft with
      flags := inner
      frames := ⟨draft.flags, group, draft.branches, draft.parts⟩ :: draft.frames
      branches := []
      parts := [] }

/-- Opens a group that is captured. -/
def Draft.openCapture (draft : Draft) (name : Option String) : Except Problem Draft :=
  let number := draft.captured + 1
  Draft.openGroup { draft with captured := number, names := name.toList ++ draft.names }
    (some ⟨number, name⟩) draft.flags

/-- Whether a character may stand in the name of a group. -/
def isNameChar (first : Bool) (c : Char) : Bool :=
  c == '_' || Text.isLetter c ||
    (!first && (c == '.' || c == '[' || c == ']' || Text.isNumeral c))

/-- Collects the name of a group up to its closing mark. -/
def collectName : List Char → List Char → Parsed (List Char)
  | _, [] => .error .groupNameEnds
  | name, c :: rest =>
    if c = '>' then .ok (name.reverse, rest)
    else if isNameChar name.isEmpty c then collectName (c :: name) rest
    else .error .badGroupName

/-- Reads the name of a group, which may be used once. -/
def groupName (names : List String) (rest : List Char) : Parsed String :=
  if rest.isEmpty then .error .groupNameMissing
  else
    match collectName [] rest with
    | .error problem => .error problem
    | .ok (name, rest) =>
      let name := String.ofList name
      if name = "" then .error .emptyGroupName
      else if names.contains name then .error .repeatedGroupName
      else .ok (name, rest)

/-- Sets one flag; `none` when there is no such flag. -/
def Flags.set? (flags : Flags) (on : Bool) (c : Char) : Option Flags :=
  match c with
  | 'i' => some { flags with anyCase := on }
  | 'm' => some { flags with perLine := on }
  | 's' => some { flags with pointAll := on }
  | 'U' => some { flags with lazy := on }
  | 'R' => some { flags with carriageReturn := on }
  | 'x' => some { flags with spaced := on }
  | 'u' => some flags
  | _ => none

/-- Reads flags up to the mark behind them, which is left. -/
def readFlags (flags : Flags) (seen : List Char) : List Char → Parsed Flags
  | [] => .error .flagsEnd
  | c :: rest =>
    if c = ':' ∨ c = ')' then
      if seen.head? = some '-' then .error .danglingNegation else .ok (flags, c :: rest)
    else if c = '-' then
      if seen.contains '-' then .error .repeatedNegation
      else readFlags flags ('-' :: seen) rest
    else
      match flags.set? (!seen.contains '-') c with
      | none => .error .unknownFlag
      | some changed =>
        if seen.contains c then .error .repeatedFlag else readFlags changed (c :: seen) rest

/-- The characters after a start that a text has. -/
def after? : (start : List Char) → List Char → Option (List Char)
  | [], rest => some rest
  | _ :: _, [] => none
  | c :: start, d :: rest => if c = d then after? start rest else none

/-- What stands behind an opening parenthesis: the start of a named group, flags, or a plain
group. -/
inductive GroupStart
  | lookAround
  | named (rest : List Char)
  | flags (rest : List Char)
  | plain

/-- Tells what kind of group starts. -/
def groupStart (rest : List Char) : GroupStart :=
  let lookAround := [['?', '='], ['?', '!'], ['?', '<', '='], ['?', '<', '!']].any fun start =>
    (after? start rest).isSome
  if lookAround then .lookAround
  else
    match (after? ['?', 'P', '<'] rest).or (after? ['?', '<'] rest) with
    | some rest => .named rest
    | none =>
      match after? ['?'] rest with
      | some rest => .flags rest
      | none => .plain

/-- Reads what stands behind an opening parenthesis. -/
def Draft.openParenthesis (draft : Draft) (rest : List Char) : Parsed Draft :=
  let rest := draft.flags.skip rest
  let withRest (rest : List Char) : Except Problem Draft → Parsed Draft
    | .error problem => .error problem
    | .ok draft => .ok (draft, rest)
  match groupStart rest with
  | .lookAround => .error .lookAround
  | .named rest =>
    match groupName draft.names rest with
    | .error problem => .error problem
    | .ok (name, rest) =>
      withRest rest (draft.openCapture (some name))
  | .flags [] => .error .groupEnds
  | .flags rest =>
    match readFlags draft.flags [] rest with
    | .error problem => .error problem
    | .ok (flags, ')' :: after) =>
      if after.length + 1 = rest.length then .error .emptyFlags
      else .ok ({ draft with flags := flags }, after)
    | .ok (flags, after) => withRest (after.drop 1) (draft.openGroup none flags)
  | .plain => withRest rest (draft.openCapture none)

/-- Closes the innermost group. -/
def Draft.closeParenthesis (draft : Draft) : Except Problem Draft :=
  match draft.frames with
  | [] => .error .unopenedGroup
  | frame :: frames =>
    let part := match frame.group with
      | none => draft.tree
      | some group => .capture group draft.tree
    .ok { draft with
      flags := frame.flags
      frames := frames
      branches := frame.branches
      parts := part :: frame.parts }

/-- Repeats the last part. -/
def Draft.repeatLast (draft : Draft) (missing : Problem) (again : Tree → Parsed Tree) :
    Parsed Draft :=
  match draft.parts with
  | [] => .error missing
  | body :: parts =>
    match again body with
    | .error problem => .error problem
    | .ok (part, rest) => .ok ({ draft with parts := part :: parts }, rest)

/-- Reads a part that starts with a given character. -/
def Draft.part (draft : Draft) (c : Char) (rest : List Char) : Parsed Tree :=
  let flags := draft.flags
  match c with
  | '[' => charClass flags rest
  | '\\' => escape flags rest
  | '.' => .ok (flags.point, rest)
  | '^' => .ok (flags.startMark, rest)
  | '$' => .ok (flags.stopMark, rest)
  | c => .ok (flags.letter c, rest)

/-- Reads what starts with a given character. -/
def Draft.step (draft : Draft) (c : Char) (rest : List Char) : Parsed Draft :=
  let uncounted (min : Nat) (max : Option Nat) : Parsed Draft :=
    draft.repeatLast .nothingToRepeat fun body =>
      let (greedy, rest) := greed draft.flags rest
      .ok (Tree.repeated min max greedy body, rest)
  match c with
  | '(' => draft.openParenthesis rest
  | ')' =>
    match draft.closeParenthesis with
    | .error problem => .error problem
    | .ok draft => .ok (draft, rest)
  | '|' =>
    .ok ({ draft with
      branches := Tree.inSequence draft.parts.reverse :: draft.branches
      parts := [] }, rest)
  | '?' => uncounted 0 (some 1)
  | '*' => uncounted 0 none
  | '+' => uncounted 1 none
  | '\x7b' => draft.repeatLast .nothingToCount fun body => counted draft.flags body rest
  | c =>
    match draft.part c rest with
    | .error problem => .error problem
    | .ok (part, rest) => .ok (draft.push part, rest)

/-- Reads what is left of a pattern; every step takes at least one character. -/
def parseFrom : (fuel : Nat) → Draft → List Char → Except Problem Tree
  | 0, draft, _ => .ok draft.tree
  | fuel + 1, draft, rest =>
    match draft.flags.skip rest with
    | [] => if draft.frames.isEmpty then .ok draft.tree else .error .unclosedGroup
    | c :: rest =>
      match draft.step c rest with
      | .error problem => .error problem
      | .ok (draft, rest) => parseFrom fuel draft rest

/-- The tree of a pattern, its depth and its program within the limits. -/
def parse (text : List Char) : Except Problem Tree :=
  match parseFrom (text.length + 1) ⟨.plain, [], [], [], 0, []⟩ text with
  | .error problem => .error problem
  | .ok tree =>
    if Tree.depthLimit < tree.depth then .error .tooMuchNesting
    else if Tree.sizeLimit < tree.programSize then .error .programTooLarge
    else .ok tree

end RecordStore.Pattern
