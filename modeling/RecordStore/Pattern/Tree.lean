import RecordStore.Pattern.CharSet

/-!
The tree of a pattern.

A tree is what a pattern says, group by group. Its depth and the size of its program
are bounded: a pattern with a deeper tree or a larger program is refused. The program
is never built; `Tree.size` adds up what it would take.
-/

namespace RecordStore.Pattern

/-- A condition on the characters before and behind a place. -/
inductive Look
  | start
  | stop
  | lineStart
  | lineStop
  /-- The start of a line that may end in a carriage return as well. -/
  | lineStartCr
  | lineStopCr
  | wordEdge
  | noWordEdge
  | wordStart
  | wordStop
  | noWordBefore
  | noWordAfter
  deriving DecidableEq, Repr

/-- A group that is captured: its number, in the order of the opening marks, and its name. -/
structure Group where
  number : Nat
  name : Option String
  deriving DecidableEq, Repr

/-- What a pattern says. -/
inductive Tree
  | empty
  | char (c : Char)
  | set (ranges : CharSet)
  | look (condition : Look)
  | repetition (min : Nat) (max : Option Nat) (greedy : Bool) (body : Tree)
  | capture (group : Group) (body : Tree)
  | sequence (parts : List Tree)
  | choice (branches : List Tree)

namespace Tree

/-- One tree after another; a sequence of one is that one. -/
def inSequence : List Tree → Tree
  | [] => .empty
  | [part] => part
  | parts => .sequence parts

/-- One of several trees; a choice of one is that one. -/
def oneOf : List Tree → Tree
  | [branch] => branch
  | branches => .choice branches

/-- A tree again and again; no times is nothing and once is the tree itself. -/
def repeated (min : Nat) (max : Option Nat) (greedy : Bool) (body : Tree) : Tree :=
  if min = 0 ∧ max = some 0 then .empty
  else if min = 1 ∧ max = some 1 then body
  else .repetition min max greedy body

/-- How deep the tree is; a tree without parts has depth zero. -/
def depth : Tree → Nat
  | .repetition _ _ _ body => body.depth + 1
  | .capture _ body => body.depth + 1
  | .sequence parts => (parts.map depth).foldl max 0 + 1
  | .choice branches => (branches.map depth).foldl max 0 + 1
  | _ => 0

/-- Whether the tree can match the empty text. -/
def canBeEmpty : Tree → Bool
  | .empty => true
  | .char _ => false
  | .set _ => false
  | .look _ => true
  | .repetition min _ _ body => min == 0 || body.canBeEmpty
  | .capture _ body => body.canBeEmpty
  | .sequence parts => (parts.map canBeEmpty).all id
  | .choice branches => (branches.map canBeEmpty).any id

/-! ### The size of the program -/

/-- The bytes of one state. -/
def stateSize : Nat := 32

/-- The bytes of a state that goes on in `ways` ways. -/
def splitSize (ways : Nat) : Nat :=
  stateSize + 4 * ways

/-- The bytes of the states of a tree. -/
def size : Tree → Nat
  | .empty => stateSize
  | .char _ => stateSize
  | .set ranges => stateSize + 8 * ranges.length
  | .look _ => stateSize
  | .repetition min max _ body =>
    let once := body.size
    match max with
    | none =>
      if min = 0 then
        if body.canBeEmpty then once + 2 * splitSize 2 + stateSize else splitSize 2 + once
      else min * once + splitSize 2
    | some max =>
      if min = 0 ∧ max = 1 then splitSize 2 + once + stateSize
      else
        let fixed := if min = 0 then stateSize else min * once
        if min = max then fixed else fixed + stateSize + (max - min) * (splitSize 2 + once)
  | .capture _ body => 2 * stateSize + body.size
  | .sequence parts => (parts.map size).foldl (· + ·) 0
  | .choice branches =>
    splitSize branches.length + (branches.map size).foldl (· + ·) 0 + stateSize

/-- The groups of the tree that are captured. -/
def groups : Tree → List Group
  | .repetition _ _ _ body => body.groups
  | .capture group body => group :: body.groups
  | .sequence parts => (parts.map groups).flatten
  | .choice branches => (branches.map groups).flatten
  | _ => []

/-- The bytes of the table of groups: a place for each number up to the largest one, whether
or not a group of the tree has it, and the names with their numbers. -/
def groupTableSize (groups : List Group) : Nat :=
  let places := (groups.map (·.number)).foldl max 0 + 1
  let names := groups.filterMap (·.name)
  16 * places + names.foldl (fun total name => total + name.utf8ByteSize + 4) 0

/-- The bytes of the whole program: the states, the whole match and its end, and the groups. -/
def programSize (tree : Tree) : Nat :=
  3 * stateSize + tree.size + groupTableSize tree.groups

/-- The largest program that is accepted, in bytes. -/
def sizeLimit : Nat := 10 * 1024 * 1024

/-- The deepest tree that is accepted. -/
def depthLimit : Nat := 50

end Tree

end RecordStore.Pattern
