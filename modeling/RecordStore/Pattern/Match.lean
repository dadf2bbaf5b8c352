import RecordStore.Pattern.Tree

/-!
Matching.

What is left to match is a list of tasks, a thread. At a place in the text a list of
threads, best first, is unfolded until each wants a character (`unfold`); reading a
character keeps the threads that want it. The end that the best thread reaches is the
end of the match, so a match starts as early as possible and among the ends of one
start the branch written first wins.

A thread that has been unfolded at a place is not unfolded there again. That also ends
the unfolding of a repetition whose body matches the empty text. What is left behind
two branches of a choice is told apart by `Task.joined`, so two threads are the same
only if they stand at the same place of the pattern.
-/

namespace RecordStore.Pattern

/-- What is to be matched, choices and repetitions brought into a plain form. -/
inductive Task
  | empty
  | one (set : CharSet)
  | look (condition : Look)
  | both (first second : Task)
  | either (preferred other : Task)
  /-- The body that many times. -/
  | times (count : Nat) (body : Task)
  /-- The body up to that many times. -/
  | upTo (count : Nat) (greedy : Bool) (body : Task)
  /-- The body at least once. -/
  | plus (greedy : Bool) (body : Task)
  /-- The body any number of times. -/
  | star (greedy : Bool) (body : Task)
  /-- The end of a branch: of the preferred one, or of the other. -/
  | joined (preferred : Bool)
  deriving DecidableEq, Repr

namespace Task

/-- One task or nothing. -/
def optional (greedy : Bool) (task : Task) : Task :=
  if greedy then .either task .empty else .either .empty task

/-- A body at least `min` times. One that can match the empty text is either passed over or
entered, so that an empty round of it comes before no round only if it is greedy. -/
def atLeast (min : Nat) (greedy canBeEmpty : Bool) (body : Task) : Task :=
  match min with
  | 0 => if canBeEmpty then optional greedy (.plus greedy body) else .star greedy body
  | 1 => .plus greedy body
  | min + 1 => .both (.times min body) (.plus greedy body)

/-- A body at least `min` and at most `max` times. -/
def between (min max : Nat) (greedy : Bool) (body : Task) : Task :=
  if min = 0 then .upTo max greedy body
  else if min = max then .times min body
  else .both (.times min body) (.upTo (max - min) greedy body)

/-- The task of a tree. -/
def ofTree : Tree → Task
  | .empty => .empty
  | .char c => .one (CharSet.ofChar c)
  | .set ranges => .one ranges
  | .look condition => .look condition
  | .repetition min max greedy body =>
    match max with
    | none => atLeast min greedy body.canBeEmpty (ofTree body)
    | some max => between min max greedy (ofTree body)
  | .capture _ body => ofTree body
  | .sequence parts => (parts.map ofTree).foldr .both .empty
  | .choice [] => .one []
  | .choice (branch :: branches) =>
    eitherOf (ofTree branch) (branches.map ofTree)
where
  /-- The first of several tasks that leads to a match. -/
  eitherOf : Task → List Task → Task
    | first, [] => first
    | first, next :: others => .either first (eitherOf next others)

/-- How many times a task can be taken apart. -/
def weight : Task → Nat
  | .empty => 1
  | .one _ => 1
  | .look _ => 1
  | .both first second => first.weight + second.weight + 1
  | .either first second => first.weight + second.weight + 3
  | .times count body => count * (body.weight + 1) + 1
  | .upTo count _ body => count * (body.weight + 1) + 1
  | .plus _ body => 2 * (body.weight + 2)
  | .star _ body => 2 * (body.weight + 1)
  | .joined _ => 1

end Task

/-- What is left to match. -/
abbrev Thread := List Task

/-- The characters around a place. -/
structure Place where
  before : Option Char
  behind : List Char

/-- Whether a character belongs to a word. -/
def isWordChar (c : Option Char) : Bool :=
  c.any (CharSet.word.holds ·)

/-- Whether a condition holds at a place. -/
def Look.holds (look : Look) (place : Place) : Bool :=
  let before := place.before
  let behind := place.behind.head?
  let wordBefore := isWordChar before
  let wordBehind := isWordChar behind
  match look with
  | .start => before.isNone
  | .stop => behind.isNone
  | .lineStart => before.isNone || before == some '\n'
  | .lineStop => behind.isNone || behind == some '\n'
  | .lineStartCr =>
    before.isNone || before == some '\n' || (before == some '\r' && behind != some '\n')
  | .lineStopCr =>
    behind.isNone || behind == some '\r' || (behind == some '\n' && before != some '\r')
  | .wordEdge => wordBefore != wordBehind
  | .noWordEdge => wordBefore == wordBehind
  | .wordStart => !wordBefore && wordBehind
  | .wordStop => wordBefore && !wordBehind
  | .noWordBefore => !wordBefore
  | .noWordAfter => !wordBehind

/-- A thread that wants a character: the characters it accepts, and what is left behind. -/
structure Want where
  set : CharSet
  next : Thread
  deriving DecidableEq

/-- The threads that want a character, best first, and whether a thread behind them has matched. -/
structure Unfolding where
  wants : List Want
  matched : Bool

namespace Unfolding

/-- Puts a wanting thread in front. -/
def cons (want : Want) (rest : Unfolding) : Unfolding :=
  ⟨want :: rest.wants, rest.matched⟩

end Unfolding

/-- Takes threads apart, best first, until each wants a character. Threads behind one that
has matched do not count. -/
def unfold (place : Place) : (fuel : Nat) → (seen : List Thread) → List Thread → Unfolding
  | 0, _, _ => ⟨[], false⟩
  | _, _, [] => ⟨[], false⟩
  | _ + 1, _, [] :: _ => ⟨[], true⟩
  | fuel + 1, seen, (task :: next) :: threads =>
    let fork (first second : Thread) : Unfolding :=
      if seen.contains (task :: next) then unfold place fuel seen threads
      else unfold place fuel ((task :: next) :: seen) (first :: second :: threads)
    let prefer (greedy : Bool) (enter : Thread) : Unfolding :=
      if greedy then fork enter next else fork next enter
    match task with
    | .empty => unfold place fuel seen (next :: threads)
    | .one set =>
      if seen.contains (task :: next) then unfold place fuel seen threads
      else (unfold place fuel ((task :: next) :: seen) threads).cons ⟨set, next⟩
    | .look condition =>
      unfold place fuel seen (if condition.holds place then next :: threads else threads)
    | .both first second => unfold place fuel seen ((first :: second :: next) :: threads)
    | .either preferred other =>
      fork (preferred :: .joined true :: next) (other :: .joined false :: next)
    | .times 0 _ => unfold place fuel seen (next :: threads)
    | .times (count + 1) body =>
      unfold place fuel seen ((body :: .times count body :: next) :: threads)
    | .upTo 0 _ _ => unfold place fuel seen (next :: threads)
    | .upTo (count + 1) greedy body => prefer greedy (body :: .upTo count greedy body :: next)
    | .plus greedy body =>
      unfold place fuel seen ((body :: .star greedy body :: next) :: threads)
    | .star greedy body => prefer greedy (body :: .star greedy body :: next)
    | .joined _ => unfold place fuel seen (next :: threads)

/-- Fuel for unfolding the threads of a task: each choice is taken apart once, and leads
through less than the whole task to the next one. -/
def unfoldFuel (task : Task) : Nat :=
  4 * (task.weight + 2) * (task.weight + 2)

/-- Follows threads through a text; gives the number of characters up to the best end. -/
def follow (fuel : Nat) (before : Option Char) (threads : List Thread) (count : Nat)
    (best : Option Nat) : List Char → Option Nat
  | [] => if (unfold ⟨before, []⟩ fuel [] threads).matched then some count else best
  | c :: rest =>
    let unfolding := unfold ⟨before, c :: rest⟩ fuel [] threads
    let best := if unfolding.matched then some count else best
    match unfolding.wants.filter fun want => want.set.holds c with
    | [] => best
    | wants => follow fuel (some c) (wants.map (·.next)) (count + 1) best rest

/-- The number of characters that a task matches at the start of a text. -/
def matchLength (task : Task) (before : Option Char) (text : List Char) : Option Nat :=
  follow (unfoldFuel task) before [[task]] 0 none text

/-- The first match in a text. -/
def findFrom (task : Task) (before : Option Char) : List Char → Option (List Char)
  | [] => (matchLength task before []).map fun _ => []
  | c :: rest =>
    match matchLength task before (c :: rest) with
    | some count => some ((c :: rest).take count)
    | none => findFrom task (some c) rest

end RecordStore.Pattern
