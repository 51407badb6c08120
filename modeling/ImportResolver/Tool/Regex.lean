import ImportResolver.Shell.Pattern
/- Regular expressions and what they match. -/
namespace ImportResolver.Tool

open Shell

inductive Regex where
  | empty
  | character (c : Char)
  | any
  | oneOf (negated : Bool) (ranges : List (Char × Char)) (classes : List (Char → Bool))
  | lineStart
  | lineEnd
  | textStart
  | textEnd
  /-- Between a character of a word and another one; `starts` and `ends` say on which sides a word
  may lie. -/
  | wordEdge (starts ends : Bool)
  | insideWord
  | group (number : Nat) (r : Regex)
  | reference (number : Nat)
  | seq (r s : Regex)
  | either (r s : Regex)
  /-- At least `least` times, at most `most` times if that is given. -/
  | times (least : Nat) (most : Option Nat) (r : Regex)

namespace Regex

def isWordCharacter (c : Char) : Bool := c.isAlphanum || c = '_'

def largestReference : Regex → Nat
  | .reference k => k
  | .group _ r => r.largestReference
  | .seq r s => max r.largestReference s.largestReference
  | .either r s => max r.largestReference s.largestReference
  | .times _ _ r => r.largestReference
  | _ => 0

structure State where
  before : Option Char
  rest : Chars
  position : Nat
  /-- Where groups begin and end, the last one first. -/
  groups : List (Nat × Nat × Nat) := []

/-- What does not change while a match is looked for. -/
structure Subject where
  text : Chars
  ignoresCase : Bool := false
  /-- Whether the lines within the text count as lines. -/
  manyLines : Bool := false

def Subject.same (s : Subject) (a b : Char) : Bool :=
  a = b || s.ignoresCase && a.toLower = b.toLower

def State.step (st : State) (p : Char → Bool) : List State :=
  match st.rest with
  | c :: rest =>
    if p c then [{ st with before := some c, rest, position := st.position + 1 }] else []
  | [] => []

def between (s : Subject) (bounds : Nat × Nat) : Chars :=
  (s.text.drop bounds.1).take (bounds.2 - bounds.1)

def State.sides (st : State) : Bool × Bool :=
  (st.before.any isWordCharacter, st.rest.head?.any isWordCharacter)

/-- The first state of each position. Where groups are not referred to, the others lead nowhere
else. -/
def distinct (states : List State) : List State :=
  match states with
  | [] => states
  | [_] => states
  | _ =>
    let (kept, _) := states.foldl
      (fun (acc : List State × Nat) st =>
        if acc.2.testBit st.position then acc
        else (st :: acc.1, acc.2 ||| 1 <<< st.position))
      ([], 0)
    kept.reverse

/-- Takes steps again and again, the most first. Steps that get nowhere are not repeated. -/
def counted (step : State → List State) : Nat → Nat → Option Nat → State → List State
  | 0, least, _, st => if least = 0 then [st] else []
  | n + 1, least, most, st =>
    if most = some 0 then [st]
    else
      let next := (step st).filter fun after => st.position < after.position || 0 < least
      next.flatMap (counted step n (least - 1) (most.map (· - 1))) ++
        if least = 0 then [st] else []

/-- Takes steps as often as there are any, the most first, and comes to each position once. `found`
are the states so far, the last one first, and `seen` has a bit for the position of each. -/
def unbounded (step : State → List State) : Nat → State → List State × Nat → List State × Nat
  | 0, _, acc => acc
  | n + 1, st, acc =>
    if acc.2.testBit st.position then acc
    else
      let next := (step st).filter fun after => st.position < after.position
      let (found, seen) := next.foldl (fun acc after => unbounded step n after acc)
        (acc.1, acc.2 ||| 1 <<< st.position)
      (st :: found, seen)

/-- All ways to go on from a state; only one for each position unless `all` is set. -/
def advance (s : Subject) (all : Bool) : Regex → State → List State
  | .empty, st => [st]
  | .character c, st => st.step (s.same c)
  | .any, st => st.step fun _ => true
  | .oneOf negated ranges classes, st =>
    let within (c : Char) : Bool :=
      ranges.any (fun r => r.1 ≤ c && c ≤ r.2) || classes.any (· c)
    st.step fun c =>
      (within c || s.ignoresCase && (within c.toLower || within c.toUpper)) != negated
  | .lineStart, st =>
    if st.position = 0 || s.manyLines && st.before = some '\n' then [st] else []
  | .lineEnd, st =>
    if st.rest = [] || s.manyLines && st.rest.head? = some '\n' then [st] else []
  | .textStart, st => if st.position = 0 then [st] else []
  | .textEnd, st => if st.rest = [] then [st] else []
  | .wordEdge starts ends, st =>
    let (left, right) := st.sides
    if !left && right && starts || left && !right && ends then [st] else []
  | .insideWord, st => if st.sides.1 = st.sides.2 then [st] else []
  | .group k r, st =>
    (advance s all r st).map fun after =>
      { after with groups := (k, st.position, after.position) :: after.groups }
  | .reference k, st =>
    match st.groups.find? (·.1 = k) with
    | none => []
    | some (_, bounds) =>
      (between s bounds).foldl (fun states c => states.flatMap (·.step (s.same c))) [st]
  | .seq r t, st =>
    let states := (advance s all r st).flatMap (advance s all t)
    if all then states else distinct states
  | .either r t, st =>
    let states := advance s all r st ++ advance s all t st
    if all then states else distinct states
  | .times least most r, st =>
    let room := least + st.rest.length + 1
    if all || most.isSome then
      let states := counted (advance s all r) room least most st
      if all then states else distinct states
    else
      let starts := if least = 0 then [st]
        else distinct (counted (advance s all r) room least (some least) st)
      let (found, _) := starts.foldl
        (fun acc st => unbounded (advance s all r) (st.rest.length + 1) st acc) ([], 0)
      found.reverse

structure Match where
  start : Nat
  stop : Nat
  groups : List (Nat × Nat × Nat)

def longestAt (r : Regex) (s : Subject) (all : Bool) (st : State) : Option Match :=
  let best := (advance s all r st).foldl
    (fun (best : Option State) after =>
      if best.all fun b => b.position < after.position then some after else best)
    none
  best.map fun after => ⟨st.position, after.position, after.groups⟩

/-- The first match from a position on, and of those that begin there the longest. -/
def find? (r : Regex) (s : Subject) (start : Nat) : Option Match :=
  let all := r.largestReference ≠ 0
  let rec go : Nat → State → Option Match
    | 0, _ => none
    | n + 1, st =>
      match longestAt r s all st with
      | some m => some m
      | none =>
        match st.rest with
        | [] => none
        | c :: rest => go n { st with before := some c, rest, position := st.position + 1 }
  let before := if start = 0 then none else s.text[start - 1]?
  go (s.text.length + 1) { before, rest := s.text.drop start, position := start }

/-- All matches, none within another. An empty one right after another does not count. -/
def findAll (r : Regex) (s : Subject) : List Match :=
  let rec go : Nat → Nat → Option Nat → List Match
    | 0, _, _ => []
    | n + 1, start, last =>
      match r.find? s start with
      | none => []
      | some m =>
        let next := if m.stop = m.start then m.stop + 1 else m.stop
        let more := if s.text.length < next then [] else go n next (some m.stop)
        if m.start = m.stop && last = some m.start then more else m :: more
  go (s.text.length + 2) 0 none

def Match.group (m : Match) (s : Subject) (k : Nat) : Chars :=
  if k = 0 then between s (m.start, m.stop)
  else
    match m.groups.find? (·.1 = k) with
    | some (_, bounds) => between s bounds
    | none => []

end Regex
end ImportResolver.Tool
