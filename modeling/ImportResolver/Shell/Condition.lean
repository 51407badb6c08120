import ImportResolver.Shell.Names
import ImportResolver.Shell.Variables
/- Conditions on texts, numbers and files. -/
namespace ImportResolver.Shell.Condition

inductive Kind where
  | unary
  | binary
  | junction
  | negation
  | opening
  | closing
  deriving DecidableEq

def kind? (cs : Chars) : Option Kind :=
  match String.ofList cs with
  | "!" => some .negation
  | "-a" => some .junction
  | "-o" => some .junction
  | "(" => some .opening
  | ")" => some .closing
  | s =>
    if ["-r", "-w", "-x", "-e", "-f", "-d", "-c", "-b", "-p", "-u", "-g", "-k", "-s", "-t", "-z",
        "-n", "-h", "-O", "-G", "-L", "-S"].contains s then some .unary
    else if ["=", "!=", "<", ">", "-eq", "-ne", "-ge", "-gt", "-le", "-lt", "-nt", "-ot",
        "-ef"].contains s then some .binary
    else none

/-- What an argument is where it stands. An operator without operands is a text. -/
def role? (args : List Chars) : Option Kind :=
  match args with
  | [] => none
  | a :: rest =>
    match kind? a with
    | some .unary =>
      match rest with
      | [] => none
      | [_] => some .unary
      | b :: _ :: _ => if kind? b = some .binary then none else some .unary
    | some .opening => if rest = [] then none else some .opening
    | k => k

abbrev Test (α : Type) := Except String α

def number (cs : Chars) : Test Int :=
  match decimal? cs with
  | some n =>
    if -Nat.pow 2 63 ≤ n && n < Nat.pow 2 63 then .ok n
    else .error ("Illegal number: " ++ stringOf cs)
  | none => .error ("Illegal number: " ++ stringOf cs)

structure Scene where
  fs : FileSystem
  /-- For a path that stands for a descriptor, what that leads to, if it is open. -/
  descriptor? : Chars → Option (Option Endpoint)
  /-- When the node at a place changed last. -/
  changed : FileSystem.Location → Int

inductive Sight where
  | node (n : FileSystem.Node)
  | pipe
  | nothing

def Scene.look (s : Scene) (cs : Chars) : Sight :=
  let ofNode? : Option FileSystem.Node → Sight
    | some n => .node n
    | none => .nothing
  match s.descriptor? cs with
  | none => ofNode? (s.fs.node? (pathOf cs))
  | some none => .nothing
  | some (some (.device kind)) => .node (.device kind 0o666)
  | some (some (.buffer _)) => .pipe
  | some (some (.detached _)) => .node (.file [] 0o644)
  | some (some (.file loc)) => ofNode? (s.fs.tree.get? loc)

def Scene.isLink (s : Scene) (cs : Chars) : Bool :=
  (s.descriptor? cs).isSome ||
    match s.fs.locate (pathOf cs) false with
    | .ok loc => (s.fs.tree.get? loc).any (· matches .link _)
    | .error _ => false

def Scene.time? (s : Scene) (cs : Chars) : Option Int := do
  let loc ← (s.fs.locate (pathOf cs) true).toOption
  let _ ← s.fs.tree.get? loc
  return s.changed loc

def Scene.isNewer (s : Scene) (a b : Chars) : Bool :=
  match s.time? a, s.time? b with
  | some x, some y => y < x
  | _, _ => false

def isLarge : FileSystem.Node → Bool
  | .file bytes _ => !bytes.isEmpty
  | .directory _ => true
  | .tool _ => true
  | _ => false

def unary (s : Scene) (operator operand : Chars) : Test Bool := do
  let sight := s.look operand
  let holds (p : FileSystem.Node → Bool) (pipe : Bool) : Test Bool :=
    match sight with
    | .node n => return p n
    | .pipe => return pipe
    | .nothing => return false
  let isTool (n : FileSystem.Node) : Bool := n matches .tool _
  match operator with
  | ['-', 'z'] => return operand.isEmpty
  | ['-', 'n'] => return !operand.isEmpty
  | ['-', 't'] =>
    let _ ← number operand
    return false
  | ['-', 'e'] => holds (fun _ => true) true
  | ['-', 'f'] => holds FileSystem.Node.isFile false
  | ['-', 'd'] => holds FileSystem.Node.isDirectory false
  | ['-', 'r'] => holds FileSystem.Node.isReadable true
  | ['-', 'w'] => holds (fun n => n.isWritable && !isTool n) true
  | ['-', 'x'] => holds FileSystem.Node.isExecutable false
  | ['-', 's'] => holds isLarge false
  | ['-', 'c'] => holds (· matches .device _ _) false
  | ['-', 'p'] => holds (· matches .pipe _ _) true
  | ['-', 'u'] => holds (·.grants 0o4000) false
  | ['-', 'g'] => holds (·.grants 0o2000) false
  | ['-', 'k'] => holds (·.grants 0o1000) false
  | ['-', 'O'] => holds (fun n => !isTool n) true
  | ['-', 'G'] => holds (fun n => !isTool n) true
  | ['-', 'h'] => return s.isLink operand
  | ['-', 'L'] => return s.isLink operand
  | _ => return false

def sameFile (fs : FileSystem) (a b : Chars) : Bool :=
  match fs.locate (pathOf a) true, fs.locate (pathOf b) true with
  | .ok x, .ok y => x = y
  | _, _ => false

def binary (s : Scene) (a operator b : Chars) : Test Bool := do
  match String.ofList operator with
  | "=" => return a = b
  | "!=" => return a ≠ b
  | "<" => return a < b
  | ">" => return b < a
  | "-eq" => return (← number a) = (← number b)
  | "-ne" => return (← number a) ≠ (← number b)
  | "-lt" => return (← number a) < (← number b)
  | "-le" => return (← number a) ≤ (← number b)
  | "-gt" => return (← number b) < (← number a)
  | "-ge" => return (← number b) ≤ (← number a)
  | "-ef" => return sameFile s.fs a b
  | "-nt" => return s.isNewer a b
  | _ => return s.isNewer b a

mutual

/-- Reads a disjunction from where the arguments stand; answers with the arguments from the last
one that belongs to it. -/
def disjunction (s : Scene) : Nat → List Chars → Test (Bool × List Chars)
  | 0, _ => .error "too deep"
  | n + 1, args => do
    let (a, at_) ← conjunction s n args
    match at_ with
    | _ :: ['-', 'o'] :: rest =>
      let (b, at_) ← disjunction s n rest
      return (a || b, at_)
    | _ => return (a, at_)

def conjunction (s : Scene) : Nat → List Chars → Test (Bool × List Chars)
  | 0, _ => .error "too deep"
  | n + 1, args => do
    let (a, at_) ← negated s n args
    match at_ with
    | _ :: ['-', 'a'] :: rest =>
      let (b, at_) ← conjunction s n rest
      return (a && b, at_)
    | _ => return (a, at_)

def negated (s : Scene) : Nat → List Chars → Test (Bool × List Chars)
  | 0, _ => .error "too deep"
  | n + 1, args => do
    if role? args = some .negation then
      match args with
      | _ :: [] => return (true, args)
      | _ :: rest =>
        let (a, at_) ← negated s n rest
        return (!a, at_)
      | [] => return (false, [])
    else primary s n args

def primary (s : Scene) : Nat → List Chars → Test (Bool × List Chars)
  | 0, _ => .error "too deep"
  | n + 1, args => do
    match args with
    | [] => return (false, [])
    | a :: rest =>
      match role? args with
      | some .opening =>
        if role? rest = some .closing then return (false, rest)
        else
          let (v, at_) ← disjunction s n rest
          match at_ with
          | _ :: [')'] :: after => return (v, [')'] :: after)
          | _ => .error "closing paren expected"
      | some .unary =>
        match rest with
        | [] => .error (stringOf a ++ ": argument expected")
        | b :: _ => return (← unary s a b, rest)
      | _ =>
        match rest with
        | op :: after =>
          if role? rest = some .binary then
            match after with
            | [] => .error (stringOf op ++ ": argument expected")
            | b :: _ => return (← binary s a op b, after)
          else return (!a.isEmpty, args)
        | [] => return (!a.isEmpty, args)

end

def whole (s : Scene) (args : List Chars) : Test Bool := do
  let (v, at_) ← disjunction s (4 * args.length + 8) args
  if 2 ≤ at_.length then
    match at_.headD [] with
    | [] => .error "unexpected operator"
    | operator => .error (stringOf operator ++ ": unexpected operator")
  else return v

/-- Whether arguments hold as a condition. A negation before two or three others is of all of
them, but a second one there counts no more. -/
def holds (s : Scene) (args : List Chars) : Test Bool := do
  let inner (args : List Chars) : Test Bool :=
    match args with
    | [a, op, b] =>
      if kind? op = some .binary then binary s a op b
      else if a = ['('] && b = [')'] then whole s [op]
      else if a = ['!'] then whole s [op, b]
      else whole s args
    | _ => whole s args
  match args with
  | [] => return false
  | [a, op, b] =>
    if a = ['!'] && kind? op ≠ some .binary then return !(← whole s [op, b]) else inner args
  | [a, b, c, d] =>
    if a = ['('] && d = [')'] then whole s [b, c]
    else if a = ['!'] then return !(← inner [b, c, d])
    else whole s args
  | _ => whole s args

def scene : Action Scene := do
  let m ← get
  let opened? (n : Nat) : Option Endpoint := do
    let d ← m.process.descriptors.find? (·.1 = n)
    let f ← m.files.find? (·.1 = d.2)
    return f.2.endpoint
  return {
    fs := m.fs
    descriptor? := fun cs => (Action.descriptorNamed? (pathOf cs)).map opened?
    changed := fun loc => ((m.changed.find? (·.1 = loc)).map (·.2)).getD 0 }

end ImportResolver.Shell.Condition
