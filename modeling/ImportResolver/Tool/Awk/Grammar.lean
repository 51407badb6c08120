import ImportResolver.Tool.Awk.Token
/- Reading a program from its tokens. -/
namespace ImportResolver.Tool.Awk

open Shell

/-- What is left to read, and what is known of the names that were read. -/
structure Reading where
  rest : List (Token × Nat)
  line : Nat := 1
  shared : List Chars := specialNames.map String.toList
  /-- The function that is read, and its parameters. -/
  function : Option (Chars × List Chars) := none
  loops : Nat := 0
  /-- Whether a record is at hand. -/
  hasRecord : Bool := true
  arrays : List (Chars × Nat) := []
  sharedArrays : List Nat := [Special.arguments, Special.environment]
  /-- Names that are handed to functions: the function that does so, if any, with the number of the
  name, and the function and number that it becomes. -/
  passes : List ((Option Chars × Nat) × Chars × Nat) := []
  calls : List Chars := []

abbrev Parsing (α : Type) := StateT Reading (Except Chars) α

namespace Parsing

def peek? : Parsing (Option Token) := do return ((← get).rest.head?).map (·.1)

def refuse {α : Type} (message : Chars) : Parsing α := do
  throw (atLine (← get).line ++ message)

def lineOfNext : Parsing Nat := do
  let st ← get
  return ((st.rest.head?).map (·.2)).getD (st.line + 1)

def unexpected {α : Type} : Parsing α := do
  let line ← lineOfNext
  match ← peek? with
  | some t => throw (atLine line ++ "syntax error at or near ".toList ++ t.shown)
  | none => throw (atLine line ++ "syntax error at or near end of file".toList)

def advance : Parsing Unit :=
  modify fun st =>
    match st.rest with
    | (_, line) :: rest => { st with rest, line }
    | [] => st

def isNext (s : String) : Parsing Bool := do return (← peek?).any (·.isSign s)

def isNextWord (s : String) : Parsing Bool := do return (← peek?).any (·.isKeyword s)

def takes (s : String) : Parsing Bool := do
  if ← isNext s then
    advance
    return true
  else return false

def takesWord (s : String) : Parsing Bool := do
  if ← isNextWord s then
    advance
    return true
  else return false

def expect (s : String) : Parsing Unit := do
  if !(← takes s) then
    if s = ")" || s = "\x7d" then
      let near := match ← peek? with
        | some t => t.shown
        | none => "end of line".toList
      let line := ((← get).rest.head?.map (·.2)).getD (← get).line
      throw (atLine line ++ "missing ".toList ++ s.toList ++ " near ".toList ++ near)
    else unexpected

def isLineEnd (t : Token × Nat) : Bool :=
  match t.1 with
  | .lineEnd => true
  | _ => false

def isGap (t : Token × Nat) : Bool := isLineEnd t || t.1.isSign ";"

def skipLines : Parsing Unit := modify fun st => { st with rest := st.rest.dropWhile isLineEnd }

def skipGaps : Parsing Unit := modify fun st => { st with rest := st.rest.dropWhile isGap }

def variableOf (cs : Chars) : Parsing Name := do
  let st ← get
  match st.function.bind fun f => f.2.findIdx? (· = cs) with
  | some i => return .own i
  | none =>
    match st.shared.findIdx? (· = cs) with
    | some i => return .shared i
    | none =>
      set { st with shared := st.shared ++ [cs] }
      return .shared st.shared.length

def asArray (n : Name) : Parsing Unit :=
  modify fun st =>
    match n, st.function with
    | .own i, some (f, _) => { st with arrays := (f, i) :: st.arrays }
    | .shared i, _ => { st with sharedArrays := i :: st.sharedArrays }
    | _, _ => st

def arrayOf (cs : Chars) : Parsing Name := do
  let n ← variableOf cs
  asArray n
  return n

def notePasses (callee : Chars) (args : List Expr) : Parsing Unit :=
  modify fun st =>
    let here := args.zipIdx.filterMap fun
      | (.value (.variable (.own i)), j) => some ((st.function.map (·.1), i), callee, j)
      | (.value (.variable (.shared i)), j) => some ((none, i), callee, j)
      | _ => none
    { st with passes := here ++ st.passes, calls := callee :: st.calls }

/-- Whether what comes next can begin an expression that is joined to the one before. -/
def startsJoined (t : Token) : Bool :=
  match t with
  | .number .. => true
  | .text _ => true
  | .regex _ => true
  | .name _ => true
  | .called _ => true
  | .builtin .. => true
  | .sign s => ["$", "!", "(", "++", "--"].contains s
  | _ => false

def comparison? (greater : Bool) (t : Token) : Option Operator :=
  match t with
  | .sign "<" => some .less
  | .sign "<=" => some .atMost
  | .sign "==" => some .equal
  | .sign "!=" => some .unequal
  | .sign ">" => if greater then some .greater else none
  | .sign ">=" => some .atLeast
  | _ => none

def product? (t : Token) : Option Operator :=
  match t with
  | .sign "*" => some .times
  | .sign "/" => some .over
  | .sign "%" => some .modulo
  | _ => none

/-- The operator of an assignment; none within it for a plain one. -/
def assignment? (t : Token) : Option (Option Operator) :=
  match t with
  | .sign "=" => some none
  | .sign "+=" => some (some .plus)
  | .sign "-=" => some (some .minus)
  | .sign "*=" => some (some .times)
  | .sign "/=" => some (some .over)
  | .sign "%=" => some (some .modulo)
  | .sign "^=" => some (some .power)
  | _ => none

def arity : Builtin → Nat × Nat
  | .length => (0, 1)
  | .index => (2, 2)
  | .substr => (2, 3)
  | .split => (2, 3)
  | .sub => (2, 3)
  | .gsub => (2, 3)
  | .match_ => (2, 2)
  | .sprintf => (1, 1000)
  | .atan2 => (2, 2)
  | .rand => (0, 0)
  | .srand => (0, 1)
  | .fflush => (0, 1)
  | .systime => (0, 0)
  | .strftime => (0, 3)
  | .mktime => (1, 2)
  | _ => (1, 1)

def one : Float := Float.ofNat 1

def regexOf (cs : Chars) : Parsing Expr := do
  match compiled cs with
  | .ok r => return .regex r
  | .error why => refuse why

def asPattern (e : Expr) : Parsing Expr := do
  match e with
  | .text cs => regexOf cs
  | e => return e

mutual

/-- An expression. A sign `>` compares only if `g` is set. -/
def expr : Nat → Bool → Parsing Expr
  | 0, _ => unexpected
  | n + 1, g => do
    let c ← alternatives n g
    if ← takes "?" then
      skipLines
      let a ← expr n g
      skipLines
      expect ":"
      skipLines
      return .choice c a (← expr n g)
    else return c

def alternatives : Nat → Bool → Parsing Expr
  | 0, _ => unexpected
  | n + 1, g => do more n g (← conjunction n g)
where
  more : Nat → Bool → Expr → Parsing Expr
    | 0, _, _ => unexpected
    | n + 1, g, a => do
      if ← takes "||" then
        skipLines
        more n g (.either a (← conjunction n g))
      else return a

def conjunction : Nat → Bool → Parsing Expr
  | 0, _ => unexpected
  | n + 1, g => do moreBoth n g (← membership n g)

def moreBoth : Nat → Bool → Expr → Parsing Expr
  | 0, _, _ => unexpected
  | n + 1, g, a => do
    if ← takes "&&" then
      skipLines
      moreBoth n g (.both a (← membership n g))
    else return a

def membership : Nat → Bool → Parsing Expr
  | 0, _ => unexpected
  | n + 1, g => do moreMembers n (← matching n g)

def moreMembers : Nat → Expr → Parsing Expr
  | 0, _ => unexpected
  | n + 1, e => do
    if ← takesWord "in" then
      match ← peek? with
      | some (.name cs) =>
        advance
        let a ← arrayOf cs
        moreMembers n (.member (match e with
          | .several es => es
          | e => [e]) a)
      | _ => unexpected
    else return e

def matching : Nat → Bool → Parsing Expr
  | 0, _ => unexpected
  | n + 1, g => do moreMatches n g (← comparison n g)

def moreMatches : Nat → Bool → Expr → Parsing Expr
  | 0, _, _ => unexpected
  | n + 1, g, a => do
    if ← takes "~" then
      moreMatches n g (.matches false a (← asPattern (← comparison n g)))
    else if ← takes "!~" then
      moreMatches n g (.matches true a (← asPattern (← comparison n g)))
    else return a

def comparison : Nat → Bool → Parsing Expr
  | 0, _ => unexpected
  | n + 1, g => do moreComparisons n g (← joined n g)

def moreComparisons : Nat → Bool → Expr → Parsing Expr
  | 0, _, _ => unexpected
  | n + 1, g, a => do
    match (← peek?).bind (comparison? g) with
    | some op =>
      advance
      moreComparisons n g (.binary op a (← joined n g))
    | none => return a

def joined : Nat → Bool → Parsing Expr
  | 0, _ => unexpected
  | n + 1, g => do moreJoined n g (← sum n g)

def moreJoined : Nat → Bool → Expr → Parsing Expr
  | 0, _, _ => unexpected
  | n + 1, g, a => do
    if (← peek?).any startsJoined then moreJoined n g (.binary .joined a (← sum n g))
    else return a

def sum : Nat → Bool → Parsing Expr
  | 0, _ => unexpected
  | n + 1, g => do moreTerms n g (← product n g)

def moreTerms : Nat → Bool → Expr → Parsing Expr
  | 0, _, _ => unexpected
  | n + 1, g, a => do
    if ← takes "+" then moreTerms n g (.binary .plus a (← product n g))
    else if ← takes "-" then moreTerms n g (.binary .minus a (← product n g))
    else return a

def product : Nat → Bool → Parsing Expr
  | 0, _ => unexpected
  | n + 1, g => do moreFactors n g (← signed n g)

def moreFactors : Nat → Bool → Expr → Parsing Expr
  | 0, _, _ => unexpected
  | n + 1, g, a => do
    match (← peek?).bind product? with
    | some op =>
      advance
      moreFactors n g (.binary op a (← signed n g))
    | none => return a

def signed : Nat → Bool → Parsing Expr
  | 0, _ => unexpected
  | n + 1, g => do
    if ← takes "!" then return .negation (← signed n g)
    else if ← takes "-" then return .negative (← signed n g)
    else if ← takes "+" then return .positive (← signed n g)
    else morePipes n (← powers n g)

def morePipes : Nat → Expr → Parsing Expr
  | 0, _ => unexpected
  | n + 1, e => do
    let st ← get
    if ← takes "|" then
      if ← takesWord "getline" then
        let goal ← place? n
        morePipes n (.readCommand goal e)
      else
        set st
        return e
    else return e

def powers : Nat → Bool → Parsing Expr
  | 0, _ => unexpected
  | n + 1, g => do
    let a ← stepped n g
    if ← takes "^" then
      let isSigned := (← isNext "-") || (← isNext "+") || (← isNext "!")
      return .binary .power a (← if isSigned then signed n g else powers n g)
    else return a

def stepped : Nat → Bool → Parsing Expr
  | 0, _ => unexpected
  | n + 1, g => do
    if ← takes "++" then
      match ← place? n with
      | some p => return .step false one p
      | none => unexpected
    else if ← takes "--" then
      match ← place? n with
      | some p => return .step false (-one) p
      | none => unexpected
    else
      match ← place? n with
      | none => primary n g
      | some p =>
        if ← takes "++" then return .step true one p
        else if ← takes "--" then return .step true (-one) p
        else
          match (← peek?).bind assignment? with
          | some op =>
            advance
            skipLines
            return .assign op p (← expr n g)
          | none => return .value p

def place? : Nat → Parsing (Option Place)
  | 0 => unexpected
  | n + 1 => do
    match ← peek? with
    | some (.name cs) =>
      advance
      if ← takes "[" then
        let a ← arrayOf cs
        let keys ← exprs n true
        expect "]"
        return some (.element a keys)
      else return some (.variable (← variableOf cs))
    | some (.sign "$") =>
      advance
      return some (.field (← fieldNumber n))
    | _ => return none

def fieldNumber : Nat → Parsing Expr
  | 0 => unexpected
  | n + 1 => do
    if ← takes "-" then return .negative (← fieldNumber n)
    else if ← takes "+" then return .positive (← fieldNumber n)
    else if ← takes "!" then return .negation (← fieldNumber n)
    else if ← takes "++" then
      match ← place? n with
      | some p => return .step false one p
      | none => unexpected
    else if ← takes "--" then
      match ← place? n with
      | some p => return .step false (-one) p
      | none => unexpected
    else
      match ← place? n with
      | some p => return .value p
      | none => primary n true

def exprs : Nat → Bool → Parsing (List Expr)
  | 0, _ => unexpected
  | n + 1, g => do
    let e ← expr n g
    if ← takes "," then
      skipLines
      return e :: (← exprs n g)
    else return [e]

def arguments : Nat → Parsing (List Expr)
  | 0 => unexpected
  | n + 1 => do
    skipLines
    if ← takes ")" then return []
    else
      let es ← exprs n true
      skipLines
      expect ")"
      return es

def primary : Nat → Bool → Parsing Expr
  | 0, _ => unexpected
  | n + 1, _ => do
    match ← peek? with
    | some (.number x _) =>
      advance
      return .number x
    | some (.text cs) =>
      advance
      return .text cs
    | some (.regex cs) =>
      advance
      regexOf cs
    | some (.sign "(") =>
      advance
      skipLines
      if (← peek?).any (·.isSign ")") then unexpected
      let es ← exprs n true
      skipLines
      expect ")"
      match es with
      | [.value p] => return .several [.value p]
      | [e] => return e
      | es => return .several es
    | some (.called f) =>
      advance
      expect "("
      let args ← arguments n
      notePasses f args
      return .call f args
    | some (.builtin f name) =>
      advance
      builtinCall n f name
    | some (.keyword "getline") =>
      advance
      let goal ← place? n
      if ← takes "<" then return .readFile goal (← stepped n false)
      else return .readMain goal
    | _ => unexpected

def builtinCall : Nat → Builtin → String → Parsing Expr
  | 0, _, _ => unexpected
  | n + 1, f, name => do
    let wrong {α : Type} : Parsing α :=
      refuse ("wrong number of arguments in call to ".toList ++ name.toList)
    if !(← isNext "(") then
      if f = .length then return .builtin f []
      else unexpected
    else
      advance
      let args ← arguments n
      let (least, most) := arity f
      if args.length < least || most < args.length then
        if f = .length then unexpected else wrong
      let args ← match f, args with
        | .match_, [e, p] => do pure [e, ← asPattern p]
        | .sub, p :: rest | .gsub, p :: rest => do pure ((← asPattern p) :: rest)
        | _, args => pure args
      match f, args with
      | .split, _ :: .value (.variable a) :: _ => asArray a
      | .split, _ => unexpected
      | .sub, [_, _, .value _] | .gsub, [_, _, .value _] => pure ()
      | .sub, [_, _, _] | .gsub, [_, _, _] => unexpected
      | _, _ => pure ()
      return .builtin f args

end

def outlet? (n : Nat) : Parsing (Option (Outlet × Expr)) := do
  if ← takes ">" then return some (.file false, ← expr n false)
  else if ← takes ">>" then return some (.file true, ← expr n false)
  else if ← takes "|" then return some (.command, ← expr n false)
  else return none

def output (n : Nat) : Parsing (List Expr × Option (Outlet × Expr)) := do
  let isEmpty := match ← peek? with
    | none => true
    | some .lineEnd => true
    | some (.sign s) => [";", "\x7d", ">", ">>", "|"].contains s
    | _ => false
  let es ← if isEmpty then pure [] else exprs n false
  let es := match es with
    | [.several es] => es
    | es => es
  return (es, ← outlet? n)

def ending : Parsing Unit := do
  match ← peek? with
  | none => return
  | some .lineEnd => advance
  | some (.sign ";") => advance
  | some (.sign "\x7d") => return
  | _ => unexpected

def inLoop {α : Type} (body : Parsing α) : Parsing α := do
  modify fun st => { st with loops := st.loops + 1 }
  let a ← body
  modify fun st => { st with loops := st.loops - 1 }
  return a

def simple (n : Nat) : Parsing Statement := do
  if ← takesWord "print" then
    let (es, outlet) ← output n
    return .print es outlet
  else if ← takesWord "printf" then
    let (es, outlet) ← output n
    if es.isEmpty then refuse "no arguments in call to printf".toList
    return .printf es outlet
  else if ← takesWord "delete" then
    match ← peek? with
    | some (.name cs) =>
      advance
      let a ← arrayOf cs
      if ← takes "[" then
        let keys ← exprs n true
        expect "]"
        return .delete a keys
      else return .deleteAll a
    | _ => unexpected
  else if ← takesWord "next" then
    if (← get).hasRecord then return .next else refuse "improper use of next".toList
  else if ← takesWord "nextfile" then
    if (← get).hasRecord then return .nextFile else refuse "improper use of nextfile".toList
  else if ← takesWord "break" then
    if (← get).loops = 0 then refuse "break statement outside of loop".toList
    return .breaks
  else if ← takesWord "continue" then
    if (← get).loops = 0 then refuse "continue statement outside of loop".toList
    return .continues
  else if ← takesWord "exit" then
    let isEmpty := match ← peek? with
      | none => true
      | some .lineEnd => true
      | some (.sign s) => s = ";" || s = "\x7d"
      | _ => false
    return .exit (← if isEmpty then pure none else some <$> expr n true)
  else if ← takesWord "return" then
    if (← get).function.isNone then refuse "return outside function body".toList
    let isEmpty := match ← peek? with
      | none => true
      | some .lineEnd => true
      | some (.sign s) => s = ";" || s = "\x7d"
      | _ => false
    return .leave (← if isEmpty then pure none else some <$> expr n true)
  else return .expr (← expr n true)

/-- An expression between parentheses, and the lines that end after it. -/
def condition (n : Nat) : Parsing Expr := do
  expect "("
  skipLines
  let c ← expr n true
  skipLines
  expect ")"
  return c

/-- The variable and the array of a loop that visits all keys, if such a loop comes next. -/
def isVisit : Parsing (Option (Chars × Chars)) := do
  let next : List Token := ((← get).rest.take 4).map (·.1)
  match next with
  | [.name x, .keyword "in", .name a, .sign ")"] => return some (x, a)
  | _ => return none

mutual

def statement : Nat → Parsing Statement
  | 0 => unexpected
  | n + 1 => do
    if ← takes "\x7b" then return .block (← statements n)
    else if ← takes ";" then return .block []
    else if ← takesWord "if" then
      let c ← condition n
      skipLines
      let s ← statement n
      let st ← get
      skipLines
      if ← takesWord "else" then
        skipLines
        return .choice c s (some (← statement n))
      else
        set st
        return .choice c s none
    else if ← takesWord "while" then
      let c ← condition n
      if ← takes ";" then return .loop c (.block [])
      skipLines
      return .loop c (← inLoop (statement n))
    else if ← takesWord "do" then
      skipLines
      let s ← inLoop (statement n)
      skipLines
      if !(← takesWord "while") then unexpected
      let c ← condition n
      ending
      return .loopAfter s c
    else if ← takesWord "for" then
      expect "("
      match ← isVisit with
      | some (x, a) =>
        let x ← variableOf x
        let a ← arrayOf a
        for _ in List.range 4 do advance
        skipLines
        return .each (.variable x) a (← inLoop (statement n))
      | none =>
        let start ← if ← isNext ";" then pure none else some <$> simple n
        expect ";"
        skipLines
        let c ← if ← isNext ";" then pure none else some <$> expr n true
        expect ";"
        skipLines
        let step ← if ← isNext ")" then pure none else some <$> simple n
        expect ")"
        if ← takes ";" then return .count start c step (.block [])
        skipLines
        return .count start c step (← inLoop (statement n))
    else
      let s ← simple n
      ending
      return s

def statements : Nat → Parsing (List Statement)
  | 0 => unexpected
  | n + 1 => do
    skipLines
    if ← takes "\x7d" then return []
    else if (← peek?).isNone then
      throw (atLine ((← get).line + 1) ++ "missing \x7d near end of file".toList)
    else
      let s ← statement n
      return s :: (← statements n)

end

def body (n : Nat) : Parsing Statement := do
  expect "\x7b"
  return .block (← statements n)

def parameters (f : Chars) : Nat → Parsing (List Chars)
  | 0 => unexpected
  | n + 1 => do
    skipLines
    match ← peek? with
    | some (.name cs) =>
      if cs = f then refuse "function parameter cannot be the function".toList
      advance
      skipLines
      if ← takes "," then
        let more ← parameters f n
        if more.contains cs then refuse (cs ++ " is duplicated in argument list".toList)
        return cs :: more
      else return [cs]
    | _ => unexpected

def function (n : Nat) (known : List Function) : Parsing Function := do
  let name? := match ← peek? with
    | some (.called cs) => some cs
    | some (.name cs) => some cs
    | _ => none
  match name? with
  | none => unexpected
  | some name =>
    advance
    if known.any (·.name = name) then refuse ("redefinition of ".toList ++ name)
    expect "("
    let ps ← if ← isNext ")" then pure [] else parameters name n
    expect ")"
    skipLines
    modify fun st => { st with function := some (name, ps), hasRecord := true }
    let s ← body n
    modify fun st => { st with function := none }
    return { name, parameters := ps, body := s }

def rule (n : Nat) : Parsing Rule := do
  let bare (c : Condition) : Parsing Rule := return { condition := c, body := .print [] none }
  if ← takesWord "BEGIN" then
    modify fun st => { st with hasRecord := false }
    let s ← body n
    return { condition := .begin, body := s }
  else if ← takesWord "END" then
    modify fun st => { st with hasRecord := false }
    let s ← body n
    return { condition := .finish, body := s }
  else
    modify fun st => { st with hasRecord := true }
    if ← isNext "\x7b" then return { condition := .always, body := ← body n }
    else
      let first ← expr n true
      let c ←
        if ← takes "," then
          skipLines
          pure (Condition.range first (← expr n true))
        else pure (.holds first)
      if ← isNext "\x7b" then return { condition := c, body := ← body n }
      else
        match ← peek? with
        | none => bare c
        | some .lineEnd => bare c
        | some (.sign ";") => bare c
        | _ => unexpected

def items (n : Nat) : Nat → Program → Parsing Program
  | 0, _ => unexpected
  | k + 1, p => do
    skipGaps
    match ← peek? with
    | none => return p
    | some t =>
      if t.isSign "\x7d" then throw (atLine (← lineOfNext) ++ "extra '\x7d'".toList)
      if ← takesWord "function" then
        let f ← function n p.functions
        items n k { p with functions := p.functions ++ [f] }
      else
        let r ← rule n
        items n k { p with rules := p.rules ++ [r] }

/-- The parameters that are arrays because of what they become in other functions. -/
def closure (passes : List ((Option Chars × Nat) × Chars × Nat)) :
    Nat → List (Chars × Nat) → List (Chars × Nat)
  | 0, known => known
  | n + 1, known =>
    let more := passes.filterMap fun
      | ((some f, i), g, j) =>
        if known.contains (g, j) && !known.contains (f, i) then some (f, i) else none
      | _ => none
    if more.isEmpty then known else closure passes n (more.eraseDups ++ known)

end Parsing

open Parsing in
def Program.ofText (cs : Chars) : Except Chars Program := do
  let ts ← tokens cs
  let fuel := 24 * ts.length + 100
  let (p, st) ← (items fuel (ts.length + 1) {}).run { rest := ts }
  match st.calls.reverse.find? fun f => !p.functions.any (·.name = f) with
  | some f =>
    let lines := cs.count '\n' + 2
    throw (atLine lines ++ "function ".toList ++ f ++ " never defined".toList)
  | none =>
    let arrays := closure st.passes (st.passes.length + 1) st.arrays
    let handed := st.passes.filterMap fun
      | ((none, i), g, j) => if arrays.contains (g, j) then some i else none
      | _ => none
    return { p with shared := st.shared, arrays, sharedArrays := handed ++ st.sharedArrays }

end ImportResolver.Tool.Awk
