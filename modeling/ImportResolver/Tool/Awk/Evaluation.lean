import ImportResolver.Tool.Awk.Machine
import ImportResolver.Tool.Calendar
/- Carrying out a program, expression by expression. -/
namespace ImportResolver.Tool.Awk

open Shell Shell.Action

namespace Work

def number (x : Float) : Work Value := return .number x

def count_ (n : Nat) : Work Value := return .number (Float.ofNat n)

def truth (b : Bool) : Work Value := return .number (Float.ofNat (if b then 1 else 0))

def variable_ (n : Name) : Work Value := do
  match n with
  | .shared i =>
    if i = Special.fieldCount then split
    return (← state).values.getD i .none
  | .own i =>
    match (← state).frame[i]? with
    | some (.value v) => return v
    | _ => return .none

def setVariable (n : Name) (v : Value) : Work Unit := do
  match n with
  | .shared i =>
    if i = Special.fieldCount then
      let x := v.toFloat
      if x < zero then stopRunning "negative value assigned to NF".toList
      setFieldCount x.toUInt64.toNat
    else
      if i = Special.outputSeparator then
        let _ ← recordText
      setShared i v
  | .own i => change fun st => { st with frame := st.frame.set! i (.value v) }

def tableNumber (n : Name) : Work Nat := do
  match n with
  | .shared i => return i
  | .own i =>
    match (← state).frame[i]? with
    | some (.table k) => return k
    | _ =>
      let k := (← state).nextTable
      change fun st =>
        { st with nextTable := k + 1, frame := st.frame.set! i (.table k) }
      return k

def table (n : Name) : Work Table := do return (← state).tables.getD (← tableNumber n) {}

def setTable (n : Name) (t : Table) : Work Unit := do
  let k ← tableNumber n
  change fun st => { st with tables := st.tables.insert k t }

def withTable {α : Type} (n : Name) (f : Table → α × Table) : Work α := do
  let k ← tableNumber n
  let st ← state
  let t := st.tables.getD k {}
  change fun st => { st with tables := st.tables.erase k }
  let (a, t) := f t
  change fun st => { st with tables := st.tables.insert k t }
  return a

def keyOf (v : Value) : Work Key := do
  match v with
  | .number x =>
    match whole? x with
    | some n => return .whole n
    | none => return .text (← textOf v)
  | v => return .text (← textOf v)

def fieldIndex (v : Value) : Work Nat := do
  let x := v.toFloat
  if x ≤ -(Float.ofNat 1) then
    stopRunning ("negative field index $".toList ++ numberText "%.6g".toList x)
  return x.toUInt64.toNat

def raised (x y : Float) : Float := Float.pow x y

def calculated (op : Operator) (x y : Float) : Float :=
  match op with
  | .plus => x + y
  | .minus => x - y
  | .times => x * y
  | .over => x / y
  | .modulo => remainder x y
  | _ => raised x y

def runCommand (command : Chars) : Work Nat := do
  flushAll
  let child ← spawn
    (fun p => { p with descriptors := p.descriptors.filter fun d => d.1 < inputDescriptor })
    (.program ⟨"/bin/sh"⟩ ["/bin/sh".toList, "-c".toList, command])
  (statusOf (some child) : Action Nat)

def rounds : Nat → Work Bool → Work Unit
  | 0, _ => (throw .exhausted : Action Unit)
  | n + 1, step => do
    spend 1
    if ← step then rounds n step

def round (body : Work Unit) : Work Bool :=
  tryCatch (do body; return true) fun
    | .continues => return true
    | .breaks => return false
    | leap => throw leap

def visit (keys : List Chars) (step : Chars → Work Bool) : Work Unit :=
  match keys with
  | [] => return
  | cs :: rest => do
    if ← step cs then visit rest step

def replaced (found : Chars) : Nat → Chars → Chars
  | 0, cs => cs
  | _, [] => []
  | n + 1, c :: cs =>
    if c = '&' then found ++ replaced found n cs
    else if c = '\\' then
      let run := (c :: cs).takeWhile (· = '\\')
      let rest := (c :: cs).drop run.length
      if rest.head? = some '&' then
        List.replicate (run.length / 2) '\\' ++
          if run.length % 2 = 0 then replaced found n rest
          else '&' :: replaced found n (rest.drop 1)
      else run ++ replaced found n rest
    else c :: replaced found n cs

/-- A text with matches replaced, the first or all of them, and how many that were. -/
def substituted (r : Regex) (all : Bool) (new text : Chars) : Chars × Nat :=
  let s : Regex.Subject := { text }
  let found := if all then r.findAll s else (r.find? s 0).toList
  let (pieces, last) := found.foldl
    (fun (acc : List Chars × Nat) m =>
      let put := replaced (m.group s 0) (new.length + 1) new
      (put :: Regex.between s (acc.2, m.start) :: acc.1, m.stop))
    ([], 0)
  ((Regex.between s (last, text.length) :: pieces).reverse.flatten, found.length)

def part (cs : Chars) (start : Float) (length : Option Float) : Chars :=
  let first : Int := start.toInt64.toInt
  match length with
  | none => cs.drop (first - 1).toNat
  | some length =>
    let stop : Int := first + length.toInt64.toInt
    let from_ := max first 1
    (cs.drop (from_ - 1).toNat).take (stop - from_).toNat

/-- What a format makes of values. What was made before a fault is handed to `partly`. -/
def printed (name : String) (partly : Chars → Work Unit) (vs : List Value) : Work Chars := do
  match vs with
  | [] => return []
  | format :: vs =>
    let format ← textOf format
    match formatted (Value.toText (← textFormat)) format vs with
    | .ok cs => return cs
    | .error (.missing before) =>
      partly before
      stopRunning ("not enough arguments passed to ".toList ++ name.toList ++ "(\"".toList ++
        format ++ "\")".toList)
    | .error (.improper place before) =>
      partly before
      stopRunning ("improper conversion(number ".toList ++ decimal place ++ ") in ".toList ++
        name.toList ++ "(\"".toList ++ format ++ "\")".toList)

def shown (v : Value) : Work Chars := do
  match v with
  | .number x =>
    match (← state).values.getD Special.outputFormat .none with
    | .text cs => return numberText cs x
    | .input cs => return numberText cs x
    | _ => return numberText "%.6g".toList x
  | v => textOf v

def momentOf (cs : Chars) : Float :=
  let words := (Text.runs ' ' cs).filter (· ≠ [])
  match words.mapM natural? with
  | some (year :: month :: day :: hour :: minute :: second :: _) =>
    let m : Moment := { year, month, day, hour, minute, second }
    let s := m.seconds
    if s < 0 then -(Float.ofNat s.natAbs) else Float.ofNat s.natAbs
  | _ => -(Float.ofNat 1)

mutual

def eval : Nat → Expr → Work Value
  | 0, _ => (throw .exhausted : Action Value)
  | n + 1, e => do
    match e with
    | .number x => return .number x
    | .text cs => return .text cs
    | .regex r =>
      let text ← recordText
      truth (r.find? { text } 0).isSome
    | .value p => read_ n p
    | .several es =>
      match es with
      | [e] => eval n e
      | es => return .text (← keyText n es)
    | .assign none p e =>
      match p with
      | .variable (.own _) | .variable (.shared _) =>
        let v ← eval n e
        put n p v
        return v
      | p =>
        let p ← fixed n p
        let v ← eval n e
        put n p v
        return v
    | .assign (some op) p e =>
      let p ← fixed n p
      let y := (← eval n e).toFloat
      let x := (← read_ n p).toFloat
      let v : Value := .number (calculated op x y)
      put n p v
      return v
    | .choice c a b => if (← eval n c).holds then eval n a else eval n b
    | .both a b => if (← eval n a).holds then truth (← eval n b).holds else truth false
    | .either a b => if (← eval n a).holds then truth true else truth (← eval n b).holds
    | .negation e => truth !(← eval n e).holds
    | .negative e => number (-(← eval n e).toFloat)
    | .positive e => number (← eval n e).toFloat
    | .binary op a b =>
      let x ← eval n a
      let y ← eval n b
      match op with
      | .joined => return .text ((← textOf x) ++ (← textOf y))
      | .plus | .minus | .times | .over | .modulo | .power =>
        number (calculated op x.toFloat y.toFloat)
      | op => truth (compareValues (← textFormat) op x y)
    | .step before amount p =>
      let p ← fixed n p
      let x := (← read_ n p).toFloat
      put n p (.number (x + amount))
      number (if before then x else x + amount)
    | .matches isNegated e pattern =>
      let text ← textOf (← eval n e)
      let r ← pattern_ n pattern
      truth ((r.find? { text } 0).isSome != isNegated)
    | .member keys a =>
      let k ← key n keys
      truth ((← table a).has k)
    | .call f args => call n f args
    | .builtin f args => builtin n f args
    | .readMain goal =>
      match ← nextMain loopLimit with
      | none => number zero
      | some cs =>
        match goal with
        | none => setRecord cs
        | some p => put n p (.input cs)
        count_ 1
    | .readFile goal file => readFrom n false goal (← textOf (← eval n file))
    | .readCommand goal command => readFrom n true goal (← textOf (← eval n command))

def readFrom : Nat → Bool → Option Place → Chars → Work Value
  | 0, _, _, _ => (throw .exhausted : Action Value)
  | n + 1, isCommand, goal, name => do
    match ← source? isCommand name with
    | none => number (-(Float.ofNat 1))
    | some s =>
      let (record, s) ← read s
      setSource isCommand name s
      match record with
      | none => number zero
      | some cs =>
        if isCommand then count false
        match goal with
        | none => setRecord cs
        | some p => put n p (.input cs)
        count_ 1

def fixed : Nat → Place → Work Place
  | 0, _ => (throw .exhausted : Action Place)
  | n + 1, p => do
    match p with
    | .variable m => return .variable m
    | .field e => return .field (.number (Float.ofNat (← fieldIndex (← eval n e))))
    | .element a keys =>
      match ← key n keys with
      | .whole k =>
        let x := Float.ofNat k.natAbs
        return .element a [.number (if k < 0 then -x else x)]
      | .text cs => return .element a [.text cs]

def read_ : Nat → Place → Work Value
  | 0, _ => (throw .exhausted : Action Value)
  | n + 1, p => do
    match p with
    | .variable m => variable_ m
    | .field e => field (← fieldIndex (← eval n e))
    | .element a keys =>
      let k ← key n keys
      withTable a fun t => t.get k

def put : Nat → Place → Value → Work Unit
  | 0, _, _ => (throw .exhausted : Action Unit)
  | n + 1, p, v => do
    match p with
    | .variable m => setVariable m v
    | .field e => setField (← fieldIndex (← eval n e)) v
    | .element a keys =>
      let k ← key n keys
      withTable a fun t => ((), t.set k v)

def keyText : Nat → List Expr → Work Chars
  | 0, _ => (throw .exhausted : Action Chars)
  | n + 1, es => do
    let separator ← sharedText Special.keySeparator
    let texts ← es.mapM fun e => do textOf (← eval n e)
    return (texts.intersperse separator).flatten

def key : Nat → List Expr → Work Key
  | 0, _ => (throw .exhausted : Action Key)
  | n + 1, es => do
    match es with
    | [e] => keyOf (← eval n e)
    | es => return .text (← keyText n es)

def pattern_ : Nat → Expr → Work Regex
  | 0, _ => (throw .exhausted : Action Regex)
  | n + 1, e => do
    match e with
    | .regex r => return r
    | e => expressionOf (← textOf (← eval n e))

def call : Nat → Chars → List Expr → Work Value
  | 0, _, _ => (throw .exhausted : Action Value)
  | n + 1, name, args => do
    let p := (← state).program
    match p.functions.find? (·.name = name) with
    | none => return .none
    | some f =>
      let isArray (i : Nat) : Bool := p.arrays.contains (name, i)
      let first := (← state).nextTable
      let given ← args.zipIdx.mapM fun (e, i) => do
        match isArray i, e with
        | true, .value (.variable m) => return Cell.table (← tableNumber m)
        | true, _ => return Cell.value .none
        | false, e => return Cell.value (← eval n e)
      let own := (List.range f.parameters.length).map fun i =>
        (given[i]?).getD (.value .none)
      let before := (← state).frame
      change fun st => { st with frame := own.toArray }
      let result ← tryCatch
        (do
          exec n f.body
          return Value.none)
        fun
        | .leave v => return v
        | leap => throw leap
      change fun st => { st with frame := before }
      /- Tables that came into being since are of no use to anybody now. -/
      let last := (← state).nextTable
      if first < last && before.size = 0 then
        change fun st =>
          { st with
            tables := (List.range (last - first)).foldl (fun t i => t.erase (first + i)) st.tables }
      return result

def builtin : Nat → Builtin → List Expr → Work Value
  | 0, _, _ => (throw .exhausted : Action Value)
  | n + 1, f, args => do
    let text (i : Nat) : Work Chars := do
      match args[i]? with
      | some e => textOf (← eval n e)
      | none => return []
    let float (i : Nat) : Work Float := do
      match args[i]? with
      | some e => return (← eval n e).toFloat
      | none => return zero
    match f with
    | .length =>
      match args with
      | [] => count_ (← recordText).length
      | [.value (.variable m)] | [.several [.value (.variable m)]] =>
        let isTable : Bool ← match m with
          | .shared i => do pure ((← state).program.sharedArrays.contains i)
          | .own i => do
            match (← state).frame[i]? with
            | some (.table _) => pure true
            | _ => pure false
        if isTable then count_ (← table m).size
        else count_ (← textOf (← variable_ m)).length
      | _ => count_ (← text 0).length
    | .index =>
      let s ← text 0
      let t ← text 1
      let places := (List.range (s.length + 1)).find? fun i => t.isPrefixOf (s.drop i)
      count_ (match places with
        | some i => i + 1
        | none => 0)
    | .substr =>
      let s ← text 0
      let start ← float 1
      let length ← if 2 < args.length then some <$> float 2 else pure none
      return .text (part s start length)
    | .split =>
      let s ← text 0
      let separator : Option Expr := args[2]?
      let parts ← match separator with
        | none => do pieces (← sharedText Special.fieldSeparator) s
        | some (.regex r) => pure (piecesBetween r s)
        | some e => do pieces (← textOf (← eval n e)) s
      let goal : Option Expr := args[1]?
      match goal with
      | some (.value (.variable a)) => setTable a (Table.ofList (parts.map Value.input))
      | _ => pure ()
      count_ parts.length
    | .sub | .gsub =>
      let r ← match args[0]? with
        | some e => pattern_ n e
        | none => pure Regex.empty
      let new ← text 1
      let goal : Option Expr := args[2]?
      let p ← match goal with
        | some (.value p) => fixed n p
        | _ => pure (.field (.number zero))
      let old ← textOf (← read_ n p)
      let (after, found) := substituted r (f = .gsub) new old
      if found ≠ 0 then put n p (.text after)
      count_ found
    | .match_ =>
      let s ← text 0
      let r ← match args[1]? with
        | some e => pattern_ n e
        | none => pure Regex.empty
      match r.find? { text := s } 0 with
      | some m =>
        setShared Special.matchStart (.number (Float.ofNat (m.start + 1)))
        setShared Special.matchLength (.number (Float.ofNat (m.stop - m.start)))
        count_ (m.start + 1)
      | none =>
        setShared Special.matchStart (.number zero)
        setShared Special.matchLength (.number (-(Float.ofNat 1)))
        number zero
    | .sprintf => return .text (← printed "sprintf" (fun _ => return) (← args.mapM (eval n)))
    | .sin => number (Float.sin (← float 0))
    | .cos => number (Float.cos (← float 0))
    | .atan2 => number (Float.atan2 (← float 0) (← float 1))
    | .exp => number (Float.exp (← float 0))
    | .log => number (Float.log (← float 0))
    | .sqrt => number (Float.sqrt (← float 0))
    | .int =>
      let x ← float 0
      number (if x < zero then x.ceil else x.floor)
    | .rand =>
      let chance := ((← state).chance * 1103515245 + 12345) % Nat.pow 2 31
      change fun st => { st with chance }
      number (Float.ofNat chance / Float.ofNat (Nat.pow 2 31))
    | .srand =>
      let before := (← state).seed
      let seed ← if args.isEmpty then do pure (← (now : Action (Nat × Nat))).1
        else do pure (← float 0).toUInt64.toNat
      change fun st => { st with seed, chance := seed }
      count_ before
    | .toLower => return .text ((← text 0).map Char.toLower)
    | .toUpper => return .text ((← text 0).map Char.toUpper)
    | .system => count_ (← runCommand (← text 0))
    | .close =>
      match ← close (← text 0) with
      | some status => count_ status
      | none => number (-(Float.ofNat 1))
    | .fflush =>
      if args.isEmpty then
        Tool.flush
        number zero
      else
        let name ← text 0
        let isKnown := (← state).sinks.any (·.name = name) || name = [] ||
          name = "/dev/stdout".toList
        flushAll
        number (if isKnown then zero else -(Float.ofNat 1))
    | .systime => count_ (← (now : Action (Nat × Nat))).1
    | .strftime =>
      let format ← if args.isEmpty then pure "%c".toList else text 0
      let seconds : Int ← if 1 < args.length then do pure (← float 1).toInt64.toInt
        else do pure ((← (now : Action (Nat × Nat))).1 : Int)
      return .text (Moment.formatted seconds 0 (20 * format.length + 20) format)
    | .mktime => number (momentOf (← text 0))

def exec : Nat → Statement → Work Unit
  | 0, _ => (throw .exhausted : Action Unit)
  | n + 1, s => do
    match s with
    | .expr e =>
      let _ ← eval n e
    | .print es outlet =>
      let cs ← match es with
        | [] => recordText
        | es => do
          let texts ← es.mapM fun e => do shown (← eval n e)
          let separator ← sharedText Special.outputSeparator
          pure (texts.intersperse separator).flatten
      let target ← target? n outlet
      emit target (cs ++ (← sharedText Special.recordEnd))
    | .printf es outlet =>
      let vs ← es.mapM (eval n)
      let target ← target? n outlet
      emit target (← printed "printf" (emit target) vs)
    | .block ss => ss.forM (exec n)
    | .choice c s t =>
      if (← eval n c).holds then exec n s
      else
        match t with
        | some t => exec n t
        | none => return
    | .loop c s =>
      rounds loopLimit do
        if (← eval n c).holds then round (exec n s) else return false
    | .loopAfter s c =>
      rounds loopLimit do
        if ← round (exec n s) then return (← eval n c).holds else return false
    | .count start c step s =>
      if let some s := start then exec n s
      rounds loopLimit do
        let goesOn ← match c with
          | some c => do pure (← eval n c).holds
          | none => pure true
        if !goesOn then return false
        if !(← round (exec n s)) then return false
        if let some s := step then exec n s
        return true
    | .each p a s =>
      let keys ← withTable a fun t =>
        let t := t.withTexts
        (t.keys, t)
      visit keys fun cs => do
        put n p (.input cs)
        round (exec n s)
    | .delete a keys =>
      let k ← key n keys
      withTable a fun t => ((), t.erase k)
    | .deleteAll a => setTable a {}
    | .next => throw .next
    | .nextFile => throw .nextFile
    | .leave e =>
      match e with
      | some e => throw (.leave (← eval n e))
      | none => throw (.leave .none)
    | .exit e =>
      if let some e := e then
        let status := ((← eval n e).toFloat.toInt64.toInt % 256).toNat
        change fun st => { st with status }
      throw .exit
    | .breaks => throw .breaks
    | .continues => throw .continues

def target? : Nat → Option (Outlet × Expr) → Work (Option (Chars × Outlet))
  | 0, _ => (throw .exhausted : Action (Option (Chars × Outlet)))
  | n + 1, o => do
    match o with
    | none => return none
    | some (outlet, e) => return some (← textOf (← eval n e), outlet)

end

def depth : Nat := 100000

def applies (number : Nat) (c : Condition) : Work Bool := do
  match c with
  | .always => return true
  | .holds e => return (← eval depth e).holds
  | .range first last =>
    let begun := (← state).ranges.contains number
    let isInside ←
      if begun then pure true
      else do
        let value ← eval depth first
        pure value.holds
    if isInside then
      let ends := (← eval depth last).holds
      change fun st =>
        let others := st.ranges.filter (· ≠ number)
        { st with ranges := if ends then others else number :: others }
      return true
    else return false
  | _ => return false

def runEdge (isFirst : Bool) : Work Unit := do
  (← state).program.rules.forM fun r => do
    match r.condition, isFirst with
    | .begin, true => exec depth r.body
    | .finish, false => exec depth r.body
    | _, _ => return

def runRecords : Work Unit := do
  let rules := (← state).program.rules.zipIdx
  rounds loopLimit do
    match ← nextMain loopLimit with
    | none => return false
    | some cs =>
      setRecord cs
      change fun st => { st with frame := #[] }
      let each : Work Unit := rules.forM fun (r, i) => do
        if ← applies i r.condition then exec depth r.body
      tryCatch each fun
        | .next => return
        | .nextFile => skipFile
        | leap => throw leap
      return true

def runProgram : Work Unit := do
  let rules := (← state).program.rules
  let isBegin (r : Rule) : Bool := r.condition matches .begin
  let isEnd (r : Rule) : Bool := r.condition matches .finish
  let exits (body : Work Unit) : Work Bool :=
    tryCatch (do body; return false) fun
      | .fault => throw .fault
      | _ => return true
  let left ← exits (runEdge true)
  let left ← if left || rules.all isBegin then pure left else exits runRecords
  let _ := left
  if rules.any isEnd then
    change fun st => { st with frame := #[] }
    let _ ← exits (runEdge false)

end Work
end ImportResolver.Tool.Awk
