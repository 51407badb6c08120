import ImportResolver.Tool.Arguments
/- Reading the options of a script, and writing them in an order and form that is simple to read. -/
namespace ImportResolver.Tool

open Shell Shell.Action

namespace OptionWords

/-- Whether an option has a value. -/
inductive Need where
  | none
  | one
  | perhaps
  deriving DecidableEq

def needOf : Chars → Need
  | [':'] => .one
  | [':', ':'] => .perhaps
  | _ => .none

structure Expected where
  short : List (Char × Need) := []
  long : List (Chars × Need) := []
  /-- Whether options end at the first other word. -/
  endsEarly : Bool := false
  /-- Whether other words stay where they are. -/
  keepsOrder : Bool := false
  isQuoted : Bool := true
  isQuiet : Bool := false
  prints : Bool := true
  /-- Whether names may follow a single dash. -/
  isAlternative : Bool := false
  name : Chars := "getopt".toList

def letters : Chars → List (Char × Need)
  | [] => []
  | c :: ':' :: ':' :: cs => (c, .perhaps) :: letters cs
  | c :: ':' :: cs => (c, .one) :: letters cs
  | c :: cs => (c, .none) :: letters cs

/-- Takes in the letters of options; a mark in front says how other words are treated. -/
def Expected.withShort (o : Expected) (cs : Chars) : Expected :=
  match cs with
  | '+' :: cs => { o with short := letters cs, endsEarly := true }
  | '-' :: cs => { o with short := letters cs, keepsOrder := true }
  | cs => { o with short := letters cs }

def Expected.withLong (o : Expected) (cs : Chars) : Expected :=
  let isGap (c : Char) : Bool := c = ',' || c = ' ' || c = '\n' || c = '\t'
  let words := (Text.runs ',' (cs.map fun c => if isGap c then ',' else c)).filter (· ≠ [])
  { o with
    long := o.long ++ words.map fun w =>
      let name := (w.reverse.dropWhile (· = ':')).reverse
      (name, needOf (w.drop name.length)) }

def Expected.quote (o : Expected) (cs : Chars) : Chars :=
  if o.isQuoted then
    '\'' :: cs.flatMap (fun c => if c = '\'' then "'\\''".toList else [c]) ++ ['\'']
  else cs

/-- What was read: options and values as words to print, other words, and complaints. -/
structure Found where
  options : List Chars := []
  others : List Chars := []
  complaints : List Chars := []

/-- Reads letters that stand together; answers with what is to be printed or complained of, and
whether the next word is a value that was used. -/
def together (o : Expected) : Chars → Option Chars → List Chars × List Chars × Bool
  | [], _ => ([], [], false)
  | c :: cs, next =>
    match if c = ':' then none else o.short.find? (·.1 = c) with
    | none =>
      let (words, complaints, used) := together o cs next
      (words, ("invalid option -- '".toList ++ [c, '\'']) :: complaints, used)
    | some (_, .none) =>
      let (words, complaints, used) := together o cs next
      (['-', c] :: words, complaints, used)
    | some (_, .perhaps) => ([['-', c], o.quote cs], [], false)
    | some (_, .one) =>
      if !cs.isEmpty then ([['-', c], o.quote cs], [], false)
      else
        match next with
        | some value => ([['-', c], o.quote value], [], true)
        | none => ([], ["option requires an argument -- '".toList ++ [c, '\'']], false)

def named (o : Expected) (dashes body : Chars) (next : Option Chars) :
    List Chars × List Chars × Bool :=
  let (name, rest) := body.span (· ≠ '=')
  let value := if rest.isEmpty then none else some (rest.drop 1)
  let fitting := o.long.filter fun e => name.isPrefixOf e.1
  let exact := o.long.filter (·.1 = name)
  let shown (cs : Chars) : Chars := '\'' :: dashes ++ cs ++ ['\'']
  let complain (cs : Chars) : List Chars × List Chars × Bool := ([], [cs], false)
  match if exact.isEmpty then fitting else exact.take 1 with
  | [] => complain ("unrecognized option ".toList ++ shown body)
  | [(full, need)] =>
    let word := '-' :: '-' :: full
    match need, value, next with
    | .none, none, _ => ([word], [], false)
    | .none, some _, _ =>
      complain ("option ".toList ++ shown full ++ " doesn't allow an argument".toList)
    | .perhaps, value, _ => ([word, o.quote (value.getD [])], [], false)
    | .one, some value, _ => ([word, o.quote value], [], false)
    | .one, none, some value => ([word, o.quote value], [], true)
    | .one, none, none =>
      complain ("option ".toList ++ shown full ++ " requires an argument".toList)
  | several =>
    complain ("option ".toList ++ shown body ++ " is ambiguous; possibilities:".toList ++
      several.flatMap fun e => ' ' :: shown e.1)

def read (o : Expected) : Nat → List Chars → Found
  | 0, ws => { others := ws }
  | _, [] => {}
  | n + 1, w :: ws =>
    let go (r : List Chars × List Chars × Bool) : Found :=
      let (words, complaints, used) := r
      let f := read o n (if used then ws.drop 1 else ws)
      { f with options := words ++ f.options, complaints := complaints ++ f.complaints }
    match w with
    | ['-', '-'] => { others := ws }
    | '-' :: '-' :: body => go (named o ['-', '-'] body ws.head?)
    | '-' :: c :: cs =>
      let name := (c :: cs).takeWhile (· ≠ '=')
      let isName := o.isAlternative && (o.long.any fun e => name.isPrefixOf e.1) &&
        (!cs.isEmpty || !(o.short.any (·.1 = c)))
      if isName then go (named o ['-'] (c :: cs) ws.head?) else go (together o (c :: cs) ws.head?)
    | w =>
      if o.endsEarly then { others := w :: ws }
      else
        let f := read o n ws
        if o.keepsOrder then { f with options := o.quote w :: f.options }
        else { f with others := w :: f.others }

def known : Known :=
  { flags := "aqQuTV", valued := "olns", anywhere := false
    long := [("options", 'o'), ("longoptions", 'l'), ("name", 'n'), ("quiet", 'q'),
      ("quiet-output", 'Q'), ("shell", 's'), ("test", 'T'), ("unquoted", 'u'),
      ("alternative", 'a'), ("version", 'V')] }

def finish (o : Expected) (words : List Chars) : Action Nat := do
  let f := read o (words.length + 1) words
  if !o.isQuiet then
    for complaint in f.complaints do
      let _ ← write 2 (o.name ++ ": ".toList ++ complaint ++ ['\n'])
  if o.prints then
    let all := f.options ++ ['-', '-'] :: f.others.map o.quote
    printLine (all.flatMap (' ' :: ·))
  return if f.complaints.isEmpty then 0 else 1

end OptionWords

open OptionWords in
def getopt (args : List Chars) : Action Nat := do
  let early := ((← process).value? "POSIXLY_CORRECT".toList).isSome
  let missing : Action Nat := do
    warn "missing optstring argument".toList
    explain known
    return 2
  match args with
  | [] => missing
  | first :: words =>
    if first.head? ≠ some '-' then
      let o := ({ isQuoted := false, endsEarly := early } : Expected).withShort first
      let words := if words.head? = some ['-', '-'] then words.drop 1 else words
      return ← finish o words
    withArguments known 2 args fun a => do
      if a.has 'T' then return 4
      let o : Expected :=
        { isQuoted := !a.has 'u', isQuiet := a.has 'q', prints := !a.has 'Q', endsEarly := early
          isAlternative := a.has 'a', name := (a.value? 'n').getD "getopt".toList }
      let o := (a.options.filter (·.1 = 'l')).foldl (fun o e => o.withLong e.2) o
      match a.value? 'o', a.operands with
      | some short, words => finish (o.withShort short) words
      | none, short :: words => finish (o.withShort short) words
      | none, [] => missing

end ImportResolver.Tool
