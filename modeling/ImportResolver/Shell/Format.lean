import ImportResolver.Shell.Floating
/- Text with escapes, and formatted text. -/
namespace ImportResolver.Shell

def isOctal (c : Char) : Bool := '0' ≤ c && c ≤ '7'

/-- At most `count` octal digits, as a byte, and what follows them. -/
def octalByte (count : Nat) (cs : Chars) : Char × Chars :=
  let ds := (cs.take count).takeWhile isOctal
  (Char.ofNat (Arithmetic.numeral 8 ds % 256), cs.drop ds.length)

/-- What a backslash and the characters after it stand for, and what follows. -/
def escape : Chars → Char × Chars
  | [] => ('\\', [])
  | c :: cs =>
    match c with
    | '\\' => ('\\', cs)
    | 'a' => (Char.ofNat 7, cs)
    | 'b' => (Char.ofNat 8, cs)
    | 'e' => (Char.ofNat 27, cs)
    | 'f' => (Char.ofNat 12, cs)
    | 'n' => ('\n', cs)
    | 'r' => ('\r', cs)
    | 't' => ('\t', cs)
    | 'v' => (Char.ofNat 11, cs)
    | _ => if isOctal c then octalByte 3 (c :: cs) else ('\\', c :: cs)

/-- Replaces escapes, up to one that ends all output; also says whether there was one. -/
def unescapedFrom : Nat → Chars → Chars × Bool
  | 0, _ => ([], false)
  | _ + 1, [] => ([], false)
  | _ + 1, '\\' :: 'c' :: _ => ([], true)
  | n + 1, '\\' :: cs =>
    let (c, rest) :=
      match cs with
      | '0' :: ds => octalByte 3 ds
      | _ => escape cs
    let (text, stopped) := unescapedFrom n rest
    (c :: text, stopped)
  | n + 1, c :: cs =>
    let (text, stopped) := unescapedFrom n cs
    (c :: text, stopped)

def unescaped (cs : Chars) : Chars × Bool := unescapedFrom (cs.length + 1) cs

/-- What is printed for arguments with a blank between them; a line end follows unless the first
argument refuses it. -/
def echoed (args : List Chars) : Chars :=
  let (ends, args) :=
    match args with
    | ['-', 'n'] :: args => (false, args)
    | _ => (true, args)
  let (text, stopped) := unescaped ((args.intersperse [' ']).flatten)
  if ends && !stopped then text ++ ['\n'] else text

/-- The arguments of an `echo` that leaves backslashes alone unless it is asked not to. -/
def plainEchoed : Bool → Bool → List Chars → Chars
  | ends, escapes, ('-' :: c :: cs) :: rest =>
    if (c :: cs).all fun c => c = 'n' || c = 'e' || c = 'E' then
      let escapes := (c :: cs).foldl
        (fun e c => if c = 'e' then true else if c = 'E' then false else e) escapes
      plainEchoed (ends && !(c :: cs).contains 'n') escapes rest
    else finish ends escapes (('-' :: c :: cs) :: rest)
  | ends, escapes, args => finish ends escapes args
where
  finish (ends escapes : Bool) (args : List Chars) : Chars :=
    let text := (args.intersperse [' ']).flatten
    let (text, stopped) := if escapes then unescaped text else (text, false)
    if ends && !stopped then text ++ ['\n'] else text

namespace Format

structure Directive where
  flags : Chars
  width : Option Nat
  precision : Option Nat
  leftAligned : Bool

def Directive.pad (d : Directive) (cs : Chars) : Chars :=
  let gap := List.replicate (d.width.getD 0 - cs.length) ' '
  if d.leftAligned then cs ++ gap else gap ++ cs

def Directive.has (d : Directive) (flag : Char) : Bool := d.flags.contains flag

/-- Digits with a sign or mark in front, with zeros between as the directive asks for. -/
def Directive.number (d : Directive) (lead digits : Chars) : Chars :=
  let digits :=
    match d.precision with
    | some p =>
      List.replicate (p - digits.length) '0' ++ if p = 0 && digits = ['0'] then [] else digits
    | none => digits
  if d.has '0' && !d.leftAligned && d.precision.isNone then
    lead ++ List.replicate (d.width.getD 0 - lead.length - digits.length) '0' ++ digits
  else d.pad (lead ++ digits)

def Directive.signed (d : Directive) (n : Int) : Chars :=
  let lead :=
    if n < 0 then ['-'] else if d.has '+' then ['+'] else if d.has ' ' then [' '] else []
  d.number lead (toString n.natAbs).toList

def Directive.unsigned (d : Directive) (base : Nat) (upper : Bool) (n : Nat) : Chars :=
  let digits := Nat.toDigits base n
  let digits := if upper then digits.map Char.toUpper else digits
  if d.has '#' && base = 8 then
    let shown := (d.precision.getD 1) ≤ digits.length
    let digits := if n = 0 then ['0'] else if shown then '0' :: digits else digits
    { d with precision := d.precision.map (max 1) }.number [] digits
  else
    let lead :=
      if !d.has '#' || n = 0 || base ≠ 16 then [] else if upper then ['0', 'X'] else ['0', 'x']
    d.number lead digits

/-- A number in the notation of a letter. Zeros are put only before digits. -/
def Directive.floating (d : Directive) (notation_ : Char) (v : Floating) : Chars :=
  let lead :=
    if v.isNegative then ['-'] else if d.has '+' then ['+'] else if d.has ' ' then [' '] else []
  let body := v.text notation_ (d.has '#') d.precision
  match v with
  | .finite _ _ _ =>
    let (mark, digits) := if notation_.toLower = 'a' then (body.take 2, body.drop 2) else ([], body)
    { d with precision := none }.number (lead ++ mark) digits
  | _ => d.pad (lead ++ body)

/-- What was printed so far, what arguments are left, and whether one was no number. -/
structure State where
  output : List Chars := []
  arguments : List Chars
  /-- Arguments that are no numbers, and what is wrong with them, the last one first. -/
  warnings : List Chars := []
  stopped : Bool := false

def State.emit (st : State) (cs : Chars) : State := { st with output := cs :: st.output }

def State.warn (st : State) (what : Chars) (why : String) : State :=
  { st with warnings := (what ++ ": ".toList ++ why.toList) :: st.warnings }

def State.next (st : State) : Chars × State :=
  match st.arguments with
  | [] => ([], st)
  | a :: rest => (a, { st with arguments := rest })

/-- The number that an argument stands for, and what is wrong with it. One that is no number
stands for what it begins with. -/
def integer (least most : Int) (cs : Chars) : Int × Option String :=
  match cs with
  | [] => (0, none)
  | ['\''] | ['"'] => (0, none)
  | '\'' :: c :: _ => (c.toNat, none)
  | '"' :: c :: _ => (c.toNat, none)
  | _ =>
    let body := cs.dropWhile Arithmetic.isSpace
    let (negative, digits) :=
      match body with
      | '-' :: ds => (true, ds)
      | '+' :: ds => (false, ds)
      | _ => (false, body)
    if digits.head?.any Char.isDigit then
      let (n, rest) := Arithmetic.leadingNumber digits
      let n := if negative then -(n : Int) else n
      let within := max least (min most n)
      (within,
        if !rest.isEmpty then some "not completely converted"
        else if within ≠ n then some "Numerical result out of range"
        else none)
    else (0, some "expected numeric value")

def State.nextInteger (st : State) (least most : Int) : Int × State :=
  let (cs, st) := st.next
  let (n, problem) := integer least most cs
  (n, match problem with
    | some why => st.warn cs why
    | none => st)

def floatingOf (cs : Chars) : Floating × Option String :=
  let zero : Floating := .finite false 0 0
  let code (c : Option Char) : Floating := .finite false (c.getD '\x00').toNat 0
  match cs with
  | [] => (zero, none)
  | '\'' :: rest => (code rest.head?, none)
  | '"' :: rest => (code rest.head?, none)
  | _ =>
    match Floating.ofText? cs with
    | none => (zero, some "expected numeric value")
    | some (v, rest, out) =>
      (v, if rest ≠ [] then some "not completely converted"
        else if out then some "Numerical result out of range"
        else none)

def measure (cs : Chars) (st : State) : Option Int × Chars × State :=
  match cs with
  | '*' :: rest =>
    let (n, st) := st.nextInteger (-Nat.pow 2 63) (Nat.pow 2 63 - 1)
    (some n, rest, st)
  | _ =>
    let (ds, rest) := cs.span Char.isDigit
    (if ds = [] then none else some (Arithmetic.numeral 10 ds), rest, st)

/-- Prints one argument as a directive says; none if there is no such directive. -/
def direct? (d : Directive) (c : Char) (st : State) : Option State :=
  let unsigned (base : Nat) (upper : Bool) : State :=
    let range : Int := Nat.pow 2 64
    let (n, st) := st.nextInteger (-range) (range - 1)
    let n := if n = -range then range - 1 else n
    st.emit (d.unsigned base upper (n % range).toNat)
  match c with
  | 's' =>
    let (cs, st) := st.next
    some (st.emit (d.pad ((d.precision.map cs.take).getD cs)))
  | 'b' =>
    let (cs, st) := st.next
    let (text, stopped) := unescaped cs
    some { st.emit (d.pad ((d.precision.map text.take).getD text)) with stopped }
  | 'c' =>
    let (cs, st) := st.next
    some (st.emit (d.pad [cs.head?.getD (Char.ofNat 0)]))
  | 'd' =>
    let (n, st) := st.nextInteger (-Nat.pow 2 63) (Nat.pow 2 63 - 1)
    some (st.emit (d.signed n))
  | 'i' =>
    let (n, st) := st.nextInteger (-Nat.pow 2 63) (Nat.pow 2 63 - 1)
    some (st.emit (d.signed n))
  | 'u' => some (unsigned 10 false)
  | 'o' => some (unsigned 8 false)
  | 'x' => some (unsigned 16 false)
  | 'X' => some (unsigned 16 true)
  | _ =>
    if !"fFeEgGaA".toList.contains c then none
    else
      let (cs, st) := st.next
      let (v, problem) := floatingOf cs
      let st := st.emit (d.floating c v)
      some (match problem with
        | some why => st.warn cs why
        | none => st)

/-- Prints a format once; also says whether it could be followed to its end. -/
def once : Nat → Chars → State → State × Bool
  | 0, _, st => (st, false)
  | _ + 1, [], st => (st, true)
  | n + 1, '\\' :: cs, st =>
    let (c, rest) := escape cs
    once n rest (st.emit [c])
  | n + 1, '%' :: '%' :: cs, st => once n cs (st.emit ['%'])
  | n + 1, '%' :: directive, st =>
    let (flags, cs) := directive.span fun c => ['#', '-', '+', ' ', '0'].contains c
    let (width, cs, st) := measure cs st
    let (precision, cs, st) :=
      match cs with
      | '.' :: cs =>
        let (p, cs, st) := measure cs st
        (some (p.getD 0), cs, st)
      | _ => (none, cs, st)
    let d : Directive :=
      { flags
        width := width.map Int.natAbs
        precision := precision.bind fun p => if p < 0 then none else some p.toNat
        leftAligned := flags.contains '-' || width.any (· < 0) }
    match cs with
    | [] => ({ st with warnings := "missing format character".toList :: st.warnings }, false)
    | c :: cs =>
      match direct? d c st with
      | some st => if st.stopped then (st, true) else once n cs st
      | none =>
        (st.warn ('%' :: directive.take (directive.length - cs.length)) "invalid directive", false)
  | n + 1, c :: cs, st => once n cs (st.emit [c])

/-- Prints a format again and again while that takes arguments and some are left. -/
def repeatedly (format : Chars) : Nat → State → State × Bool
  | 0, st => (st, true)
  | n + 1, st =>
    let (after, followed) := once (format.length + 1) format st
    if !followed || after.stopped || after.arguments = [] ||
        after.arguments.length = st.arguments.length then
      (after, followed)
    else repeatedly format n after

end Format

def formatted (format : Chars) (args : List Chars) : Chars × Nat × List Chars :=
  let (st, followed) := Format.repeatedly format (args.length + 1) { arguments := args }
  (st.output.reverse.flatten, if !followed then 2 else if st.warnings.isEmpty then 0 else 1,
    st.warnings.reverse)

end ImportResolver.Shell
