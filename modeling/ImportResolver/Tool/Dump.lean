import ImportResolver.Tool.Names
/- Showing the bytes of files as numbers and as characters. -/
namespace ImportResolver.Tool

open Shell Shell.Action

namespace Dump

/-- How one kind of line shows bytes. -/
structure Format where
  /-- How many bytes make a field. -/
  size : Nat
  /-- How wide a field is, without the blank before it. -/
  width : Nat
  /-- What a field shows of its bytes. -/
  text : List Nat → Chars
  /-- Whether the line ends with the characters as they are. -/
  isMarked : Bool := false

def numberOf (bytes : List Nat) : Nat := bytes.foldr (fun b n => n * 256 + b) 0

def filled (width : Nat) (cs : Chars) : Chars := List.replicate (width - cs.length) '0' ++ cs

def widthOf (letter : Char) (size : Nat) : Nat :=
  let place : Nat := if size = 1 then 0 else if size = 2 then 1 else if size = 4 then 2 else 3
  let widths : List Nat :=
    match letter with
    | 'd' => [4, 6, 11, 20]
    | 'u' => [3, 5, 10, 20]
    | 'o' => [3, 6, 11, 22]
    | _ => [2, 4, 8, 16]
  widths.getD place 0

def ofNumber (letter : Char) (size : Nat) : Format :=
  let width := widthOf letter size
  let text (bytes : List Nat) : Chars :=
    let n := numberOf bytes
    let range := Nat.pow 256 size
    match letter with
    | 'd' => (toString (if range ≤ 2 * n then (n : Int) - range else n)).toList
    | 'u' => decimal n
    | 'o' => filled width (Nat.toDigits 8 n)
    | _ => filled width (Nat.toDigits 16 n)
  { size, width, text }

def controlNames : List String :=
  ["nul", "soh", "stx", "etx", "eot", "enq", "ack", "bel", "bs", "ht", "nl", "vt", "ff", "cr",
    "so", "si", "dle", "dc1", "dc2", "dc3", "dc4", "nak", "syn", "etb", "can", "em", "sub", "esc",
    "fs", "gs", "rs", "us", "sp"]

def named : Format where
  size := 1
  width := 3
  text bytes :=
    let n := numberOf bytes % 128
    if n = 127 then "del".toList
    else
      match controlNames[n]? with
      | some name => name.toList
      | none => [Char.ofNat n]

def plain : Format where
  size := 1
  width := 3
  text bytes :=
    let n := numberOf bytes
    let escapes : List (Nat × Char) :=
      [(0, '0'), (7, 'a'), (8, 'b'), (9, 't'), (10, 'n'), (11, 'v'), (12, 'f'), (13, 'r')]
    match escapes.find? (·.1 = n) with
    | some (_, c) => ['\\', c]
    | none =>
      if 32 ≤ n && n < 127 then [Char.ofNat n] else filled 3 (Nat.toDigits 8 n)

def size (cs : Chars) : Nat × Chars :=
  match cs with
  | 'C' :: cs => (1, cs)
  | 'S' :: cs => (2, cs)
  | 'I' :: cs => (4, cs)
  | 'L' :: cs => (8, cs)
  | cs =>
    let (digits, rest) := cs.span Char.isDigit
    (if digits = [] then 4 else Arithmetic.numeral 10 digits, rest)

def formats (whole : Chars) : Nat → Chars → Except Chars (List Format)
  | 0, _ => .ok []
  | _, [] => .ok []
  | n + 1, c :: cs => do
    let (format, rest) ←
      if c = 'a' then Except.ok (named, cs)
      else if c = 'c' then .ok (plain, cs)
      else if ['d', 'o', 'u', 'x'].contains c then
        let (size, rest) := size cs
        if [1, 2, 4, 8].contains size then Except.ok (ofNumber c size, rest)
        else
          .error ("invalid type string ".toList ++ inQuotes whole ++
            ";\nthis system doesn't provide a ".toList ++ decimal size ++
            "-byte integral type".toList)
      else
        .error ("invalid character ".toList ++ inQuotes [c] ++ " in type string ".toList ++
          inQuotes whole)
    let (format, rest) :=
      match rest with
      | 'z' :: rest => ({ format with isMarked := true }, rest)
      | rest => (format, rest)
    return format :: (← formats whole n rest)

def short (c : Char) : Option String :=
  match c with
  | 'a' => some "a"
  | 'b' => some "oC"
  | 'c' => some "c"
  | 'd' => some "u2"
  | 'D' => some "uI"
  | 'B' | 'o' => some "o2"
  | 'h' | 'x' => some "x2"
  | 'H' | 'X' => some "xI"
  | 'i' => some "dI"
  | 'I' | 'l' | 'L' => some "dL"
  | 'O' => some "oI"
  | 's' => some "d2"
  | _ => none

def asked (a : Arguments) : Except Chars (List Format) := do
  let each ← a.options.mapM fun (c, value) =>
    let text := if c = 't' then value else ((short c).getD "").toList
    formats text (text.length + 1) text
  let all := each.flatten
  return if all.isEmpty then [ofNumber 'o' 2] else all

structure Plan where
  formats : List Format
  /-- How many bytes a line shows. -/
  block : Nat
  /-- What sizes of fields divide. -/
  unit : Nat
  radix : Char
  showsAll : Bool

def Plan.addressWidth (p : Plan) : Nat :=
  match p.radix with
  | 'n' => 0
  | 'x' => 6
  | _ => 7

def Plan.address (p : Plan) (n : Nat) : Chars :=
  let base := if p.radix = 'x' then 16 else if p.radix = 'd' then 10 else 8
  if p.radix = 'n' then [] else filled p.addressWidth (Nat.toDigits base n)

/-- The fields of a line. The blanks that a narrow format has left are spread over them. -/
def fields (f : Format) (count spare : Nat) : Nat → Nat → List Nat → Chars
  | 0, _, _ => []
  | _, _, [] => []
  | i + 1, left, bytes =>
    let next := spare * i / count
    ' ' :: padded (left - next + f.width) (f.text (bytes.take f.size)) ++
      fields f count spare i next (bytes.drop f.size)

def Plan.lines (p : Plan) (place : Nat) (bytes : List Nat) : List Chars :=
  let widest := p.formats.foldl (fun w f => max w ((f.width + 1) * (p.block / f.size))) 0
  let whole := bytes ++
    List.replicate ((p.unit - bytes.length % p.unit) % p.unit) 0
  p.formats.zipIdx.map fun (f, i) =>
    let count := p.block / f.size
    let spare := widest - (f.width + 1) * count
    let lead := if i = 0 then p.address place else List.replicate p.addressWidth ' '
    let missing := (p.block - whole.length) / f.size
    let mark :=
      if f.isMarked then
        List.replicate (missing * (f.width + 1) + spare * missing / count) ' ' ++
          "  >".toList ++
          (bytes.map fun n => if 32 ≤ n && n < 127 then Char.ofNat n else '.') ++ ['<']
      else []
    lead ++ fields f count spare count spare whole ++ mark

/-- All lines but the last one; a star stands for blocks that are as the one before. -/
def Plan.dump (p : Plan) : Nat → Option (List Nat) → Bool → Nat → List Nat → List Chars
  | 0, _, _, _, _ => []
  | _, _, _, _, [] => []
  | n + 1, before, starred, place, bytes =>
    let now := bytes.take p.block
    let rest := bytes.drop p.block
    if !p.showsAll && before = some now then
      (if starred then [] else [['*']]) ++ p.dump n before true (place + p.block) rest
    else p.lines place now ++ p.dump n (some now) false (place + p.block) rest

def known : Known :=
  { flags := "aBbcDdHhIiLlOosvXx", valued := "AjNt", free := "w"
    long := [("address-radix", 'A'), ("skip-bytes", 'j'), ("read-bytes", 'N'), ("format", 't'),
      ("output-duplicates", 'v'), ("width", 'w')] }

end Dump

open Dump in
def od (args : List Chars) : Action Nat :=
  withArguments known 1 args fun a => do
    let refuse (why : Chars) : Action Nat := do
      warn why
      return 1
    let radix := ((a.value? 'A').getD ['o']).take 1
    if !(["d", "o", "x", "n"].contains (String.ofList radix)) then
      return ← refuse ("invalid output address radix ".toList ++ inQuotes radix ++
        "; it must be one character from [doxn]".toList)
    let isWrong (c : Char) : Bool :=
      (a.value? c).any fun cs => (size? cs).isNone && (c ≠ 'w' || cs ≠ [])
    match ['j', 'N', 'w'].find? isWrong with
    | some c =>
      let value := (a.value? c).getD []
      let kind := if (value.head?.any Char.isDigit) then "invalid suffix in " else "invalid "
      refuse (kind.toList ++ ['-', c] ++ " argument ".toList ++ inQuotes value)
    | none =>
      match asked a with
      | .error why => refuse why
      | .ok formats =>
        let unit := formats.foldl (fun n f => max n f.size) 1
        let usual := unit * (16 / unit)
        let block ←
          match a.value? 'w' with
          | none => pure usual
          | some cs =>
            let n := if cs = [] then 32 else (size? cs).getD 0
            if n ≠ 0 && n % unit = 0 then pure n
            else
              warn ("warning: invalid width ".toList ++ cs ++ "; using ".toList ++ decimal unit ++
                " instead".toList)
              pure unit
        let plan : Plan :=
          { formats, block, unit, radix := radix.headD 'o', showsAll := a.has 'v' }
        let start := ((a.value? 'j').bind size?).getD 0
        let (content, whole, isNothing) ←
          match (a.value? 'N').bind size? with
          | some most => do
            let (cs, whole) ← beginning a.operands (start + most)
            pure (cs, whole, cs.isEmpty)
          | none => do
            let (all, whole) ← contents a.operands
            pure (all.flatMap (·.2), whole, all.isEmpty)
        let content := content.map Char.toNat
        if content.length < start then
          return ← refuse "cannot skip past end of combined input".toList
        let bytes := content.drop start
        if isNothing && !whole then return 1
        (plan.dump (bytes.length + 1) none false start bytes).forM printLine
        if plan.radix ≠ 'n' then printLine (plan.address (start + bytes.length))
        return failed whole

end ImportResolver.Tool
