import ImportResolver.FileSystem.Base
import ImportResolver.Shell.Arithmetic
import ImportResolver.Shell.Names
import ImportResolver.Shell.Pattern
import ImportResolver.Shell.Variables
/- What words stand for: parameters, results of commands, the fields that they are cut into, and names
of files. -/
namespace ImportResolver.Shell

/-- A piece of a word after expansion. -/
inductive Bit where
  /-- A character; if `splits` is set, it may separate fields. -/
  | char (c : Char) (quoted splits : Bool)
  /-- Makes a field even if it is empty. -/
  | mark
  /-- Separates fields. -/
  | cut

namespace Bit

def ofChars (cs : Chars) (quoted splits : Bool) : List Bit := cs.map fun c => .char c quoted splits

def glyphs (bits : List Bit) : List Glyph :=
  bits.filterMap fun
    | .char c q _ => some ⟨c, q⟩
    | _ => none

def chars (bits : List Bit) : Chars := (glyphs bits).map Glyph.char

end Bit

/-- Fields part way through: those that ended, the last one first, the one in progress, and
whether a blank ended the last. -/
structure Fields where
  done : List (List Glyph) := []
  current : Option (List Glyph) := none
  afterBlank : Bool := false

namespace Fields

def close (f : Fields) : Fields :=
  match f.current with
  | some gs => { f with done := gs.reverse :: f.done, current := none }
  | none => f

def step (separators : Chars) (f : Fields) : Bit → Fields
  | .mark => { f with current := some (f.current.getD []), afterBlank := false }
  | .cut => { f.close with afterBlank := false }
  | .char c quoted splits =>
    if splits && !quoted && separators.contains c then
      if c = ' ' || c = '\t' || c = '\n' then
        if f.current.isSome then { f.close with afterBlank := true } else f
      else if f.current.isSome then { f.close with afterBlank := false }
      else if f.afterBlank then { f with afterBlank := false }
      else { f with done := [] :: f.done }
    else { f with current := some (⟨c, quoted⟩ :: f.current.getD []), afterBlank := false }

def ofBits (separators : Chars) (bits : List Bit) : List (List Glyph) :=
  (bits.foldl (step separators) {}).close.done.reverse

end Fields

inductive Purpose where
  /-- Several fields. -/
  | fields
  /-- A value that is assigned. -/
  | assignment
  /-- One text. -/
  | single
  /-- A text in which a tilde is nothing special. -/
  | document
  deriving DecidableEq

namespace Action

def homeOf (user : Chars) : Action (Option Chars) := do
  if user = [] then return (← process).value? "HOME".toList
  else return (FileSystem.homeOf? (stringOf user)).map String.toList

/-- Replaces a tilde in front of a text, and with its user name what follows the tilde. `final`
says that nothing follows the text. -/
def tilde (cs : Chars) (inAssignment final : Bool) : Action (List Bit) := do
  match cs with
  | '~' :: rest =>
    let (user, after) := rest.span fun c => c ≠ '/' && !(inAssignment && c = ':')
    if after = [] && !final then return Bit.ofChars cs false false
    match ← homeOf user with
    | some home => return Bit.ofChars home true false ++ Bit.ofChars after false false
    | none => return Bit.ofChars cs false false
  | _ => return Bit.ofChars cs false false

def tildes (cs : Chars) (final : Bool) : Action (List Bit) := do
  let texts := Text.runs ':' cs
  let count := texts.length
  let bits ← (texts.zipIdx).mapM fun (text, i) => tilde text true (i + 1 < count || final)
  return (bits.intersperse [.char ':' false false]).flatten

def scalar (name : Chars) : Action (Option Chars) := do
  let p ← process
  match name with
  | ['#'] => return some (decimal p.arguments.length)
  | ['?'] => return some (decimal p.status)
  | ['$'] => return some (decimal p.shown)
  | ['!'] => return p.lastBackground.map decimal
  | ['-'] => return some (p.options.filter Char.isAlpha).reverse
  | ['@'] => return some p.joinedArguments
  | ['*'] => return some p.joinedArguments
  | ['0'] => return some p.name
  | _ =>
    if name.all Char.isDigit then
      return p.arguments[Arithmetic.numeral 10 name - 1]?
    else return p.value? name

def arithmeticSignal : Nat := 8

/-- The value of an expression. A quotient that is too large ends the process: no setting can
keep it going. -/
def arithmetic (expression : Chars) : Action Chars := do
  let p ← process
  let (value, assigned) := Arithmetic.evaluate p.value? expression
  assigned.reverse.forM fun (name, value) => assign name value
  match value with
  | .ok v => return Arithmetic.decimal v
  | .error .quotientTooLarge => throw (.killed arithmeticSignal)
  | .error fault => fail (stringOf (fault.message expression))

def arguments (quoted : Bool) : Action (List Bit) := do
  let p ← process
  let bits := p.arguments.map fun a =>
    (if quoted then [.mark] else []) ++ Bit.ofChars a quoted (!quoted)
  return (bits.intersperse [.cut]).flatten

def parameterBits (name : Chars) (quoted : Bool) (purpose : Purpose) (value : Chars) :
    Action (List Bit) := do
  if purpose = .fields && name = ['@'] || purpose = .fields && name = ['*'] && !quoted then
    arguments quoted
  else return Bit.ofChars value quoted (!quoted)

/-- Expands parts one after another. `first` says that nothing stands before them; `inner` that
they are the word of an expansion. -/
def expandParts (capture : Command → Action Chars) :
    Nat → Purpose → Bool → Bool → List Part → Action (List Bit)
  | 0, _, _, _, _ => throw .exhausted
  | _ + 1, _, _, _, [] => return []
  | n + 1, purpose, first, inner, part :: rest => do
    let also (bits : List Bit) : Action (List Bit) := do
      return bits ++ (← expandParts capture n purpose false inner rest)
    match part, rest with
    | .mark, .parameter ['@'] .value [] true :: .mark :: rest =>
      if purpose = .fields then
        let bits ← arguments true
        return bits ++ (← expandParts capture n purpose false inner rest)
      else also [.mark]
    | .mark, _ => also [.mark]
    | .text cs quoted, _ =>
      if quoted || purpose = .document then also (Bit.ofChars cs quoted (inner && !quoted))
      else
        let bits ←
          if purpose = .assignment then
            if first || inner then tildes cs rest.isEmpty
            else
              match cs.span (· ≠ ':') with
              | (before, ':' :: after) =>
                pure (Bit.ofChars (before ++ [':']) false false ++
                  (← tildes after rest.isEmpty))
              | _ => pure (Bit.ofChars cs false false)
          else if first then tilde cs false rest.isEmpty
          else pure (Bit.ofChars cs false false)
        also (bits.map fun
          | .char c q _ => .char c q (inner && !q)
          | b => b)
    | .output script quoted, _ => also (Bit.ofChars (← capture script) quoted (!quoted))
    | .arithmetic expression quoted, _ =>
      let text := Bit.chars (← expandParts capture n .document true false expression)
      also (Bit.ofChars (← arithmetic text) quoted (!quoted))
    | .parameter name modifier word quoted, _ =>
      let value ← scalar name
      let usable (orEmpty : Bool) : Bool := value.any fun v => !(orEmpty && v.isEmpty)
      let wordBits : Action (List Bit) :=
        expandParts capture n purpose true true word
      let valueBits : Action (List Bit) := parameterBits name quoted purpose (value.getD [])
      let needed : Action Unit := do
        if value.isNone && (← process).isOn 'u' then
          fail (stringOf name ++ ": parameter not set")
      match modifier with
      | .malformed => fail "Bad substitution"
      | .value =>
        needed
        also (← valueBits)
      | .length =>
        needed
        also (Bit.ofChars (decimal (value.getD []).length) quoted (!quoted))
      | .default orEmpty => also (← if usable orEmpty then valueBits else wordBits)
      | .replace orEmpty => also (← if usable orEmpty then wordBits else pure [])
      | .assign orEmpty =>
        if usable orEmpty then also (← valueBits)
        else
          let new := Bit.chars (← expandParts capture n .single true true word)
          if !Reader.isName name then fail (stringOf name ++ ": bad variable name")
          assign name new
          also (Bit.ofChars new quoted (!quoted))
      | .require orEmpty =>
        if usable orEmpty then also (← valueBits)
        else
          let text := Bit.chars (← expandParts capture n .single true true word)
          let text :=
            if !word.isEmpty then text
            else charsOf (if orEmpty then "parameter not set or null" else "parameter not set")
          fail (stringOf (name ++ ": ".toList ++ text))
      | .trim atEnd long =>
        needed
        let pattern := Pattern.ofGlyphs
          (Bit.glyphs (← expandParts capture n .single true false word))
        let v := value.getD []
        let v := if atEnd then pattern.trimEnd long v else pattern.trimStart long v
        also (Bit.ofChars v quoted (!quoted))

def wordLimit : Nat := 1000000

def expandBits (capture : Command → Action Chars) (purpose : Purpose) (w : Word) :
    Action (List Bit) :=
  expandParts capture wordLimit purpose true false w

def expandText (capture : Command → Action Chars) (purpose : Purpose) (w : Word) : Action Chars :=
  do return Bit.chars (← expandBits capture purpose w)

def expandPattern (capture : Command → Action Chars) (w : Word) : Action Pattern := do
  return Pattern.ofGlyphs (Bit.glyphs (← expandBits capture .single w))

def expandFields (capture : Command → Action Chars) (w : Word) : Action (List Chars) := do
  let bits ← expandBits capture .fields w
  let p ← process
  let fs ← fileSystem
  return (Fields.ofBits p.separators bits).flatMap fun gs =>
    match if p.isOn 'f' then [] else Names.ofField fs gs with
    | [] => [gs.map Glyph.char]
    | names => names

end Action
end ImportResolver.Shell
