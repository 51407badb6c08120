import ImportResolver.Shell.Syntax
import ImportResolver.Text.Affix
/- Patterns with which words are matched: `*`, `?` and bracket expressions. -/
namespace ImportResolver.Shell

/-- A character of a word after expansion. A quoted one stands for itself alone. -/
structure Glyph where
  char : Char
  quoted : Bool
  deriving DecidableEq

inductive Pattern.Item where
  | exactly (c : Char)
  | anyChar
  | anyText
  | oneOf (negated : Bool) (ranges : List (Char × Char)) (classes : List (Char → Bool))

abbrev Pattern := List Pattern.Item

namespace Pattern

def classes : List (String × (Char → Bool)) :=
  [("alnum", Char.isAlphanum), ("alpha", Char.isAlpha),
   ("blank", fun c => c = ' ' || c = '\t'),
   ("cntrl", fun c => c.toNat < 32 || c.toNat = 127),
   ("digit", Char.isDigit), ("graph", fun c => 32 < c.toNat && c.toNat < 127),
   ("lower", Char.isLower), ("print", fun c => 32 ≤ c.toNat && c.toNat < 127),
   ("punct", fun c => 32 < c.toNat && c.toNat < 127 && !c.isAlphanum),
   ("space", fun c => c = ' ' || 9 ≤ c.toNat && c.toNat ≤ 13),
   ("upper", Char.isUpper),
   ("xdigit", fun c => c.isDigit || 'a' ≤ c && c ≤ 'f' || 'A' ≤ c && c ≤ 'F')]

def class? (gs : List Glyph) : Option ((Char → Bool) × List Glyph) :=
  match gs with
  | ⟨'[', false⟩ :: ⟨':', false⟩ :: gs =>
    let name := (gs.takeWhile fun g => g.char.isAlpha && !g.quoted).map Glyph.char
    match gs.drop name.length with
    | ⟨':', false⟩ :: ⟨']', false⟩ :: rest =>
      (classes.find? (·.1 = String.ofList name)).map fun c => (c.2, rest)
    | _ => none
  | _ => none

def unescaped? : List Glyph → Option (Glyph × List Glyph)
  | ⟨'\\', false⟩ :: g :: gs => some (⟨g.char, true⟩, gs)
  | g :: gs => some (g, gs)
  | [] => none

/-- The members of a bracket expression, up to its end. The first is taken whatever it is. -/
def members : Nat → Bool → List Glyph → List (Char × Char) → List (Char → Bool) →
    Option (List (Char × Char) × List (Char → Bool) × List Glyph)
  | 0, _, _, _, _ => none
  | n + 1, first, gs, ranges, cs =>
    match unescaped? gs with
    | none => none
    | some (g, rest) =>
      if g = ⟨']', false⟩ && !first then some (ranges, cs, rest)
      else
        match class? gs with
        | some (c, rest) => members n false rest ranges (c :: cs)
        | none =>
          match rest with
          | ⟨'-', false⟩ :: after =>
            match unescaped? after with
            | some (h, beyond) =>
              if h = ⟨']', false⟩ then members n false rest ((g.char, g.char) :: ranges) cs
              else members n false beyond ((g.char, h.char) :: ranges) cs
            | none => none
          | _ => members n false rest ((g.char, g.char) :: ranges) cs

def bracket? (gs : List Glyph) : Option (Item × List Glyph) :=
  let (negated, gs) :=
    match gs with
    | ⟨'!', false⟩ :: rest => (true, rest)
    | _ => (false, gs)
  (members (gs.length + 1) true gs [] []).map fun (ranges, cs, rest) =>
    (.oneOf negated ranges cs, rest)

def ofGlyphsFrom : Nat → List Glyph → Pattern
  | 0, _ => []
  | _ + 1, [] => []
  | n + 1, g :: gs =>
    if g.quoted then .exactly g.char :: ofGlyphsFrom n gs
    else if g.char = '*' then .anyText :: ofGlyphsFrom n gs
    else if g.char = '?' then .anyChar :: ofGlyphsFrom n gs
    else if g.char = '[' then
      match bracket? gs with
      | some (item, rest) => item :: ofGlyphsFrom n rest
      | none => .exactly '[' :: ofGlyphsFrom n gs
    else if g.char = '\\' then
      match gs with
      | h :: rest => .exactly h.char :: ofGlyphsFrom n rest
      | [] => [.exactly '\\']
    else .exactly g.char :: ofGlyphsFrom n gs

def ofGlyphs (gs : List Glyph) : Pattern := ofGlyphsFrom gs.length gs

def Item.accepts (i : Item) (c : Char) : Bool :=
  match i with
  | .exactly d => c = d
  | .anyChar => true
  | .anyText => true
  | .oneOf negated ranges cs =>
    (ranges.any (fun r => r.1 ≤ c && c ≤ r.2) || cs.any (· c)) != negated

/-- The numbers of leading characters that a pattern matches, counted from `from`. -/
def matches? : Pattern → Chars → Bool
  | [], cs => cs.isEmpty
  | .anyText :: p, [] => matches? p []
  | .anyText :: p, c :: cs => matches? p (c :: cs) || matches? (.anyText :: p) cs
  | _ :: _, [] => false
  | i :: p, c :: cs => i.accepts c && matches? p cs
termination_by p cs => (p.length, cs.length)

/-- Whether a pattern holds anything but characters that stand for themselves. -/
def isWild (p : Pattern) : Bool :=
  p.any fun
    | .exactly _ => false
    | _ => true

def literal (p : Pattern) : Chars :=
  p.filterMap fun
    | .exactly c => some c
    | _ => none

def trimStart (p : Pattern) (long : Bool) (cs : Chars) : Chars :=
  let counts := List.range (cs.length + 1)
  let counts := if long then counts.reverse else counts
  match counts.find? fun n => p.matches? (cs.take n) with
  | some n => cs.drop n
  | none => cs

def trimEnd (p : Pattern) (long : Bool) (cs : Chars) : Chars :=
  let counts := List.range (cs.length + 1)
  let counts := if long then counts.reverse else counts
  match counts.find? fun n => p.matches? (cs.drop (cs.length - n)) with
  | some n => cs.take (cs.length - n)
  | none => cs

end Pattern
end ImportResolver.Shell
