import ImportResolver.Shell.Machine
import ImportResolver.Shell.Pattern
/- Names of files that patterns stand for. -/
namespace ImportResolver.Shell

namespace Names

def segments (gs : List Glyph) : List (List Glyph) :=
  gs.foldr
    (fun g segs =>
      match segs with
      | s :: rest => if g.char = '/' then [] :: s :: rest else (g :: s) :: rest
      | [] => [])
    [[]]

/-- The names in a directory that a pattern matches. Those that begin with a dot are only matched
by a pattern that does. -/
def matching (fs : FileSystem) (directory : Chars) (gs : List Glyph) : List Chars :=
  let pattern := Pattern.ofGlyphs gs
  let path := if directory = [] then ⟨"."⟩ else pathOf directory
  match fs.list path with
  | .error _ => []
  | .ok names =>
    ((if gs.head?.any (·.char = '.') then [".", ".."] else []) ++ names).filterMap fun name =>
      let cs := charsOf name
      if (cs.head? ≠ some '.' || gs.head?.any (·.char = '.')) && pattern.matches? cs then some cs
      else none

def walk (fs : FileSystem) (before : List Chars) : List (List Glyph) → List Chars
  | [] => before
  | [gs] => extend gs
  | gs :: rest => walk fs ((extend gs).map (· ++ ['/'])) rest
where
  extend (gs : List Glyph) : List Chars :=
    let pattern := Pattern.ofGlyphs gs
    if pattern.isWild then before.flatMap fun b => (matching fs b gs).map (b ++ ·)
    else before.map (· ++ pattern.literal)

def present (fs : FileSystem) (p : Path) : Bool :=
  match fs.locate p false with
  | .ok loc => (fs.tree.get? loc).isSome
  | .error _ => false

/-- The files that a field stands for; none if it is no pattern or nothing matches. -/
def ofField (fs : FileSystem) (gs : List Glyph) : List Chars :=
  if (Pattern.ofGlyphs gs).isWild then
    ((walk fs [[]] (segments gs)).filter fun cs => present fs (pathOf cs)).mergeSort
      Text.inOrder
  else []

end Names

end ImportResolver.Shell
