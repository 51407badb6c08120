import ImportResolver.Text.Affix
import ImportResolver.Text.Runs
/- Slash-separated paths. A path is its text; its components are a view of it. -/
namespace ImportResolver

structure Path where
  text : String
  deriving DecidableEq, Inhabited

inductive Path.Component where
  | root
  /-- A dot in front; dots further on are no components. -/
  | here
  | up
  | name (text : String)
  deriving DecidableEq

namespace Path

/-- What stands before the body of a path: the root slash or a leading dot. -/
def anchor : List Char → List Char
  | '/' :: _ => ['/']
  | ['.'] => ['.']
  | '.' :: '/' :: _ => ['.']
  | _ => []

/-- The body cut at its slashes. -/
def segments (cs : List Char) : List (List Char) := Text.runs '/' (cs.drop (anchor cs).length)

/-- Segments that name nothing. -/
def isTrivial (segment : List Char) : Bool := segment = [] || segment = ['.']

def isAbsolute (p : Path) : Bool := p.text.toList.head? = some '/'

/-- The text of `p` with `s` put after it. -/
def append (p : Path) (s : String) : Path := ⟨p.text ++ s⟩

/-- An absolute `q` stands alone; otherwise one slash comes between, unless `p` is empty or ends
in one. -/
def join (p : Path) (q : String) : Path :=
  if (Path.mk q).isAbsolute || p.text = "" then ⟨q⟩
  else if Text.endsWith p.text "/" then ⟨p.text ++ q⟩
  else ⟨p.text ++ "/" ++ q⟩

/-- The path without its last component. The root and the empty path have no parent. -/
def parent? (p : Path) : Option Path :=
  let lead := anchor p.text.toList
  match (segments p.text.toList).reverse.dropWhile isTrivial with
  | _ :: kept =>
    some ⟨String.ofList (lead ++ Text.joinRuns '/' (kept.dropWhile isTrivial).reverse)⟩
  | [] => if lead = ['.'] then some ⟨""⟩ else none

/-- The last component, where it is a name. -/
def fileName? (p : Path) : Option String :=
  match (segments p.text.toList).reverse.dropWhile isTrivial with
  | [] => none
  | last :: _ => if last = ['.', '.'] then none else some (String.ofList last)

/-- What follows the last dot of the name. A dot that begins the name does not count. -/
def extension? (p : Path) : Option String :=
  (p.fileName?).bind fun name =>
    match (Text.runs '.' name.toList).reverse with
    | _ :: [[]] => none
    | [_] => none
    | last :: _ => some (String.ofList last)
    | [] => none

def component? (segment : List Char) : Option Component :=
  if isTrivial segment then none
  else if segment = ['.', '.'] then some .up
  else some (.name (String.ofList segment))

def components (p : Path) : List Component :=
  let cs := p.text.toList
  (match anchor cs with
    | ['/'] => [.root]
    | ['.'] => [.here]
    | _ => []) ++ (segments cs).filterMap component?

/-- The root comes first, then `.`, then `..`, then names by their characters. -/
def Component.key : Component → List Nat
  | .root => [0]
  | .here => [1]
  | .up => [2]
  | .name text => 3 :: text.toList.map Char.toNat

/-- Paths are ordered, and taken for equal, by these keys. -/
def key (p : Path) : List (List Nat) := p.components.map Component.key

def Component.text : Component → String
  | .root => "/"
  | .here => "."
  | .up => ".."
  | .name text => text

/-- The components of `p` after those of `base`, if it begins with them. -/
def within? (p base : Path) : Option Path :=
  (Text.dropLead? base.components p.components).map fun rest =>
    rest.foldl (fun q c => q.join c.text) ⟨""⟩

example : (Path.mk "/a//b/./").parent? = some ⟨"/a"⟩ ∧ (Path.mk "./a").parent? = some ⟨"."⟩ ∧
    (Path.mk ".").parent? = some ⟨""⟩ ∧ (Path.mk "//").parent? = none := by decide +kernel

example : (Path.mk "a/.q.js").extension? = some "js" ∧ (Path.mk ".js").extension? = none ∧
    (Path.mk "b.").extension? = some "" := by decide +kernel

end Path
end ImportResolver
