import ImportResolver.Text.Affix
import ImportResolver.Specifier.Builtins
/- The kinds of import specifier, told apart by their text alone. -/
namespace ImportResolver

inductive Specifier.Kind where
  | url
  | builtin
  | file
  /-- A package, and what follows its name: nothing, or a path that starts with a slash. -/
  | package (name subPath : String)
  | unrecognized
  deriving DecidableEq

namespace Specifier

def Kind.label : Kind → String
  | .url => "url"
  | .builtin => "builtin"
  | .file => "file"
  | .package _ subPath => if subPath = "" then "package" else "submodule"
  | .unrecognized => "unrecognized"

def beforeSlash (cs : List Char) : List Char := cs.takeWhile (· ≠ '/')

def fromSlash (cs : List Char) : List Char := cs.dropWhile (· ≠ '/')

/-- A scheme, free of slashes and not empty, and then `://`. -/
def isUrl (cs : List Char) : Bool :=
  1 < (beforeSlash cs).length && (beforeSlash cs).getLast? = some ':' &&
    (Text.dropLead? ['/', '/'] (fromSlash cs)).isSome

/-- The first segment is `.` or `..`, or the path is absolute. -/
def isFile (cs : List Char) : Bool :=
  beforeSlash cs = ['.'] || beforeSlash cs = ['.', '.'] || cs.head? = some '/'

/-- A name ends at the first slash; after a scope (`@`), at the second. -/
def splitName : List Char → List Char × List Char
  | '@' :: cs =>
    match fromSlash cs with
    | [] => ('@' :: cs, [])
    | slash :: rest => ('@' :: beforeSlash cs ++ slash :: beforeSlash rest, fromSlash rest)
  | cs => (beforeSlash cs, fromSlash cs)

def classify (builtins : Builtins) (text : String) : Kind :=
  let cs := text.toList
  if text = "" then .unrecognized
  else if builtins.isBuiltin text then .builtin
  else if isUrl cs then .url
  else if isFile cs then .file
  else .package (String.ofList (splitName cs).1) (String.ofList (splitName cs).2)

@[simp] theorem beforeSlash_append_fromSlash (cs : List Char) :
    beforeSlash cs ++ fromSlash cs = cs := List.takeWhile_append_dropWhile

/-- Nothing of a specifier is lost between the name and what follows it. -/
theorem splitName_append (cs : List Char) : (splitName cs).1 ++ (splitName cs).2 = cs := by
  unfold splitName
  split
  · next cs =>
    have h := beforeSlash_append_fromSlash cs
    split
    · simp
    · next slash rest hr => rw [hr] at h; simp [h]
  · simp

end Specifier
end ImportResolver
