import ImportResolver.Json.Basic
import ImportResolver.Json.Token
/- Reading a JSON value, token by token: the containers still open stand on a stack. -/
namespace ImportResolver.Json

/-- A container whose next value is being read; what it holds so far comes last first. -/
inductive Frame where
  | array (done : List Json)
  | object (done : List (Option String × Json)) (name : Option String)

/-- How far the text has been read. -/
inductive Progress where
  | valueDue (outer : List Frame)
  | arrayOpened (outer : List Frame)
  | objectOpened (outer : List Frame)
  | nameDue (done : List (Option String × Json)) (outer : List Frame)
  | colonDue (done : List (Option String × Json)) (name : Option String) (outer : List Frame)
  | complete (value : Json) (outer : List Frame)

/-- The first token of a value. -/
def begin? (outer : List Frame) : Token → Option Progress
  | .openArray => some (.arrayOpened outer)
  | .openObject => some (.objectOpened outer)
  | .null => some (.complete .null outer)
  | .bool b => some (.complete (.bool b) outer)
  | .number literal => some (.complete (.number literal) outer)
  | .string text => some (.complete (.string text) outer)
  | _ => none

def Progress.step? : Progress → Token → Option Progress
  | .valueDue outer, t => begin? outer t
  | .arrayOpened outer, .closeArray => some (.complete (.array []) outer)
  | .arrayOpened outer, t => begin? (.array [] :: outer) t
  | .objectOpened outer, .closeObject => some (.complete (.object []) outer)
  | .objectOpened outer, .string name => some (.colonDue [] name outer)
  | .nameDue done outer, .string name => some (.colonDue done name outer)
  | .colonDue done name outer, .colon => some (.valueDue (.object done name :: outer))
  | .complete v (.array done :: outer), .comma => some (.valueDue (.array (v :: done) :: outer))
  | .complete v (.array done :: outer), .closeArray =>
    some (.complete (.array (v :: done).reverse) outer)
  | .complete v (.object done name :: outer), .comma =>
    some (.nameDue ((name, v) :: done) outer)
  | .complete v (.object done name :: outer), .closeObject =>
    some (.complete (.object ((name, v) :: done).reverse) outer)
  | _, _ => none

def ofTokens? (ts : List Token) : Option Json :=
  match ts.foldlM Progress.step? (.valueDue []) with
  | some (.complete v []) => some v
  | _ => none

/-- The value that a text writes, with nothing but blanks around it. -/
def parse? (s : String) : Option Json := (tokens? s.toList).bind ofTokens?

end ImportResolver.Json
