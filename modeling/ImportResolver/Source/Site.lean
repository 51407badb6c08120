import ImportResolver.Source.Piece
/- The specifier sites of a source text, with their places. -/
namespace ImportResolver.Source

/-- A specifier in a source text. `start` and `stop` bound it in bytes, without its quotes; lines
count from one. -/
structure Site where
  raw : String
  kind : SiteKind
  start : Nat
  stop : Nat
  line : Nat
  deriving DecidableEq

def byteSize (cs : List Char) : Nat := cs.foldr (fun c n => c.utf8Size + n) 0

def lineFeeds (cs : List Char) : Nat := cs.count '\n'

/-- The sites of pieces that begin `start` bytes into the text, on the given line. -/
def sitesFrom (start line : Nat) : List Piece → List Site
  | [] => []
  | .other text :: ps => sitesFrom (start + byteSize text) (line + lineFeeds text) ps
  | .site kind lead raw quote :: ps =>
    let first := start + byteSize lead
    let line := line + lineFeeds lead
    ⟨String.ofList raw, kind, first, first + byteSize raw, line⟩ ::
      sitesFrom (first + byteSize raw + quote.utf8Size) (line + lineFeeds raw) ps

/-- All sites of a text, in order. -/
def sites (source : String) : List Site := sitesFrom 0 1 (pieces [] source.toList)

/-- The part of a text between two places, counted in bytes. -/
def slice (source : String) (start stop : Nat) : String :=
  String.Pos.Raw.extract source ⟨start⟩ ⟨stop⟩

end ImportResolver.Source
