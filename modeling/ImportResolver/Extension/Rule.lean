import ImportResolver.Failure
/- Extension rules: as written in options, and as lists of candidates to try. -/
namespace ImportResolver.Extension

/-- A part of a rule in its written form. -/
inductive RawPart where
  | one (extension : String)
  | many (extensions : List String)
  | null
  deriving DecidableEq

inductive RawRule where
  | bare (extension : String)
  | parts (parts : List RawPart)
  deriving DecidableEq

/-- Any of the sources is accepted; it is written as the destination, or as it is if there is
none. -/
structure Rule where
  sources : List String
  destination : Option String
  deriving DecidableEq

def Rule.keep (extension : String) : Rule := ⟨[extension], none⟩

def Rule.emitted (r : Rule) (source : String) : String := r.destination.getD source

abbrev Rules := List Rule

/-- An accepted extension and the one written for it. -/
structure Candidate where
  source : String
  emitted : String
  deriving DecidableEq

/-- Rules in order, and the sources of each in order. -/
def Rules.candidates (rules : Rules) : List Candidate :=
  rules.flatMap fun r => r.sources.map fun s => ⟨s, r.emitted s⟩

def RawPart.sources : RawPart → Except Failure (List String)
  | .one e => .ok [e]
  | .many es => .ok es
  | .null => .error (.configuration .ruleSource)

def RawPart.destination : RawPart → Except Failure (Option String)
  | .one e => .ok (some e)
  | .null => .ok none
  | .many _ => .error (.configuration .ruleDestination)

/-- The rule that a written form stands for: one extension, sources alone, or sources and a
destination. -/
def RawRule.normalize : RawRule → Except Failure Rule
  | .bare e => .ok (.keep e)
  | .parts [source] => do return ⟨← source.sources, none⟩
  | .parts [source, destination] => do return ⟨← source.sources, ← destination.destination⟩
  | .parts ps => .error (.configuration (.ruleLength ps.length))

def normalize (raw : List RawRule) : Except Failure Rules := raw.mapM RawRule.normalize

end ImportResolver.Extension
