import ImportResolver.Json.Printer
import ImportResolver.Resolution.Writing
/- Reports of what was resolved, as JSON and as text for people. -/
namespace ImportResolver.CommandLine

open Json

def schemaVersion : Nat := 1

structure FileReport where
  path : Path
  sites : List ResolvedSite := []
  written : Bool := false
  failure : Option Failure := none
  deriving DecidableEq

def FileReport.changed (f : FileReport) : Nat := f.sites.countP (·.resolution.isChanged)

structure Summary where
  files : Nat
  changedFiles : Nat
  changes : Nat
  failures : Nat
  deriving DecidableEq

structure Report where
  optionsFile : Option Path
  write : Bool
  files : List FileReport
  deriving DecidableEq

/-- Takes account of one more file. -/
def Summary.add (s : Summary) (f : FileReport) : Summary :=
  if f.failure.isSome then { s with failures := s.failures + 1 }
  else if 0 < f.changed then
    { s with changedFiles := s.changedFiles + 1, changes := s.changes + f.changed }
  else s

def Report.summary (r : Report) : Summary :=
  r.files.foldl Summary.add ⟨r.files.length, 0, 0, 0⟩

/-- Whether a report makes its command fail: on any failure, and on any change if that is to be
checked. -/
def Report.isFailing (r : Report) (check : Bool) : Bool :=
  0 < r.summary.failures || (check && 0 < r.summary.changedFiles)

structure Explanation where
  specifier : String
  file : Path
  optionsFile : Option Path
  trail : Trail Resolution

def failureJson (f : Failure) : Json :=
  ofMembers [("code", ofString f.code), ("message", ofString f.fullMessage)]

def FileReport.toJson (f : FileReport) : Json :=
  ofMembers <|
    [("path", f.path.toJson), ("changed", ofNat f.changed), ("written", .bool f.written),
     ("sites", .array (f.sites.map ResolvedSite.toJson))] ++
      optional "error" (f.failure.map failureJson)

def Summary.toJson (s : Summary) : Json :=
  ofMembers
    [("files", ofNat s.files), ("changed_files", ofNat s.changedFiles),
     ("rewrites", ofNat s.changes), ("errors", ofNat s.failures)]

def Report.toJson (r : Report) : Json :=
  ofMembers <|
    ("schema_version", ofNat schemaVersion) ::
      optional "config" (r.optionsFile.map Path.toJson) ++
      [("write", .bool r.write), ("files", .array (r.files.map FileReport.toJson)),
       ("summary", r.summary.toJson)]

def Explanation.toJson (e : Explanation) : Json :=
  ofMembers <|
    [("schema_version", ofNat schemaVersion), ("specifier", ofString e.specifier),
     ("from", e.file.toJson)] ++
      optional "config" (e.optionsFile.map Path.toJson) ++
      (match e.trail.result with
        | .ok r => [("result", r.toJson)]
        | .error f => [("error", failureJson f)]) ++
      [("trace", .array (e.trail.steps.map Step.toJson))]

/-- The path as seen from the working directory, where it lies below that. -/
def shownPath (directory p : Path) : String := ((p.within? directory).getD p).text

def siteLine (s : ResolvedSite) : String :=
  "  " ++ toString s.site.line ++ ": " ++ s.resolution.written ++ " -> " ++
    s.resolution.specifier

def FileReport.lines (directory : Path) (f : FileReport) : List String :=
  match f.failure with
  | some failure =>
    [shownPath directory f.path ++ ": error [" ++ failure.code ++ "] " ++ failure.fullMessage]
  | none =>
    if f.changed = 0 then []
    else
      (shownPath directory f.path ++ (if f.written then ": rewrote " else ": would rewrite ") ++
        toString f.changed ++ " specifier(s)") ::
        (f.sites.filter (·.resolution.isChanged)).map siteLine

def Summary.line (s : Summary) : String :=
  toString s.files ++ " file(s) scanned, " ++ toString s.changedFiles ++ " changed, " ++
    toString s.changes ++ " rewrite(s), " ++ toString s.failures ++ " error(s)"

def Report.lines (directory : Path) (r : Report) : List String :=
  r.files.flatMap (FileReport.lines directory) ++ [r.summary.line]

def stepLines (position : Nat) (s : Step) : List String :=
  ("  " ++ toString position ++ ". [" ++ (if s.ok then "OK" else "FAIL") ++ "] " ++
    s.name.text ++ ": " ++ s.detail) ::
    ((s.path.map fun p => "      path: " ++ p.text).toList ++
      (s.key.map fun k => "      key: " ++ k).toList ++ s.notes.map ("      note: " ++ ·))

def Explanation.lines (e : Explanation) : List String :=
  ["Specifier: " ++ e.specifier, "From: " ++ e.file.text] ++
    (e.optionsFile.map fun p => "Config: " ++ p.text).toList ++ [""] ++
    (match e.trail.result with
      | .ok r =>
        ["Kind: " ++ r.kind.label,
         if r.isChanged then "Rewritten: " ++ r.specifier else "Unchanged: " ++ r.written]
      | .error f =>
        ["Status: UNRESOLVED", "Error: " ++ f.code, "Message: " ++ f.fullMessage]) ++
    ["", "Resolution trace:"] ++
    (e.trail.steps.zipIdx 1).flatMap fun (s, i) => stepLines i s

def joinLines (lines : List String) : String := String.join (lines.map (· ++ "\n"))

end ImportResolver.CommandLine
