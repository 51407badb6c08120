import ImportResolver.Json.Basic
import ImportResolver.Options.Basic
import ImportResolver.Resolution.Source
import ImportResolver.Trail
/- Options, resolutions and their steps as JSON. -/
namespace ImportResolver

open Json Extension Package

def Extension.RawPart.toJson : RawPart → Json
  | .one e => ofString e
  | .many es => .array (es.map ofString)
  | .null => .null

def Extension.RawRule.toJson : RawRule → Json
  | .bare e => ofString e
  | .parts ps => .array (ps.map RawPart.toJson)

def Extension.rawRulesToJson (rules : List RawRule) : Json := .array (rules.map RawRule.toJson)

/-- A member that is left out when it has no value. -/
def Json.optional (name : String) (value : Option Json) : List (String × Json) :=
  (value.map fun v => (name, v)).toList

def Package.RawDescriptor.toJson (d : RawDescriptor) : Json :=
  ofMembers <|
    ("kind", ofString d.kind) :: optional "field" (d.field.map ofString) ++
      optional "path" (d.path.map ofString) ++ [("extensions", rawRulesToJson d.extensions)]

def RawSubmodule.toJson (s : RawSubmodule) : Json :=
  ofMembers <|
    optional "extensions" (s.extensions.map rawRulesToJson) ++
      optional "ignoreExports" (s.ignoreExports.map .bool)

def RawModule.toJson (m : RawModule) : Json :=
  ofMembers <|
    ("entry", .array (m.entry.map RawDescriptor.toJson)) ::
      optional "ignoreExports" (m.ignoreExports.map .bool)

def RawOptions.toJson (o : RawOptions) : Json :=
  ofMembers <|
    ("extensions", rawRulesToJson o.extensions) ::
      optional "extensionsSubmodule" (o.extensionsSubmodule.map rawRulesToJson) ++
      [("submodule", o.submodule.toJson), ("module", o.module.toJson),
       ("ignoreUnresolved", .bool o.ignoreUnresolved), ("ignoreExports", .bool o.ignoreExports)]

def Outcome.members : Outcome → List (String × Json)
  | .unchanged reason => [("status", ofString "unchanged"), ("reason", ofString reason.text)]
  | .replaced specifier =>
    [("status", ofString "rewritten"), ("specifier", ofString specifier)]

def Resolution.members (r : Resolution) : List (String × Json) :=
  ("original", ofString r.written) :: ("kind", ofString r.kind.label) :: r.outcome.members

def Resolution.toJson (r : Resolution) : Json := ofMembers r.members

def ResolvedSite.toJson (s : ResolvedSite) : Json :=
  ofMembers <|
    ("line", ofNat s.site.line) :: ("site", ofString s.site.kind.label) :: s.resolution.members

def Path.toJson (p : Path) : Json := ofString p.text

def Step.toJson (s : Step) : Json :=
  ofMembers <|
    [("step", ofString s.name.text), ("ok", .bool s.ok), ("detail", ofString s.detail)] ++
      optional "path" (s.path.map Path.toJson) ++ optional "key" (s.key.map ofString) ++
      if s.notes = [] then [] else [("notes", .array (s.notes.map ofString))]

end ImportResolver
