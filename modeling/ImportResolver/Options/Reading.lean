import ImportResolver.Json.Basic
import ImportResolver.Json.Reader
import ImportResolver.Options.Basic
/- Reading options from JSON. -/
namespace ImportResolver

open Json Extension Package

def Extension.RawPart.ofJson? : Json → Option RawPart
  | .null => some .null
  | .array items => (items.mapM text?).map .many
  | v => (text? v).map .one

def Extension.RawRule.ofJson? : Json → Option RawRule
  | .array items => (items.mapM RawPart.ofJson?).map .parts
  | v => (text? v).map .bare

def Extension.rulesOfJson? : Json → Option (List RawRule) := asList? RawRule.ofJson?

def Package.RawDescriptor.ofJson? (j : Json) : Option RawDescriptor := do
  match ← fields? ["kind", "field", "path", "extensions"] j with
  | [some kind, field, path, extensions] =>
    return {
      kind := ← text? kind
      field := ← orElse? none (asOption? text?) field
      path := ← orElse? none (asOption? text?) path
      extensions := ← orElse? [] rulesOfJson? extensions }
  | _ => none

def Package.descriptorsOfJson? : Json → Option (List RawDescriptor) :=
  asList? RawDescriptor.ofJson?

def RawSubmodule.ofJson? (j : Json) : Option RawSubmodule := do
  match ← fields? ["extensions", "ignoreExports"] j with
  | [extensions, ignoreExports] =>
    return {
      extensions := ← orElse? none (asOption? rulesOfJson?) extensions
      ignoreExports := ← orElse? none (asOption? asBool?) ignoreExports }
  | _ => none

def RawModule.ofJson? (j : Json) : Option RawModule := do
  match ← fields? ["entry", "ignoreExports"] j with
  | [entry, ignoreExports] =>
    return {
      entry := ← orElse? [] descriptorsOfJson? entry
      ignoreExports := ← orElse? none (asOption? asBool?) ignoreExports }
  | _ => none

def RawOptions.fieldNames : List String :=
  ["extensions", "extensionsSubmodule", "submodule", "module", "ignoreUnresolved",
   "ignoreExports"]

def RawOptions.ofJson? (j : Json) : Option RawOptions := do
  match ← fields? fieldNames j with
  | [extensions, extensionsSubmodule, submodule, module, ignoreUnresolved, ignoreExports] =>
    return {
      extensions := ← orElse? [] rulesOfJson? extensions
      extensionsSubmodule := ← orElse? none (asOption? rulesOfJson?) extensionsSubmodule
      submodule := ← orElse? {} RawSubmodule.ofJson? submodule
      module := ← orElse? {} RawModule.ofJson? module
      ignoreUnresolved := ← orElse? false asBool? ignoreUnresolved
      ignoreExports := ← orElse? false asBool? ignoreExports }
  | _ => none

def RawOptions.parse? (text : String) : Option RawOptions :=
  (Json.parse? text).bind RawOptions.ofJson?

end ImportResolver
