import ImportResolver.Options.Basic
import Mathlib.Data.List.Forall2
/- Which options are accepted, and what they stand for. Rules and descriptors are accepted in the
documented forms and in no others, and they keep the order in which they are written. -/
namespace ImportResolver

/-- Normalizing comes to a value with the meaning of what is written, if that has a documented form,
and to a fault of the configuration otherwise. -/
inductive Normalizes {α : Type} (Means : α → Prop) : (isDocumented : Bool) → Except Failure α → Prop
  | ok {a : α} : Means a → Normalizes Means true (.ok a)
  | error (fault : ConfigurationFault) : Normalizes Means false (.error (.configuration fault))

namespace Normalizes

variable {α β : Type} {M : α → Prop} {N : β → Prop} {isDocumented isDocumented' : Bool}
  {result : Except Failure α}

/-- What comes second is normalized only if the first part has a documented form. -/
theorem bind {f : α → Except Failure β} (h : Normalizes M isDocumented result)
    (hf : ∀ a, isDocumented = true → M a → Normalizes N isDocumented' (f a)) :
    Normalizes N (isDocumented && isDocumented') (result >>= f) := by
  cases h with
  | ok ha => exact hf _ rfl ha
  | error fault => exact .error fault

theorem mono {M' : α → Prop} (h : Normalizes M isDocumented result) (hM : ∀ a, M a → M' a) :
    Normalizes M' isDocumented result := by
  cases h with
  | ok ha => exact .ok (hM _ ha)
  | error fault => exact .error fault

/-- A list is normalized item by item, in order. -/
theorem mapM {M : β → α → Prop} {isDocumented : β → Bool} {f : β → Except Failure α} {xs : List β}
    (h : ∀ x ∈ xs, Normalizes (M x) (isDocumented x) (f x)) :
    Normalizes (List.Forall₂ M xs) (xs.all isDocumented) (xs.mapM f) := by
  induction xs with
  | nil => exact .ok .nil
  | cons x xs ih =>
      rw [List.mapM_cons, List.all_cons]
      obtain ⟨hx, hxs⟩ := List.forall_mem_cons.mp h
      refine hx.bind fun a _ ha => ?_
      rw [← Bool.and_true (xs.all isDocumented)]
      exact (ih hxs).bind fun as _ has => .ok (.cons ha has)

theorem isOk_iff (h : Normalizes M isDocumented result) :
    (∃ a, result = .ok a) ↔ isDocumented = true := by
  cases h with
  | ok _ => simp
  | error fault => simp

theorem means {a : α} (h : Normalizes M isDocumented result) (ha : result = .ok a) : M a := by
  cases h with
  | ok hM => cases ha; exact hM
  | error fault => cases ha

theorem exists_fault {f : Failure} (h : Normalizes M isDocumented result)
    (hf : result = .error f) : ∃ fault, f = .configuration fault := by
  cases h with
  | ok hM => cases hf
  | error fault => cases hf; exact ⟨fault, rfl⟩

end Normalizes

namespace Extension

/-- A string, or a list of strings. -/
def RawPart.isSource : RawPart → Bool
  | .one _ => true
  | .many _ => true
  | .null => false

/-- A string or null. -/
def RawPart.isDestination : RawPart → Bool
  | .one _ => true
  | .null => true
  | .many _ => false

/-- A string, or a list of one or two parts: sources, and a destination. -/
def RawRule.isDocumented : RawRule → Bool
  | .bare _ => true
  | .parts [source] => source.isSource
  | .parts [source, destination] => source.isSource && destination.isDestination
  | .parts _ => false

def RawPart.listed : RawPart → List String
  | .one extension => [extension]
  | .many extensions => extensions
  | .null => []

/-- The sources of a rule, each with the destination or else with itself. -/
def RawRule.pairs : RawRule → List Candidate
  | .bare extension => [⟨extension, extension⟩]
  | .parts [source, .one destination] => source.listed.map fun s => ⟨s, destination⟩
  | .parts (source :: _) => source.listed.map fun s => ⟨s, s⟩
  | .parts [] => []

theorem RawPart.normalizes_sources (part : RawPart) :
    Normalizes (· = part.listed) part.isSource part.sources := by
  cases part with
  | one e => exact .ok rfl
  | many es => exact .ok rfl
  | null => exact .error _

theorem RawPart.normalizes_destination (part : RawPart) :
    Normalizes (fun destination => ∀ source,
        (RawRule.parts [source, part]).pairs =
          source.listed.map fun s => ⟨s, destination.getD s⟩)
      part.isDestination part.destination := by
  cases part with
  | one e => exact .ok fun source => rfl
  | many es => exact .error _
  | null => exact .ok fun source => rfl

theorem RawRule.normalizes (r : RawRule) :
    Normalizes (fun rule => (rule.sources.map fun s => ⟨s, rule.emitted s⟩) = r.pairs)
      r.isDocumented r.normalize := by
  match r with
  | .bare e => exact .ok rfl
  | .parts [] => exact .error _
  | .parts [source] =>
      rw [isDocumented, ← Bool.and_true source.isSource]
      exact source.normalizes_sources.bind fun sources _ h => .ok (by rw [h]; rfl)
  | .parts [source, destination] =>
      refine source.normalizes_sources.bind fun sources _ h => ?_
      rw [← Bool.and_true destination.isDestination]
      exact destination.normalizes_destination.bind fun d _ hd => .ok (by rw [h, hd]; rfl)
  | .parts (_ :: _ :: _ :: _) => exact .error _

theorem normalizes (raw : List RawRule) :
    Normalizes (fun rules => Rules.candidates rules = raw.flatMap RawRule.pairs)
      (raw.all RawRule.isDocumented) (normalize raw) := by
  refine (Normalizes.mapM fun r _ => r.normalizes).mono fun rules h => ?_
  induction h with
  | nil => rfl
  | cons hr _ ih =>
      rw [Rules.candidates, List.flatMap_cons, List.flatMap_cons, hr]
      exact congrArg _ ih

end Extension

namespace Package

/-- A field of the manifest or a path, with what that needs. -/
def RawDescriptor.isDocumented (raw : RawDescriptor) : Bool :=
  raw.extensions.all Extension.RawRule.isDocumented &&
    (raw.kind = "manifestField" && raw.field.isSome || raw.kind = "literalPath" && raw.path.isSome)

inductive RawDescriptor.Means (raw : RawDescriptor) : Descriptor → Prop
  | manifestField {field : String} {rules : Extension.Rules} : raw.kind = "manifestField" →
      raw.field = some field → rules.candidates = raw.extensions.flatMap Extension.RawRule.pairs →
      Means raw (.manifestField field rules)
  | literalPath {path : String} {rules : Extension.Rules} : raw.kind = "literalPath" →
      raw.path = some path → rules.candidates = raw.extensions.flatMap Extension.RawRule.pairs →
      Means raw (.literalPath path rules)

theorem RawDescriptor.normalizes (raw : RawDescriptor) :
    Normalizes raw.Means raw.isDocumented raw.normalize := by
  refine (Extension.normalizes raw.extensions).bind fun rules _ hrules => ?_
  by_cases hfield : raw.kind = "manifestField"
  · simp only [hfield, if_pos]
    cases h : raw.field with
    | some field => exact .ok (.manifestField hfield h hrules)
    | none => exact .error _
  · by_cases hpath : raw.kind = "literalPath"
    · simp only [hpath]
      cases h : raw.path with
      | some path => exact .ok (.literalPath hpath h hrules)
      | none => exact .error _
    · simp only [hfield, hpath, if_false]
      exact .error _

theorem normalizes (raw : List RawDescriptor) :
    Normalizes (List.Forall₂ RawDescriptor.Means raw) (raw.all RawDescriptor.isDocumented)
      (normalize raw) :=
  Normalizes.mapM fun d _ => d.normalizes

end Package

namespace RawOptions

open Extension Package

/-- The rules for paths within packages: their own, or in the older place, or those for files. -/
def submoduleRules (raw : RawOptions) : List RawRule :=
  match raw.submodule.extensions, raw.extensionsSubmodule with
  | some rules, _ => rules
  | none, some rules => rules
  | none, none => raw.extensions

/-- Rules that another list takes the place of may have any form. -/
def isDocumented (raw : RawOptions) : Bool :=
  raw.extensions.all RawRule.isDocumented && (raw.submoduleRules.all RawRule.isDocumented &&
    raw.module.entry.all RawDescriptor.isDocumented)

structure Means (raw : RawOptions) (o : Options) : Prop where
  extensions : o.extensions.candidates = raw.extensions.flatMap RawRule.pairs
  submoduleExtensions : o.submoduleExtensions.candidates = raw.submoduleRules.flatMap RawRule.pairs
  entry : List.Forall₂ RawDescriptor.Means raw.module.entry o.entry
  ignoreUnresolved : o.ignoreUnresolved = raw.ignoreUnresolved
  submoduleIgnoreExports : o.submoduleIgnoreExports =
    match raw.submodule.ignoreExports with
    | some own => own
    | none => raw.ignoreExports
  moduleIgnoreExports : o.moduleIgnoreExports =
    match raw.module.ignoreExports with
    | some own => own
    | none => raw.ignoreExports

theorem normalize_eq (raw : RawOptions) : raw.normalize = do
    let extensions ← Extension.normalize raw.extensions
    let submoduleExtensions ← raw.submoduleRules?.elim (.ok extensions) Extension.normalize
    let entry ← Package.normalize raw.module.entry
    return {
      extensions, submoduleExtensions, entry
      ignoreUnresolved := raw.ignoreUnresolved
      submoduleIgnoreExports := raw.submodule.ignoreExports.getD raw.ignoreExports
      moduleIgnoreExports := raw.module.ignoreExports.getD raw.ignoreExports } := by
  unfold normalize
  cases raw.submoduleRules? <;> rfl

/-- Without rules of their own, paths within packages go by those for files. -/
theorem normalizes_submoduleRules (raw : RawOptions) {extensions : Rules}
    (hdocumented : raw.extensions.all RawRule.isDocumented = true)
    (h : extensions.candidates = raw.extensions.flatMap RawRule.pairs) :
    Normalizes (fun rules => Rules.candidates rules = raw.submoduleRules.flatMap RawRule.pairs)
      (raw.submoduleRules.all RawRule.isDocumented)
      (raw.submoduleRules?.elim (.ok extensions) Extension.normalize) := by
  unfold submoduleRules? submoduleRules
  cases raw.submodule.extensions with
  | some rules => exact Extension.normalizes rules
  | none =>
      cases raw.extensionsSubmodule with
      | some rules => exact Extension.normalizes rules
      | none =>
          rw [hdocumented]
          exact .ok h

theorem normalizes (raw : RawOptions) : Normalizes raw.Means raw.isDocumented raw.normalize := by
  rw [normalize_eq]
  refine (Extension.normalizes raw.extensions).bind fun extensions hdocumented hextensions => ?_
  refine (raw.normalizes_submoduleRules hdocumented hextensions).bind
    fun submoduleExtensions _ hsubmodule => ?_
  rw [← Bool.and_true (raw.module.entry.all _)]
  refine (Package.normalizes raw.module.entry).bind fun entry _ hentry => .ok ?_
  refine ⟨hextensions, hsubmodule, hentry, rfl, ?_, ?_⟩
  · cases raw.submodule.ignoreExports <;> rfl
  · cases raw.module.ignoreExports <;> rfl

/-- Options are accepted exactly if all lists that count have a documented form. What they come to has
the candidates of each list, and the descriptors, in the order in which these are written, and
treats export maps as each kind of package specifier asks for itself, or else as is asked for both.
All that can be wrong is a fault of the configuration. -/
theorem normalize_documented (raw : RawOptions) :
    ((∃ o, raw.normalize = .ok o) ↔ raw.isDocumented = true) ∧
    (∀ o, raw.normalize = .ok o → raw.Means o) ∧
    ∀ f, raw.normalize = .error f → ∃ fault, f = .configuration fault :=
  ⟨raw.normalizes.isOk_iff, fun _ h => raw.normalizes.means h,
    fun _ h => raw.normalizes.exists_fault h⟩

/-- Options with a list that is no list of rules, and another one in its place. -/
def shadowed : RawOptions where
  extensions :=
    [.parts [.many [".ts", ".tsx"], .one ".js"], .bare ".mjs", .parts [.one ".cjs", .null]]
  extensionsSubmodule := some [.parts []]
  submodule := { extensions := some [.parts [.many [], .one ".js"], .parts [.many [".js"]]] }
  module :=
    { entry := [⟨"literalPath", none, some "index", [.bare ".js"]⟩], ignoreExports := some false }
  ignoreExports := true

theorem normalize_documented_shadowed :
    (∃ o, shadowed.normalize = .ok o ∧ shadowed.Means o ∧
      o.extensions.candidates =
        [⟨".ts", ".js"⟩, ⟨".tsx", ".js"⟩, ⟨".mjs", ".mjs"⟩, ⟨".cjs", ".cjs"⟩]) ∧
    ∃ fault, ({ shadowed with submodule := {} } : RawOptions).normalize =
      .error (.configuration fault) := by
  obtain ⟨hok, hmeans, -⟩ := normalize_documented shadowed
  obtain ⟨-, -, hfault⟩ := normalize_documented { shadowed with submodule := {} }
  obtain ⟨o, ho⟩ := hok.mpr (by decide)
  obtain ⟨fault, hf⟩ := hfault (.configuration (.ruleLength 0)) (by decide)
  refine ⟨⟨o, ho, hmeans o ho, ?_⟩, fault, ?_⟩
  · rw [(hmeans o ho).extensions]
    decide
  · rw [← hf]
    decide

end RawOptions
end ImportResolver
