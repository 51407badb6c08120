import ImportResolver.Proofs.Package.Entry
import ImportResolver.Proofs.Package.Location
import ImportResolver.Proofs.Resolution.Splicing
/- Leaving alone what cannot be resolved. Only a search that comes to nothing is forgiven: whatever
else fails, fails as before, and what is resolved is resolved in the same way. -/
namespace ImportResolver

/-- A search for a file has come to nothing. -/
def Failure.isUnresolved : Failure → Bool
  | .pathUnresolved .. => true
  | .moduleUnresolved .. => true
  | _ => false

theorem Package.ManifestFailure.isUnresolved {dir : Path} {f : Failure}
    (h : Package.ManifestFailure dir f) : f.isUnresolved = false := by
  cases h with
  | unreadable fault => rfl
  | malformed flaw => rfl

namespace Context

open Extension

variable {ctx : Context} {fs : FileSystem} {text name subPath : String} {f : Failure}

/-- The same context, where searches that come to nothing are ignored or not. -/
def ignoring (ctx : Context) (ignore : Bool) : Context :=
  { ctx with options := { ctx.options with ignoreUnresolved := ignore } }

theorem exportsManifest?_error {dir : Path} (h : ctx.exportsManifest? fs dir = .error f) :
    Package.ManifestFailure dir f :=
  Package.loadOptional_error (exportsManifest?_eq_error_iff.mp h).2

theorem resolvePackage_error (h : (ctx.resolvePackage fs text name).result = .error f) :
    f = .packageNotFound name ctx.file ∨ ∃ dir, Package.ManifestFailure dir f := by
  rw [resolvePackage_result] at h
  rcases eq_error_of_bind h with hlocate | ⟨dir, -, hentry⟩
  · exact .inl (Package.locate_error hlocate)
  · split at hentry
    · cases hentry
    · exact .inr ⟨dir, Package.entry_error (eq_error_of_map hentry)⟩

/-- What a result becomes when fruitless searches are ignored. -/
def forgiven : Except Failure Outcome → Except Failure Outcome
  | .error f => if f.isUnresolved then .ok (.unchanged .unresolved) else .error f
  | .ok outcome => .ok outcome

theorem forgiven_eq_self {x : Except Failure Outcome}
    (h : ∀ f, x = .error f → f.isUnresolved = false) : forgiven x = x := by
  cases x with
  | error f => rw [forgiven, if_neg (by simp [h f rfl])]
  | ok outcome => rfl

theorem forgiven_bind {α : Type} {x : Except Failure α}
    (h : ∀ f, x = .error f → f.isUnresolved = false) (g : α → Except Failure Outcome) :
    forgiven (x.bind g) = x.bind fun a => forgiven (g a) := by
  cases x with
  | error f => exact forgiven_eq_self fun e he => h e (by cases he; rfl)
  | ok a => rfl

theorem settle_ignoring {unresolved : Failure} (h : unresolved.isUnresolved = true)
    (found : Finding) : (ctx.ignoring true).settle text unresolved found =
      forgiven ((ctx.ignoring false).settle text unresolved found) := by
  cases found with
  | nothing =>
      change Except.ok (Outcome.unchanged .unresolved) = if unresolved.isUnresolved then _ else _
      rw [if_pos h]
  | asWritten => rfl
  | append suffix => rfl
  | replace source destination => rfl

theorem resolveFile_ignoring : ((ctx.ignoring true).resolveFile fs text).result =
    forgiven ((ctx.ignoring false).resolveFile fs text).result := by
  rw [resolveFile_result, resolveFile_result]
  exact settle_ignoring rfl _

/-- A package that is missing or has a manifest that cannot be used is no fruitless search. -/
theorem resolveSubmodule_ignoring :
    ((ctx.ignoring true).resolveSubmodule fs text name subPath).result =
      forgiven ((ctx.ignoring false).resolveSubmodule fs text name subPath).result := by
  rw [resolveSubmodule_result, resolveSubmodule_result, forgiven_bind]
  · refine congrArg (Except.bind _) (funext fun dir => ?_)
    rw [forgiven_bind]
    · refine congrArg (Except.bind _) (funext fun manifest => ?_)
      cases manifest with
      | some m => rfl
      | none => exact settle_ignoring rfl _
    · intro f hf
      exact (exportsManifest?_error hf).isUnresolved
  · intro f hf
    rw [Package.locate_error hf]
    rfl

theorem resolvePackage_ignoring :
    ((ctx.ignoring true).resolvePackage fs text name).result =
      forgiven ((ctx.ignoring false).resolvePackage fs text name).result := by
  rw [forgiven_eq_self]
  · rfl
  · intro f hf
    rcases resolvePackage_error hf with rfl | ⟨dir, hmanifest⟩
    · rfl
    · exact hmanifest.isUnresolved

theorem outcome_ignoring (kind : Specifier.Kind) :
    ((ctx.ignoring true).outcome fs text kind).result =
      forgiven ((ctx.ignoring false).outcome fs text kind).result := by
  cases kind with
  | url => rfl
  | builtin => rfl
  | unrecognized => rfl
  | file => exact resolveFile_ignoring
  | package name subPath =>
      rw [outcome, outcome]
      split
      · exact resolvePackage_ignoring
      · exact resolveSubmodule_ignoring

theorem resolve_ignoring (text : String) : (ctx.ignoring true).resolve fs text =
    (forgiven ((ctx.ignoring false).outcome fs text
      (Specifier.classify ctx.builtins text)).result).map
        fun outcome => ⟨text, Specifier.classify ctx.builtins text, outcome⟩ := by
  rw [resolve_eq, outcome_ignoring]
  rfl

theorem Resolves.mono {ctx' : Context} {sites : List Source.Site} {visited : List ResolvedSite}
    (hresolve : ∀ text r, ctx.resolve fs text = .ok r → ctx'.resolve fs text = .ok r)
    (h : Resolves ctx fs sites visited) : Resolves ctx' fs sites visited :=
  List.Forall₂.imp (fun _ _ hs => ⟨hs.1, hresolve _ _ hs.2⟩) h

/-- With fruitless searches ignored, a specifier for which there is one is left as it is, and every
other comes to what it comes to without. So does a source text for which nothing fails. -/
theorem resolve_forgives_unresolved (ctx : Context) (fs : FileSystem) :
    (∀ text f, (ctx.ignoring false).resolve fs text = .error f → f.isUnresolved = true →
      (ctx.ignoring true).resolve fs text =
        .ok ⟨text, Specifier.classify ctx.builtins text, .unchanged .unresolved⟩) ∧
    (∀ text, (∀ f, (ctx.ignoring false).resolve fs text = .error f → f.isUnresolved = false) →
      (ctx.ignoring true).resolve fs text = (ctx.ignoring false).resolve fs text) ∧
    ∀ source out, (ctx.ignoring false).resolveSource fs source = .ok out →
      (ctx.ignoring true).resolveSource fs source = .ok out := by
  have hsame (text : String)
      (h : ∀ f, (ctx.ignoring false).resolve fs text = .error f → f.isUnresolved = false) :
      (ctx.ignoring true).resolve fs text = (ctx.ignoring false).resolve fs text := by
    rw [resolve_ignoring, forgiven_eq_self, resolve_eq]
    · rfl
    · intro f hf
      apply h f
      rw [resolve_eq]
      exact congrArg (Except.map _) hf
  refine ⟨?_, hsame, ?_⟩
  · intro text f hf hunresolved
    rw [resolve_eq] at hf
    have hf : ((ctx.ignoring false).outcome fs text
      (Specifier.classify ctx.builtins text)).result = .error f := eq_error_of_map hf
    rw [resolve_ignoring, hf, forgiven, if_pos hunresolved]
    rfl
  · intro source out hout
    obtain ⟨hresolves, -⟩ := resolves_of_resolveSource hout
    have hresolves' : Resolves (ctx.ignoring true) fs (Source.sites source) out.sites := by
      refine hresolves.mono fun text r hr => ?_
      rw [hsame text, hr]
      intro f hf
      rw [hr] at hf
      cases hf
    rw [resolveSource_of_resolves hresolves']
    rw [resolveSource_of_resolves hresolves] at hout
    exact hout

/-- A module, and a package with a file. -/
def moduleAndPackage : FileSystem :=
  ⟨⟨[(["a.js"], .file [] 0o644), (["node_modules"], .directory 0o755),
    (["p", "node_modules"], .directory 0o755),
    (["x.js", "p", "node_modules"], .file [] 0o644)]⟩, []⟩

def keepingScripts : Context where
  file := ⟨"/main.js"⟩
  options := { extensions := [.keep ".js"], submoduleExtensions := [.keep ".js"] }
  globals := []
  builtins := .ofNames []

/-- A file and a path in a package are missed; a package that is not there is no such miss. -/
theorem resolve_forgives_unresolved_scripts :
    (keepingScripts.ignoring true).resolve moduleAndPackage "./b" =
        .ok ⟨"./b", .file, .unchanged .unresolved⟩ ∧
      (keepingScripts.ignoring true).resolve moduleAndPackage "p/y" =
        .ok ⟨"p/y", .package "p" "/y", .unchanged .unresolved⟩ ∧
      (keepingScripts.ignoring true).resolve moduleAndPackage "q/x" =
        .error (.packageNotFound "q" ⟨"/main.js"⟩) ∧
      ∃ out, (keepingScripts.ignoring true).resolveSource moduleAndPackage
          "import './a'; import 'p/x'" = .ok out ∧
        out.code = "import './a.js'; import 'p/x.js'" := by
  have hpath : (keepingScripts.ignoring false).resolve moduleAndPackage "./b" =
      .error (.pathUnresolved "./b" ⟨"/./b"⟩) := by decide +kernel
  have hmodule : (keepingScripts.ignoring false).resolve moduleAndPackage "p/y" =
      .error (.moduleUnresolved "p/y" ⟨"/main.js"⟩) := by decide +kernel
  have hmissing : (keepingScripts.ignoring false).resolve moduleAndPackage "q/x" =
      .error (.packageNotFound "q" ⟨"/main.js"⟩) := by decide +kernel
  have hsource : ((keepingScripts.ignoring false).resolveSource moduleAndPackage
      "import './a'; import 'p/x'").map (·.code) =
        .ok "import './a.js'; import 'p/x.js'" := by decide +kernel
  obtain ⟨hforgiven, hsame, hsources⟩ :=
    resolve_forgives_unresolved keepingScripts moduleAndPackage
  obtain ⟨out, hout, hcode⟩ := exists_of_map_eq_ok hsource
  refine ⟨hforgiven _ _ hpath rfl, hforgiven _ _ hmodule rfl, ?_, out, hsources _ _ hout, hcode⟩
  rw [hsame, hmissing]
  intro f hf
  cases hmissing.symm.trans hf
  rfl

end Context
end ImportResolver
