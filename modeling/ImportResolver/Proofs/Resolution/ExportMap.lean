import ImportResolver.Proofs.Package.Entry
import ImportResolver.Proofs.Resolution.Outcome
/- Export maps. Where packages with an export map are to be left to the runtime, the manifest is asked
for before anything else: a map decides, and what is wrong with the manifest is an error; without a
map, or without a manifest, all goes as it would otherwise. -/
namespace ImportResolver

namespace Package

/-- A manifest that is a file, and the value that it holds. -/
structure HasManifest (fs : FileSystem) (dir : Path) (value : Json) : Prop where
  file : fs.isFile (dir.join Manifest.fileName) = true
  holds : ∃ bytes text, fs.read (dir.join Manifest.fileName) = .ok bytes ∧
    Text.Utf8.decode? bytes = some text ∧ Manifest.parse? text = some value

/-- A manifest that is a file and holds no value, and what is wrong with it. -/
inductive BadManifest (fs : FileSystem) (dir : Path) : Failure → Prop
  | unreadable {fault : Fault} : fs.isFile (dir.join Manifest.fileName) = true →
      fs.read (dir.join Manifest.fileName) = .error fault →
      BadManifest fs dir (.manifestUnreadable (dir.join Manifest.fileName) fault)
  | undecodable {bytes : Bytes} : fs.isFile (dir.join Manifest.fileName) = true →
      fs.read (dir.join Manifest.fileName) = .ok bytes → Text.Utf8.decode? bytes = none →
      BadManifest fs dir (.manifestUnreadable (dir.join Manifest.fileName) .invalidUtf8)
  | malformed {bytes : Bytes} {text : String} : fs.isFile (dir.join Manifest.fileName) = true →
      fs.read (dir.join Manifest.fileName) = .ok bytes → Text.Utf8.decode? bytes = some text →
      Manifest.parse? text = none →
      BadManifest fs dir (.manifestMalformed (dir.join Manifest.fileName) (Json.flaw? text))

/-- Whether export maps are heeded makes no other difference to a run than this: a package with an
export map is kept as it is, and a manifest that is a file but holds no value is an error. -/
structure Gated {α : Type} (fs : FileSystem) (dir : Path) (run : Bool → Except Failure α)
    (kept : α) : Prop where
  declared : ∀ value, HasManifest fs dir value →
    (value.member? Manifest.exportsKey).isSome = true → run true = .ok kept
  undeclared : (fs.isFile (dir.join Manifest.fileName) = false ∨
    ∃ value, HasManifest fs dir value ∧ value.member? Manifest.exportsKey = none) →
      run true = run false
  unusable : ∀ f, BadManifest fs dir f → run true = .error f

variable {fs : FileSystem} {dir : Path} {value : Json} {f : Failure}

theorem HasManifest.loadOptional (h : HasManifest fs dir value) :
    Manifest.loadOptional fs dir = .ok (some ⟨dir.join Manifest.fileName, value⟩) := by
  obtain ⟨bytes, text, hread, htext, hvalue⟩ := h.holds
  have hload : Manifest.load fs dir = .ok ⟨dir.join Manifest.fileName, value⟩ := by
    simp only [Manifest.load, FileSystem.readText, hread, bind, Except.bind, htext, hvalue]
  rw [Manifest.loadOptional, if_pos h.file, hload]
  rfl

theorem BadManifest.loadOptional (h : BadManifest fs dir f) :
    Manifest.loadOptional fs dir = .error f := by
  rw [loadOptional_eq_error_iff]
  cases h with
  | unreadable hfile hread =>
      refine ⟨hfile, ?_⟩
      simp only [Manifest.load, FileSystem.readText, hread, bind, Except.bind]
  | undecodable hfile hread htext =>
      refine ⟨hfile, ?_⟩
      simp only [Manifest.load, FileSystem.readText, hread, bind, Except.bind, htext]
  | malformed hfile hread htext hvalue =>
      refine ⟨hfile, ?_⟩
      simp only [Manifest.load, FileSystem.readText, hread, bind, Except.bind, htext, hvalue]

/-- A manifest is missing or no file, or it holds a value, or there is something wrong with it. -/
theorem manifest_cases (fs : FileSystem) (dir : Path) :
    fs.isFile (dir.join Manifest.fileName) = false ∨ (∃ value, HasManifest fs dir value) ∨
      ∃ f, BadManifest fs dir f := by
  cases hfile : fs.isFile (dir.join Manifest.fileName) with
  | false => exact .inl rfl
  | true =>
      refine .inr ?_
      cases hread : fs.read (dir.join Manifest.fileName) with
      | error fault => exact .inr ⟨_, .unreadable hfile hread⟩
      | ok bytes =>
          cases htext : Text.Utf8.decode? bytes with
          | none => exact .inr ⟨_, .undecodable hfile hread htext⟩
          | some text =>
              cases hvalue : Manifest.parse? text with
              | none => exact .inr ⟨_, .malformed hfile hread htext hvalue⟩
              | some value => exact .inl ⟨value, hfile, bytes, text, hread, htext, hvalue⟩

/-- A run is gated if it asks for an export map first, and then goes on as it does without. -/
theorem gated_of {α : Type} {run : Bool → Except Failure α} {kept : α} {rest : Except Failure α}
    (heeding : run true = (Manifest.loadOptional fs dir).bind fun manifest =>
      if manifest.any Manifest.hasExports then .ok kept else rest)
    (otherwise : run false = rest) : Gated fs dir run kept where
  declared value h hvalue := by
    rw [heeding, h.loadOptional]
    exact if_pos hvalue
  undeclared h := by
    rw [heeding, otherwise]
    rcases h with hfile | ⟨value, h, hvalue⟩
    · rw [Manifest.loadOptional, if_neg (by simp [hfile])]
      rfl
    · rw [h.loadOptional]
      exact if_neg (by simp [Manifest.hasExports, hvalue])
  unusable f h := by
    rw [heeding, h.loadOptional]
    rfl

theorem entry_gated (fs : FileSystem) (specifier : String) (dir : Path) (ds : List Descriptor) :
    Gated fs dir (fun heed => (entry fs specifier dir ds heed).result) none := by
  refine gated_of ?_ (entry_eq specifier ds false)
  rw [entry_eq, isLeft, if_pos rfl]
  cases Manifest.loadOptional fs dir with
  | error f => rfl
  | ok manifest => rfl

end Package

namespace Context

open Extension Package

/-- The same context, where export maps are heeded or not. -/
def heeding (ctx : Context) (heed : Bool) : Context :=
  { ctx with options := ctx.options.withIgnoreExports heed }

variable {ctx : Context} {fs : FileSystem} {dir : Path} {name : String}

theorem resolveSubmodule_gated (text subPath : String)
    (hdir : (locate fs name ctx.file ctx.globals).result = .ok dir) :
    Gated fs dir (fun heed => ((ctx.heeding heed).resolveSubmodule fs text name subPath).result)
      (.unchanged .exportsMap) := by
  have hrun (heed : Bool) : ((ctx.heeding heed).resolveSubmodule fs text name subPath).result =
      ((ctx.heeding heed).exportsManifest? fs dir).bind fun manifest => manifest.elim
        (ctx.settle text (.moduleUnresolved text ctx.file)
          (finding fs (dir.append subPath) ctx.options.submoduleExtensions .complete))
        fun _ => .ok (.unchanged .exportsMap) := by
    rw [resolveSubmodule_result]
    change (locate fs name ctx.file ctx.globals).result.bind _ = _
    rw [hdir, Except.bind]
    cases (ctx.heeding heed).exportsManifest? fs dir with
    | error f => rfl
    | ok manifest => cases manifest <;> rfl
  have hrest : ((ctx.heeding false).resolveSubmodule fs text name subPath).result =
      ctx.settle text (.moduleUnresolved text ctx.file)
        (finding fs (dir.append subPath) ctx.options.submoduleExtensions .complete) := hrun false
  have hheed : (ctx.heeding true).options.submoduleIgnoreExports = true := rfl
  refine gated_of ?_ hrest
  rw [hrun, exportsManifest?, if_pos hheed]
  cases Manifest.loadOptional fs dir with
  | error f => rfl
  | ok manifest =>
      cases manifest with
      | none => rfl
      | some m => cases hm : m.hasExports <;> simp [Except.map, Except.bind, Option.filter, hm]

/-- The gate that export maps are is exact, for entries of packages and for paths in packages. Of the
manifest, nothing but the presence of a map matters; what it is decides in every case. -/
theorem export_map_gates (fs : FileSystem) (dir : Path) :
    (fs.isFile (dir.join Manifest.fileName) = false ∨ (∃ value, HasManifest fs dir value) ∨
      ∃ f, BadManifest fs dir f) ∧
    (∀ specifier ds,
      Gated fs dir (fun heed => (entry fs specifier dir ds heed).result) none) ∧
    ∀ ctx : Context, ∀ text name subPath,
      (locate fs name ctx.file ctx.globals).result = .ok dir →
      Gated fs dir (fun heed => ((ctx.heeding heed).resolveSubmodule fs text name subPath).result)
        (.unchanged .exportsMap) :=
  ⟨manifest_cases fs dir, fun specifier ds => entry_gated fs specifier dir ds,
    fun _ text _ subPath hdir => resolveSubmodule_gated text subPath hdir⟩

/-- An export map that is null. -/
def nullMap : String := "\x7b\"exports\": null\x7d"

/-- Half a manifest. -/
def halfManifest : String := "\x7b"

/-- Three packages, each with the same file: an export map that is null, half a manifest, none. -/
def threePackages : FileSystem :=
  ⟨⟨[(["main.js"], .file [] 0o644), (["node_modules"], .directory 0o755),
    (["m", "node_modules"], .directory 0o755),
    (["package.json", "m", "node_modules"], .file (Text.Utf8.encode nullMap) 0o644),
    (["x.js", "m", "node_modules"], .file [] 0o644),
    (["q", "node_modules"], .directory 0o755),
    (["package.json", "q", "node_modules"], .file (Text.Utf8.encode halfManifest) 0o644),
    (["x.js", "q", "node_modules"], .file [] 0o644),
    (["r", "node_modules"], .directory 0o755),
    (["x.js", "r", "node_modules"], .file [] 0o644)]⟩, []⟩

/-- A descriptor and a rule that lead to the files without the manifests. -/
def wantingScripts : Context where
  file := ⟨"/main.js"⟩
  options := {
    submoduleExtensions := [.keep ".js"]
    entry := [.literalPath "x" [.keep ".js"]] }
  globals := []
  builtins := .ofNames []

/-- With the map the package is left as it is. Half a manifest is an error, although nothing is wanted
from it. Without a manifest the package is resolved. -/
theorem export_map_gates_packages :
    ((entry threePackages "m" ⟨"/node_modules/m"⟩ wantingScripts.options.entry true).result =
        .ok none ∧
      ((wantingScripts.heeding true).resolveSubmodule threePackages "m/x" "m" "/x").result =
        .ok (.unchanged .exportsMap)) ∧
    ((entry threePackages "q" ⟨"/node_modules/q"⟩ wantingScripts.options.entry true).result =
        .error (.manifestMalformed ⟨"/node_modules/q/package.json"⟩ (Json.flaw? halfManifest)) ∧
      ((wantingScripts.heeding true).resolveSubmodule threePackages "q/x" "q" "/x").result =
        .error (.manifestMalformed ⟨"/node_modules/q/package.json"⟩ (Json.flaw? halfManifest))) ∧
    ((entry threePackages "r" ⟨"/node_modules/r"⟩ wantingScripts.options.entry true).result =
        .ok (some "r/x.js") ∧
      ((wantingScripts.heeding true).resolveSubmodule threePackages "r/x" "r" "/x").result =
        .ok (.replaced "r/x.js")) := by
  refine ⟨?mapped, ?half, ?missing⟩
  case mapped =>
    obtain ⟨value, hvalue⟩ : ∃ value, Manifest.parse? nullMap = some value :=
      Option.isSome_iff_exists.mp (by decide +kernel)
    have hmap :
        ((Manifest.parse? nullMap).bind (Json.member? Manifest.exportsKey)).isSome = true := by
      decide +kernel
    rw [hvalue] at hmap
    have hmanifest : HasManifest threePackages ⟨"/node_modules/m"⟩ value :=
      ⟨by decide +kernel, Text.Utf8.encode nullMap, nullMap, by decide +kernel, by decide +kernel,
        hvalue⟩
    obtain ⟨-, hentry, hsubmodule⟩ := export_map_gates threePackages ⟨"/node_modules/m"⟩
    exact ⟨(hentry "m" wantingScripts.options.entry).declared value hmanifest hmap,
      (hsubmodule wantingScripts "m/x" "m" "/x" (by decide +kernel)).declared value hmanifest hmap⟩
  case half =>
    have hmanifest : BadManifest threePackages ⟨"/node_modules/q"⟩
        (.manifestMalformed ⟨"/node_modules/q/package.json"⟩ (Json.flaw? halfManifest)) :=
      .malformed (by decide +kernel) (by decide +kernel :
          threePackages.read _ = .ok (Text.Utf8.encode halfManifest))
        (by decide +kernel) (Option.isNone_iff_eq_none.mp (by decide +kernel))
    obtain ⟨-, hentry, hsubmodule⟩ := export_map_gates threePackages ⟨"/node_modules/q"⟩
    exact ⟨(hentry "q" wantingScripts.options.entry).unusable _ hmanifest,
      (hsubmodule wantingScripts "q/x" "q" "/x" (by decide +kernel)).unusable _ hmanifest⟩
  case missing =>
    have hmissing : threePackages.isFile
        (Path.join ⟨"/node_modules/r"⟩ Manifest.fileName) = false := by decide +kernel
    obtain ⟨-, hentry, hsubmodule⟩ := export_map_gates threePackages ⟨"/node_modules/r"⟩
    have hentry := (hentry "r" wantingScripts.options.entry).undeclared (.inl hmissing)
    have hsubmodule :=
      (hsubmodule wantingScripts "r/x" "r" "/x" (by decide +kernel)).undeclared (.inl hmissing)
    exact ⟨hentry.trans (by decide +kernel), hsubmodule.trans (by decide +kernel)⟩

end Context
end ImportResolver
