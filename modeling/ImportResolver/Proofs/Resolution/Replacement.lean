import ImportResolver.Proofs.Extension.Decision
import ImportResolver.Proofs.Path.Joining
import ImportResolver.Proofs.Resolution.Outcome
import ImportResolver.Proofs.Specifier.Kind
/- Extensions that are replaced. An extension is looked for at the end of a whole path, and taken away
from the end of the specifier, which is only a part of the path. -/
namespace ImportResolver

namespace Text

/-- An extension that reaches back over the slash in front of a text does not end the text. -/
theorem ne_append_of_endsWith {text source : String}
    (h : endsWith source ("/" ++ text) = true) (stem : String) :
    text ≠ stem ++ source := by
  obtain ⟨front, rfl⟩ := endsWith_iff.mp h
  intro htext
  have hlength := congrArg (List.length ∘ String.toList) htext
  simp at hlength
  omega

end Text

namespace Extension.Finding

variable {text source destination : String}

theorem applied?_replace_stem (stem : String) :
    (Finding.replace source destination).applied? (stem ++ source) = some (stem ++ destination) := by
  have hstem : Text.dropTail? source.toList (stem ++ source).toList = some stem.toList :=
    Text.dropTail?_eq_some_iff.mpr (by simp)
  rw [applied?, hstem, Option.getD_some, ← String.toList_append, String.ofList_toList]

/-- Where there is nothing to take away, all that happens is that the new extension is added. -/
theorem applied?_replace_whole (h : ∀ stem, text ≠ stem ++ source) :
    (Finding.replace source destination).applied? text = some (text ++ destination) := by
  have hnone : Text.dropTail? source.toList text.toList = none := by
    rw [Option.eq_none_iff_forall_ne_some]
    intro stem hstem
    rw [Text.dropTail?_eq_some_iff] at hstem
    exact h (String.ofList stem) (by simp [← String.toList_inj, hstem])
  rw [applied?, hnone, Option.getD_none, ← String.toList_append, String.ofList_toList]

end Extension.Finding

namespace Context

open Extension

variable {ctx : Context} {fs : FileSystem} {text source destination : String}

theorem resolve_of_replace (hkind : Specifier.classify ctx.builtins text = .file)
    (h : finding fs (ctx.file.directory.join text) ctx.options.extensions .expand =
      .replace source destination) :
    ctx.resolve fs text = .ok ⟨text, .file,
      .replaced (((Finding.replace source destination).applied? text).getD text)⟩ := by
  rw [resolve_of_file hkind, h]
  rfl

/-- A replacement takes the extension away from the end of the specifier and puts another one in its
place, unless the extension holds the whole specifier and the slash in front of it. In that case
nothing is taken away: the other extension comes behind the specifier. -/
theorem resolve_replaces (hkind : Specifier.classify ctx.builtins text = .file)
    (hfound : finding fs (ctx.file.directory.join text) ctx.options.extensions .expand =
      .replace source destination) :
    (Text.endsWith source ("/" ++ text) = false →
      ∃ stem, text = stem ++ source ∧
        ctx.resolve fs text = .ok ⟨text, .file, .replaced (stem ++ destination)⟩) ∧
    (Text.endsWith source ("/" ++ text) = true →
      (∀ stem, text ≠ stem ++ source) ∧
        ctx.resolve fs text = .ok ⟨text, .file, .replaced (text ++ destination)⟩) ∧
    ('/' ∉ source.toList → Text.endsWith source ("/" ++ text) = false) := by
  refine ⟨fun hshort => ?_, fun hlong => ?_, fun hslash => ?_⟩
  · obtain ⟨stem, hstem⟩ := (finding_eq_replace_iff.mp hfound).first.1
    rcases Path.ends_of_join hstem with ⟨front, rfl⟩ | hlong
    · refine ⟨front, rfl, ?_⟩
      rw [resolve_of_replace hkind hfound, Finding.applied?_replace_stem]
      rfl
    · rw [Text.endsWith_iff.mpr hlong] at hshort
      cases hshort
  · have hwhole := Text.ne_append_of_endsWith hlong
    refine ⟨hwhole, ?_⟩
    rw [resolve_of_replace hkind hfound, Finding.applied?_replace_whole hwhole]
    rfl
  · rw [Bool.eq_false_iff, ne_eq, Text.endsWith_iff]
    rintro ⟨front, rfl⟩
    exact hslash (by simp)

def oneScript : FileSystem :=
  ⟨⟨[(["a.ts"], .file [] 0o644), (["main.ts"], .file [] 0o644)]⟩, []⟩

/-- Scripts are written by what they are built to. -/
def built : Context :=
  ⟨⟨"/main.ts"⟩, { extensions := [⟨[".ts"], some ".js"⟩] }, [], .ofNames []⟩

/-- One script is, by a rule that begins with the slash in front of its specifier. -/
def builtFromSlash : Context :=
  ⟨⟨"/main.ts"⟩, { extensions := [⟨["/./a.ts"], some "/./a.js"⟩] }, [], .ofNames []⟩

theorem resolve_replaces_scripts :
    (∃ stem, "./a.ts" = stem ++ ".ts" ∧
      built.resolve oneScript "./a.ts" = .ok ⟨"./a.ts", .file, .replaced (stem ++ ".js")⟩) ∧
    (∀ stem, "./a.ts" ≠ stem ++ "/./a.ts") ∧
      builtFromSlash.resolve oneScript "./a.ts" =
        .ok ⟨"./a.ts", .file, .replaced "./a.ts/./a.js"⟩ := by
  have hshort : finding oneScript (built.file.directory.join "./a.ts") built.options.extensions
      .expand = .replace ".ts" ".js" := by decide +kernel
  have hlong : finding oneScript (builtFromSlash.file.directory.join "./a.ts")
      builtFromSlash.options.extensions .expand = .replace "/./a.ts" "/./a.js" := by decide +kernel
  obtain ⟨hends, -, hslash⟩ := resolve_replaces (by decide +kernel) hshort
  obtain ⟨-, hwhole, -⟩ := resolve_replaces (by decide +kernel) hlong
  exact ⟨hends (hslash (by decide +kernel)), hwhole (by decide +kernel)⟩

end Context
end ImportResolver
