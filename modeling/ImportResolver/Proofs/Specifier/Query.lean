import ImportResolver.CommandLine.Report
import ImportResolver.Proofs.FileSystem.Location
import ImportResolver.Proofs.Text.Mending
import ImportResolver.Specifier.Query
import Mathlib.Data.List.DropRight
/- What a program prints is what it is taken to know: names that stand on lines of their own are all
read back. -/
namespace ImportResolver

namespace Text

theorem trim_eq (s : String) :
    trim s = String.ofList ((s.toList.dropWhile isBlank).rdropWhile isBlank) := rfl

theorem trim_trim (s : String) : trim (trim s) = trim s := by
  have hfront : ((s.toList.dropWhile isBlank).rdropWhile isBlank).dropWhile isBlank =
      (s.toList.dropWhile isBlank).rdropWhile isBlank := by
    rw [List.dropWhile_eq_self_iff]
    intro hpos
    rw [(List.rdropWhile_prefix isBlank (s.toList.dropWhile isBlank)).getElem hpos]
    exact List.dropWhile_get_zero_not isBlank s.toList _
  rw [trim_eq, trim_eq, String.toList_ofList, hfront, List.rdropWhile_idempotent]

end Text

namespace Builtins

/-- What is left once the copies of the first name are gone is shorter. -/
theorem nodup_eraseDups (names : List String) : names.eraseDups.Nodup := by
  induction hlength : names.length using Nat.strong_induction_on generalizing names with
  | _ n ih =>
      match names with
      | [] => simp
      | name :: names =>
          have hothers : name ∉ (names.filter fun other => !other == name).eraseDups := by
            simp [List.mem_eraseDups]
          have hshorter : (names.filter fun other => !other == name).length < n := by
            rw [← hlength]
            exact Nat.lt_succ_of_le (List.length_filter_le _ _)
          rw [List.eraseDups_cons]
          exact List.nodup_cons.mpr ⟨hothers, ih _ hshorter _ rfl⟩

theorem eraseDups_of_nodup {names : List String} (h : names.Nodup) : names.eraseDups = names := by
  induction names with
  | nil => rfl
  | cons name names ih =>
      obtain ⟨hname, hnames⟩ := List.nodup_cons.mp h
      rw [List.eraseDups_cons, List.filter_eq_self.mpr, ih hnames]
      intro other hother
      have hne : other ≠ name := by
        rintro rfl
        exact hname hother
      simpa using hne

theorem mem_names {names : List String} {name : String} :
    name ∈ (ofNames names).names ↔ (∃ n ∈ names, Text.trim n = name) ∧ name ≠ "" := by
  simp [ofNames, List.mem_eraseDups]

/-- The names of a set make up the same set again. -/
theorem ofNames_names (names : List String) : ofNames (ofNames names).names = ofNames names := by
  have hmap : (ofNames names).names.map Text.trim = (ofNames names).names := by
    refine (List.map_congr_left fun name hname => ?_).trans (List.map_id _)
    obtain ⟨⟨n, -, rfl⟩, -⟩ := mem_names.mp hname
    exact Text.trim_trim n
  have hfilter : (ofNames names).names.filter (· ≠ "") = (ofNames names).names := by
    refine List.filter_eq_self.mpr fun name hname => ?_
    exact decide_eq_true (mem_names.mp hname).2
  have hnodup : (ofNames names).names.Nodup := nodup_eraseDups _
  conv_lhs => rw [ofNames, hmap, hfilter, eraseDups_of_nodup hnodup]

/-- Behind the last line there is a run without a character. -/
theorem lines_joinLines {names : List String} (h : ∀ name ∈ names, '\n' ∉ name.toList) :
    lines (CommandLine.joinLines names) = names ++ [""] := by
  rw [lines, CommandLine.joinLines, String.toList_join]
  induction names with
  | nil => rfl
  | cons name names ih =>
      have hname := h name List.mem_cons_self
      have ih := ih fun other hother => h other (List.mem_cons_of_mem name hother)
      have hfirst : ((name :: names).map (· ++ "\n")).flatMap String.toList =
          name.toList ++ '\n' :: (names.map (· ++ "\n")).flatMap String.toList := by
        simp
      rw [hfirst, Text.runs_append, Text.runs_of_not_mem hname, List.map_append, ih]
      simp

theorem ofNames_append_empty (names : List String) : ofNames (names ++ [""]) = ofNames names := by
  have hempty : Text.trim "" = "" := rfl
  simp [ofNames, hempty]

theorem not_mem_of_mem_names {names : List String} {c : Char} (h : ∀ n ∈ names, c ∉ n.toList) :
    ∀ name ∈ (ofNames names).names, c ∉ name.toList := by
  intro name hname hc
  obtain ⟨⟨n, hn, rfl⟩, -⟩ := mem_names.mp hname
  rw [Text.trim_eq, String.toList_ofList] at hc
  have hfront : c ∈ n.toList.dropWhile Text.isBlank := (List.rdropWhile_prefix _ _).subset hc
  exact h n hn ((List.dropWhile_suffix _).subset hfront)

/-- A program that prints the names of a set is taken to know that set. -/
theorem ofFinished_printed {names : List String} (hne : ∃ n ∈ names, Text.trim n ≠ "")
    (h : ∀ n ∈ names, '\n' ∉ n.toList) (p : Path) (tree : FileSystem.Tree) :
    ofFinished p ⟨.code 0, Text.Utf8.encode (CommandLine.joinLines (ofNames names).names), tree⟩ =
      .ok (ofNames names) := by
  have hread : ofNames (lines (Text.Utf8.decodeLossy
      (Text.Utf8.encode (CommandLine.joinLines (ofNames names).names)))) = ofNames names := by
    rw [Text.Utf8.decodeLossy_encode, lines_joinLines (not_mem_of_mem_names h),
      ofNames_append_empty, ofNames_names]
  have hsome : (ofNames names).names ≠ [] := by
    obtain ⟨n, hn, hblank⟩ := hne
    exact List.ne_nil_of_mem (mem_names.mpr ⟨⟨n, hn, rfl⟩, hblank⟩)
  simp only [ofFinished, ne_eq, not_true_eq_false, if_false, hread, hsome]

end Builtins
end ImportResolver
