import ImportResolver.Specifier.Kind
import Mathlib.Data.List.Basic
/- Kinds of specifiers that are lengthened. A text that is put behind a slash changes neither the
name of a package nor what is told from the first segment. -/
namespace ImportResolver.Specifier

theorem beforeSlash_append_slash (cs s : List Char) :
    beforeSlash (cs ++ '/' :: s) = beforeSlash cs := by
  rw [beforeSlash, beforeSlash, List.takeWhile_append]
  split
  · next h => simpa using ((List.takeWhile_prefix _).eq_of_length h).symm
  · rfl

theorem fromSlash_append_slash (cs s : List Char) :
    fromSlash (cs ++ '/' :: s) = fromSlash cs ++ '/' :: s := by
  rw [fromSlash, fromSlash, List.dropWhile_append]
  split
  · next h => rw [List.isEmpty_iff.mp h]; rfl
  · rfl

theorem beforeSlash_of_fromSlash_nil {cs : List Char} (h : fromSlash cs = []) :
    beforeSlash cs = cs := by
  simpa [h] using beforeSlash_append_fromSlash cs

theorem fromSlash_cases (cs : List Char) :
    fromSlash cs = [] ∨ ∃ rest, fromSlash cs = '/' :: rest := by
  have hhead := List.head?_dropWhile_not (· ≠ '/') cs
  cases hf : fromSlash cs with
  | nil => exact .inl rfl
  | cons c rest =>
      rw [show List.dropWhile _ cs = c :: rest from hf] at hhead
      have hc : c = '/' := by simpa using hhead
      exact .inr ⟨rest, by rw [hc]⟩

theorem exists_slash {cs : List Char} (h : fromSlash cs ≠ []) :
    ∃ front rest, cs = front ++ '/' :: rest := by
  obtain ⟨rest, hrest⟩ := (fromSlash_cases cs).resolve_left h
  exact ⟨beforeSlash cs, rest, by rw [← hrest, beforeSlash_append_fromSlash]⟩

theorem fromSlash_ne_nil {cs : List Char} (h : '/' ∈ cs) : fromSlash cs ≠ [] := by
  obtain ⟨front, rest, rfl⟩ := List.append_of_mem h
  rw [fromSlash_append_slash]
  simp

theorem beforeSlash_append {cs : List Char} (h : fromSlash cs ≠ []) (s : List Char) :
    beforeSlash (cs ++ s) = beforeSlash cs := by
  obtain ⟨front, rest, rfl⟩ := exists_slash h
  rw [List.append_assoc, List.cons_append, beforeSlash_append_slash, beforeSlash_append_slash]

theorem fromSlash_append {cs : List Char} (h : fromSlash cs ≠ []) (s : List Char) :
    fromSlash (cs ++ s) = fromSlash cs ++ s := by
  obtain ⟨front, rest, rfl⟩ := exists_slash h
  rw [List.append_assoc, List.cons_append, fromSlash_append_slash, fromSlash_append_slash,
    List.append_assoc, List.cons_append]

/-- Only the first segment tells a file specifier. -/
theorem isFile_append {cs : List Char} (h : fromSlash cs ≠ []) (s : List Char) :
    isFile (cs ++ s) = isFile cs := by
  have hne : cs ≠ [] := fun hnil => h (by rw [hnil]; rfl)
  rw [isFile, isFile, beforeSlash_append h, List.head?_append_of_ne_nil _ hne]

theorem isFile_append_slash {cs : List Char} (hne : cs ≠ []) (s : List Char) :
    isFile (cs ++ '/' :: s) = isFile cs := by
  rw [isFile, isFile, beforeSlash_append_slash, List.head?_append_of_ne_nil _ hne]

/-- A slash makes no URL, unless it is the second one behind a scheme. -/
theorem isUrl_append_slash {cs s : List Char} (h : isUrl cs = false)
    (hend : ¬ [':', '/'] <:+ cs) (hs : s.head? ≠ some '/') : isUrl (cs ++ '/' :: s) = false := by
  rw [isUrl] at h ⊢
  rw [beforeSlash_append_slash, fromSlash_append_slash]
  rcases fromSlash_cases cs with hrest | ⟨rest, hrest⟩
  · have hsecond : Text.dropLead? ['/', '/'] ('/' :: s) = none := by
      cases s with
      | nil => rfl
      | cons c s =>
          have hc : '/' ≠ c := fun hc => hs (by rw [hc]; rfl)
          simp [Text.dropLead?, hc]
    rw [hrest, List.nil_append, hsecond]
    simp
  · cases rest with
    | nil =>
        have hcolon : (beforeSlash cs).getLast? ≠ some ':' := by
          intro hcolon
          obtain ⟨front, hfront⟩ := List.getLast?_eq_some_iff.mp hcolon
          refine hend ⟨front, ?_⟩
          rw [← beforeSlash_append_fromSlash cs, hfront, hrest, List.append_assoc]
          rfl
        simp [hcolon]
    | cons c rest =>
        rw [hrest] at h ⊢
        simpa [Text.dropLead?] using h

/-- A file specifier without a slash is one dot or two. -/
theorem eq_dots_of_isFile {cs : List Char} (h : isFile cs = true) (hslash : fromSlash cs = []) :
    cs = ['.'] ∨ cs = ['.', '.'] := by
  have hcs := beforeSlash_of_fromSlash_nil hslash
  simp only [isFile, hcs, Bool.or_eq_true, decide_eq_true_eq] at h
  rcases h with (h | h) | h
  · exact .inl h
  · exact .inr h
  · cases cs with
    | nil => cases h
    | cons c cs =>
        cases h
        cases hslash

theorem splitName_scope (cs : List Char) : splitName ('@' :: cs) =
    match fromSlash cs with
    | [] => ('@' :: cs, [])
    | slash :: rest => ('@' :: beforeSlash cs ++ slash :: beforeSlash rest, fromSlash rest) := rfl

theorem splitName_of_ne {c : Char} (hc : c ≠ '@') (cs : List Char) :
    splitName (c :: cs) = (beforeSlash (c :: cs), fromSlash (c :: cs)) := by
  unfold splitName
  split
  · next h => exact absurd (List.cons.inj h).1 hc
  · rfl

/-- What is put behind a path in a package lengthens it, and the name stays. -/
theorem splitName_append_of_path {cs : List Char} (h : (splitName cs).2 ≠ []) (s : List Char) :
    splitName (cs ++ s) = ((splitName cs).1, (splitName cs).2 ++ s) := by
  cases cs with
  | nil => exact absurd rfl h
  | cons c cs =>
      by_cases hc : c = '@'
      · subst hc
        rw [List.cons_append]
        rw [splitName_scope] at h ⊢
        cases hf : fromSlash cs with
        | nil =>
            rw [hf] at h
            exact absurd rfl h
        | cons slash rest =>
            rw [hf] at h
            have hne : fromSlash cs ≠ [] := by simp [hf]
            rw [fromSlash_append hne, hf, splitName_scope, hf, beforeSlash_append hne]
            simp only [List.cons_append]
            rw [beforeSlash_append h, fromSlash_append h]
      · rw [List.cons_append, splitName_of_ne hc, ← List.cons_append]
        rw [splitName_of_ne hc] at h ⊢
        rw [beforeSlash_append h, fromSlash_append h]

/-- What is put behind a name and a slash is a path in the package, unless the name is a scope
alone. -/
theorem splitName_append_slash {cs : List Char} (hscope : cs.head? = some '@' → fromSlash cs ≠ [])
    (s : List Char) :
    splitName (cs ++ '/' :: s) = ((splitName cs).1, (splitName cs).2 ++ '/' :: s) := by
  cases cs with
  | nil => rfl
  | cons c cs =>
      by_cases hc : c = '@'
      · subst hc
        have hne : fromSlash cs ≠ [] := hscope rfl
        obtain ⟨slash, rest, hf⟩ := List.exists_cons_of_ne_nil hne
        rw [List.cons_append, splitName_scope, splitName_scope, fromSlash_append hne, hf,
          beforeSlash_append hne]
        simp only [List.cons_append]
        rw [beforeSlash_append_slash, fromSlash_append_slash]
      · rw [List.cons_append, splitName_of_ne hc, ← List.cons_append, splitName_of_ne hc,
          beforeSlash_append_slash, fromSlash_append_slash]

/-- Behind a scope alone, the first segment is still a part of the name. -/
theorem splitName_append_slash_of_scope {cs : List Char} (hscope : cs.head? = some '@')
    (hslash : fromSlash cs = []) (s : List Char) :
    splitName (cs ++ '/' :: s) = (cs ++ '/' :: beforeSlash s, fromSlash s) := by
  obtain ⟨rest, rfl⟩ := List.head?_eq_some_iff.mp hscope
  have hrest : fromSlash rest = [] := hslash
  rw [List.cons_append, splitName_scope, fromSlash_append_slash, hrest, beforeSlash_append_slash,
    beforeSlash_of_fromSlash_nil hrest]
  rfl

theorem fromSlash_ne_nil_of_path {cs : List Char} (h : (splitName cs).2 ≠ []) :
    fromSlash cs ≠ [] := by
  cases cs with
  | nil => exact absurd rfl h
  | cons c cs =>
      by_cases hc : c = '@'
      · subst hc
        rw [splitName_scope] at h
        intro hnone
        rw [show fromSlash cs = [] from hnone] at h
        exact absurd rfl h
      · rwa [splitName_of_ne hc] at h

variable {builtins : Builtins} {text name subPath : String}

/-- What a package specifier is not, and where its name ends. -/
theorem of_classify_package (h : classify builtins text = .package name subPath) :
    text ≠ "" ∧ builtins.isBuiltin text = false ∧ isUrl text.toList = false ∧
      isFile text.toList = false ∧ splitName text.toList = (name.toList, subPath.toList) := by
  simp only [classify] at h
  split_ifs at h with hne hbuiltin hurl hfile
  cases h
  simp [hne, hbuiltin, hurl, hfile]

theorem isFile_of_classify (h : classify builtins text = .file) : isFile text.toList = true := by
  simp only [classify] at h
  split_ifs at h with hne hbuiltin hurl hfile
  exact hfile

theorem ne_empty_of_isFile (h : isFile text.toList = true) : text ≠ "" := by
  rintro rfl
  cases h

/-- A text with the look of a file specifier is one, unless it names a built-in module. -/
theorem classify_of_isFile (h : isFile text.toList = true) :
    classify builtins text = .builtin ∨ classify builtins text = .url ∨
      classify builtins text = .file := by
  simp only [classify, if_neg (ne_empty_of_isFile h), if_pos h]
  split_ifs <;> simp

theorem isUrl_of_isFile {cs : List Char} (h : isFile cs = true) : isUrl cs = false := by
  simp only [isFile, Bool.or_eq_true, decide_eq_true_eq] at h
  rcases h with (hdot | hdots) | hslash
  · simp [isUrl, hdot]
  · simp [isUrl, hdots]
  · obtain ⟨rest, rfl⟩ := List.head?_eq_some_iff.mp hslash
    simp [isUrl, beforeSlash]

theorem classify_eq_builtin (hne : text ≠ "") (h : builtins.isBuiltin text = true) :
    classify builtins text = .builtin := by
  simp [classify, hne, h]

theorem classify_eq_file (h : isFile text.toList = true)
    (hbuiltin : builtins.isBuiltin text = false) : classify builtins text = .file := by
  simp [classify, ne_empty_of_isFile h, hbuiltin, isUrl_of_isFile h, h]

/-- A text without the look of a file specifier names a package, unless other marks tell it. -/
theorem classify_of_not_isFile (builtins : Builtins) (hne : text ≠ "")
    (h : isFile text.toList = false) :
    classify builtins text = .builtin ∨ classify builtins text = .url ∨
      ∃ name subPath, classify builtins text = .package name subPath := by
  simp only [classify, if_neg hne, h, Bool.false_eq_true, if_false]
  split_ifs <;> simp

/-- No built-in name has the look of a file specifier. One with a slash does not begin with a scope,
and what stands before its slash is a built-in name as well. -/
theorem embedded_names (n : String) (h : n ∈ Builtins.embedded.names) :
    isFile n.toList = false ∧ ('/' ∈ n.toList → n.toList.head? ≠ some '@' ∧
      String.ofList (beforeSlash n.toList) ∈ Builtins.embedded.names) := by
  have hall : ∀ n ∈ Builtins.embedded.names, isFile n.toList = false ∧ ('/' ∈ n.toList →
      n.toList.head? ≠ some '@' ∧
        String.ofList (beforeSlash n.toList) ∈ Builtins.embedded.names) := by
    decide +kernel
  exact hall n h

theorem isBuiltin_embedded_of_isFile (h : isFile text.toList = true) :
    Builtins.embedded.isBuiltin text = false := by
  have hscheme : ¬ ∃ rest, text = Builtins.scheme ++ rest := by
    rintro ⟨rest, rfl⟩
    rw [String.toList_append] at h
    simp [isFile, beforeSlash, Builtins.scheme] at h
  rw [Builtins.isBuiltin, Bool.or_eq_false_iff, Bool.eq_false_iff, ne_eq, Text.startsWith_iff]
  refine ⟨hscheme, ?_⟩
  rw [Builtins.contains, List.contains_eq_mem, decide_eq_false_iff_not]
  intro hmem
  rw [(embedded_names text hmem).1] at h
  cases h

theorem toList_slash (name s : String) :
    (name ++ "/" ++ s).toList = name.toList ++ '/' :: s.toList := by
  simp

/-- What begins with a text that has no slash does so in front of its own first slash. -/
theorem startsWith_append_slash {name lead s : String} (h : Text.startsWith name lead = false)
    (hlead : '/' ∉ lead.toList) : Text.startsWith (name ++ "/" ++ s) lead = false := by
  rw [Bool.eq_false_iff, ne_eq, Text.startsWith_iff] at h ⊢
  rintro ⟨rest, hrest⟩
  have hlists : name.toList ++ '/' :: s.toList = lead.toList ++ rest.toList := by
    rw [← toList_slash, hrest, String.toList_append]
  rcases List.append_eq_append_iff.mp hlists with ⟨added, hadded, hs⟩ | ⟨added, hadded, -⟩
  · cases added with
    | nil => exact h ⟨"", by simpa [← String.toList_inj] using hadded.symm⟩
    | cons c added =>
        obtain ⟨rfl, -⟩ := List.cons.inj hs
        exact hlead (by simp [hadded])
  · exact h ⟨String.ofList added, by simpa [← String.toList_inj] using hadded⟩

theorem isBuiltin_append_slash {name s : String} (h : Builtins.embedded.isBuiltin name = false)
    (hslash : name.toList.head? = some '@' ∨ fromSlash name.toList = []) :
    Builtins.embedded.isBuiltin (name ++ "/" ++ s) = false := by
  simp only [Builtins.isBuiltin, Builtins.contains, Bool.or_eq_false_iff,
    List.contains_eq_mem, decide_eq_false_iff_not] at h ⊢
  refine ⟨startsWith_append_slash h.1 (by decide), fun hmem => ?_⟩
  obtain ⟨hhead, hbefore⟩ := (embedded_names _ hmem).2 (by simp)
  rw [toList_slash] at hhead hbefore
  rw [beforeSlash_append_slash] at hbefore
  rcases hslash with hscope | hnone
  · rw [List.head?_append_of_ne_nil _ (by rintro hnil; simp [hnil] at hscope)] at hhead
    exact hhead hscope
  · rw [beforeSlash_of_fromSlash_nil hnone, String.ofList_toList] at hbefore
    exact h.2 hbefore

/-- With a slash and a relative text behind it, the name of a package gives a path in the package. -/
theorem classify_append_slash {name s : String}
    (h : classify .embedded name = .package name "")
    (hscope : name.toList.head? = some '@' → '/' ∈ name.toList)
    (hurl : Text.endsWith name ":/" = false) (hs : s.toList.head? ≠ some '/') :
    classify .embedded (name ++ "/" ++ s) = .package name ("/" ++ s) := by
  obtain ⟨hne, hbuiltin, hnoUrl, hnoFile, hsplit⟩ := of_classify_package h
  have hnone : name.toList.head? = some '@' ∨ fromSlash name.toList = [] := by
    cases hname : name.toList with
    | nil => exact .inr rfl
    | cons c cs =>
        by_cases hc : c = '@'
        · exact .inl (by rw [hc]; rfl)
        · rw [hname, splitName_of_ne hc] at hsplit
          exact .inr (Prod.mk.inj hsplit).2
  have hend : ¬ [':', '/'] <:+ name.toList := by
    rintro ⟨front, hfront⟩
    have hname : name = String.ofList front ++ ":/" := by
      rw [← String.toList_inj, ← hfront]
      simp
    rw [Text.endsWith_iff.mpr ⟨_, hname⟩] at hurl
    cases hurl
  have hfile : isFile (name.toList ++ '/' :: s.toList) = false := by
    rw [isFile_append_slash (by simpa using hne), hnoFile]
  have hcut : splitName (name.toList ++ '/' :: s.toList) = (name.toList, '/' :: s.toList) := by
    rw [splitName_append_slash fun hhead => fromSlash_ne_nil (hscope hhead), hsplit]
    rfl
  simp [classify, isBuiltin_append_slash hbuiltin hnone,
    isUrl_append_slash hnoUrl hend hs, hfile, hcut, String.ofList_cons]

end ImportResolver.Specifier
