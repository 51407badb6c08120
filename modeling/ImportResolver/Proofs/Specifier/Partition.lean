import ImportResolver.Proofs.Specifier.Kind
import Mathlib.Data.List.TakeWhile
/- The kinds of specifiers as a partition. Each kind has a condition of its own, of which exactly one
holds of a text, and a package specifier is cut into a name and a path without loss. -/
namespace ImportResolver.Specifier

/-- The text is in the set, or begins with the scheme of built-in modules. -/
def NamesBuiltin (builtins : Builtins) (text : String) : Prop :=
  text ∈ builtins.names ∨ ∃ rest, text = "node:" ++ rest

/-- What stands in front of the first place where a mark is. -/
structure FirstMark (mark text front : String) : Prop where
  there : ∃ rest, text = front ++ mark ++ rest
  first : ∀ other rest, text = other ++ mark ++ rest → front.length ≤ other.length

/-- In front of the first `://` stands something that has no slash. -/
def HasScheme (text : String) : Prop :=
  ∃ scheme, FirstMark "://" text scheme ∧ scheme ≠ "" ∧ '/' ∉ scheme.toList

def NamesFile (text : String) : Prop :=
  text = "." ∨ text = ".." ∨ ∃ lead ∈ ["./", "../", "/"], ∃ rest, text = lead ++ rest

def IsScoped (text : String) : Prop := ∃ rest, text = "@" ++ rest

/-- The name of a package ends in front of the first slash of the text; with a scope, in front of the
second. -/
structure CutsName (text name subPath : String) : Prop where
  whole : name ++ subPath = text
  nonempty : name ≠ ""
  ne_dots : name ≠ "." ∧ name ≠ ".."
  path : subPath = "" ∨ ∃ rest, subPath = "/" ++ rest
  plain : ¬ IsScoped text → '/' ∉ name.toList
  afterScope : IsScoped text →
    name.toList.count '/' ≤ 1 ∧ (subPath ≠ "" → name.toList.count '/' = 1)

/-- What tells each kind: its own condition, where those of the kinds in front do not hold. -/
inductive IsKind (builtins : Builtins) (text : String) : Kind → Prop
  | unrecognized : text = "" → IsKind builtins text .unrecognized
  | builtin : text ≠ "" → NamesBuiltin builtins text → IsKind builtins text .builtin
  | url : text ≠ "" → ¬ NamesBuiltin builtins text → HasScheme text → IsKind builtins text .url
  | file : text ≠ "" → ¬ NamesBuiltin builtins text → ¬ HasScheme text → NamesFile text →
      IsKind builtins text .file
  | package (name subPath : String) : text ≠ "" → ¬ NamesBuiltin builtins text →
      ¬ HasScheme text → ¬ NamesFile text → CutsName text name subPath →
      IsKind builtins text (.package name subPath)

theorem slash_not_mem_beforeSlash (cs : List Char) : '/' ∉ beforeSlash cs := by
  intro h
  simpa using List.mem_takeWhile_imp h

theorem fromSlash_of_not_mem {s : List Char} (h : '/' ∉ s) : fromSlash s = [] := by
  refine List.dropWhile_eq_nil_iff.mpr fun c hc => ?_
  simpa using fun hslash : c = '/' => h (hslash ▸ hc)

theorem beforeSlash_of_not_mem {s : List Char} (h : '/' ∉ s) : beforeSlash s = s :=
  beforeSlash_of_fromSlash_nil (fromSlash_of_not_mem h)

/-- The first segment is the whole text, or a slash follows it. -/
theorem beforeSlash_eq_iff {cs s : List Char} (h : '/' ∉ s) :
    beforeSlash cs = s ↔ cs = s ∨ ∃ rest, cs = s ++ '/' :: rest := by
  constructor
  · rintro rfl
    rcases fromSlash_cases cs with hnone | ⟨rest, hrest⟩
    · exact .inl (beforeSlash_of_fromSlash_nil hnone).symm
    · exact .inr ⟨rest, by rw [← hrest, beforeSlash_append_fromSlash]⟩
  · rintro (rfl | ⟨rest, rfl⟩)
    · exact beforeSlash_of_not_mem h
    · rw [beforeSlash_append_slash, beforeSlash_of_not_mem h]

variable {builtins : Builtins} {text name subPath : String}

theorem exists_append_iff (lead : String) :
    (∃ rest, text = lead ++ rest) ↔ ∃ rest, text.toList = lead.toList ++ rest := by
  constructor
  · rintro ⟨rest, rfl⟩
    exact ⟨rest.toList, String.toList_append⟩
  · rintro ⟨rest, hrest⟩
    exact ⟨String.ofList rest, by simp [← String.toList_inj, hrest]⟩

theorem isBuiltin_iff : builtins.isBuiltin text = true ↔ NamesBuiltin builtins text := by
  rw [Builtins.isBuiltin, Bool.or_eq_true, Text.startsWith_iff, Builtins.contains,
    List.contains_eq_mem, decide_eq_true_eq, or_comm]
  rfl

theorem isFile_iff : isFile text.toList = true ↔ NamesFile text := by
  have hone : beforeSlash text.toList = ['.'] ↔ _ := beforeSlash_eq_iff (by decide)
  have htwo : beforeSlash text.toList = ['.', '.'] ↔ _ := beforeSlash_eq_iff (by decide)
  simp only [isFile, NamesFile, Bool.or_eq_true, decide_eq_true_eq, List.head?_eq_some_iff, hone,
    htwo, List.mem_cons, List.not_mem_nil, or_false, exists_eq_or_imp, exists_eq_left,
    exists_append_iff]
  simp only [← String.toList_inj]
  simp only [String.reduceToList, List.cons_append, List.nil_append]
  rw [or_or_or_comm]
  simp only [or_assoc]

/-- The first `://` is where the first slash is, if the text in front of it has no slash. -/
theorem isUrl_iff {cs : List Char} : isUrl cs = true ↔
    ∃ scheme rest, scheme ≠ [] ∧ '/' ∉ scheme ∧ cs = scheme ++ ':' :: '/' :: '/' :: rest := by
  constructor
  · intro h
    simp only [isUrl, Bool.and_eq_true, decide_eq_true_eq, Option.isSome_iff_exists,
      Text.dropLead?_eq_some_iff, List.getLast?_eq_some_iff] at h
    obtain ⟨⟨hlength, scheme, hscheme⟩, rest, hrest⟩ := h
    refine ⟨scheme, rest, ?_, ?_, ?_⟩
    · rintro rfl
      simp [hscheme] at hlength
    · have := slash_not_mem_beforeSlash cs
      rw [hscheme] at this
      exact fun hmem => this (List.mem_append_left _ hmem)
    · conv_lhs => rw [← beforeSlash_append_fromSlash cs, hscheme, ← hrest]
      simp
  · rintro ⟨scheme, rest, hne, hslash, rfl⟩
    have hclean : '/' ∉ scheme ++ [':'] := by simp [hslash]
    have hsplit : scheme ++ ':' :: '/' :: '/' :: rest =
        (scheme ++ [':']) ++ '/' :: '/' :: rest := by
      simp
    rw [isUrl, hsplit, beforeSlash_append_slash, fromSlash_append_slash,
      beforeSlash_of_not_mem hclean, fromSlash_of_not_mem hclean]
    have hlength := List.length_pos_iff.mpr hne
    simp [Text.dropLead?, hlength]

/-- No `://` stands further in front than one that has no slash before it. -/
theorem length_le_of_mark {scheme rest other rest' : List Char} (h : '/' ∉ scheme)
    (heq : scheme ++ ':' :: '/' :: '/' :: rest = other ++ ':' :: '/' :: '/' :: rest') :
    scheme.length ≤ other.length := by
  rcases List.append_eq_append_iff.mp heq with ⟨added, rfl, -⟩ | ⟨added, rfl, hadded⟩
  · simp
  · -- The first slash of the other mark would stand in the scheme, or where the colon is.
    match added with
    | [] => simp
    | [c] => simp at hadded
    | c :: d :: added =>
        obtain ⟨-, hd⟩ := List.cons.inj hadded
        obtain ⟨rfl, -⟩ := List.cons.inj hd
        exact absurd (by simp) h

theorem hasScheme_iff : isUrl text.toList = true ↔ HasScheme text := by
  rw [isUrl_iff]
  constructor
  · rintro ⟨scheme, rest, hne, hslash, htext⟩
    refine ⟨String.ofList scheme, ⟨⟨String.ofList rest, ?_⟩, fun other rest' h => ?_⟩, ?_, ?_⟩
    · simp [← String.toList_inj, htext]
    · have hlists : text.toList = other.toList ++ ':' :: '/' :: '/' :: rest'.toList := by simp [h]
      have hle := length_le_of_mark hslash (htext.symm.trans hlists)
      simpa [← String.length_toList] using hle
    · simpa [← String.toList_inj] using hne
    · simpa using hslash
  · rintro ⟨scheme, ⟨⟨rest, rfl⟩, -⟩, hne, hslash⟩
    exact ⟨scheme.toList, rest.toList, by simpa using hne, hslash, by simp⟩

theorem isScoped_iff : IsScoped text ↔ text.toList.head? = some '@' := by
  rw [IsScoped, exists_append_iff, List.head?_eq_some_iff]
  rfl

theorem path_splitName (cs : List Char) :
    (splitName cs).2 = [] ∨ ∃ rest, (splitName cs).2 = '/' :: rest := by
  cases cs with
  | nil => exact .inl rfl
  | cons c cs =>
      by_cases hc : c = '@'
      · subst hc
        rw [splitName_scope]
        cases fromSlash cs with
        | nil => exact .inl rfl
        | cons slash rest => exact fromSlash_cases rest
      · rw [splitName_of_ne hc]
        exact fromSlash_cases (c :: cs)

/-- The name of a package with a scope has a slash exactly if there is one, and its path begins at
the next one. -/
theorem count_splitName_scope (cs : List Char) :
    (splitName ('@' :: cs)).1.count '/' ≤ 1 ∧
      ((splitName ('@' :: cs)).2 ≠ [] → (splitName ('@' :: cs)).1.count '/' = 1) := by
  rw [splitName_scope]
  rcases fromSlash_cases cs with hnone | ⟨rest, hrest⟩
  · have hslash : '/' ∉ cs := fun h => fromSlash_ne_nil h hnone
    simp [hnone, List.count_eq_zero_of_not_mem hslash]
  · simp [hrest, List.count_eq_zero_of_not_mem (slash_not_mem_beforeSlash _)]

theorem fst_splitName_scope (cs : List Char) : (splitName ('@' :: cs)).1.head? = some '@' := by
  rw [splitName_scope]
  cases fromSlash cs <;> rfl

/-- A text that names a package is cut by the rule for names. -/
theorem cutsName_splitName (hne : text ≠ "") (hfile : isFile text.toList = false)
    (hsplit : splitName text.toList = (name.toList, subPath.toList)) :
    CutsName text name subPath := by
  obtain ⟨hname, hpath⟩ : name.toList = (splitName text.toList).1 ∧
      subPath.toList = (splitName text.toList).2 := by simp [hsplit]
  have hwhole : name ++ subPath = text := by
    rw [← String.toList_inj, String.toList_append, hname, hpath, splitName_append]
  have hstart : subPath = "" ∨ ∃ rest, subPath = "/" ++ rest := by
    rw [exists_append_iff, ← String.toList_inj, hpath]
    exact path_splitName text.toList
  obtain ⟨c, cs, hcs⟩ := List.exists_cons_of_ne_nil (l := text.toList) (by simpa using hne)
  by_cases hc : c = '@'
  · subst hc
    have hhead : name.toList.head? = some '@' := by
      rw [hname, hcs]
      exact fst_splitName_scope cs
    obtain ⟨hcount, hsecond⟩ := count_splitName_scope cs
    rw [← hcs, ← hname, ← hpath] at hsecond
    rw [← hcs, ← hname] at hcount
    refine ⟨hwhole, ?_, ⟨?_, ?_⟩, hstart, fun h => ?_, fun _ => ⟨hcount, fun h => hsecond ?_⟩⟩
    · rintro rfl
      cases hhead
    · rintro rfl
      cases hhead
    · rintro rfl
      cases hhead
    · exact absurd (isScoped_iff.mpr (by rw [hcs]; rfl)) h
    · simpa using h
  · have hfirst : name.toList = beforeSlash text.toList := by rw [hname, hcs, splitName_of_ne hc]
    simp only [isFile, ← hfirst, Bool.or_eq_false_iff, decide_eq_false_iff_not] at hfile
    obtain ⟨⟨hone, htwo⟩, hroot⟩ := hfile
    refine ⟨hwhole, ?_, ⟨?_, ?_⟩, hstart, fun _ => ?_, fun h => ?_⟩
    · rintro rfl
      rcases (beforeSlash_eq_iff (s := []) (by simp)).mp hfirst.symm with hnil | ⟨rest, hrest⟩
      · exact hne (by simpa using hnil)
      · exact hroot (by rw [hrest]; rfl)
    · rintro rfl
      exact hone rfl
    · rintro rfl
      exact htwo rfl
    · rw [hfirst]
      exact slash_not_mem_beforeSlash _
    · rw [isScoped_iff, hcs, List.head?_cons] at h
      exact absurd (Option.some.inj h) hc

theorem cut_append {s path : List Char} (hs : '/' ∉ s)
    (hpath : path = [] ∨ ∃ rest, path = '/' :: rest) :
    beforeSlash (s ++ path) = s ∧ fromSlash (s ++ path) = path := by
  have hbefore : beforeSlash (s ++ path) = s := by
    rw [beforeSlash_eq_iff hs]
    rcases hpath with rfl | ⟨rest, rfl⟩
    · exact .inl (List.append_nil s)
    · exact .inr ⟨rest, rfl⟩
  refine ⟨hbefore, ?_⟩
  have hwhole := beforeSlash_append_fromSlash (s ++ path)
  rw [hbefore] at hwhole
  exact List.append_cancel_left hwhole

/-- There is one way to cut a text by the rule for names. -/
theorem CutsName.splitName_eq (h : CutsName text name subPath) :
    splitName text.toList = (name.toList, subPath.toList) := by
  have htext : text.toList = name.toList ++ subPath.toList := by
    rw [← String.toList_append, h.whole]
  have hpath : subPath.toList = [] ∨ ∃ rest, subPath.toList = '/' :: rest := by
    simpa [exists_append_iff] using h.path
  obtain ⟨c, cs, hname⟩ := List.exists_cons_of_ne_nil (l := name.toList) (by simpa using h.nonempty)
  by_cases hc : c = '@'
  · subst hc
    obtain ⟨hcount, hsecond⟩ := h.afterScope (isScoped_iff.mpr (by rw [htext, hname]; rfl))
    rw [htext, hname, List.cons_append, splitName_scope]
    rw [hname, List.count_cons_of_ne (by decide)] at hcount hsecond
    by_cases hslash : '/' ∈ cs
    · obtain ⟨front, rest, rfl⟩ := List.append_of_mem hslash
      rw [List.count_append, List.count_cons_self] at hcount
      have hfront : '/' ∉ front := List.count_eq_zero.mp (by omega)
      have hrest : '/' ∉ rest := List.count_eq_zero.mp (by omega)
      obtain ⟨hbefore, hfrom⟩ := cut_append hfront (.inr ⟨rest ++ subPath.toList, rfl⟩)
      rw [List.append_assoc, List.cons_append, hbefore, hfrom]
      obtain ⟨hbefore, hfrom⟩ := cut_append hrest hpath
      simp only [hbefore, hfrom, List.cons_append]
    · have hnone : subPath = "" := by
        by_contra hne
        rw [List.count_eq_zero_of_not_mem hslash] at hsecond
        exact absurd (hsecond hne) (by decide)
      simp [hnone, fromSlash_of_not_mem hslash]
  · have hclean : '/' ∉ name.toList := by
      refine h.plain fun hscope => hc ?_
      rw [isScoped_iff, htext, hname] at hscope
      exact Option.some.inj hscope
    obtain ⟨hbefore, hfrom⟩ := cut_append hclean hpath
    rw [htext]
    rw [hname] at hbefore hfrom ⊢
    rw [List.cons_append, splitName_of_ne hc, ← List.cons_append, hbefore, hfrom]

theorem isKind_iff {k : Kind} : classify builtins text = k ↔ IsKind builtins text k := by
  constructor
  · rintro rfl
    simp only [classify]
    split_ifs with hempty hbuiltin hurl hfile
    · exact .unrecognized hempty
    · exact .builtin hempty (isBuiltin_iff.mp hbuiltin)
    · exact .url hempty (mt isBuiltin_iff.mpr hbuiltin) (hasScheme_iff.mp hurl)
    · exact .file hempty (mt isBuiltin_iff.mpr hbuiltin) (mt hasScheme_iff.mpr hurl)
        (isFile_iff.mp hfile)
    · refine .package _ _ hempty (mt isBuiltin_iff.mpr hbuiltin) (mt hasScheme_iff.mpr hurl)
        (mt isFile_iff.mpr hfile) (cutsName_splitName hempty (by simpa using hfile) (by simp))
  · intro h
    cases h with
    | unrecognized hempty => simp [classify, hempty]
    | builtin hempty hbuiltin => exact classify_eq_builtin hempty (isBuiltin_iff.mpr hbuiltin)
    | url hempty hbuiltin hurl =>
        simp [classify, hempty, mt isBuiltin_iff.mp hbuiltin, hasScheme_iff.mpr hurl]
    | file hempty hbuiltin hurl hfile =>
        exact classify_eq_file (isFile_iff.mpr hfile) (by simpa using mt isBuiltin_iff.mp hbuiltin)
    | package name subPath hempty hbuiltin hurl hfile hcut =>
        simp [classify, hempty, mt isBuiltin_iff.mp hbuiltin, mt hasScheme_iff.mp hurl,
          mt isFile_iff.mp hfile, hcut.splitName_eq]

/-- Two characters from the first slash on tell whether it begins the slashes of a URL. -/
theorem isUrl_append {cs : List Char} (h : 1 < (fromSlash cs).length) (s : List Char) :
    isUrl (cs ++ s) = isUrl cs := by
  have hne : fromSlash cs ≠ [] := List.ne_nil_of_length_pos (by omega)
  have hslashes : (Text.dropLead? ['/', '/'] (fromSlash cs ++ s)).isSome =
      (Text.dropLead? ['/', '/'] (fromSlash cs)).isSome := by
    match fromSlash cs, h with
    | c :: d :: rest, _ =>
        simp only [List.cons_append, Text.dropLead?]
        split_ifs <;> rfl
  rw [isUrl, isUrl, beforeSlash_append hne, fromSlash_append hne, hslashes]

theorem length_path_le (cs : List Char) : (splitName cs).2.length ≤ (fromSlash cs).length := by
  cases cs with
  | nil => exact le_rfl
  | cons c cs =>
      by_cases hc : c = '@'
      · subst hc
        have hscope : fromSlash ('@' :: cs) = fromSlash cs := List.dropWhile_cons_of_pos (by decide)
        rw [splitName_scope, hscope]
        cases fromSlash cs with
        | nil => exact le_rfl
        | cons slash rest =>
            have hrest := congrArg List.length (beforeSlash_append_fromSlash rest)
            rw [List.length_append] at hrest
            simp only [List.length_cons]
            omega
      · rw [splitName_of_ne hc]

/-- A text with a slash keeps its scheme, or the lack of it, when it is lengthened. -/
theorem startsWith_append {lead t : String} (hslash : fromSlash text.toList ≠ [])
    (hlead : '/' ∉ lead.toList) (h : Text.startsWith text lead = false) :
    Text.startsWith (text ++ t) lead = false := by
  obtain ⟨front, rest, htext⟩ := exists_slash hslash
  obtain rfl : text = String.ofList front ++ "/" ++ String.ofList rest := by
    rw [← String.toList_inj, htext]
    simp
  have hfront : Text.startsWith (String.ofList front) lead = false := by
    rw [Bool.eq_false_iff, ne_eq, Text.startsWith_iff] at h ⊢
    rintro ⟨more, hmore⟩
    exact h ⟨more ++ "/" ++ String.ofList rest, by simp only [hmore, String.append_assoc]⟩
  rw [String.append_assoc]
  exact startsWith_append_slash hfront hlead

/-- What is put behind a path in a package lengthens the path. -/
theorem classify_append {t : String} (h : classify builtins text = .package name subPath)
    (hpath : 1 < subPath.length) (ht : text ++ t ∉ builtins.names) :
    classify builtins (text ++ t) = .package name (subPath ++ t) := by
  obtain ⟨hne, hbuiltin, hurl, hfile, hsplit⟩ := of_classify_package h
  have hlength : 1 < (splitName text.toList).2.length := by
    rw [hsplit, String.length_toList]
    exact hpath
  have hfrom : 1 < (fromSlash text.toList).length := hlength.trans_le (length_path_le _)
  have hslash : fromSlash text.toList ≠ [] := List.ne_nil_of_length_pos (by omega)
  have hcut : splitName (text.toList ++ t.toList) = (name.toList, subPath.toList ++ t.toList) := by
    rw [splitName_append_of_path (List.ne_nil_of_length_pos (by omega)), hsplit]
  have hnone : builtins.isBuiltin (text ++ t) = false := by
    rw [Builtins.isBuiltin, Bool.or_eq_false_iff] at hbuiltin ⊢
    exact ⟨startsWith_append hslash (by decide) hbuiltin.1, by simpa [Builtins.contains] using ht⟩
  simp [classify, hne, hnone, isUrl_append hfrom, hurl, isFile_append hslash, hfile, hcut]

/-- Kinds partition the texts: each text has the one kind whose condition it meets where those in
front are not met, and a package specifier is cut into its name and its path without loss. The name
stays when something is put behind a path of more than its slash, unless the whole is a built-in
name. -/
theorem classify_partitions (builtins : Builtins) (text : String) :
    (∀ k, classify builtins text = k ↔ IsKind builtins text k) ∧
    ∀ name subPath, classify builtins text = .package name subPath → 1 < subPath.length →
      ∀ t, text ++ t ∉ builtins.names →
        classify builtins (text ++ t) = .package name (subPath ++ t) :=
  ⟨fun _ => isKind_iff, fun _ _ h hpath _ ht => classify_append h hpath ht⟩

/-- A colon in front of the slash of a scope makes no scheme, whatever comes behind the name. -/
theorem classify_partitions_scope :
    IsKind ⟨["fs", "@a:/b/c"]⟩ "@a:/b/" (.package "@a:/b" "/") ∧
      classify ⟨["fs", "@a:/b/c"]⟩ "@a:/b/x" = .package "@a:/b" "/x" ∧
      classify ⟨["fs", "@a:/b/c"]⟩ ("@a:/b/x" ++ "://y") = .package "@a:/b" ("/x" ++ "://y") := by
  have hx : classify ⟨["fs", "@a:/b/c"]⟩ "@a:/b/x" = .package "@a:/b" "/x" := by decide +kernel
  obtain ⟨hkind, -⟩ := classify_partitions ⟨["fs", "@a:/b/c"]⟩ "@a:/b/"
  obtain ⟨-, happend⟩ := classify_partitions ⟨["fs", "@a:/b/c"]⟩ "@a:/b/x"
  exact ⟨(hkind _).mp (by decide +kernel), hx, happend _ _ hx (by decide) _ (by decide)⟩

end ImportResolver.Specifier
