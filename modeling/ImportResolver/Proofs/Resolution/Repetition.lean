import ImportResolver.Proofs.Package.Denotation
import ImportResolver.Proofs.Package.Location
import ImportResolver.Proofs.Resolution.Additions
import ImportResolver.Proofs.Resolution.Denotation
/- Resolving what a resolution has written. A file specifier stays as it is from then on; a path in
a package does, unless a candidate makes another file's path of it. -/
namespace ImportResolver.Context

open Extension Specifier

variable {ctx : Context} {fs : FileSystem} {text : String} {r : Resolution}

/-- Dots that a file is looked for behind are those of a directory, so its index is looked for. -/
theorem junction_dots (ht : fs.tree.WellFormed) (p : Path) {dots s : String}
    (hdots : dots = "." ∨ dots = "..")
    (h : fs.hasFile ((p.join dots).append s) = true) : junction fs (p.join dots) = "/index" := by
  have hrelative : (Path.mk dots).isAbsolute = false := by
    rcases hdots with rfl | rfl <;> decide
  obtain ⟨front, hfront, hbase⟩ := p.exists_join_front hrelative
  have hslash : Text.endsWith (p.join dots).text "/" = false := by
    rw [hbase, Bool.eq_false_iff, ne_eq, Text.endsWith_iff]
    rintro ⟨q, hq⟩
    have hlast := congrArg (List.getLast? ∘ String.toList) hq
    rcases hdots with rfl | rfl <;> simp at hlast
  have hdir : fs.isDirectory (p.join dots) = true := by
    obtain ⟨loc, n, hloc, -, -⟩ := FileSystem.hasFile_iff.mp h
    rw [hbase] at hloc ⊢
    exact FileSystem.isDirectory_dots ht hfront hdots hloc
  rw [junction, hslash, hdir]
  rfl

/-- A file specifier with what is appended to it still has the look of one. -/
theorem isFile_appended (ht : fs.tree.WellFormed) (p : Path) (hfile : isFile text.toList = true)
    {source : String}
    (h : fs.hasFile ((p.join text).append (junction fs (p.join text) ++ source)) = true) :
    isFile (text ++ (junction fs (p.join text) ++ source)).toList = true := by
  rw [String.toList_append]
  by_cases hslash : fromSlash text.toList = []
  · have hdots : text = "." ∨ text = ".." := by
      rcases eq_dots_of_isFile hfile hslash with hd | hd
      · exact .inl (String.toList_inj.mp hd)
      · exact .inr (String.toList_inj.mp hd)
    have hindex : ("/index" ++ source).toList = '/' :: ("index" ++ source).toList := by simp
    rw [junction_dots ht p hdots h, hindex,
      isFile_append_slash (by simpa using ne_empty_of_isFile hfile), hfile]
  · rw [isFile_append hslash, hfile]

/-- What rules that keep extensions make of a specifier behind which a file was found. -/
theorem settle_replaced_keeps {unresolved : Failure} {base : Path} {rules : Rules} {mode : Mode}
    {specifier : String} (hkeeps : rules.Keeps)
    (h : ctx.settle text unresolved (finding fs base rules mode) = .ok (.replaced specifier)) :
    ∃ c : Candidate, specifier = text ++ (junction fs base ++ c.source) ∧
      fs.hasFile (base.append (junction fs base ++ c.source)) = true := by
  rcases settle_replaced h with ⟨suffix, hfound, hspecifier⟩ | ⟨source, dest, hfound, -⟩
  · obtain ⟨-, c, hc, rfl⟩ := finding_eq_append_iff.mp hfound
    have hkept : c.emitted = c.source := hkeeps c (List.mem_of_find?_eq_some hc)
    have hfile := (firstPresent?_eq_some_iff.mp hc).1
    rw [candidatePath, String.append_assoc] at hfile
    rw [hkept, ← String.toList_append] at hspecifier
    exact ⟨c, String.toList_inj.mp hspecifier, hfile⟩
  · exact absurd hfound (finding_ne_replace hkeeps source dest)

theorem resolve_specifier_of_unchanged {reason : Reason} (h : ctx.resolve fs text = .ok r)
    (hr : r.outcome = .unchanged reason) : ctx.resolve fs r.specifier = .ok r := by
  rw [Resolution.specifier, hr, resolve_written h, h]

/-- A file specifier is rewritten once: what a resolution makes of it stays as it is. -/
theorem resolve_file_again (ht : fs.tree.WellFormed) (hkeeps : ctx.options.extensions.Keeps)
    (hkind : classify ctx.builtins text = .file) (h : ctx.resolve fs text = .ok r) :
    ∃ kind reason, ctx.resolve fs r.specifier = .ok ⟨r.specifier, kind, .unchanged reason⟩ := by
  obtain ⟨written, kind, outcome⟩ := r
  cases outcome with
  | unchanged reason => exact ⟨kind, reason, resolve_specifier_of_unchanged h rfl⟩
  | replaced specifier =>
      change ∃ kind reason, ctx.resolve fs specifier = .ok ⟨specifier, kind, .unchanged reason⟩
      rw [resolve_of_file hkind] at h
      obtain ⟨o, hsettle, ho⟩ := exists_of_map_eq_ok h
      cases ho
      obtain ⟨c, rfl, hthere⟩ := settle_replaced_keeps hkeeps hsettle
      have hfile := isFile_of_classify hkind
      rcases classify_of_isFile (isFile_appended ht ctx.file.directory hfile hthere) with
        hagain | hagain | hagain
      · exact ⟨_, _, resolve_of_builtin hagain⟩
      · exact ⟨_, _, resolve_of_url hagain⟩
      · refine ⟨.file, .alreadyCorrect, ?_⟩
        rw [← Path.join_append _ (ne_empty_of_isFile hfile)] at hthere
        rw [resolve_of_file hagain, finding_expand_of_hasFile hkeeps hthere]
        rfl

/-- A directory with a file beside it. -/
def upwards : FileSystem :=
  ⟨⟨[(["w"], .directory 0o755), (["index.js"], .file [] 0o644)]⟩, []⟩

def fromBelow : Context :=
  ⟨⟨"/w/main.js"⟩, { extensions := [.keep ".mjs", .keep ".js"] }, [], .ofNames []⟩

theorem resolve_file_again_upwards :
    fromBelow.resolve upwards ".." = .ok ⟨"..", .file, .replaced "../index.js"⟩ ∧
      ∃ kind reason, fromBelow.resolve upwards "../index.js" =
        .ok ⟨"../index.js", kind, .unchanged reason⟩ := by
  have h : fromBelow.resolve upwards ".." = .ok ⟨"..", .file, .replaced "../index.js"⟩ := by
    decide +kernel
  have ht : upwards.tree.Sound := by decide +kernel
  have hkeeps : fromBelow.options.extensions.Keeps := by decide
  have hkind : classify fromBelow.builtins ".." = .file := by decide +kernel
  obtain ⟨kind, reason, hagain⟩ := resolve_file_again ht.toWellFormed hkeeps hkind h
  exact ⟨h, kind, reason, hagain⟩

variable {name subPath below : String} {dir : Path}

/-- Resolving a specifier gives it back. -/
def Stays (ctx : Context) (fs : FileSystem) (specifier : String) : Prop :=
  ∃ again, ctx.resolve fs specifier = .ok again ∧ again.specifier = specifier

/-- There is a file where a specifier leads, and resolving appends the first candidate with which
there is another file. -/
def Lengthens (ctx : Context) (fs : FileSystem) (specifier : String) : Prop :=
  ∃ file c, ctx.denoted? fs (classify ctx.builtins specifier) specifier = some file ∧
    fs.hasFile file = true ∧
    firstPresent? fs file "" ctx.options.submoduleExtensions.candidates = some c ∧
    c.source ≠ "" ∧
    ctx.resolve fs specifier = .ok ⟨specifier, classify ctx.builtins specifier,
      .replaced (specifier ++ c.source)⟩

theorem stays_or_package {specifier : String} (hne : specifier ≠ "")
    (h : isFile specifier.toList = false) : ctx.Stays fs specifier ∨
      ∃ name subPath, classify ctx.builtins specifier = .package name subPath := by
  rcases classify_of_not_isFile ctx.builtins hne h with hbuiltin | hurl | hpackage
  · exact .inl ⟨_, resolve_of_builtin hbuiltin, rfl⟩
  · exact .inl ⟨_, resolve_of_url hurl, rfl⟩
  · exact .inr hpackage

/-- A path in a package at which there is a file. -/
structure PresentPath (ctx : Context) (fs : FileSystem) (text name subPath : String)
    (dir : Path) : Prop where
  kind : classify ctx.builtins text = .package name subPath
  path : subPath ≠ ""
  located : (Package.locate fs name ctx.file ctx.globals).result = .ok dir
  present : fs.hasFile (dir.append subPath) = true

/-- What becomes of such a path: the manifest of the package cannot be read, or it has an export
map, or the search goes past the file and comes back to it only if there is no other one. -/
theorem PresentPath.resolve (hpath : ctx.PresentPath fs text name subPath dir)
    (hkeeps : ctx.options.submoduleExtensions.Keeps) : ctx.Stays fs text ∨ ctx.Lengthens fs text ∨
      ∃ f, ctx.exportsManifest? fs dir = .error f ∧ ctx.resolve fs text = .error f := by
  obtain ⟨-, -, -, -, hsplit⟩ := of_classify_package hpath.kind
  have hresolve := @resolve_of_package ctx fs _ _ _ hpath.kind
  rw [if_neg hpath.path, resolveSubmodule_result, hpath.located] at hresolve
  simp only [Except.bind] at hresolve
  cases hm : ctx.exportsManifest? fs dir with
  | error f =>
      rw [hm] at hresolve
      exact .inr (.inr ⟨f, rfl, hresolve⟩)
  | ok manifest =>
      rw [hm] at hresolve
      cases manifest with
      | some m => exact .inl ⟨_, hresolve, rfl⟩
      | none =>
          rw [finding_complete_of_hasFile hpath.present] at hresolve
          cases hc : firstPresent? fs (dir.append subPath) ""
              ctx.options.submoduleExtensions.candidates with
          | none =>
              rw [hc] at hresolve
              exact .inl ⟨_, hresolve, rfl⟩
          | some c =>
              have hkept : c.emitted = c.source := hkeeps c (List.mem_of_find?_eq_some hc)
              rw [hc] at hresolve
              simp only [settle, Finding.applied?, Option.getD_some, hkept] at hresolve
              by_cases hsource : c.source = ""
              · refine .inl ⟨_, hresolve, ?_⟩
                simp [Resolution.specifier, hsource]
              · refine .inr (.inl ⟨dir.append subPath, c, ?_, hpath.present, hc, hsource, ?_⟩)
                · rw [hpath.kind, denoted?_of_splitName hsplit hpath.located]
                · rw [hpath.kind]
                  exact hresolve

/-- A path below a package's directory is where a specifier leads that names the package and then
the path. Behind a scope alone, the package is a directory in that of the scope. -/
theorem exists_located (htext : text ≠ "") (hname : splitName text.toList = (text.toList, []))
    (hdir : (Package.locate fs text ctx.file ctx.globals).result = .ok dir)
    (hfile : fs.hasFile (dir.append ("/" ++ below)) = true)
    (hsplit : splitName (text ++ "/" ++ below).toList = (name.toList, subPath.toList))
    (hsub : subPath ≠ "") :
    ∃ other, (Package.locate fs name ctx.file ctx.globals).result = .ok other ∧
      other.append subPath = dir.append ("/" ++ below) := by
  rw [toList_slash] at hsplit
  by_cases hscope : text.toList.head? = some '@' → fromSlash text.toList ≠ []
  · rw [splitName_append_slash hscope, hname] at hsplit
    obtain ⟨hnames, hpaths⟩ := Prod.mk.inj hsplit
    obtain rfl : text = name := String.toList_inj.mp hnames
    refine ⟨dir, hdir, congrArg dir.append ?_⟩
    simpa [← String.toList_inj] using hpaths.symm
  -- The first segment goes over to the name, and what was in the package's directory before is
  -- found from one directory further down.
  · obtain ⟨hhead, hslash⟩ := Classical.not_imp.mp hscope
    rw [splitName_append_slash_of_scope hhead (not_not.mp hslash)] at hsplit
    obtain ⟨hnames, hpaths⟩ := Prod.mk.inj hsplit
    have hlonger : name = text ++ ("/" ++ String.ofList (beforeSlash below.toList)) := by
      simp [← String.toList_inj, ← hnames]
    have hbelow : String.ofList (beforeSlash below.toList) ++ subPath = below := by
      simp [← String.toList_inj, ← hpaths]
    obtain ⟨rest, hrest⟩ : ∃ rest, subPath = "/" ++ rest := by
      have hne : fromSlash below.toList ≠ [] := by simpa [hpaths] using hsub
      obtain ⟨rest, hrest⟩ := (fromSlash_cases below.toList).resolve_left hne
      exact ⟨String.ofList rest, by simp [← String.toList_inj, ← hpaths, hrest]⟩
    have happend : (dir.append ("/" ++ String.ofList (beforeSlash below.toList))).append subPath =
        dir.append ("/" ++ below) := by
      rw [Path.append_append, String.append_assoc, hbelow]
    obtain ⟨loc, n, hloc, -, -⟩ := FileSystem.hasFile_iff.mp hfile
    rw [← happend, hrest] at hloc
    have habove := FileSystem.isDirectory_of_below (by simp [Path.append]) hloc
    rw [hlonger]
    exact ⟨_, Package.locate_append htext hdir habove, happend⟩

/-- What is appended to a path in a package makes it the path of a file. -/
theorem presentPath_of_submodule {specifier : String}
    (hkeeps : ctx.options.submoduleExtensions.Keeps)
    (hkind : classify ctx.builtins text = .package name subPath) (hsub : subPath ≠ "")
    (h : (ctx.resolveSubmodule fs text name subPath).result = .ok (.replaced specifier)) :
    ctx.Stays fs specifier ∨ ∃ dir path, ctx.PresentPath fs specifier name path dir ∧
      ctx.exportsManifest? fs dir = .ok none := by
  obtain ⟨hne, -, -, hnoFile, hsplit⟩ := of_classify_package hkind
  obtain ⟨dir, hdir, hmanifest, hsettle⟩ := settle_of_resolveSubmodule h
  obtain ⟨c, rfl, hfile⟩ := settle_replaced_keeps hkeeps hsettle
  rw [Path.append_append] at hfile
  generalize junction fs (dir.append subPath) ++ c.source = added at hfile ⊢
  have hpath : (splitName text.toList).2 ≠ [] := by simpa [hsplit] using hsub
  have hlook : isFile (text ++ added).toList = false := by
    rw [String.toList_append, isFile_append (fromSlash_ne_nil_of_path hpath), hnoFile]
  have hcut : splitName (text ++ added).toList = (name.toList, (subPath ++ added).toList) := by
    rw [String.toList_append, splitName_append_of_path hpath, hsplit, String.toList_append]
  rcases stays_or_package (by simp [hne]) hlook with hstays | ⟨other, path, hagain⟩
  · exact .inl hstays
  · obtain ⟨-, -, -, -, hsame⟩ := of_classify_package hagain
    rw [hcut] at hsame
    obtain ⟨hnames, hpaths⟩ := Prod.mk.inj hsame
    obtain rfl := String.toList_inj.mp hnames
    obtain rfl := String.toList_inj.mp hpaths
    exact .inr ⟨dir, subPath ++ added, ⟨hagain, by simp [hsub], hdir, hfile⟩, hmanifest⟩

/-- So does the entry of a package, if it is not a package by name. -/
theorem presentPath_of_package {specifier : String}
    (hkeeps : ∀ d ∈ ctx.options.entry, d.rules.Keeps)
    (hkind : classify ctx.builtins text = .package name "")
    (h : (ctx.resolvePackage fs text name).result = .ok (.replaced specifier))
    (hname : specifier ≠ text → ∀ other, classify ctx.builtins specifier ≠ .package other "")
    (hrelative : Text.startsWith specifier (text ++ "//") = false)
    (hsize : Text.endsWith name "/" = true → ∀ file,
      ctx.denoted? fs (.package name "") specifier = some file →
        file.text.utf8ByteSize ≤ FileSystem.maxPath) :
    ctx.Stays fs specifier ∨ ∃ other dir path, ctx.PresentPath fs specifier other path dir := by
  obtain ⟨hne, -, -, hnoFile, hsplit⟩ := of_classify_package hkind
  obtain rfl : name = text := by
    have hwhole := splitName_append text.toList
    rw [hsplit] at hwhole
    simpa [← String.toList_inj] using hwhole
  obtain ⟨dir, hdir, hentry⟩ := entry_of_resolvePackage h
  obtain ⟨below, -, rfl, -, hfile⟩ := Package.entry_accepted hkeeps hentry
  have hthere : fs.hasFile (dir.append ("/" ++ below)) = true := by
    refine (FileSystem.hasFile_join (Package.locate_text_ne_empty hne hdir)
      (Path.isAbsolute_of_startsWith hrelative) (fun hslash => ?_) hfile).1
    -- Two slashes where one was: the text grows, and it may be too long for a path.
    have hends := Package.locate_endsWith hne hdir hslash
    refine hsize hends _ (denoted?_of_splitName ?_ hdir)
    obtain ⟨front, hfront⟩ := Text.endsWith_iff.mp hends
    have hmem : '/' ∈ name.toList := by simp [hfront]
    rw [toList_slash, splitName_append_slash fun _ => fromSlash_ne_nil hmem, hsplit]
    simp
  have hlook : isFile (name ++ "/" ++ below).toList = false := by
    rw [toList_slash, isFile_append_slash (by simpa using hne), hnoFile]
  rcases stays_or_package (by simp [hne]) hlook with hstays | ⟨other, path, hagain⟩
  · exact .inl hstays
  · obtain ⟨-, -, -, -, hcut⟩ := of_classify_package hagain
    have hpath : path ≠ "" := by
      rintro rfl
      refine hname (fun hsame => ?_) other hagain
      have hlength := congrArg (List.length ∘ String.toList) hsame
      simp at hlength
    obtain ⟨store, hstore, hsame⟩ := exists_located hne hsplit hdir hthere hcut hpath
    exact .inr ⟨other, store, path, hagain, hpath, hstore, by rw [hsame]; exact hthere⟩

/-- A package specifier is rewritten once, as long as its entry is not a package by name: what a
resolution makes of it stays as it is, unless a candidate for paths in packages makes another file's
path of that of the file, or the manifest is asked for only then and cannot be read. -/
theorem resolve_package_again (hsubmodule : ctx.options.submoduleExtensions.Keeps)
    (hentry : ∀ d ∈ ctx.options.entry, d.rules.Keeps)
    (hkind : classify ctx.builtins text = .package name subPath) (h : ctx.resolve fs text = .ok r)
    (hname : r.isChanged = true → ∀ other, classify ctx.builtins r.specifier ≠ .package other "")
    (hrelative : subPath = "" → Text.startsWith r.specifier (text ++ "//") = false)
    (hsize : subPath = "" → Text.endsWith name "/" = true → ∀ file,
      ctx.denoted? fs r.kind r.specifier = some file →
        file.text.utf8ByteSize ≤ FileSystem.maxPath) :
    ctx.Stays fs r.specifier ∨ ctx.Lengthens fs r.specifier ∨
      subPath = "" ∧ ctx.options.submoduleIgnoreExports = true ∧
        ∃ other path dir f, classify ctx.builtins r.specifier = .package other path ∧
          (Package.locate fs other ctx.file ctx.globals).result = .ok dir ∧
          Package.Manifest.loadOptional fs dir = .error f ∧
          ctx.resolve fs r.specifier = .error f := by
  obtain ⟨written, kind, outcome⟩ := r
  cases outcome with
  | unchanged reason => exact .inl ⟨_, resolve_specifier_of_unchanged h rfl, rfl⟩
  | replaced specifier =>
      obtain rfl : written = text := resolve_written h
      obtain rfl : kind = .package name subPath := (resolve_kind h).trans hkind
      change ctx.Stays fs specifier ∨ _
      rw [resolve_of_package hkind] at h
      obtain ⟨outcome, houtcome, hr⟩ := exists_of_map_eq_ok h
      cases hr
      split at houtcome
      · next hsub =>
          subst hsub
          rcases presentPath_of_package hentry hkind houtcome
            (fun hchanged => hname (decide_eq_true hchanged)) (hrelative rfl) (hsize rfl) with
            hstays | ⟨other, dir, path, hpath⟩
          · exact .inl hstays
          · rcases hpath.resolve hsubmodule with hstays | hlengthens | ⟨f, hm, herror⟩
            · exact .inl hstays
            · exact .inr (.inl hlengthens)
            · obtain ⟨hignore, hload⟩ := exportsManifest?_eq_error_iff.mp hm
              exact .inr (.inr ⟨rfl, hignore, other, path, dir, f, hpath.kind, hpath.located, hload,
                herror⟩)
      · next hsub =>
          rcases presentPath_of_submodule hsubmodule hkind hsub houtcome with
            hstays | ⟨dir, path, hpath, hmanifest⟩
          · exact .inl hstays
          · rcases hpath.resolve hsubmodule with hstays | hlengthens | ⟨f, hm, -⟩
            · exact .inl hstays
            · exact .inr (.inl hlengthens)
            · cases hmanifest.symm.trans hm

/-- Packages with an index, with a manifest that is no manifest, and with a file whose name goes on
behind that of another; and a file that is in no package. -/
def packages : FileSystem :=
  ⟨⟨[(["node_modules"], .directory 0o755), (["@s", "node_modules"], .directory 0o755),
    (["index.js", "@s", "node_modules"], .file [] 0o644),
    (["p", "node_modules"], .directory 0o755), (["x.js", "p", "node_modules"], .file [] 0o644),
    (["x.js.js", "p", "node_modules"], .file [] 0o644),
    (["q", "node_modules"], .directory 0o755), (["index.js", "q", "node_modules"], .file [] 0o644),
    (["package.json", "q", "node_modules"], .file [] 0o644), (["other.js"], .file [] 0o644)]⟩, []⟩

def importing (submoduleIgnoreExports : Bool) : Context where
  file := ⟨"/main.js"⟩
  options := {
    submoduleExtensions := [.keep ".js"]
    entry := [.literalPath "index" [.keep ".js"], .literalPath ".//other" [.keep ".js"]]
    submoduleIgnoreExports }
  globals := []
  builtins := .ofNames []

theorem resolve_package_again_index :
    (importing false).resolve packages "q" =
        .ok ⟨"q", .package "q" "", .replaced "q/index.js"⟩ ∧
      (importing false).Stays packages "q/index.js" := by
  have h : (importing false).resolve packages "q" =
      .ok ⟨"q", .package "q" "", .replaced "q/index.js"⟩ := by
    decide +kernel
  have hkind : classify (importing false).builtins "q" = .package "q" "" := by decide +kernel
  have hentry : ∀ d ∈ (importing false).options.entry, d.rules.Keeps := by decide
  have hagain : classify (importing false).builtins "q/index.js" = .package "q" "/index.js" := by
    decide +kernel
  have hname : ∀ other, classify (importing false).builtins "q/index.js" ≠ .package other "" := by
    intro other hother
    have hpath := (Specifier.Kind.package.inj (hagain.symm.trans hother)).2
    exact absurd hpath (by decide)
  refine ⟨h, ?_⟩
  rcases resolve_package_again (by decide) hentry hkind h (fun _ => hname) (fun _ => by decide)
    (fun _ hends => absurd hends (by decide)) with
    hstays | ⟨file, c, hfile, -, hc, -⟩ | ⟨-, hignore, -⟩
  · exact hstays
  · have hplace : (importing false).denoted? packages
        (classify (importing false).builtins "q/index.js") "q/index.js" =
          some ⟨"/node_modules/q/index.js"⟩ := by
      decide +kernel
    cases hplace.symm.trans hfile
    have hnone : firstPresent? packages ⟨"/node_modules/q/index.js"⟩ ""
        (importing false).options.submoduleExtensions.candidates = none := by
      decide +kernel
    cases hnone.symm.trans hc
  · cases hignore

/-- A path that is there already is looked for with every extension first. A scope alone is a name,
and its entry is looked for as a package. A manifest may be read only for paths in packages. An
absolute path does not lead below the directory. -/
theorem resolve_package_again_not_always :
    ((importing false).resolve packages "p/x" =
        .ok ⟨"p/x", .package "p" "/x", .replaced "p/x.js"⟩ ∧
      (importing false).resolve packages "p/x.js" =
        .ok ⟨"p/x.js", .package "p" "/x.js", .replaced "p/x.js.js"⟩) ∧
    ((importing false).resolve packages "@s" =
        .ok ⟨"@s", .package "@s" "", .replaced "@s/index.js"⟩ ∧
      (importing false).resolve packages "@s/index.js" =
        .error (.packageNotFound "@s/index.js" ⟨"/main.js"⟩)) ∧
    ((importing true).resolve packages "q" =
        .ok ⟨"q", .package "q" "", .replaced "q/index.js"⟩ ∧
      ((importing true).resolve packages "q/index.js").isOk = false) ∧
    (importing false).resolve packages "p" =
        .ok ⟨"p", .package "p" "", .replaced "p//other.js"⟩ ∧
      (importing false).resolve packages "p//other.js" =
        .error (.moduleUnresolved "p//other.js" ⟨"/main.js"⟩) := by
  decide +kernel

end ImportResolver.Context
