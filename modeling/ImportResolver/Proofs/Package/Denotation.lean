import ImportResolver.Proofs.Package.Entry
import ImportResolver.Proofs.Specifier.Kind
/- The file that an entry of a package names: the one that its descriptor leads to. -/
namespace ImportResolver.Package

open Extension Specifier

/-- The file that a descriptor leads to. -/
def Descriptor.accepted? (fs : FileSystem) (dir : Path) (d : Descriptor) : Option Path :=
  (d.path? fs dir).bind fun path =>
    let relative := String.ofList (withoutDots path.toList)
    if relative = "" then none else Extension.accepted? fs (dir.join relative) d.rules

variable {fs : FileSystem} {dir : Path} {d : Descriptor} {ds : List Descriptor} {below : String}

theorem below?_ne_empty (h : d.below? fs dir = some below) : below ≠ "" := by
  obtain ⟨path, -, hbelow⟩ := Option.bind_eq_some_iff.mp h
  unfold below? at hbelow
  dsimp only at hbelow
  split_ifs at hbelow with hempty
  obtain ⟨suffix, -, rfl⟩ := Option.map_eq_some_iff.mp hbelow
  exact fun h => hempty (String.append_eq_empty_iff.mp h).1

/-- Under rules that keep extensions, the file is that with the path given below the directory. -/
theorem accepted?_eq_below? (hkeeps : d.rules.Keeps) :
    d.accepted? fs dir = (d.below? fs dir).map dir.join := by
  unfold Descriptor.accepted? Descriptor.below?
  cases d.path? fs dir with
  | none => rfl
  | some path =>
      simp only [Option.bind_some, below?]
      split_ifs with hempty
      · rfl
      · have hjoin : dir.join ∘ (String.ofList (withoutDots path.toList) ++ ·) =
            (dir.join (String.ofList (withoutDots path.toList))).append := by
          funext suffix
          rw [Function.comp_apply, Path.join_append dir hempty]
        rw [Extension.accepted?_eq hkeeps, Option.map_map, hjoin]

theorem hasFile_of_accepted? {file : Path} (h : d.accepted? fs dir = some file) :
    fs.hasFile file = true := by
  obtain ⟨path, -, haccepted⟩ := Option.bind_eq_some_iff.mp h
  dsimp only at haccepted
  split_ifs at haccepted
  exact Extension.hasFile_of_accepted? haccepted

theorem findSome?_accepted? (hkeeps : ∀ d ∈ ds, d.rules.Keeps) :
    ds.findSome? (·.accepted? fs dir) = (ds.findSome? (·.below? fs dir)).map dir.join := by
  induction ds with
  | nil => rfl
  | cons d ds ih =>
      rw [List.findSome?_cons, List.findSome?_cons, accepted?_eq_below? (hkeeps d (by simp))]
      cases d.below? fs dir with
      | none => exact ih fun e he => hkeeps e (List.mem_cons_of_mem d he)
      | some below => rfl

/-- An entry leads to the first file that a descriptor leads to, as a path below the directory. -/
theorem entry_accepted {specifier emitted : String} {ignoreExports : Bool}
    (hkeeps : ∀ d ∈ ds, d.rules.Keeps)
    (h : (entry fs specifier dir ds ignoreExports).result = .ok (some emitted)) :
    ∃ below, below ≠ "" ∧ emitted = specifier ++ "/" ++ below ∧
      ds.findSome? (·.accepted? fs dir) = some (dir.join below) ∧
      fs.hasFile (dir.join below) = true := by
  obtain ⟨below, hbelow, rfl⟩ := entry_some h
  have haccepted : ds.findSome? (·.accepted? fs dir) = some (dir.join below) := by
    rw [findSome?_accepted? hkeeps, hbelow]
    rfl
  obtain ⟨d, -, hd⟩ := List.exists_of_findSome?_eq_some hbelow
  obtain ⟨e, -, he⟩ := List.exists_of_findSome?_eq_some haccepted
  exact ⟨below, below?_ne_empty hd, rfl, haccepted, hasFile_of_accepted? he⟩

/-- An entry is a path in the package, and from the package's directory it leads to the file that
was found, the first one that a descriptor leads to. -/
theorem entry_denotes {name s : String} {ignoreExports : Bool}
    (hname : classify .embedded name = .package name "")
    (hscope : name.toList.head? = some '@' → '/' ∈ name.toList)
    (hurl : Text.endsWith name ":/" = false) (hkeeps : ∀ d ∈ ds, d.rules.Keeps)
    (h : (entry fs name dir ds ignoreExports).result = .ok (some s))
    (hrelative : Text.startsWith s (name ++ "//") = false) :
    ∃ below, classify .embedded s = .package name ("/" ++ below) ∧ below ≠ "" ∧
      ds.findSome? (·.accepted? fs dir) = some (dir.join below) ∧
      fs.hasFile (dir.join below) = true ∧
      (dir.text ≠ "" →
        (Text.endsWith dir.text "/" = true →
          (dir.append ("/" ++ below)).text.utf8ByteSize ≤ FileSystem.maxPath) →
        fs.hasFile (dir.append ("/" ++ below)) = true ∧
        fs.locate (dir.append ("/" ++ below)) true = fs.locate (dir.join below) true) := by
  obtain ⟨below, hne, rfl, haccepted, hfile⟩ := entry_accepted hkeeps h
  have hbelow := Path.isAbsolute_of_startsWith hrelative
  have hhead : below.toList.head? ≠ some '/' := of_decide_eq_false hbelow
  exact ⟨below, classify_append_slash hname hscope hurl hhead, hne, haccepted, hfile,
    fun hdir hsize => FileSystem.hasFile_join hdir hbelow hsize hfile⟩

/-- A package with a folder, and a file beside the package. -/
def besides : FileSystem :=
  ⟨⟨[(["d"], .directory 0o755), (["index.js", "d"], .file [] 0o644),
    (["lib", "d"], .directory 0o755), (["index.js", "lib", "d"], .file [] 0o644),
    (["other.js"], .file [] 0o644)]⟩, []⟩

def literal (path : String) : List Descriptor := [.literalPath path [.keep ".js"]]

theorem entry_denotes_index :
    (entry besides "@s/p" ⟨"/d"⟩ (literal "./lib") false).result =
        .ok (some "@s/p/lib/index.js") ∧
      (literal "./lib").findSome? (·.accepted? besides ⟨"/d"⟩) = some ⟨"/d/lib/index.js"⟩ ∧
      besides.hasFile ⟨"/d/lib/index.js"⟩ = true := by
  have h : (entry besides "@s/p" ⟨"/d"⟩ (literal "./lib") false).result =
      .ok (some "@s/p/lib/index.js") := by
    decide +kernel
  have hname : classify .embedded "@s/p" = .package "@s/p" "" := by
    decide +kernel
  have hkeeps : ∀ d ∈ literal "./lib", d.rules.Keeps := by
    decide
  obtain ⟨below, hkind, -, haccepted, hfile, -⟩ :=
    entry_denotes hname (by decide) (by decide) hkeeps h (by decide)
  have hcut : classify .embedded "@s/p/lib/index.js" = .package "@s/p" ("/" ++ "lib/index.js") := by
    simpa using @classify_append_slash "@s/p" "lib/index.js" hname (by decide) (by decide)
      (by decide)
  obtain rfl : below = "lib/index.js" := by
    have hsame := (Specifier.Kind.package.inj (hkind.symm.trans hcut)).2
    exact (String.append_right_inj "/").mp hsame
  exact ⟨h, haccepted, hfile⟩

/-- A scope alone is a name, and the first segment behind it would be read as a part of the name. A
slash behind a name that ends in a colon and a slash makes a URL of it. An absolute path does not
lead below the directory. -/
theorem entry_denotes_not_always :
    (classify .embedded "@s" = .package "@s" "" ∧
      (entry besides "@s" ⟨"/d"⟩ (literal "index") false).result = .ok (some "@s/index.js") ∧
      classify .embedded "@s/index.js" = .package "@s/index.js" "") ∧
    (classify .embedded "@a:/" = .package "@a:/" "" ∧
      (entry besides "@a:/" ⟨"/d"⟩ (literal "index") false).result =
        .ok (some "@a://index.js") ∧
      classify .embedded "@a://index.js" = .url) ∧
    classify .embedded "p" = .package "p" "" ∧
      (entry besides "p" ⟨"/d"⟩ (literal ".//other") false).result = .ok (some "p//other.js") ∧
      classify .embedded "p//other.js" = .package "p" "//other.js" ∧
      besides.hasFile (Path.append ⟨"/d"⟩ "//other.js") = false := by
  decide +kernel

end ImportResolver.Package
