import ImportResolver.Proofs.Package.Entry
/- The order of descriptors: a list of them can be cut anywhere, and only what is asked for before
one leads to a file can fail. -/
namespace ImportResolver.Package

variable {fs : FileSystem} {dir : Path} {specifier : String} {ds : List Descriptor}
  {ignoreExports left : Bool} {f : Failure}

theorem isLeft_eq_error_iff : isLeft fs dir ignoreExports = .error f ↔
    ignoreExports = true ∧ fs.isFile (dir.join Manifest.fileName) = true ∧
      Manifest.load fs dir = .error f := by
  rw [← loadOptional_eq_error_iff, isLeft]
  cases ignoreExports with
  | false => simp
  | true => cases Manifest.loadOptional fs dir <;> simp [Except.map]

/-- A package is left to the runtime only once its manifest has been read. -/
theorem exists_load_of_isLeft (h : isLeft fs dir ignoreExports = .ok true) :
    ∃ m, Manifest.load fs dir = .ok m := by
  unfold isLeft at h
  split at h
  · obtain ⟨manifest, hmanifest, hany⟩ := exists_of_map_eq_ok h
    obtain ⟨m, rfl, -⟩ := (Option.any_eq_true ..).mp hany
    exact ⟨m, loadOptional_loaded hmanifest m rfl⟩
  · cases h

theorem entry_of_error (h : isLeft fs dir ignoreExports = .error f) :
    (entry fs specifier dir ds ignoreExports).result = .error f := by
  rw [entry_eq, h]
  rfl

theorem entry_of_ok (h : isLeft fs dir ignoreExports = .ok left) :
    (entry fs specifier dir ds ignoreExports).result =
      if left then .ok none
      else (ds.findSomeM? (Descriptor.leads fs dir)).map (·.map (specifier ++ "/" ++ ·)) := by
  rw [entry_eq, h]
  rfl

/-- Descriptors behind others are tried where those lead nowhere, as if they stood alone. -/
theorem entry_append (specifier : String) (ds es : List Descriptor) (ignoreExports : Bool) :
    (entry fs specifier dir (ds ++ es) ignoreExports).result =
      match (entry fs specifier dir ds ignoreExports).result with
      | .error f => .error f
      | .ok (some emitted) => .ok (some emitted)
      | .ok none => (entry fs specifier dir es ignoreExports).result := by
  cases hleft : isLeft fs dir ignoreExports with
  | error f => simp only [entry_of_error hleft]
  | ok left =>
      simp only [entry_of_ok hleft, findSomeM?_append]
      cases left with
      | true => rfl
      | false =>
          cases ds.findSomeM? (Descriptor.leads fs dir) with
          | error f => rfl
          | ok found =>
              cases found with
              | some below => rfl
              | none => rfl

/-- A descriptor that comes first and names a field asks for the manifest, if an export map has not
done so before. -/
theorem entry_field (field : String) (rules : Extension.Rules) (ds : List Descriptor)
    (h : Manifest.load fs dir = .error f) :
    (entry fs specifier dir (.manifestField field rules :: ds) ignoreExports).result =
      .error f := by
  cases hleft : isLeft fs dir ignoreExports with
  | error f' =>
      obtain ⟨-, -, h'⟩ := isLeft_eq_error_iff.mp hleft
      cases h.symm.trans h'
      exact entry_of_error hleft
  | ok left =>
      cases left with
      | true =>
          obtain ⟨m, hm⟩ := exists_load_of_isLeft hleft
          cases h.symm.trans hm
      | false =>
          rw [entry_of_ok hleft, findSomeM?_cons,
            leads_eq_error_iff.mpr ⟨⟨field, rules, rfl⟩, h⟩]
          rfl

/-- An entry fails with what is wrong with the manifest, and only if that is asked for: for an export
map, or by a descriptor that names a field where none in front of it leads to a file. -/
theorem entry_eq_error_iff : (entry fs specifier dir ds ignoreExports).result = .error f ↔
    Manifest.load fs dir = .error f ∧
      (ignoreExports = true ∧ fs.isFile (dir.join Manifest.fileName) = true ∨
        ∃ before field rules after, ds = before ++ .manifestField field rules :: after ∧
          (entry fs specifier dir before ignoreExports).result = .ok none) := by
  constructor
  · intro h
    cases hleft : isLeft fs dir ignoreExports with
    | error f' =>
        rw [entry_of_error hleft] at h
        cases h
        obtain ⟨hignore, hfile, hload⟩ := isLeft_eq_error_iff.mp hleft
        exact ⟨hload, .inl ⟨hignore, hfile⟩⟩
    | ok left =>
        rw [entry_of_ok hleft] at h
        cases left with
        | true => cases h
        | false =>
            obtain ⟨before, d, after, rfl, hbefore, hd⟩ :=
              findSomeM?_eq_error_iff.mp (eq_error_of_map h)
            obtain ⟨⟨field, rules, rfl⟩, hload⟩ := leads_eq_error_iff.mp hd
            refine ⟨hload, .inr ⟨before, field, rules, after, rfl, ?_⟩⟩
            rw [entry_of_ok hleft, hbefore]
            rfl
  · rintro ⟨hload, ⟨hignore, hfile⟩ | ⟨before, field, rules, after, rfl, hbefore⟩⟩
    · exact entry_of_error (isLeft_eq_error_iff.mpr ⟨hignore, hfile, hload⟩)
    · rw [entry_append, hbefore]
      exact entry_field field rules after hload

/-- Descriptors are tried strictly in order: those in front decide, or else those behind them, which
see nothing of what was read before. What is wrong with the manifest matters only if the manifest is
asked for before a descriptor has led to a file. -/
theorem entry_in_order (fs : FileSystem) (specifier : String) (dir : Path) (ignoreExports : Bool)
    (ds es : List Descriptor) :
    ((entry fs specifier dir (ds ++ es) ignoreExports).result =
      match (entry fs specifier dir ds ignoreExports).result with
      | .error f => .error f
      | .ok (some emitted) => .ok (some emitted)
      | .ok none => (entry fs specifier dir es ignoreExports).result) ∧
    ∀ f, (entry fs specifier dir ds ignoreExports).result = .error f ↔
      Manifest.load fs dir = .error f ∧
        (ignoreExports = true ∧ fs.isFile (dir.join Manifest.fileName) = true ∨
          ∃ before field rules after, ds = before ++ .manifestField field rules :: after ∧
            (entry fs specifier dir before ignoreExports).result = .ok none) :=
  ⟨entry_append specifier ds es ignoreExports, fun _ => entry_eq_error_iff⟩

/-- A package with a file, and without a manifest. -/
def unlisted : FileSystem :=
  ⟨⟨[(["d"], .directory 0o755), (["index.js", "d"], .file [] 0o644)]⟩, []⟩

example : (entry unlisted "p" ⟨"/d"⟩
      [.literalPath "index" [.keep ".js"], .manifestField "main" []] false).result =
        .ok (some "p/index.js") ∧
    (entry unlisted "p" ⟨"/d"⟩
      [.manifestField "main" [], .literalPath "index" [.keep ".js"]] false).result =
        .error (.manifestUnreadable ⟨"/d/package.json"⟩ .notFound) := by
  decide +kernel

end ImportResolver.Package
