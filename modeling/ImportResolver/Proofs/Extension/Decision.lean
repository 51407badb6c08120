import ImportResolver.Proofs.Extension.Search
/- What a search comes to in each case, and how little of the file system it depends on: the base,
and the candidates up to the first with which there is a file. -/
namespace ImportResolver.Extension

/-- The first of some items with a property. -/
def IsFirst {α : Type} (p : α → Prop) (xs : List α) (x : α) : Prop :=
  p x ∧ ∃ before after, xs = before ++ x :: after ∧ ∀ y ∈ before, ¬ p y

theorem find?_eq_some_iff_isFirst {α : Type} {p : α → Bool} {xs : List α} {x : α} :
    xs.find? p = some x ↔ IsFirst (fun y => p y = true) xs x := by
  simp [List.find?_eq_some_iff_append, IsFirst]

theorem IsFirst.unique {α : Type} {p : α → Prop} {xs : List α} {x y : α} (hx : IsFirst p xs x)
    (hy : IsFirst p xs y) : x = y := by
  classical
  have hfind (z : α) : xs.find? (fun y => decide (p y)) = some z ↔ IsFirst p xs z := by
    rw [find?_eq_some_iff_isFirst]
    simp only [decide_eq_true_eq]
  exact Option.some.inj (((hfind x).mpr hx).symm.trans ((hfind y).mpr hy))

theorem IsFirst.mem {α : Type} {p : α → Prop} {xs : List α} {x : α} (h : IsFirst p xs x) :
    x ∈ xs := by
  obtain ⟨-, before, after, rfl, -⟩ := h
  simp

theorem IsFirst.of_imp {α : Type} {p q : α → Prop} {xs : List α} {x : α} (h : IsFirst p xs x)
    (hx : q x) (himp : ∀ y, q y → p y) : IsFirst q xs x := by
  obtain ⟨-, before, after, hxs, hbefore⟩ := h
  exact ⟨hx, before, after, hxs, fun y hy hqy => hbefore y hy (himp y hqy)⟩

/-- The base is a whole file name, and the first extension of the rules that ends it is written as
another. -/
structure Renames (fs : FileSystem) (base : Path) (rules : Rules) (mode : Mode) (c : Candidate) :
    Prop where
  expands : mode = .expand
  present : fs.hasFile base = true
  first : IsFirst (fun e : Candidate => ∃ stem, base.text = stem ++ e.source) rules.candidates c
  renamed : c.source ≠ c.emitted

/-- The base is no whole file name, and the candidate is the first with which there is a file. -/
structure Completes (fs : FileSystem) (base : Path) (rules : Rules) (mode : Mode) (c : Candidate) :
    Prop where
  searches : ¬ (mode = .expand ∧ fs.hasFile base = true)
  first : IsFirst (fun e => fs.hasFile ⟨base.text ++ junction fs base ++ e.source⟩ = true)
    rules.candidates c

/-- The same kind of thing is at the base in both file systems, and, where candidates are tried, at
each that no other comes before in the first. -/
structure AgreeToFirst (fs fs' : FileSystem) (base : Path) (rules : Rules) (mode : Mode) : Prop where
  file : fs.hasFile base = fs'.hasFile base
  directory : fs.isDirectory base = fs'.isDirectory base
  candidates : takesBase fs base mode = false → ∀ before c after,
    rules.candidates = before ++ c :: after →
    (∀ e ∈ before, fs.hasFile ⟨base.text ++ junction fs base ++ e.source⟩ = false) →
    fs.hasFile ⟨base.text ++ junction fs base ++ c.source⟩ =
      fs'.hasFile ⟨base.text ++ junction fs base ++ c.source⟩

variable {fs fs' : FileSystem} {base : Path} {between : String} {rules : Rules} {mode : Mode}

theorem takesBase_iff : takesBase fs base mode = true ↔ mode = .expand ∧ fs.hasFile base = true := by
  simp [takesBase]

theorem takesBase_eq_false_iff :
    takesBase fs base mode = false ↔ ¬ (mode = .expand ∧ fs.hasFile base = true) := by
  rw [← takesBase_iff, Bool.not_eq_true]

theorem firstPresent?_eq_some_iff_completes {c : Candidate} (h : takesBase fs base mode = false) :
    firstPresent? fs base (junction fs base) rules.candidates = some c ↔
      Completes fs base rules mode c := by
  rw [firstPresent?, find?_eq_some_iff_isFirst]
  exact ⟨fun hc => ⟨takesBase_eq_false_iff.mp h, hc⟩, fun hc => hc.first⟩

theorem find?_endsWith_eq_some_iff {c : Candidate} :
    (rules.candidates.find? fun e => Text.endsWith base.text e.source) = some c ↔
      IsFirst (fun e : Candidate => ∃ stem, base.text = stem ++ e.source) rules.candidates c := by
  rw [find?_eq_some_iff_isFirst]
  simp only [Text.endsWith_iff]

/-- A base that is taken for the file is written anew by the first extension that ends it. -/
theorem finding_of_takesBase (h : takesBase fs base mode = true) :
    (∃ c, Renames fs base rules mode c ∧
        finding fs base rules mode = .replace c.source c.emitted) ∨
      (∀ c, ¬ Renames fs base rules mode c) ∧ finding fs base rules mode = .asWritten := by
  obtain ⟨hmode, hbase⟩ := takesBase_iff.mp h
  rw [finding, if_pos h, expanded]
  cases hfind : rules.candidates.find? fun e => Text.endsWith base.text e.source with
  | none =>
      refine .inr ⟨fun c hc => ?_, rfl⟩
      rw [find?_endsWith_eq_some_iff.mpr hc.first] at hfind
      cases hfind
  | some c =>
      by_cases hkept : c.source = c.emitted
      · refine .inr ⟨fun e he => ?_, if_pos hkept⟩
        rw [find?_endsWith_eq_some_iff.mpr he.first] at hfind
        obtain rfl := Option.some.inj hfind
        exact he.renamed hkept
      · exact .inl ⟨c, ⟨hmode, hbase, find?_endsWith_eq_some_iff.mp hfind, hkept⟩, if_neg hkept⟩

/-- Any other goes by the first candidate that is there. -/
theorem finding_of_not_takesBase (h : takesBase fs base mode = false) :
    (∃ c, Completes fs base rules mode c ∧
        finding fs base rules mode = .append (junction fs base ++ c.emitted)) ∨
      (∀ c, ¬ Completes fs base rules mode c) ∧
        finding fs base rules mode = if fs.hasFile base then .asWritten else .nothing := by
  rw [finding, if_neg (by simp [h])]
  cases hfirst : firstPresent? fs base (junction fs base) rules.candidates with
  | some c => exact .inl ⟨c, (firstPresent?_eq_some_iff_completes h).mp hfirst, rfl⟩
  | none =>
      refine .inr ⟨fun c hc => ?_, rfl⟩
      rw [(firstPresent?_eq_some_iff_completes h).mpr hc] at hfirst
      cases hfirst

/-- The four outcomes, each with its cause. -/
theorem finding_cases (fs : FileSystem) (base : Path) (rules : Rules) (mode : Mode) :
    (∃ c, Renames fs base rules mode c ∧
        finding fs base rules mode = .replace c.source c.emitted) ∨
    (∃ c, Completes fs base rules mode c ∧
        finding fs base rules mode = .append (junction fs base ++ c.emitted)) ∨
    (∀ c, ¬ Renames fs base rules mode c ∧ ¬ Completes fs base rules mode c) ∧
      (fs.hasFile base = true ∧ finding fs base rules mode = .asWritten ∨
        fs.hasFile base = false ∧ finding fs base rules mode = .nothing) := by
  cases htakes : takesBase fs base mode with
  | true =>
      have hbase := takesBase_iff.mp htakes
      rcases finding_of_takesBase htakes with hc | ⟨hnone, hfound⟩
      · exact .inl hc
      · exact .inr (.inr ⟨fun c => ⟨hnone c, fun hc => hc.searches hbase⟩, .inl ⟨hbase.2, hfound⟩⟩)
  | false =>
      have hbase := takesBase_eq_false_iff.mp htakes
      rcases finding_of_not_takesBase htakes with hc | ⟨hnone, hfound⟩
      · exact .inr (.inl hc)
      · refine .inr (.inr ⟨fun c => ⟨fun hc => hbase ⟨hc.expands, hc.present⟩, hnone c⟩, ?_⟩)
        cases hfile : fs.hasFile base with
        | true => exact .inl ⟨rfl, by rw [hfound, hfile, if_pos rfl]⟩
        | false => exact .inr ⟨rfl, by rw [hfound, hfile, if_neg (by simp)]⟩

theorem Renames.not_completes {c e : Candidate} (h : Renames fs base rules mode c) :
    ¬ Completes fs base rules mode e :=
  fun he => he.searches ⟨h.expands, h.present⟩

theorem finding_eq_replace_iff {source destination : String} :
    finding fs base rules mode = .replace source destination ↔
      Renames fs base rules mode ⟨source, destination⟩ := by
  rcases finding_cases fs base rules mode with ⟨c, hc, hfound⟩ | ⟨c, hc, hfound⟩ |
    ⟨hnone, ⟨-, hfound⟩ | ⟨-, hfound⟩⟩
  · rw [hfound, Finding.replace.injEq]
    constructor
    · rintro ⟨rfl, rfl⟩
      exact hc
    · intro h
      obtain rfl := hc.first.unique h.first
      exact ⟨rfl, rfl⟩
  · simpa [hfound] using fun h => Renames.not_completes h hc
  · simpa [hfound] using (hnone _).1
  · simpa [hfound] using (hnone _).1

theorem finding_eq_append_iff_completes {suffix : String} :
    finding fs base rules mode = .append suffix ↔
      ∃ c, Completes fs base rules mode c ∧ suffix = junction fs base ++ c.emitted := by
  rcases finding_cases fs base rules mode with ⟨c, hc, hfound⟩ | ⟨c, hc, hfound⟩ |
    ⟨hnone, ⟨-, hfound⟩ | ⟨-, hfound⟩⟩
  · simpa [hfound] using fun e he => absurd he hc.not_completes
  · rw [hfound, Finding.append.injEq]
    constructor
    · exact fun h => ⟨c, hc, h.symm⟩
    · rintro ⟨e, he, rfl⟩
      rw [hc.first.unique he.first]
  · simpa [hfound] using fun e he => absurd he (hnone e).2
  · simpa [hfound] using fun e he => absurd he (hnone e).2

theorem finding_eq_asWritten_iff : finding fs base rules mode = .asWritten ↔
    fs.hasFile base = true ∧
      ∀ c, ¬ Renames fs base rules mode c ∧ ¬ Completes fs base rules mode c := by
  rcases finding_cases fs base rules mode with ⟨c, hc, hfound⟩ | ⟨c, hc, hfound⟩ |
    ⟨hnone, ⟨hbase, hfound⟩ | ⟨hbase, hfound⟩⟩
  · simpa [hfound] using fun _ => ⟨c, fun h => absurd hc h⟩
  · simpa [hfound] using fun _ => ⟨c, fun _ => hc⟩
  · exact ⟨fun _ => ⟨hbase, hnone⟩, fun _ => hfound⟩
  · simp [hfound, hbase]

theorem finding_eq_nothing_iff : finding fs base rules mode = .nothing ↔
    fs.hasFile base = false ∧
      ∀ c, ¬ Renames fs base rules mode c ∧ ¬ Completes fs base rules mode c := by
  rcases finding_cases fs base rules mode with ⟨c, hc, hfound⟩ | ⟨c, hc, hfound⟩ |
    ⟨hnone, ⟨hbase, hfound⟩ | ⟨hbase, hfound⟩⟩
  · simpa [hfound] using fun _ => ⟨c, fun h => absurd hc h⟩
  · simpa [hfound] using fun _ => ⟨c, fun _ => hc⟩
  · simp [hfound, hbase]
  · exact ⟨fun _ => ⟨hbase, hnone⟩, fun _ => hfound⟩

/-- Candidates behind the first that is there are not looked at. -/
theorem search_candidates_congr {candidates : List Candidate}
    (h : ∀ before c after, candidates = before ++ c :: after →
      (∀ e ∈ before, fs.hasFile (candidatePath base between e) = false) →
      fs.hasFile (candidatePath base between c) = fs'.hasFile (candidatePath base between c)) :
    firstPresent? fs base between candidates = firstPresent? fs' base between candidates ∧
      probeSteps fs base between candidates = probeSteps fs' base between candidates := by
  induction candidates with
  | nil => exact ⟨rfl, rfl⟩
  | cons c cs ih =>
      have hc := h [] c cs rfl (fun e he => absurd he List.not_mem_nil)
      cases hfile : fs.hasFile (candidatePath base between c) with
      | true =>
          rw [hfile] at hc
          simp [firstPresent?, probeSteps, hfile, ← hc]
      | false =>
          rw [hfile] at hc
          obtain ⟨hfirst, hsteps⟩ := ih fun before e after hcs hbefore =>
            h (c :: before) e after (by rw [hcs]; rfl) (List.forall_mem_cons.mpr ⟨hfile, hbefore⟩)
          rw [firstPresent?, firstPresent?] at hfirst ⊢
          simp [probeSteps, hfile, ← hc, hfirst, hsteps]

/-- What is elsewhere does not matter, not even to the steps that are recorded. -/
theorem search_eq_of_agreeToFirst (h : AgreeToFirst fs fs' base rules mode) :
    search fs base rules mode = search fs' base rules mode := by
  have htakes : takesBase fs base mode = takesBase fs' base mode := by
    rw [takesBase, takesBase, h.file]
  have hjunction : junction fs base = junction fs' base := by
    rw [junction, junction, h.directory]
  rw [search, search, finding, finding, findingSteps, findingSteps, ← htakes, ← hjunction,
    ← h.file, ← h.directory]
  cases hbase : takesBase fs base mode with
  | true => rfl
  | false =>
      obtain ⟨hfirst, hsteps⟩ := search_candidates_congr (h.candidates hbase)
      rw [hfirst, hsteps]

/-- File systems agree as far as a search looks if they do up to a candidate that is there. -/
theorem AgreeToFirst.of_candidates (hfile : fs.hasFile base = fs'.hasFile base)
    (hdir : fs.isDirectory base = fs'.isDirectory base) {before after : List Candidate}
    {c : Candidate} (hsplit : rules.candidates = before ++ c :: after)
    (hc : fs.hasFile ⟨base.text ++ junction fs base ++ c.source⟩ = true)
    (hagree : ∀ e ∈ before ++ [c], fs.hasFile ⟨base.text ++ junction fs base ++ e.source⟩ =
      fs'.hasFile ⟨base.text ++ junction fs base ++ e.source⟩) :
    AgreeToFirst fs fs' base rules mode := by
  refine ⟨hfile, hdir, fun _ before' e after' hsplit' habsent => ?_⟩
  rcases List.append_eq_append_iff.mp (hsplit.symm.trans hsplit') with
    ⟨_ | ⟨e', es⟩, hbefore, hrest⟩ | ⟨_ | ⟨e', es⟩, hbefore, hrest⟩
  · obtain ⟨rfl, -⟩ := List.cons.inj hrest
    exact hagree c (by simp)
  -- Were the candidate that is there among those before, it would not be there.
  · obtain ⟨rfl, -⟩ := List.cons.inj hrest
    rw [habsent c (by simp [hbefore])] at hc
    cases hc
  · obtain ⟨rfl, -⟩ := List.cons.inj hrest
    exact hagree e (by simp)
  · obtain ⟨rfl, -⟩ := List.cons.inj hrest
    exact hagree e (by simp [hbefore])

theorem junction_of_slash (h : ∃ stem, base.text = stem ++ "/") : junction fs base = "index" := by
  rw [junction, if_pos (Text.endsWith_iff.mpr h)]

theorem junction_of_no_slash (h : ¬ ∃ stem, base.text = stem ++ "/") :
    junction fs base = if fs.isDirectory base then "/index" else "" := by
  rw [junction, if_neg (fun hends => h (Text.endsWith_iff.mp hends))]

/-- The first match decides. A base that is taken for the file is renamed by the first extension
that ends it; else the first candidate that is there is appended, behind a directory that of its
index; else the base stays as it is if it is a file, and nothing is found if it is none. No directory
is accepted, and files that do not come first make no difference. -/
theorem search_decides (fs : FileSystem) (base : Path) (rules : Rules) (mode : Mode) :
    ((∃ stem, base.text = stem ++ "/") → junction fs base = "index") ∧
    ((¬ ∃ stem, base.text = stem ++ "/") →
      (fs.isDirectory base = true → junction fs base = "/index") ∧
      (fs.isDirectory base = false → junction fs base = "")) ∧
    (∃ found, (search fs base rules mode).result = .ok found ∧
      (∀ source destination, found = .replace source destination ↔
        Renames fs base rules mode ⟨source, destination⟩) ∧
      (∀ suffix, found = .append suffix ↔
        ∃ c, Completes fs base rules mode c ∧ suffix = junction fs base ++ c.emitted) ∧
      (found = .asWritten ↔ fs.hasFile base = true ∧
        ∀ c, ¬ Renames fs base rules mode c ∧ ¬ Completes fs base rules mode c) ∧
      (found = .nothing ↔ fs.hasFile base = false ∧
        ∀ c, ¬ Renames fs base rules mode c ∧ ¬ Completes fs base rules mode c)) ∧
    (∀ c, Renames fs base rules mode c → fs.isDirectory base = false) ∧
    (∀ c, Completes fs base rules mode c →
      fs.isDirectory ⟨base.text ++ junction fs base ++ c.source⟩ = false) ∧
    (fs.hasFile base = true → fs.isDirectory base = false) ∧
    ∀ fs', AgreeToFirst fs fs' base rules mode →
      search fs base rules mode = search fs' base rules mode := by
  refine ⟨junction_of_slash, fun hslash => ⟨fun hdir => ?_, fun hdir => ?_⟩,
    ⟨finding fs base rules mode, rfl, ?_, ?_, ?_, ?_⟩, ?_, ?_, ?_, ?_⟩
  · rw [junction_of_no_slash hslash, hdir, if_pos rfl]
  · rw [junction_of_no_slash hslash, hdir, if_neg (by simp)]
  · exact fun source destination => finding_eq_replace_iff
  · exact fun suffix => finding_eq_append_iff_completes
  · exact finding_eq_asWritten_iff
  · exact finding_eq_nothing_iff
  · exact fun c hc => FileSystem.isDirectory_of_hasFile hc.present
  · exact fun c hc => FileSystem.isDirectory_of_hasFile hc.first.1
  · exact FileSystem.isDirectory_of_hasFile
  · exact fun fs' h => search_eq_of_agreeToFirst h

/-- Directories with the names of the first candidates, and files with those of the second. -/
def shadowed : FileSystem :=
  ⟨⟨[(["a.mjs"], .directory 0o755), (["a.js"], .file [] 0o644), (["d"], .directory 0o755),
    (["index.mjs", "d"], .directory 0o755), (["index.js", "d"], .file [] 0o644)]⟩, []⟩

/-- Other files beside these. -/
def cluttered : FileSystem :=
  ⟨⟨[(["a.mjs"], .directory 0o700), (["a.js"], .file [0x0A] 0o600), (["a.ts"], .file [] 0o644),
    (["index.js"], .file [] 0o644), (["d"], .directory 0o700),
    (["index.mjs", "d"], .directory 0o700), (["index.js", "d"], .file [0x0A] 0o600),
    (["index.ts", "d"], .file [] 0o644), (["d.ts"], .file [] 0o644)]⟩, []⟩

def renamingRules : Rules := [.keep ".mjs", ⟨[".js", ".ts"], some ".cjs"⟩]

theorem candidates_renamingRules : renamingRules.candidates =
    [⟨".mjs", ".mjs"⟩] ++ ⟨".js", ".cjs"⟩ :: [⟨".ts", ".cjs"⟩] := rfl

/-- A plain base, a directory, and the same with a slash behind it. -/
def incomplete : List Path := [⟨"/a"⟩, ⟨"/d"⟩, ⟨"/d/"⟩]

theorem completes_shadowed : ∀ base ∈ incomplete,
    Completes shadowed base renamingRules .expand ⟨".js", ".cjs"⟩ := by
  intro base hbase
  have htried : ∀ base ∈ incomplete, shadowed.hasFile base = false ∧
      shadowed.hasFile ⟨base.text ++ junction shadowed base ++ ".js"⟩ = true ∧
      shadowed.hasFile ⟨base.text ++ junction shadowed base ++ ".mjs"⟩ = false := by
    decide +kernel
  obtain ⟨hfile, hjs, hmjs⟩ := htried base hbase
  exact ⟨by simp [hfile], hjs, _, _, candidates_renamingRules, by simp [hmjs]⟩

theorem agreeToFirst_cluttered : ∀ base ∈ incomplete,
    AgreeToFirst shadowed cluttered base renamingRules .expand := by
  intro base hbase
  have htried : ∀ base ∈ incomplete, shadowed.hasFile base = cluttered.hasFile base ∧
      shadowed.isDirectory base = cluttered.isDirectory base ∧
      ∀ extension ∈ [".mjs", ".js"],
        shadowed.hasFile ⟨base.text ++ junction shadowed base ++ extension⟩ =
          cluttered.hasFile ⟨base.text ++ junction shadowed base ++ extension⟩ := by
    decide +kernel
  obtain ⟨hfile, hdir, hagree⟩ := htried base hbase
  exact .of_candidates hfile hdir candidates_renamingRules (completes_shadowed base hbase).first.1
    (by simpa using hagree)

theorem search_decides_cluttered :
    (search shadowed ⟨"/a"⟩ renamingRules .expand).result = .ok (.append ".cjs") ∧
      (search shadowed ⟨"/d"⟩ renamingRules .expand).result = .ok (.append "/index.cjs") ∧
      (search shadowed ⟨"/d/"⟩ renamingRules .expand).result = .ok (.append "index.cjs") ∧
      (search shadowed ⟨"/a.js"⟩ renamingRules .expand).result = .ok (.replace ".js" ".cjs") ∧
      ∀ base ∈ incomplete, AgreeToFirst shadowed cluttered base renamingRules .expand ∧
        search shadowed base renamingRules .expand =
          search cluttered base renamingRules .expand := by
  have happended : ∀ base ∈ incomplete, (search shadowed base renamingRules .expand).result =
      .ok (.append (junction shadowed base ++ ".cjs")) := by
    intro base hbase
    obtain ⟨-, -, ⟨found, hresult, -, happend, -, -⟩, -⟩ :=
      search_decides shadowed base renamingRules .expand
    rw [hresult, (happend _).mpr ⟨_, completes_shadowed base hbase, rfl⟩]
  refine ⟨?_, ?_, ?_, ?_, fun base hbase => ⟨agreeToFirst_cluttered base hbase, ?_⟩⟩
  · obtain ⟨-, hjunction, -⟩ := search_decides shadowed ⟨"/a"⟩ renamingRules .expand
    have hslash : ¬ ∃ stem, "/a" = stem ++ "/" := by
      rw [← Text.endsWith_iff]
      decide +kernel
    rw [happended _ (by decide), (hjunction hslash).2 (by decide +kernel)]
    rfl
  · obtain ⟨-, hjunction, -⟩ := search_decides shadowed ⟨"/d"⟩ renamingRules .expand
    have hslash : ¬ ∃ stem, "/d" = stem ++ "/" := by
      rw [← Text.endsWith_iff]
      decide +kernel
    rw [happended _ (by decide), (hjunction hslash).1 (by decide +kernel)]
    rfl
  · obtain ⟨hjunction, -⟩ := search_decides shadowed ⟨"/d/"⟩ renamingRules .expand
    rw [happended _ (by decide), hjunction ⟨"/d", rfl⟩]
    rfl
  · obtain ⟨-, -, ⟨found, hresult, hreplace, -⟩, -⟩ :=
      search_decides shadowed ⟨"/a.js"⟩ renamingRules .expand
    have hrenames : Renames shadowed ⟨"/a.js"⟩ renamingRules .expand ⟨".js", ".cjs"⟩ := by
      have hends : Text.endsWith "/a.js" ".mjs" = false := by decide +kernel
      refine ⟨rfl, by decide +kernel, ⟨⟨"/a", rfl⟩, _, _, candidates_renamingRules, ?_⟩, by decide⟩
      simp [← Text.endsWith_iff, hends]
    rw [hresult, (hreplace _ _).mpr hrenames]
  · obtain ⟨-, -, -, -, -, -, hagree⟩ := search_decides shadowed base renamingRules .expand
    exact hagree cluttered (agreeToFirst_cluttered base hbase)

end ImportResolver.Extension
