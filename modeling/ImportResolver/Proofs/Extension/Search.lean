import ImportResolver.Extension.Search
import ImportResolver.Proofs.FileSystem.Walk
/- What a search comes to. It goes by the first candidate with which there is a file, and rules that
write what they accept make it name the file that it has found. -/
namespace ImportResolver.Extension

/-- Every extension is written as it was accepted. -/
def Rules.Keeps (rules : Rules) : Prop := ∀ c ∈ rules.candidates, c.emitted = c.source

instance (rules : Rules) : Decidable rules.Keeps :=
  inferInstanceAs (Decidable (∀ c ∈ rules.candidates, c.emitted = c.source))

/-- What a search puts behind a base: the way to the index of a directory, and what a rule gives for
an extension with which there is a file. -/
def IsSuffix (fs : FileSystem) (base : Path) (rules : Rules) (suffix : String) : Prop :=
  ∃ c ∈ rules.candidates, fs.hasFile (candidatePath base (junction fs base) c) = true ∧
    suffix = junction fs base ++ c.emitted

variable {fs : FileSystem} {base : Path} {between : String} {rules : Rules} {mode : Mode}

theorem firstPresent?_eq_some_iff {candidates : List Candidate} {c : Candidate} :
    firstPresent? fs base between candidates = some c ↔
      fs.hasFile (candidatePath base between c) = true ∧
        ∃ before after, candidates = before ++ c :: after ∧
          ∀ e ∈ before, fs.hasFile (candidatePath base between e) = false := by
  simp [firstPresent?, List.find?_eq_some_iff_append]

theorem junction_cases (fs : FileSystem) (base : Path) :
    junction fs base = "" ∨ junction fs base = "index" ∨ junction fs base = "/index" := by
  unfold junction
  split_ifs <;> simp

/-- A file has no index. -/
theorem junction_of_hasFile (h : fs.hasFile base = true) : junction fs base = "" := by
  have hdir := FileSystem.isDirectory_of_hasFile h
  have hslash : Text.endsWith base.text "/" = false := by
    rw [Bool.eq_false_iff, ne_eq, Text.endsWith_iff]
    rintro ⟨q, hq⟩
    obtain ⟨loc, n, hloc, -, -⟩ := FileSystem.hasFile_iff.mp h
    have hbase : base = (Path.mk q).append "/" := congrArg Path.mk hq
    rw [hbase] at hdir hloc
    rw [FileSystem.isDirectory_of_slash hloc] at hdir
    cases hdir
  rw [junction, hslash, hdir]
  rfl

/-- A search that takes the base to lack its extension does not begin with the base itself. -/
theorem finding_complete : finding fs base rules .complete =
    match firstPresent? fs base (junction fs base) rules.candidates with
    | some c => .append (junction fs base ++ c.emitted)
    | none => if fs.hasFile base then .asWritten else .nothing := rfl

/-- A search appends what the first candidate gives whose file is there. -/
theorem finding_eq_append_iff {suffix : String} : finding fs base rules mode = .append suffix ↔
    takesBase fs base mode = false ∧ ∃ c,
      firstPresent? fs base (junction fs base) rules.candidates = some c ∧
        suffix = junction fs base ++ c.emitted := by
  unfold finding
  cases htakes : takesBase fs base mode with
  | true =>
      rw [if_pos rfl, expanded]
      split
      · split_ifs <;> simp
      · simp
  | false =>
      rw [if_neg (by simp)]
      cases firstPresent? fs base (junction fs base) rules.candidates with
      | some c => simp [eq_comm]
      | none => split_ifs <;> simp

theorem finding_append {suffix : String} (h : finding fs base rules mode = .append suffix) :
    IsSuffix fs base rules suffix := by
  obtain ⟨-, c, hc, hsuffix⟩ := finding_eq_append_iff.mp h
  have hmem : c ∈ rules.candidates := List.mem_of_find?_eq_some hc
  exact ⟨c, hmem, (firstPresent?_eq_some_iff.mp hc).1, hsuffix⟩

/-- A rule replaces only the extension of a file that is there as written, by another one. -/
theorem finding_replace {source destination : String}
    (h : finding fs base rules mode = .replace source destination) :
    mode = .expand ∧ fs.hasFile base = true ∧ ⟨source, destination⟩ ∈ rules.candidates ∧
      source ≠ destination := by
  unfold finding at h
  split at h
  · next htakes =>
      obtain ⟨hmode, hbase⟩ := Bool.and_eq_true_iff.mp htakes
      unfold expanded at h
      split at h
      · next c hc =>
          split_ifs at h with hkept
          cases h
          exact ⟨of_decide_eq_true hmode, hbase, List.mem_of_find?_eq_some hc, hkept⟩
      · cases h
  · split at h
    · cases h
    · split_ifs at h

theorem finding_complete_ne_replace (source destination : String) :
    finding fs base rules .complete ≠ .replace source destination :=
  fun h => Mode.noConfusion (finding_replace h).1

theorem finding_ne_replace (hkeeps : rules.Keeps) (source destination : String) :
    finding fs base rules mode ≠ .replace source destination := by
  intro h
  obtain ⟨-, -, hmem, hne⟩ := finding_replace h
  exact hne (hkeeps _ hmem).symm

/-- The file that a search for a base without an extension comes to. -/
def accepted? (fs : FileSystem) (base : Path) (rules : Rules) : Option Path :=
  match firstPresent? fs base (junction fs base) rules.candidates with
  | some c => some (candidatePath base (junction fs base) c)
  | none => if fs.hasFile base then some base else none

theorem hasFile_of_accepted? {file : Path} (h : accepted? fs base rules = some file) :
    fs.hasFile file = true := by
  unfold accepted? at h
  split at h
  · next c hc =>
      cases h
      exact (firstPresent?_eq_some_iff.mp hc).1
  · split_ifs at h with hbase
    cases h
    exact hbase

/-- What a finding puts behind a text. -/
def Finding.added? : Finding → Option String
  | .nothing => none
  | .append suffix => some suffix
  | _ => some ""

/-- Under rules that keep extensions, what is put behind the base makes it name the file. -/
theorem accepted?_eq (hkeeps : rules.Keeps) :
    accepted? fs base rules = (finding fs base rules .complete).added?.map base.append := by
  rw [accepted?, finding_complete]
  cases hc : firstPresent? fs base (junction fs base) rules.candidates with
  | some c =>
      have hmem : c ∈ rules.candidates := List.mem_of_find?_eq_some hc
      simp [Finding.added?, candidatePath, Path.append, hkeeps c hmem, String.append_assoc]
  | none => split_ifs <;> simp [Finding.added?, Path.append]

/-- Where the base is a whole file name, rules that keep extensions leave it as written. -/
theorem finding_expand_of_hasFile (hkeeps : rules.Keeps) (h : fs.hasFile base = true) :
    finding fs base rules .expand = .asWritten := by
  rw [finding, if_pos (by simp [takesBase, h]), expanded]
  split
  · next c hc => rw [if_pos (hkeeps c (List.mem_of_find?_eq_some hc)).symm]
  · rfl

/-- Where it is taken to lack its extension, it stays only if no candidate adds one to it. -/
theorem finding_complete_of_hasFile (h : fs.hasFile base = true) :
    finding fs base rules .complete =
      match firstPresent? fs base "" rules.candidates with
      | some c => .append c.emitted
      | none => .asWritten := by
  rw [finding_complete, junction_of_hasFile h, if_pos h]
  simp only [String.empty_append]

end ImportResolver.Extension
