import ImportResolver.Proofs.FileSystem.Walk
import ImportResolver.Proofs.Path.Ascent
/- Trees without symbolic links. In such a tree the components of a path tell by themselves where the
path leads: names lead down, and `..` leads up. -/
namespace ImportResolver.FileSystem

def Tree.LinkFree (t : Tree) : Prop := ∀ loc target, t.get? loc ≠ some (.link target)

/-- Where a component leads from a directory. -/
def next (loc : Location) : Path.Component → Location
  | .up => loc.tail
  | .name text => text :: loc
  | .root => loc
  | .here => loc

/-- Where a path leads without links, if it leads anywhere. -/
def destination (fs : FileSystem) (p : Path) : Location :=
  p.components.foldl next (fs.start p.text)

/-- Where a name in the text of a path leads from a directory. -/
def nextName (loc : Location) (name : String) : Location :=
  if name = "." then loc else if name = ".." then loc.tail else name :: loc

/-- The names that runs write. -/
def filled (runs : List (List Char)) : List String := (runs.filter (· ≠ [])).map String.ofList

theorem filled_append (rs ss : List (List Char)) : filled (rs ++ ss) = filled rs ++ filled ss := by
  rw [filled, List.filter_append, List.map_append]
  rfl

theorem filled_cons {r : List Char} (h : r ≠ []) (rs : List (List Char)) :
    filled (r :: rs) = String.ofList r :: filled rs := by
  rw [filled, List.filter_cons_of_pos (by simpa using h)]
  rfl

theorem foldl_filled (rs : List (List Char)) (loc : Location) :
    (filled rs).foldl nextName loc = (rs.filterMap Path.component?).foldl next loc := by
  induction rs generalizing loc with
  | nil => rfl
  | cons r rs ih =>
      by_cases hempty : r = []
      · subst hempty
        exact ih loc
      · rw [filled_cons hempty, List.foldl_cons, ih]
        by_cases hdot : r = ['.']
        · subst hdot
          rfl
        · by_cases hup : r = ['.', '.']
          · subst hup
            rfl
          · have hname : Path.component? r = some (.name (String.ofList r)) := by
              simp [Path.component?, Path.isTrivial, hempty, hdot, hup]
            have hnext : nextName loc (String.ofList r) = String.ofList r :: loc := by
              simp [nextName, ← String.toList_inj, hdot, hup]
            rw [List.filterMap_cons_some hname, List.foldl_cons, hnext]
            rfl

/-- The names in a path are a dot in front, if there is one, and those of its body. -/
theorem parts_eq (path : String) :
    parts path = (if Path.anchor path.toList = ['.'] then ["."] else []) ++
      filled (Path.segments path.toList) := by
  change filled (Text.runs '/' path.toList) = _
  rw [Path.segments]
  unfold Path.anchor
  split <;> simp_all [Text.runs, filled]

theorem foldl_parts (fs : FileSystem) (p : Path) :
    (parts p.text).foldl nextName (fs.start p.text) = fs.destination p := by
  rw [parts_eq, List.foldl_append, foldl_filled, destination, Path.components]
  rcases Path.anchor_cases p.text.toList with h | h | h
  · simp [h, next]
  · simp [h, next, nextName]
  · simp [h]

/-- A path that is broken off behind some of its segments has these and no others. -/
theorem filled_broken_off {cs : List Char} {kept rest : List (List Char)}
    (hsegments : Path.segments cs = kept ++ rest)
    (hanchor : Path.anchor (Path.anchor cs ++ Text.joinRuns '/' kept) = Path.anchor cs) :
    filled (Path.segments (Path.anchor cs ++ Text.joinRuns '/' kept)) = filled kept := by
  rw [Path.segments, hanchor, List.drop_left]
  by_cases hkept : kept = []
  · subst hkept
    rfl
  · rw [Text.runs_joinRuns hkept fun r hr => ?_]
    have hmem : r ∈ Path.segments cs := hsegments ▸ List.mem_append_left rest hr
    exact Text.sep_not_mem_of_mem_runs hmem

theorem broken_off_prefix {cs : List Char} {kept rest : List (List Char)}
    (hsegments : Path.segments cs = kept ++ rest) (hrest : rest ≠ []) :
    Path.anchor cs ++ Text.joinRuns '/' kept <+: cs := by
  have hbody : Text.joinRuns '/' (kept ++ rest) = cs.drop (Path.anchor cs).length := by
    rw [← hsegments]
    exact Text.joinRuns_runs '/' _
  conv_rhs => rw [← Path.anchor_append_drop cs, ← hbody]
  by_cases hkept : kept = []
  · subst hkept
    exact (List.prefix_append_right_inj _).mpr List.nil_prefix
  · rw [Text.joinRuns_append hkept hrest]
    exact (List.prefix_append_right_inj _).mpr (List.prefix_append _ _)

/-- What is above a path is a front of it, and there are names behind that. -/
theorem exists_parts_parent? {p q : Path} (h : p.parent? = some q) :
    (∃ name more, parts p.text = parts q.text ++ name :: more) ∧
      ∃ rest, p.text = q.text ++ rest := by
  rcases p.parent?_cases with
    ⟨kept, idle, last, after, hsegments, hidle, hlast, hafter, hkept, hparent⟩ | ⟨hall, hparent⟩
  · cases hparent.symm.trans h
    obtain ⟨hanchor, -⟩ := Path.broken_off hsegments (by simp) hkept
    constructor
    · have hlastne : last ≠ [] := by
        rintro rfl
        cases hlast
      obtain ⟨name, more, hmore⟩ :=
        List.exists_cons_of_ne_nil (l := filled idle ++ filled (last :: after))
          (by simp [filled_cons hlastne])
      refine ⟨name, more, ?_⟩
      rw [parts_eq, parts_eq, String.toList_ofList, hanchor, filled_broken_off hsegments hanchor,
        hsegments, filled_append, filled_append, hmore, List.append_assoc]
    · obtain ⟨rest, hrest⟩ := broken_off_prefix hsegments (by simp)
      exact ⟨String.ofList rest, by simp [← String.toList_inj, hrest]⟩
  · rw [hparent] at h
    split_ifs at h with hdot
    cases h
    exact ⟨⟨".", _, by rw [parts_eq, if_pos hdot]; rfl⟩, p.text, by simp⟩

variable {t : Tree} {fs : FileSystem} {p q : Path} {loc out : Location} {names : List String}

theorem Tree.LinkFree.of_walkWith (h : t.LinkFree)
    {enter : Location → List String → Except Fault Location}
    (hwalk : t.walkWith true enter loc names = .ok out) : out = names.foldl nextName loc := by
  induction names generalizing loc with
  | nil => exact (Except.ok.inj hwalk).symm
  | cons name names ih =>
      simp only [walkWith, Bool.not_true, Bool.and_false, Bool.false_eq_true, if_false] at hwalk
      rw [List.foldl_cons]
      split_ifs at hwalk with hdir hdot hup hsize
      · rw [nextName, if_pos hdot]
        exact ih hwalk
      · rw [nextName, if_neg hdot, if_pos hup]
        exact ih hwalk
      · rw [nextName, if_neg hdot, if_neg hup]
        split at hwalk
        · cases hwalk
        · next target hlink => exact absurd hlink (h _ _)
        · exact ih hwalk

theorem Tree.LinkFree.of_walk (h : t.LinkFree) {links : Nat}
    (hwalk : t.walk true links loc names = .ok out) : out = names.foldl nextName loc := by
  obtain ⟨enter, he⟩ := t.walk_eq true links
  exact h.of_walkWith (he ▸ hwalk)

/-- A directory is there, and the path leaves room for a name in it. -/
structure Enters (fs : FileSystem) (p : Path) (room : Nat) : Prop where
  walk : fs.tree.walk true maxLinks (fs.start p.text) (parts p.text) = .ok (fs.destination p)
  isDirectory : (fs.tree.get? (fs.destination p)).any Node.isDirectory = true
  noNul : '\x00' ∉ p.text.toList
  size : p.text.utf8ByteSize + 1 + room ≤ maxPath

theorem start_parent? (h : p.parent? = some q) : fs.start q.text = fs.start p.text := by
  have habsolute := Path.isAbsolute_parent? h
  rw [start, start]
  exact congrArg (fun b : Bool => if b then [] else fs.cwd) habsolute

/-- From a path that leads to a directory, all paths above lead to directories. -/
theorem Enters.parent? {room : Nat} (hfree : fs.tree.LinkFree) (h : fs.Enters p room)
    (hq : p.parent? = some q) : fs.Enters q room := by
  obtain ⟨⟨name, more, hparts⟩, rest, htext⟩ := exists_parts_parent? hq
  have hwalk := h.walk
  rw [hparts, ← start_parent? hq] at hwalk
  obtain ⟨mid, hmid, hdir⟩ := Tree.walk_front hwalk
  obtain rfl : mid = fs.destination q := (hfree.of_walk hmid).trans (foldl_parts fs q)
  have hnul := h.noNul
  have hsize := h.size
  rw [htext] at hnul hsize
  rw [String.utf8ByteSize_append] at hsize
  exact ⟨hmid, hdir, fun hmem => hnul (by simp [hmem]), by omega⟩

/-- A path to a directory leads where its components lead. -/
theorem enters_of_locate {room : Nat} (hfree : fs.tree.LinkFree) (h : fs.locate p true = .ok loc)
    (hdir : (fs.tree.get? loc).any Node.isDirectory = true)
    (hsize : p.text.utf8ByteSize + 1 + room ≤ maxPath) :
    fs.Enters p room ∧ loc = fs.destination p := by
  obtain ⟨hcheck, hwalk⟩ := locate_eq_ok_iff.mp h
  have hnul := (checkPath_eq_ok_iff.mp hcheck).1
  rcases names_eq p.text with hnames | hnames
  · rw [hnames] at hwalk
    obtain rfl : loc = fs.destination p := (hfree.of_walk hwalk).trans (foldl_parts fs p)
    exact ⟨⟨hwalk, hdir, hnul, hsize⟩, rfl⟩
  · rw [hnames] at hwalk
    obtain ⟨mid, hmid, hmiddir⟩ := Tree.walk_front hwalk
    rw [(Tree.walk_dots hmid hmiddir).1] at hwalk
    cases hwalk
    obtain rfl : loc = fs.destination p := (hfree.of_walk hmid).trans (foldl_parts fs p)
    exact ⟨⟨hmid, hdir, hnul, hsize⟩, rfl⟩

theorem ProperName.isAbsolute {s : String} (h : ProperName s) :
    (Path.mk s).isAbsolute = false := by
  rw [Bool.eq_false_iff, ne_eq]
  intro habsolute
  obtain ⟨rest, hrest⟩ := Path.exists_of_isAbsolute habsolute
  exact h.noSlash (hrest ▸ List.mem_cons_self)

theorem ProperName.names_eq {s : String} (h : ProperName s) : FileSystem.names s = [s] := by
  rw [FileSystem.names, Text.runs_of_not_mem h.noSlash]
  simp [h.nonempty]

/-- A name that is joined to a path comes behind the names in the path. -/
theorem names_join (p : Path) {s : String} (h : ProperName s) :
    FileSystem.names (p.join s).text = parts p.text ++ [s] := by
  by_cases hp : p.text = ""
  · rw [Path.join, if_pos (by simp [hp]), hp, h.names_eq]
    rfl
  · rw [Path.join_of_relative hp h.isAbsolute, ← h.names_eq]
    split_ifs with hslash
    · obtain ⟨q, hq⟩ := Text.endsWith_iff.mp hslash
      rw [Path.append, hq, names_slash, parts_slash]
    · rw [Path.append, ← String.append_assoc, names_slash]

theorem start_join (fs : FileSystem) (p : Path) {s : String} (h : ProperName s) :
    fs.start (p.join s).text = fs.start p.text := by
  by_cases hp : p.text = ""
  · have hs : FileSystem.isAbsolute s = false := h.isAbsolute
    rw [Path.join, if_pos (by simp [hp]), hp, start, start, hs]
    rfl
  · rw [Path.join_of_relative hp h.isAbsolute]
    split_ifs
    · exact start_append fs hp s
    · exact start_append fs hp ("/" ++ s)

theorem Enters.checkPath_join {s : String} (h : fs.Enters p s.utf8ByteSize) (hs : ProperName s) :
    checkPath (p.join s) = .ok () := by
  have hne : s ≠ "" := fun e => hs.nonempty (by simp [e])
  rw [checkPath_eq_ok_iff]
  refine ⟨?_, p.join_text_ne_empty hne, ?_⟩
  · rw [Path.join]
    split_ifs <;> simp [h.noNul, hs.noNul]
  · have hsize := h.size
    have hslash : "/".utf8ByteSize = 1 := rfl
    rw [Path.join]
    split_ifs
    · exact Nat.le_trans (Nat.le_add_left ..) hsize
    · rw [String.utf8ByteSize_append]
      omega
    · rw [String.utf8ByteSize_append, String.utf8ByteSize_append]
      omega

/-- Joining a name to the path of a directory leads to what has that name there. -/
theorem Enters.locate_join {s : String} (hfree : fs.tree.LinkFree)
    (h : fs.Enters p s.utf8ByteSize) (hs : ProperName s) :
    fs.locate (p.join s) true =
      if (fs.tree.get? (s :: fs.destination p)).isSome then .ok (s :: fs.destination p)
      else .error .notFound := by
  obtain ⟨left, hleft⟩ := Tree.walk_append h.walk
  obtain ⟨enter, he⟩ := fs.tree.walk_eq true left
  rw [locate, h.checkPath_join hs, names_join p hs, start_join fs p hs]
  change fs.tree.walk true maxLinks _ _ = _
  rw [hleft, he]
  cases hn : fs.tree.get? (s :: fs.destination p) with
  | none =>
      rw [Tree.walkWith, if_neg (by simp [h.isDirectory]), if_neg hs.ne_dot, if_neg hs.ne_up,
        if_neg (Nat.not_lt.mpr hs.size), hn]
      rfl
  | some n =>
      rw [Tree.walkWith_step [] h.isDirectory hs hn fun target hlink => hfree _ _ (hlink ▸ hn)]
      rfl

theorem Enters.isFile_join {s : String} (hfree : fs.tree.LinkFree)
    (h : fs.Enters p s.utf8ByteSize) (hs : ProperName s) :
    fs.isFile (p.join s) = (fs.tree.get? (s :: fs.destination p)).any Node.isFile := by
  rw [isFile, node?, node, h.locate_join hfree hs]
  cases hn : fs.tree.get? (s :: fs.destination p) with
  | none => rfl
  | some n => simp [bind, Except.bind, hn, Except.toOption]

end ImportResolver.FileSystem
