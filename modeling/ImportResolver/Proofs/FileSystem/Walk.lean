import ImportResolver.Proofs.FileSystem.Location
import ImportResolver.Proofs.Path.Joining
/- Walks along paths that share their front. What can be walked past is a directory, and slashes
that follow one another count as one. -/
namespace ImportResolver.FileSystem

/-- The names in a path that are not empty. -/
def parts (path : String) : List String :=
  ((Text.runs '/' path.toList).filter (· ≠ [])).map String.ofList

theorem names_slash (front rest : String) :
    names (front ++ "/" ++ rest) = parts front ++ names rest := by
  have hruns : Text.runs '/' (front ++ "/" ++ rest).toList =
      Text.runs '/' front.toList ++ Text.runs '/' rest.toList := by
    rw [← Text.runs_append]
    simp
  have hlast : (Text.runs '/' front.toList ++ Text.runs '/' rest.toList).getLast? =
      (Text.runs '/' rest.toList).getLast? := by
    rw [List.getLast?_append, List.getLast?_eq_some_getLast (Text.runs_ne_nil '/' rest.toList)]
    rfl
  simp only [names, parts, hruns, hlast, List.filter_append, List.map_append, List.append_assoc]

theorem parts_slash (front : String) : parts (front ++ "/") = parts front := by
  have hruns : Text.runs '/' (front ++ "/").toList = Text.runs '/' front.toList ++ [[]] := by
    rw [String.toList_append]
    exact Text.runs_append '/' front.toList []
  simp only [parts, hruns, List.filter_append]
  simp

theorem names_eq (path : String) :
    names path = parts path ∨ names path = parts path ++ ["."] := by
  rw [names, parts]
  split
  · exact .inr rfl
  · exact .inl (List.append_nil _)

variable {t : Tree} {enter : Location → List String → Except Fault Location} {loc out : Location}
  {front rest : List String} {name : String}

/-- What a walk does with a name: it fails, or else it stands in a directory and goes on from some
place, or enters a link there. -/
theorem Tree.walkWith_cases (t : Tree) (enter : Location → List String → Except Fault Location)
    (loc : Location) (name : String) :
    (∃ fault, ∀ rest, t.walkWith true enter loc (name :: rest) = .error fault) ∨
      (t.get? loc).any Node.isDirectory = true ∧
        ((∃ next, ∀ rest, t.walkWith true enter loc (name :: rest) =
            t.walkWith true enter next rest) ∨
          ∃ next target, ∀ rest, t.walkWith true enter loc (name :: rest) =
            enter next (names target ++ rest)) := by
  by_cases hdir : (t.get? loc).any Node.isDirectory = true
  · by_cases hdot : name = "."
    · exact .inr ⟨hdir, .inl ⟨loc, fun rest => by simp [walkWith, hdir, hdot]⟩⟩
    · by_cases hup : name = ".."
      · exact .inr ⟨hdir, .inl ⟨loc.tail, fun rest => by simp [walkWith, hdir, hup]⟩⟩
      · by_cases hsize : maxName < name.utf8ByteSize
        · exact .inl ⟨.nameTooLong, fun rest => by simp [walkWith, hdir, hdot, hup, hsize]⟩
        · cases hn : t.get? (name :: loc) with
          | none =>
              exact .inl ⟨.notFound, fun rest => by simp [walkWith, hdir, hdot, hup, hsize, hn]⟩
          | some n =>
              refine .inr ⟨hdir, ?_⟩
              cases n with
              | link target =>
                  exact .inr ⟨if isAbsolute target then [] else loc, target, fun rest => by
                    simp [walkWith, hdir, hdot, hup, hsize, hn]⟩
              | file bytes mode =>
                  exact .inl ⟨name :: loc, fun rest => by
                    simp [walkWith, hdir, hdot, hup, hsize, hn]⟩
              | directory mode =>
                  exact .inl ⟨name :: loc, fun rest => by
                    simp [walkWith, hdir, hdot, hup, hsize, hn]⟩
              | device kind mode =>
                  exact .inl ⟨name :: loc, fun rest => by
                    simp [walkWith, hdir, hdot, hup, hsize, hn]⟩
              | pipe number mode =>
                  exact .inl ⟨name :: loc, fun rest => by
                    simp [walkWith, hdir, hdot, hup, hsize, hn]⟩
              | tool program =>
                  exact .inl ⟨name :: loc, fun rest => by
                    simp [walkWith, hdir, hdot, hup, hsize, hn]⟩
  · exact .inl ⟨.notADirectory, fun rest => by simp [walkWith, hdir]⟩

/-- Names are walked in the same way whatever follows them: to a fault, or to a place from which
the rest is walked. -/
def Tree.Passes (t : Tree) (walk : List String → Except Fault Location) (front : List String) :
    Prop :=
  (∃ fault, ∀ rest, walk (front ++ rest) = .error fault) ∨
    ∃ mid links, ∀ rest, walk (front ++ rest) = t.walk true links mid rest

theorem Tree.walkWith_passes (links : Nat) (he : t.walk true links = t.walkWith true enter)
    (henter : ∀ loc front, t.Passes (enter loc) front) (loc : Location) (front : List String) :
    t.Passes (t.walkWith true enter loc) front := by
  induction front generalizing loc with
  | nil => exact .inr ⟨loc, links, fun rest => by rw [he, List.nil_append]⟩
  | cons name front ih =>
      rcases t.walkWith_cases enter loc name with
        ⟨fault, hstep⟩ | ⟨-, ⟨next, hstep⟩ | ⟨next, target, hstep⟩⟩
      · exact .inl ⟨fault, fun rest => hstep (front ++ rest)⟩
      · simpa only [Passes, List.cons_append, hstep] using ih next
      · simpa only [Passes, List.cons_append, hstep, List.append_assoc] using
          henter next (names target ++ front)

theorem Tree.walk_passes (t : Tree) (links : Nat) (loc : Location) (front : List String) :
    t.Passes (t.walk true links loc) front := by
  induction links generalizing loc front with
  | zero => exact walkWith_passes 0 rfl (fun _ _ => .inl ⟨.tooManyLinks, fun _ => rfl⟩) loc front
  | succ links ih => exact walkWith_passes (links + 1) rfl ih loc front

/-- A walk goes on from where its front leads to. -/
theorem Tree.walk_append {links : Nat} {mid : Location}
    (h : t.walk true links loc front = .ok mid) :
    ∃ left, ∀ rest, t.walk true links loc (front ++ rest) = t.walk true left mid rest := by
  rcases t.walk_passes links loc front with ⟨fault, hfront⟩ | ⟨mid', left, hfront⟩
  · rw [← List.append_nil front, hfront] at h
    cases h
  · obtain ⟨enter, he⟩ := t.walk_eq true left
    rw [← List.append_nil front, hfront, he] at h
    cases h
    exact ⟨left, hfront⟩

/-- What is walked past is a directory. -/
theorem Tree.walk_front {links : Nat}
    (h : t.walk true links loc (front ++ name :: rest) = .ok out) :
    ∃ mid, t.walk true links loc front = .ok mid ∧
      (t.get? mid).any Node.isDirectory = true := by
  rcases t.walk_passes links loc front with ⟨fault, hfront⟩ | ⟨mid, left, hfront⟩
  · rw [hfront] at h
    cases h
  · obtain ⟨enter, he⟩ := t.walk_eq true left
    refine ⟨mid, ?_, ?_⟩
    · have := hfront []
      rw [List.append_nil, he] at this
      exact this
    · rw [hfront, he] at h
      rcases t.walkWith_cases enter mid name with ⟨fault, hstep⟩ | ⟨hdir, -⟩
      · rw [hstep] at h
        cases h
      · exact hdir

/-- From a directory, a dot leads back to it and two dots lead to the one above. -/
theorem Tree.walk_dots {links : Nat} {mid : Location} (h : t.walk true links loc front = .ok mid)
    (hdir : (t.get? mid).any Node.isDirectory = true) :
    t.walk true links loc (front ++ ["."]) = .ok mid ∧
      t.walk true links loc (front ++ [".."]) = .ok mid.tail := by
  obtain ⟨left, hfront⟩ := walk_append h
  obtain ⟨enter, he⟩ := t.walk_eq true left
  rw [hfront, hfront, he]
  simp [walkWith, hdir]

theorem checkPath_eq_ok_iff {p : Path} :
    checkPath p = .ok () ↔
      '\x00' ∉ p.text.toList ∧ p.text ≠ "" ∧ p.text.utf8ByteSize ≤ maxPath := by
  unfold checkPath
  split_ifs with hnul hempty hsize
  · simp at hnul
    simp [hnul]
  · simp [hempty]
  · simp [hsize]
  · simp at hnul
    simp [hnul, hempty, Nat.not_lt.mp hsize]

variable {fs : FileSystem} {p : Path} {s : String}

theorem locate_eq_ok_iff : fs.locate p true = .ok loc ↔
    checkPath p = .ok () ∧
      fs.tree.walk true maxLinks (fs.start p.text) (names p.text) = .ok loc := by
  rw [locate]
  cases hc : checkPath p with
  | error fault => simp [bind, Except.bind]
  | ok u => simp [bind, Except.bind]

theorem checkPath_front (hp : p.text ≠ "") (h : checkPath (p.append s) = .ok ()) :
    checkPath p = .ok () := by
  rw [checkPath_eq_ok_iff] at h ⊢
  simp only [Path.append, String.toList_append, List.mem_append, not_or,
    String.utf8ByteSize_append] at h
  exact ⟨h.1.1, hp, by omega⟩

theorem start_append (fs : FileSystem) (hp : p.text ≠ "") (s : String) :
    fs.start (p.append s).text = fs.start p.text := by
  have hne : p.text.toList ≠ [] := by simpa using hp
  have hhead : (p.append s).text.toList.head? = p.text.toList.head? := by
    rw [Path.append, String.toList_append, List.head?_append_of_ne_nil _ hne]
  rw [start, start, isAbsolute, isAbsolute, hhead]

theorem node?_eq_some_iff {n : Node} : fs.node? p = some n ↔
    ∃ loc, fs.locate p true = .ok loc ∧ fs.tree.get? loc = some n := by
  constructor
  · intro h
    cases hn : fs.node p with
    | error fault =>
        rw [node?, hn] at h
        cases h
    | ok m =>
        rw [node?, hn] at h
        cases h
        exact locate_of_node hn
  · rintro ⟨loc, hloc, hn⟩
    rw [node?, node, hloc]
    simp only [bind, Except.bind, hn]
    rfl

theorem isDirectory_iff : fs.isDirectory p = true ↔
    ∃ loc, fs.locate p true = .ok loc ∧ (fs.tree.get? loc).any Node.isDirectory = true := by
  rw [isDirectory, Option.any_eq_true]
  constructor
  · rintro ⟨n, hn, hdir⟩
    obtain ⟨loc, hloc, hget⟩ := node?_eq_some_iff.mp hn
    exact ⟨loc, hloc, by rw [hget]; exact hdir⟩
  · rintro ⟨loc, hloc, hdir⟩
    obtain ⟨n, hn, hdir⟩ := Option.any_eq_true _ _ |>.mp hdir
    exact ⟨n, node?_eq_some_iff.mpr ⟨loc, hloc, hn⟩, hdir⟩

theorem hasFile_iff : fs.hasFile p = true ↔
    ∃ loc n, fs.locate p true = .ok loc ∧ fs.tree.get? loc = some n ∧ n.isDirectory = false := by
  rw [hasFile, Option.any_eq_true]
  constructor
  · rintro ⟨n, hn, hfile⟩
    obtain ⟨loc, hloc, hget⟩ := node?_eq_some_iff.mp hn
    exact ⟨loc, n, hloc, hget, by simpa using hfile⟩
  · rintro ⟨loc, n, hloc, hget, hfile⟩
    exact ⟨n, node?_eq_some_iff.mpr ⟨loc, hloc, hget⟩, by simpa using hfile⟩

theorem isDirectory_of_hasFile (h : fs.hasFile p = true) : fs.isDirectory p = false := by
  obtain ⟨loc, n, hloc, hn, hfile⟩ := hasFile_iff.mp h
  rw [Bool.eq_false_iff, ne_eq, isDirectory_iff]
  rintro ⟨loc', hloc', hdir⟩
  obtain rfl : loc = loc' := Except.ok.inj (hloc.symm.trans hloc')
  rw [hn, Option.any_some, hfile] at hdir
  cases hdir

theorem names_front {front : String} (h : Path.IsFront front) (rest : String) :
    names (front ++ rest) = parts front ++ names rest := by
  rcases h with rfl | ⟨q, rfl⟩
  · rw [String.empty_append]
    rfl
  · rw [names_slash, parts_slash]

/-- What is there in a directory is found by walking past the directory. -/
theorem locate_front {front : String} (hfront : Path.IsFront front) (rest : String)
    (h : fs.locate ⟨front ++ rest⟩ true = .ok out) :
    ∃ mid, fs.tree.walk true maxLinks (fs.start (front ++ rest)) (parts front) = .ok mid ∧
      (fs.tree.get? mid).any Node.isDirectory = true := by
  have hwalk := (locate_eq_ok_iff.mp h).2
  rw [names_front hfront] at hwalk
  obtain ⟨name, ns, hnames⟩ := List.exists_cons_of_ne_nil (names_ne_nil rest)
  rw [hnames] at hwalk
  exact Tree.walk_front hwalk

/-- A path that ends in a slash leads to a directory. -/
theorem isDirectory_of_slash (h : fs.locate (p.append "/") true = .ok loc) :
    fs.isDirectory (p.append "/") = true := by
  have hfront : Path.IsFront (p.append "/").text := .inr ⟨p.text, rfl⟩
  have hsame : (p.append "/").text ++ "" = (p.append "/").text := String.append_empty
  obtain ⟨mid, hmid, hdir⟩ := locate_front hfront "" (by rw [hsame]; exact h)
  have hwalk := (locate_eq_ok_iff.mp h).2
  rw [← hsame, names_front hfront, show FileSystem.names "" = ["."] by decide,
    (Tree.walk_dots hmid hdir).1] at hwalk
  cases hwalk
  exact isDirectory_iff.mpr ⟨_, h, hdir⟩

/-- What has something below it is a directory. -/
theorem isDirectory_of_below (hp : p.text ≠ "")
    (h : fs.locate (p.append ("/" ++ s)) true = .ok loc) : fs.isDirectory p = true := by
  have hslash : p.text ++ ("/" ++ s) = p.text ++ "/" ++ s := (String.append_assoc ..).symm
  have hcheck := checkPath_front hp (checkPath_of_locate h)
  have hstart := start_append fs hp ("/" ++ s)
  rw [Path.append, hslash] at h hstart
  obtain ⟨mid, hmid, hdir⟩ := locate_front (.inr ⟨p.text, rfl⟩) s h
  rw [parts_slash, hstart] at hmid
  refine isDirectory_iff.mpr ⟨mid, locate_eq_ok_iff.mpr ⟨hcheck, ?_⟩, hdir⟩
  -- A slash at the end of the path only asks once more for a directory.
  rcases names_eq p.text with hnames | hnames
  · rw [hnames, hmid]
  · rw [hnames, (Tree.walk_dots hmid hdir).1]

/-- One or two dots behind a front lead to a directory, if anything that begins with them is there
at all. -/
theorem isDirectory_dots (ht : fs.tree.WellFormed) {front dots : String}
    (hfront : Path.IsFront front) (hdots : dots = "." ∨ dots = "..")
    (h : fs.locate ⟨front ++ dots ++ s⟩ true = .ok loc) :
    fs.isDirectory ⟨front ++ dots⟩ = true := by
  have hne : (Path.mk (front ++ dots)).text ≠ "" := by
    rcases hdots with rfl | rfl <;> simp
  have hcheck := checkPath_front hne (checkPath_of_locate h)
  have hstart := start_append fs hne s
  rw [Path.append] at hstart
  rw [String.append_assoc] at h hstart
  obtain ⟨mid, hmid, hdir⟩ := locate_front hfront (dots ++ s) h
  rw [hstart] at hmid
  have hends := Tree.walk_dots hmid hdir
  rw [isDirectory_iff]
  rcases hdots with rfl | rfl
  · refine ⟨mid, locate_eq_ok_iff.mpr ⟨hcheck, ?_⟩, hdir⟩
    rw [names_front hfront]
    exact hends.1
  · refine ⟨mid.tail, locate_eq_ok_iff.mpr ⟨hcheck, ?_⟩, ht.isDirectory_tail hdir⟩
    rw [names_front hfront]
    exact hends.2

/-- A slash more changes nothing, as long as the path is not too long. -/
theorem locate_slashes {q : String} (h : fs.locate ⟨q ++ "/" ++ s⟩ true = .ok loc)
    (hsize : (q ++ "/" ++ ("/" ++ s)).utf8ByteSize ≤ maxPath) :
    fs.locate ⟨q ++ "/" ++ ("/" ++ s)⟩ true = .ok loc := by
  obtain ⟨hcheck, hwalk⟩ := locate_eq_ok_iff.mp h
  have hne : (Path.mk (q ++ "/")).text ≠ "" := by simp
  have hfront : Path.IsFront (q ++ "/") := .inr ⟨q, rfl⟩
  have hstart := start_append fs hne s
  have hstart' := start_append fs hne ("/" ++ s)
  rw [Path.append] at hstart hstart'
  refine locate_eq_ok_iff.mpr ⟨checkPath_eq_ok_iff.mpr ⟨?_, by simp, hsize⟩, ?_⟩
  · simpa [String.toList_append] using (checkPath_eq_ok_iff.mp hcheck).1
  · rw [hstart, names_front hfront] at hwalk
    rw [hstart', ← String.append_assoc, names_slash, parts_slash]
    rw [parts_slash] at hwalk
    exact hwalk

/-- A relative text that is joined may just as well be put behind a slash. -/
theorem locate_join (hp : p.text ≠ "") (hs : (Path.mk s).isAbsolute = false)
    (hsize : Text.endsWith p.text "/" = true →
      (p.append ("/" ++ s)).text.utf8ByteSize ≤ maxPath)
    (h : fs.locate (p.join s) true = .ok loc) : fs.locate (p.append ("/" ++ s)) true = .ok loc := by
  rw [Path.join_of_relative hp hs] at h
  split_ifs at h with hslash
  · obtain ⟨q, hq⟩ := Text.endsWith_iff.mp hslash
    have hsize := hsize hslash
    rw [Path.append, hq] at h hsize ⊢
    exact locate_slashes h hsize
  · exact h

theorem hasFile_join (hp : p.text ≠ "") (hs : (Path.mk s).isAbsolute = false)
    (hsize : Text.endsWith p.text "/" = true →
      (p.append ("/" ++ s)).text.utf8ByteSize ≤ maxPath)
    (h : fs.hasFile (p.join s) = true) :
    fs.hasFile (p.append ("/" ++ s)) = true ∧
      fs.locate (p.append ("/" ++ s)) true = fs.locate (p.join s) true := by
  obtain ⟨loc, n, hloc, hn, hnode⟩ := hasFile_iff.mp h
  have hbelow := locate_join hp hs hsize hloc
  exact ⟨hasFile_iff.mpr ⟨loc, n, hbelow, hn, hnode⟩, hbelow.trans hloc.symm⟩

end ImportResolver.FileSystem
