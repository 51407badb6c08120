import ImportResolver.Path.Basic
import Mathlib.Data.List.Basic
/- Joining a path with a text, and lengthening what comes of it. Absolute paths keep the slash in
front. -/
namespace ImportResolver.Path

variable {p : Path} {text s : String}

theorem isAbsolute_append (h : text ≠ "") (s : String) :
    (Path.mk (text ++ s)).isAbsolute = (Path.mk text).isAbsolute := by
  have hne : text.toList ≠ [] := by simpa using h
  rw [isAbsolute, isAbsolute, String.toList_append, List.head?_append_of_ne_nil _ hne]

/-- A text behind a slash is relative if it does not begin with another one. -/
theorem isAbsolute_of_startsWith {front : String}
    (h : Text.startsWith (front ++ "/" ++ s) (front ++ "//") = false) :
    (Path.mk s).isAbsolute = false := by
  rw [Bool.eq_false_iff, ne_eq, isAbsolute, decide_eq_true_eq]
  intro hslash
  obtain ⟨rest, hrest⟩ := List.head?_eq_some_iff.mp hslash
  have hdouble : front ++ "/" ++ s = front ++ "//" ++ String.ofList rest := by
    rw [← String.toList_inj]
    simp [hrest]
  rw [Text.startsWith_iff.mpr ⟨_, hdouble⟩] at h
  cases h

/-- Lengthening a text before it is joined is lengthening the path. -/
theorem join_append (p : Path) (h : text ≠ "") (s : String) :
    p.join (text ++ s) = (p.join text).append s := by
  rw [join, join, isAbsolute_append h]
  split_ifs with halone hslash
  · rfl
  · exact congrArg Path.mk (String.append_assoc ..).symm
  · exact congrArg Path.mk (String.append_assoc ..).symm

theorem append_append (p : Path) (s t : String) : (p.append s).append t = p.append (s ++ t) :=
  congrArg Path.mk (String.append_assoc ..)

theorem join_text_ne_empty (p : Path) (h : text ≠ "") : (p.join text).text ≠ "" := by
  rw [join]
  split_ifs with halone hslash
  · exact h
  · simp [h]
  · simp [h]

/-- A relative text comes behind a slash: one that is there, or a new one. -/
theorem join_of_relative (hp : p.text ≠ "") (h : (Path.mk text).isAbsolute = false) :
    p.join text = if Text.endsWith p.text "/" then p.append text else p.append ("/" ++ text) := by
  rw [join, h, if_neg (by simp [hp])]
  split_ifs
  · rfl
  · exact congrArg Path.mk (String.append_assoc ..)

/-- A text in front of which a path may be broken off: it is empty or ends in a slash. -/
def IsFront (front : String) : Prop := front = "" ∨ ∃ q, front = q ++ "/"

theorem exists_join_front (p : Path) (h : (Path.mk text).isAbsolute = false) :
    ∃ front, IsFront front ∧ p.join text = ⟨front ++ text⟩ := by
  by_cases hp : p.text = ""
  · exact ⟨"", .inl rfl, by simp [join, hp]⟩
  · rw [join_of_relative hp h]
    split_ifs with hslash
    · obtain ⟨q, hq⟩ := Text.endsWith_iff.mp hslash
      exact ⟨p.text, .inr ⟨q, hq⟩, rfl⟩
    · exact ⟨p.text ++ "/", .inr ⟨p.text, rfl⟩, congrArg Path.mk (String.append_assoc ..).symm⟩

/-- What ends a joined path ends the text that was joined, or reaches back over the slash in front of
it. -/
theorem ends_of_join {stem source : String} (h : (p.join text).text = stem ++ source) :
    (∃ front, text = front ++ source) ∨ ∃ front, source = front ++ ("/" ++ text) := by
  by_cases hrelative : (Path.mk text).isAbsolute = true
  · rw [join, if_pos (by simp [hrelative])] at h
    exact .inl ⟨stem, h⟩
  · obtain ⟨lead, hlead, hjoin⟩ := p.exists_join_front (by simpa using hrelative)
    rw [hjoin] at h
    have hlists : lead.toList ++ text.toList = stem.toList ++ source.toList := by
      simpa using congrArg String.toList h
    rcases List.append_eq_append_iff.mp hlists with ⟨between, -, htext⟩ | ⟨between, hbetween, hsource⟩
    · exact .inl ⟨String.ofList between, by simp [← String.toList_inj, htext]⟩
    · -- The source begins in what the text was joined to: behind all of it, or before its slash.
      rcases List.eq_nil_or_concat' between with rfl | ⟨init, last, rfl⟩
      · exact .inl ⟨"", by simpa [← String.toList_inj, eq_comm] using hsource⟩
      · rcases hlead with rfl | ⟨q, rfl⟩
        · simp at hbetween
        · obtain rfl : '/' = last := by simpa using congrArg List.getLast? hbetween
          exact .inr ⟨String.ofList init, by simp [← String.toList_inj, hsource]⟩

/-- A path that a text is joined to ends as the text does. -/
theorem endsWith_of_join (p : Path) (h : text ≠ "")
    (hslash : Text.endsWith (p.join text).text "/" = true) : Text.endsWith text "/" = true := by
  obtain ⟨stem, hstem⟩ := Text.endsWith_iff.mp hslash
  rcases ends_of_join hstem with hends | ⟨front, hfront⟩
  · exact Text.endsWith_iff.mpr hends
  · have hlists := congrArg (List.length ∘ String.toList) hfront
    have hlength : 0 < text.toList.length := List.length_pos_iff.mpr (by simpa using h)
    simp at hlists hlength
    omega

theorem exists_of_isAbsolute (h : p.isAbsolute = true) : ∃ rest, p.text.toList = '/' :: rest := by
  rw [isAbsolute, decide_eq_true_eq] at h
  exact List.head?_eq_some_iff.mp h

theorem text_ne_empty_of_isAbsolute (h : p.isAbsolute = true) : p.text ≠ "" := by
  obtain ⟨rest, hrest⟩ := exists_of_isAbsolute h
  intro hempty
  rw [hempty] at hrest
  cases hrest

theorem append_isAbsolute (h : p.isAbsolute = true) (s : String) :
    (p.append s).isAbsolute = true := by
  rw [append, isAbsolute_append (text_ne_empty_of_isAbsolute h)]
  exact h

/-- A text that is absolute itself takes the place of the path that it is joined to. -/
theorem join_isAbsolute (h : p.isAbsolute = true) (s : String) : (p.join s).isAbsolute = true := by
  by_cases hs : (Path.mk s).isAbsolute = true
  · rw [join, if_pos (by simp [hs])]
    exact hs
  · rw [join_of_relative (text_ne_empty_of_isAbsolute h) (by simpa using hs)]
    split
    · exact append_isAbsolute h s
    · exact append_isAbsolute h ("/" ++ s)

end ImportResolver.Path
