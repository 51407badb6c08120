/- Runs of characters between separators: cutting a text into runs and joining them back. -/
namespace ImportResolver.Text

/-- `n` separators bound `n + 1` runs, some of them possibly empty. -/
def runs (sep : Char) : List Char → List (List Char)
  | [] => [[]]
  | c :: cs =>
    if c = sep then [] :: runs sep cs
    else
      match runs sep cs with
      | [] => [[c]]
      | r :: rs => (c :: r) :: rs

def joinRuns (sep : Char) : List (List Char) → List Char
  | [] => []
  | [r] => r
  | r :: rs => r ++ sep :: joinRuns sep rs

theorem runs_ne_nil (sep : Char) (cs : List Char) : runs sep cs ≠ [] := by
  induction cs with
  | nil => simp [runs]
  | cons c cs ih =>
    rw [runs]
    split
    · simp
    · split <;> simp

theorem joinRuns_cons {sep : Char} {rs : List (List Char)} (r : List Char) (h : rs ≠ []) :
    joinRuns sep (r :: rs) = r ++ sep :: joinRuns sep rs := by
  cases rs with
  | nil => exact absurd rfl h
  | cons _ _ => rfl

@[simp] theorem joinRuns_runs (sep : Char) (cs : List Char) : joinRuns sep (runs sep cs) = cs := by
  induction cs with
  | nil => rfl
  | cons c cs ih =>
    rw [runs]
    split
    · next h => rw [joinRuns_cons _ (runs_ne_nil sep cs), ih, h]; rfl
    · split
      · next h => exact absurd h (runs_ne_nil sep cs)
      · next r rs h =>
        rw [h] at ih
        cases rs with
        | nil => simpa [joinRuns] using ih
        | cons _ _ => simpa [joinRuns] using ih

theorem joinRuns_append {sep : Char} {a b : List (List Char)} (ha : a ≠ []) (hb : b ≠ []) :
    joinRuns sep (a ++ b) = joinRuns sep a ++ sep :: joinRuns sep b := by
  induction a with
  | nil => exact absurd rfl ha
  | cons r rs ih =>
    cases rs with
    | nil => exact joinRuns_cons r hb
    | cons r' rs =>
      rw [List.cons_append, joinRuns_cons r (by simp), joinRuns_cons r (by simp), ih (by simp)]
      simp

theorem joinRuns_length_le_append (sep : Char) (a b : List (List Char)) :
    (joinRuns sep a).length ≤ (joinRuns sep (a ++ b)).length := by
  by_cases ha : a = []
  · simp [ha, joinRuns]
  · by_cases hb : b = []
    · simp [hb]
    · rw [joinRuns_append ha hb, List.length_append]
      omega

/-- A run holds no separator. -/
theorem sep_not_mem_of_mem_runs {sep : Char} {cs r : List Char} (h : r ∈ runs sep cs) :
    sep ∉ r := by
  induction cs generalizing r with
  | nil => simp_all [runs]
  | cons c cs ih =>
    rw [runs] at h
    split at h
    · rcases List.mem_cons.1 h with rfl | h
      · simp
      · exact ih h
    · next hc =>
      split at h
      · next hn => exact absurd hn (runs_ne_nil sep cs)
      · next r' rs hr =>
        rcases List.mem_cons.1 h with rfl | h
        · have := ih (r := r') (by simp [hr])
          simp [this, Ne.symm hc]
        · exact ih (by simp [hr, h])

end ImportResolver.Text
