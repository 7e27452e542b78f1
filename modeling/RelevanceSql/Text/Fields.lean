/-!
# Cutting a text at separators

`fields` cuts a text at every separator, so that `n` separators make `n + 1` fields, some of them
empty; `words` keeps the fields that are not. Cutting loses nothing but the separators
(`flatten_fields`), no field holds one (`not_sep_of_mem_fields`), and a text with a separator in the
middle is cut as its two sides are (`fields_append_sep`).
-/

namespace RelevanceSql.Text

/-- Puts a character in front of the first field. -/
def consHead (c : Char) : List (List Char) → List (List Char)
  | [] => [[c]]
  | f :: fs => (c :: f) :: fs

/-- The stretches between separators, empty ones included. -/
def fields (isSep : Char → Bool) : List Char → List (List Char)
  | [] => [[]]
  | c :: cs => if isSep c then [] :: fields isSep cs else consHead c (fields isSep cs)

/-- The stretches between separators that hold a character. -/
def words (isSep : Char → Bool) (cs : List Char) : List (List Char) :=
  (fields isSep cs).filter fun f => !f.isEmpty

/-- The text without the characters of a class at its two ends. -/
def strip (drop : Char → Bool) (cs : List Char) : List Char :=
  ((cs.dropWhile drop).reverse.dropWhile drop).reverse

theorem fields_ne_nil (isSep : Char → Bool) (cs : List Char) : fields isSep cs ≠ [] := by
  cases cs with
  | nil => simp [fields]
  | cons c cs =>
    rw [fields]
    split
    · simp
    · cases fields isSep cs <;> simp [consHead]

theorem flatten_consHead (c : Char) (fs : List (List Char)) :
    (consHead c fs).flatten = c :: fs.flatten := by
  cases fs <;> simp [consHead]

/-- Cutting loses the separators and nothing else. -/
theorem flatten_fields (isSep : Char → Bool) (cs : List Char) :
    (fields isSep cs).flatten = cs.filter fun c => !isSep c := by
  induction cs with
  | nil => simp [fields]
  | cons c cs ih =>
    rw [fields]
    split
    · next h => simp [h, ih]
    · next h => simp [h, ih, flatten_consHead]

theorem mem_consHead {c : Char} {fs : List (List Char)} {f : List Char} (h : f ∈ consHead c fs) :
    f ∈ fs ∨ ∃ g, f = c :: g ∧ (g ∈ fs ∨ g = []) := by
  cases fs with
  | nil =>
    simp only [consHead, List.mem_singleton] at h
    exact Or.inr ⟨[], h, Or.inr rfl⟩
  | cons g gs =>
    simp only [consHead, List.mem_cons] at h
    rcases h with h | h
    · exact Or.inr ⟨g, h, Or.inl (by simp)⟩
    · exact Or.inl (by simp [h])

/-- No field holds a separator. -/
theorem not_sep_of_mem_fields {isSep : Char → Bool} {cs f : List Char} (h : f ∈ fields isSep cs) :
    ∀ c ∈ f, isSep c = false := by
  induction cs generalizing f with
  | nil => simp [fields] at h; simp [h]
  | cons d cs ih =>
    rw [fields] at h
    split at h
    · rcases List.mem_cons.1 h with rfl | h
      · simp
      · exact ih h
    · next hd =>
      rcases mem_consHead h with h | ⟨g, hg, h⟩
      · exact ih h
      · intro c hc
        rw [hg] at hc
        rcases List.mem_cons.1 hc with rfl | hc
        · simpa using hd
        · rcases h with h | h
          · exact ih h c hc
          · simp [h] at hc

theorem consHead_append (c : Char) {fs : List (List Char)} (h : fs ≠ []) (gs : List (List Char)) :
    consHead c (fs ++ gs) = consHead c fs ++ gs := by
  cases fs with
  | nil => exact absurd rfl h
  | cons f fs => rfl

/-- A text is cut at a separator in its middle, and then each side by itself. -/
theorem fields_append_sep {isSep : Char → Bool} {c : Char} (hc : isSep c = true) (cs ds : List Char) :
    fields isSep (cs ++ c :: ds) = fields isSep cs ++ fields isSep ds := by
  induction cs with
  | nil => simp [fields, hc]
  | cons d cs ih =>
    rw [List.cons_append, fields, fields, ih]
    split
    · rfl
    · exact consHead_append d (fields_ne_nil isSep cs) _

/-- A text without separators is one field. -/
theorem fields_of_no_sep {isSep : Char → Bool} {cs : List Char} (h : ∀ c ∈ cs, isSep c = false) :
    fields isSep cs = [cs] := by
  induction cs with
  | nil => rfl
  | cons c cs ih =>
    rw [fields, h c (by simp), ih fun d hd => h d (by simp [hd])]
    rfl

theorem words_nil (isSep : Char → Bool) : words isSep [] = [] := rfl

/-- A word is a field, and it is not empty. -/
theorem mem_words {isSep : Char → Bool} {cs w : List Char} :
    w ∈ words isSep cs ↔ w ∈ fields isSep cs ∧ w ≠ [] := by
  simp [words]

theorem words_append_sep {isSep : Char → Bool} {c : Char} (hc : isSep c = true) (cs ds : List Char) :
    words isSep (cs ++ c :: ds) = words isSep cs ++ words isSep ds := by
  simp [words, fields_append_sep hc]

end RelevanceSql.Text
