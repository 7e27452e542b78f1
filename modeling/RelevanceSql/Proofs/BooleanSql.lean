import RelevanceSql.Proofs.Lexemes

/-!
# What a condition says

A condition is read with the precedence of SQL: `NOT` binds tighter than `AND`, and `AND` tighter than
`OR`, unless parentheses say otherwise. The lexemes of a condition are the flattened form of a list of
pieces, in which brackets that belong together are groups: parentheses, `CASE` up to its `END`, and
`BETWEEN` up to its `AND`, which therefore joins no conditions. There is at most one such list
(`Reads.unique`).

The pieces are cut at each `OR`, the parts at each `AND`. What is left is a parenthesised condition, a
negation, or an atom, of which only a given assignment knows whether it holds. `Holds` says whether a
condition holds under an assignment, and the laws below say so of conditions that are put together
from others. Joined by `AND`, conditions hold if all of them do as long as none of them is cut at an
`OR` (`holds_intercalate_and`); otherwise the `AND` joins the parts next to it and not the conditions.
-/

namespace RelevanceSql.Sql

/-! ## Reading -/

/-- The brackets of conditions. -/
inductive Bracket where
  | parentheses
  | caseEnd
  | betweenAnd
  deriving DecidableEq, Repr

/-- The lexeme that opens a bracket. -/
def Bracket.opening : Bracket → Lexeme
  | .parentheses => .opening
  | .caseEnd => .caseOpening
  | .betweenAnd => .between

/-- The lexeme that closes a bracket. -/
def Bracket.closing : Bracket → Lexeme
  | .parentheses => .closing
  | .caseEnd => .caseClosing
  | .betweenAnd => .connective .and

/-- A part of a condition: a word that joins or negates, something else, or a group in brackets. -/
inductive Piece where
  | connective (c : Connective)
  | negation
  | other (text : List Char)
  | group (bracket : Bracket) (inner : List Piece)

mutual

/-- The lexemes of a piece. -/
def Piece.lexemes : Piece → List Lexeme
  | .connective c => [.connective c]
  | .negation => [.negation]
  | .other text => [.other text]
  | .group bracket inner => bracket.opening :: (lexemesOf inner ++ [bracket.closing])

/-- The lexemes of pieces in a row. -/
def lexemesOf : List Piece → List Lexeme
  | [] => []
  | p :: ps => p.lexemes ++ lexemesOf ps

end

/-- The first lexeme of a piece. -/
def Piece.head : Piece → Lexeme
  | .connective c => .connective c
  | .negation => .negation
  | .other text => .other text
  | .group bracket _ => bracket.opening

mutual

/-- Whether no group holds the lexeme that closes it as a piece of its own. -/
def Piece.Closed : Piece → Prop
  | .connective _ => True
  | .negation => True
  | .other _ => True
  | .group bracket inner => (∀ p ∈ inner, p.head ≠ bracket.closing) ∧ AllClosed inner

/-- Whether so it is with all pieces of a list. -/
def AllClosed : List Piece → Prop
  | [] => True
  | p :: ps => p.Closed ∧ AllClosed ps

end

/-- The pieces as which a condition is read. -/
def Reads (sql : String) (ps : List Piece) : Prop := lexemes? sql = some (lexemesOf ps) ∧ AllClosed ps

/-- Whether a text can be read as a condition: its quoted text ends and its brackets match. -/
def Readable (sql : String) : Prop := ∃ ps, Reads sql ps

theorem lexemesOf_append (ps qs : List Piece) : lexemesOf (ps ++ qs) = lexemesOf ps ++ lexemesOf qs := by
  induction ps with
  | nil => rfl
  | cons p ps ih => rw [List.cons_append, lexemesOf, lexemesOf, ih, List.append_assoc]

theorem allClosed_append {ps qs : List Piece} (hps : AllClosed ps) (hqs : AllClosed qs) :
    AllClosed (ps ++ qs) := by
  induction ps with
  | nil => exact hqs
  | cons p ps ih => exact ⟨hps.1, ih hps.2⟩

theorem Piece.lexemes_eq_cons (p : Piece) : ∃ ls, p.lexemes = p.head :: ls := by
  cases p <;> exact ⟨_, by rw [lexemes]; rfl⟩

theorem Bracket.opening_inj {b c : Bracket} (h : b.opening = c.opening) : b = c := by
  cases b <;> cases c <;> first | rfl | cases h

mutual

/-- A piece is known by its lexemes, whatever stands behind it. -/
theorem eq_of_lexemes_append (p q : Piece) {rest rest' : List Lexeme} (hp : p.Closed) (hq : q.Closed)
    (h : p.lexemes ++ rest = q.lexemes ++ rest') : p = q ∧ rest = rest' := by
  -- the first lexeme tells the kind of both pieces
  have hhead : p.head = q.head := by
    obtain ⟨ls, hls⟩ := p.lexemes_eq_cons
    obtain ⟨ms, hms⟩ := q.lexemes_eq_cons
    rw [hls, hms, List.cons_append, List.cons_append, List.cons.injEq] at h
    exact h.1
  match p, q with
  | .connective c, .connective d =>
    simp only [Piece.lexemes, List.cons_append, List.nil_append, List.cons.injEq,
      Lexeme.connective.injEq] at h
    exact ⟨by rw [h.1], h.2⟩
  | .other text, .other text' =>
    simp only [Piece.lexemes, List.cons_append, List.nil_append, List.cons.injEq,
      Lexeme.other.injEq] at h
    exact ⟨by rw [h.1], h.2⟩
  | .group b inner, .group b' inner' =>
    obtain rfl := Bracket.opening_inj hhead
    rw [Piece.Closed] at hp hq
    simp only [Piece.lexemes, List.cons_append, List.append_assoc, List.cons.injEq, true_and] at h
    -- inside a bracket the pieces go on up to the lexeme that closes it
    obtain ⟨hinner, hrest⟩ := eq_of_lexemesOf_append inner inner' (some b.closing) hp.2 hq.2
      (fun p hmem heq => hp.1 p hmem (Option.some.inj heq))
      (fun p hmem heq => hq.1 p hmem (Option.some.inj heq)) rfl rfl h
    exact ⟨by rw [hinner], (List.cons.inj hrest).2⟩
  | .negation, .negation => exact ⟨rfl, by simpa [Piece.lexemes] using h⟩
  | .connective _, .other _ | .other _, .connective _ => cases hhead
  | .connective _, .negation | .negation, .connective _ => cases hhead
  | .negation, .other _ | .other _, .negation => cases hhead
  | .connective _, .group b _ | .group b _, .connective _ => cases b <;> cases hhead
  | .negation, .group b _ | .group b _, .negation => cases b <;> cases hhead
  | .other _, .group b _ | .group b _, .other _ => cases b <;> cases hhead
termination_by sizeOf p

/-- So are pieces in a row, up to a lexeme with which none of them begins. -/
theorem eq_of_lexemesOf_append (ps qs : List Piece) (stop : Option Lexeme) {rest rest' : List Lexeme}
    (hps : AllClosed ps) (hqs : AllClosed qs) (hpstop : ∀ p ∈ ps, some p.head ≠ stop)
    (hqstop : ∀ q ∈ qs, some q.head ≠ stop) (hrest : rest.head? = stop) (hrest' : rest'.head? = stop)
    (h : lexemesOf ps ++ rest = lexemesOf qs ++ rest') : ps = qs ∧ rest = rest' := by
  -- one list cannot end before the other, for a piece begins with no lexeme that stops
  match ps, qs with
  | [], [] => exact ⟨rfl, h⟩
  | [], q :: qs =>
    obtain ⟨ls, hls⟩ := q.lexemes_eq_cons
    rw [lexemesOf, List.nil_append, lexemesOf, hls] at h
    rw [h] at hrest
    exact absurd hrest (hqstop q (by simp))
  | p :: ps, [] =>
    obtain ⟨ls, hls⟩ := p.lexemes_eq_cons
    rw [lexemesOf, lexemesOf, hls, List.nil_append] at h
    rw [← h] at hrest'
    exact absurd hrest' (hpstop p (by simp))
  | p :: ps, q :: qs =>
    rw [lexemesOf, lexemesOf, List.append_assoc, List.append_assoc] at h
    obtain ⟨hpiece, hbehind⟩ := eq_of_lexemes_append p q hps.1 hqs.1 h
    obtain ⟨hpieces, hend⟩ := eq_of_lexemesOf_append ps qs stop hps.2 hqs.2
      (fun p hp => hpstop p (by simp [hp])) (fun q hq => hqstop q (by simp [hq])) hrest hrest' hbehind
    exact ⟨by rw [hpiece, hpieces], hend⟩
termination_by sizeOf ps

end

/-- A condition is read in one way at most. -/
theorem Reads.unique {sql : String} {ps qs : List Piece} (hps : Reads sql ps) (hqs : Reads sql qs) :
    ps = qs := by
  have hflat : lexemesOf ps ++ [] = lexemesOf qs ++ [] := by
    rw [List.append_nil, List.append_nil]
    exact Option.some.inj (hps.1.symm.trans hqs.1)
  exact (eq_of_lexemesOf_append ps qs none hps.2 hqs.2 (fun _ _ => Option.some_ne_none _)
    (fun _ _ => Option.some_ne_none _) rfl rfl hflat).1

/-! ## Truth -/

/-- Which atoms hold. -/
abbrev Assignment := List Piece → Bool

/-- A piece, and whether the condition holds that it encloses, if it encloses one. -/
abbrev Judged := Piece × Option Bool

/-- Whether a piece is a given connective. -/
def isConnective (c : Connective) (j : Judged) : Bool :=
  match j.1 with
  | .connective c' => decide (c' = c)
  | _ => false

/-- Whether a part without `AND` and `OR` holds. -/
def partTruth (v : Assignment) : List Judged → Bool
  | (.negation, _) :: rest => !partTruth v rest
  | [(_, some value)] => value
  | atom => v (atom.map Prod.fst)

/-- Whether pieces hold, as those in parentheses have been judged. -/
def judgedTruth (v : Assignment) (js : List Judged) : Bool :=
  (js.splitOnP (isConnective .or)).any fun part =>
    (part.splitOnP (isConnective .and)).all (partTruth v)

mutual

/-- Whether the condition holds that a piece encloses. -/
def Piece.value? (v : Assignment) : Piece → Option Bool
  | .connective _ => none
  | .negation => none
  | .other _ => none
  | .group bracket inner => if bracket = .parentheses then some (judgedTruth v (judge v inner)) else none

/-- Pieces, each with the value of what it encloses. -/
def judge (v : Assignment) : List Piece → List Judged
  | [] => []
  | p :: ps => (p, p.value? v) :: judge v ps

end

/-- Whether pieces hold under an assignment. -/
def truth (v : Assignment) (ps : List Piece) : Bool := judgedTruth v (judge v ps)

/-- Whether a condition holds under an assignment. -/
def Holds (v : Assignment) (sql : String) : Prop := ∃ ps, Reads sql ps ∧ truth v ps = true

/-- Whether a condition is cut at a connective outside of parentheses. -/
def CutAt (c : Connective) (sql : String) : Prop := ∃ ps, Reads sql ps ∧ .connective c ∈ ps

theorem holds_iff {v : Assignment} {sql : String} {ps : List Piece} (h : Reads sql ps) :
    Holds v sql ↔ truth v ps = true :=
  ⟨fun ⟨_, hreads, htruth⟩ => h.unique hreads ▸ htruth, fun htruth => ⟨ps, h, htruth⟩⟩

theorem cutAt_iff {c : Connective} {sql : String} {ps : List Piece} (h : Reads sql ps) :
    CutAt c sql ↔ .connective c ∈ ps :=
  ⟨fun ⟨_, hreads, hmem⟩ => h.unique hreads ▸ hmem, fun hmem => ⟨ps, h, hmem⟩⟩

theorem judge_append (v : Assignment) (ps qs : List Piece) :
    judge v (ps ++ qs) = judge v ps ++ judge v qs := by
  induction ps with
  | nil => rfl
  | cons p ps ih => rw [List.cons_append, judge, judge, ih, List.cons_append]

theorem isConnective_of_mem_judge {v : Assignment} {c : Connective} {ps : List Piece}
    (h : .connective c ∉ ps) {j : Judged} (hj : j ∈ judge v ps) : isConnective c j = false := by
  induction ps with
  | nil => cases hj
  | cons p ps ih =>
    rw [List.mem_cons, not_or] at h
    rw [judge, List.mem_cons] at hj
    rcases hj with rfl | hj
    · cases p with
      | connective c' =>
        have hne : c' ≠ c := by
          rintro rfl
          exact h.1 rfl
        simpa [isConnective] using hne
      | negation => rfl
      | other text => rfl
      | group bracket inner => rfl
    · exact ih h.2 hj

theorem judge_connective (v : Assignment) (c : Connective) (ps : List Piece) :
    judge v (.connective c :: ps) = (.connective c, none) :: judge v ps := by
  rw [judge, Piece.value?]

/-- An `OR` cuts first. -/
theorem truth_append_or (v : Assignment) (ps qs : List Piece) :
    truth v (ps ++ .connective .or :: qs) = (truth v ps || truth v qs) := by
  rw [truth, judge_append, judge_connective, judgedTruth, List.splitOnP_append_cons _ _ (by rfl),
    List.any_append]
  rfl

/-- Without an `OR` there is one part, cut at each `AND`. -/
theorem truth_of_notMem_or {v : Assignment} {ps : List Piece} (h : .connective .or ∉ ps) :
    truth v ps = ((judge v ps).splitOnP (isConnective .and)).all (partTruth v) := by
  rw [truth, judgedTruth, List.splitOnP_eq_singleton fun _ hj => isConnective_of_mem_judge h hj,
    List.any_cons, List.any_nil, Bool.or_false]

theorem truth_append_and (v : Assignment) {ps qs : List Piece} (hps : .connective .or ∉ ps)
    (hqs : .connective .or ∉ qs) :
    truth v (ps ++ .connective .and :: qs) = (truth v ps && truth v qs) := by
  -- without an OR on either side there is none in the whole, which is one part then
  have hall : .connective .or ∉ ps ++ .connective .and :: qs := by simp [hps, hqs]
  rw [truth_of_notMem_or hall, truth_of_notMem_or hps, truth_of_notMem_or hqs, judge_append,
    judge_connective, List.splitOnP_append_cons _ _ (by rfl), List.all_append]

/-- Without an `AND` or an `OR` there is nothing to cut. -/
theorem truth_of_uncut {v : Assignment} {ps : List Piece} (hor : .connective .or ∉ ps)
    (hand : .connective .and ∉ ps) : truth v ps = partTruth v (judge v ps) := by
  rw [truth_of_notMem_or hor, List.splitOnP_eq_singleton fun _ hj => isConnective_of_mem_judge hand hj,
    List.all_cons, List.all_nil, Bool.and_true]

theorem truth_not (v : Assignment) {ps : List Piece} (hor : .connective .or ∉ ps)
    (hand : .connective .and ∉ ps) : truth v (.negation :: ps) = !truth v ps := by
  have hor' : .connective .or ∉ Piece.negation :: ps := by simp [hor]
  have hand' : .connective .and ∉ Piece.negation :: ps := by simp [hand]
  rw [truth_of_uncut hor' hand', truth_of_uncut hor hand, judge, partTruth]

theorem truth_group (v : Assignment) (ps : List Piece) :
    truth v [.group .parentheses ps] = truth v ps := by
  rw [truth_of_uncut (by simp) (by simp), judge, judge, Piece.value?, if_pos rfl, partTruth]
  · rfl
  · rintro ⟨⟩

/-! ## Conditions made of conditions -/

/-- Two conditions with a connective between them. -/
def joined (c : Connective) (s t : String) : String :=
  match c with
  | .and => s ++ " AND " ++ t
  | .or => s ++ " OR " ++ t

theorem reads_joined {c : Connective} {s t : String} {ps qs : List Piece} (hs : Reads s ps)
    (ht : Reads t qs) : Reads (joined c s t) (ps ++ .connective c :: qs) := by
  -- the word between them stands between blanks, so each side is read as if it stood alone
  have hword : ∀ word, LexState.run .outside word.toList = ([.connective c], .outside) →
      BeginsApart word →
        lexemes? (s ++ word ++ t) = some (lexemesOf ps ++ .connective c :: lexemesOf qs) := by
    intro word hword hapart
    have hright : lexemes? (word ++ t) = some (.connective c :: lexemesOf qs) :=
      lexemes?_append_of_outside hword ht.1
    rw [String.append_assoc]
    exact lexemes?_append hs.1 hright (hapart.append t)
  refine ⟨?_, allClosed_append hs.2 ⟨trivial, ht.2⟩⟩
  rw [lexemesOf_append, lexemesOf]
  cases c with
  | and => exact hword " AND " (by decide) (by decide)
  | or => exact hword " OR " (by decide) (by decide)

theorem Piece.head_ne_closing (p : Piece) : p.head ≠ .closing := by
  cases p with
  | connective c => rintro ⟨⟩
  | negation => rintro ⟨⟩
  | other text => rintro ⟨⟩
  | group bracket inner => cases bracket <;> rintro ⟨⟩

theorem lexemes?_parenthesized {s : String} {ls : List Lexeme} (h : lexemes? s = some ls) :
    lexemes? ("(" ++ s ++ ")") = some (.opening :: (ls ++ [.closing])) := by
  have hclose : lexemes? (s ++ ")") = some (ls ++ [.closing]) :=
    lexemes?_append h (by decide) (by decide)
  have hopen : LexState.run .outside "(".toList = ([.opening], .outside) := by decide
  rw [String.append_assoc]
  exact lexemes?_append_of_outside hopen hclose

theorem reads_parenthesized {s : String} {ps : List Piece} (h : Reads s ps) :
    Reads ("(" ++ s ++ ")") [.group .parentheses ps] := by
  refine ⟨?_, ⟨fun p _ => p.head_ne_closing, h.2⟩, trivial⟩
  rw [lexemes?_parenthesized h.1, lexemesOf, lexemesOf, Piece.lexemes, List.append_nil]
  rfl

theorem reads_not {s : String} {ps : List Piece} (h : Reads s ps) :
    Reads ("NOT " ++ s) (.negation :: ps) := by
  have hnot : LexState.run .outside "NOT ".toList = ([.negation], .outside) := by decide
  exact ⟨lexemes?_append_of_outside hnot h.1, trivial, h.2⟩

/-- Text without keywords and parentheses. -/
theorem reads_of_allOther {s : String} {ls : List Lexeme} (h : lexemes? s = some ls)
    (hls : AllOther ls) : ∃ ps, Reads s ps ∧ ∀ c, .connective c ∉ ps := by
  -- each lexeme makes a piece of its own
  have hpieces : ∃ ps, ls = lexemesOf ps ∧ AllClosed ps ∧ ∀ c, .connective c ∉ ps := by
    clear h
    induction ls with
    | nil => exact ⟨[], rfl, trivial, by simp⟩
    | cons l ls ih =>
      obtain ⟨text, rfl⟩ := hls l (by simp)
      obtain ⟨ps, rfl, hclosed, hps⟩ := ih fun l hl => hls l (by simp [hl])
      exact ⟨.other text :: ps, rfl, ⟨trivial, hclosed⟩, by simp [hps]⟩
  obtain ⟨ps, rfl, hclosed, hps⟩ := hpieces
  exact ⟨ps, ⟨h, hclosed⟩, hps⟩

/-- A condition in parentheses holds as it does alone, and nothing outside can cut it. -/
theorem holds_parenthesized {s : String} (h : Readable s) :
    Readable ("(" ++ s ++ ")") ∧ (∀ c, ¬CutAt c ("(" ++ s ++ ")")) ∧
      ∀ v, Holds v ("(" ++ s ++ ")") ↔ Holds v s := by
  obtain ⟨ps, hps⟩ := h
  have hgroup := reads_parenthesized hps
  refine ⟨⟨_, hgroup⟩, fun c hcut => ?_, fun v => ?_⟩
  · rw [cutAt_iff hgroup] at hcut
    simp at hcut
  · rw [holds_iff hgroup, holds_iff hps, truth_group]

theorem holds_or {s t : String} (hs : Readable s) (ht : Readable t) (v : Assignment) :
    Holds v (joined .or s t) ↔ Holds v s ∨ Holds v t := by
  obtain ⟨ps, hps⟩ := hs
  obtain ⟨qs, hqs⟩ := ht
  rw [holds_iff (reads_joined hps hqs), holds_iff hps, holds_iff hqs, truth_append_or, Bool.or_eq_true]

/-- Conditions that no `OR` cuts hold together if both hold. -/
theorem holds_and {s t : String} (hs : Readable s) (ht : Readable t) (hsor : ¬CutAt .or s)
    (htor : ¬CutAt .or t) (v : Assignment) : Holds v (joined .and s t) ↔ Holds v s ∧ Holds v t := by
  obtain ⟨ps, hps⟩ := hs
  obtain ⟨qs, hqs⟩ := ht
  rw [cutAt_iff hps] at hsor
  rw [cutAt_iff hqs] at htor
  rw [holds_iff (reads_joined hps hqs), holds_iff hps, holds_iff hqs, truth_append_and v hsor htor,
    Bool.and_eq_true]

theorem holds_not {s : String} (h : Readable s) (hor : ¬CutAt .or s) (hand : ¬CutAt .and s)
    (v : Assignment) : Holds v ("NOT " ++ s) ↔ ¬Holds v s := by
  obtain ⟨ps, hps⟩ := h
  rw [cutAt_iff hps] at hor hand
  rw [holds_iff (reads_not hps), holds_iff hps, truth_not v hor hand]
  simp

theorem readable_not {s : String} (h : Readable s) : Readable ("NOT " ++ s) := by
  obtain ⟨ps, hps⟩ := h
  exact ⟨_, reads_not hps⟩

theorem cutAt_not {c : Connective} {s : String} (h : Readable s) :
    CutAt c ("NOT " ++ s) ↔ CutAt c s := by
  obtain ⟨ps, hps⟩ := h
  rw [cutAt_iff (reads_not hps), cutAt_iff hps]
  simp

theorem readable_joined {c : Connective} {s t : String} (hs : Readable s) (ht : Readable t) :
    Readable (joined c s t) := by
  obtain ⟨ps, hps⟩ := hs
  obtain ⟨qs, hqs⟩ := ht
  exact ⟨_, reads_joined hps hqs⟩

/-- What is joined is cut where its sides are, and between them. -/
theorem cutAt_joined {c c' : Connective} {s t : String} (hs : Readable s) (ht : Readable t) :
    CutAt c (joined c' s t) ↔ c = c' ∨ CutAt c s ∨ CutAt c t := by
  obtain ⟨ps, hps⟩ := hs
  obtain ⟨qs, hqs⟩ := ht
  rw [cutAt_iff (reads_joined hps hqs), cutAt_iff hps, cutAt_iff hqs]
  simp only [List.mem_append, List.mem_cons, Piece.connective.injEq]
  exact or_left_comm

/-- An `AND` behind conditions with an `OR` between them joins the second one only. -/
theorem holds_or_and {s t u : String} (hs : Readable s) (ht : Readable t) (hu : Readable u)
    (htor : ¬CutAt .or t) (huor : ¬CutAt .or u) (v : Assignment) :
    Holds v (joined .and (joined .or s t) u) ↔ Holds v s ∨ Holds v t ∧ Holds v u := by
  -- the text is the same either way, and it is read with the AND inside
  have hassoc : joined .and (joined .or s t) u = joined .or s (joined .and t u) := by
    simp only [joined, String.append_assoc]
  rw [hassoc, holds_or hs (readable_joined ht hu), holds_and ht hu htor huor]

/-- **Conditions joined by `AND`.** If no `OR` cuts one of them, all hold together if each one does. -/
theorem holds_intercalate_and {texts : List String} (hne : texts ≠ [])
    (h : ∀ s ∈ texts, Readable s ∧ ¬CutAt .or s) :
    Readable (" AND ".intercalate texts) ∧ ¬CutAt .or (" AND ".intercalate texts) ∧
      ∀ v, Holds v (" AND ".intercalate texts) ↔ ∀ s ∈ texts, Holds v s := by
  induction texts with
  | nil => exact absurd rfl hne
  | cons s texts ih =>
    obtain ⟨hs, hsor⟩ := h s (by simp)
    cases texts with
    | nil =>
      rw [String.intercalate_singleton]
      exact ⟨hs, hsor, fun v => by simp⟩
    | cons t texts =>
      obtain ⟨hrest, hrestor, hrestholds⟩ := ih (List.cons_ne_nil _ _) fun u hu => h u (by simp [hu])
      rw [String.intercalate_cons_cons]
      show Readable (joined .and s _) ∧ ¬CutAt .or (joined .and s _) ∧
        ∀ v, Holds v (joined .and s _) ↔ _
      refine ⟨readable_joined hs hrest, ?_, fun v => ?_⟩
      · rw [cutAt_joined hs hrest]
        rintro (heq | hcut | hcut)
        · cases heq
        · exact hsor hcut
        · exact hrestor hcut
      · rw [holds_and hs hrest hsor hrestor, hrestholds]
        simp

/-! ## Formulas

Conditions as they are put together from atoms, with parentheses only where the precedence needs them.
Read as above, such a condition holds when the formula does.
-/

/-- Atoms, put together by the three words. -/
inductive Formula where
  | atom (sql : String)
  | not (f : Formula)
  | and (f g : Formula)
  | or (f g : Formula)

namespace Formula

/-- How tight the outermost word of a formula binds. -/
def tightness : Formula → Nat
  | .atom _ => 3
  | .not _ => 2
  | .and _ _ => 1
  | .or _ _ => 0

/-- A formula as SQL. -/
def text : Formula → String
  | .atom sql => sql
  | .not f => "NOT " ++ (if f.tightness < 2 then "(" ++ f.text ++ ")" else f.text)
  | .and f g =>
    joined .and (if f.tightness < 1 then "(" ++ f.text ++ ")" else f.text)
      (if g.tightness < 1 then "(" ++ g.text ++ ")" else g.text)
  | .or f g => joined .or f.text g.text

/-- Whether a formula holds if its atoms do as an assignment says. -/
def Holds (v : Assignment) : Formula → Prop
  | .atom sql => Sql.Holds v sql
  | .not f => ¬f.Holds v
  | .and f g => f.Holds v ∧ g.Holds v
  | .or f g => f.Holds v ∨ g.Holds v

/-- Whether no atom has a word in it that joins conditions. -/
def AtomsUncut : Formula → Prop
  | .atom sql => Readable sql ∧ ∀ c, ¬CutAt c sql
  | .not f => f.AtomsUncut
  | .and f g => f.AtomsUncut ∧ g.AtomsUncut
  | .or f g => f.AtomsUncut ∧ g.AtomsUncut

/-- What a formula's text says, and which words cut it. -/
structure WellRead (sql : String) (tightness : Nat) (holds : Assignment → Prop) : Prop where
  readable : Readable sql
  or_of_cutAt : CutAt .or sql → tightness < 1
  and_of_cutAt : CutAt .and sql → tightness < 2
  holds_iff : ∀ v, Sql.Holds v sql ↔ holds v

theorem WellRead.enclosed {sql : String} {tightness : Nat} {holds : Assignment → Prop}
    (h : WellRead sql tightness holds) (least : Nat) :
    WellRead (if tightness < least then "(" ++ sql ++ ")" else sql) (max least tightness) holds := by
  split
  · obtain ⟨hreadable, huncut, hholds⟩ := holds_parenthesized h.readable
    exact {
      readable := hreadable
      or_of_cutAt := fun hcut => absurd hcut (huncut _)
      and_of_cutAt := fun hcut => absurd hcut (huncut _)
      holds_iff := fun v => (hholds v).trans (h.holds_iff v) }
  · next hnot =>
    rw [Nat.max_eq_right (Nat.le_of_not_lt hnot)]
    exact h

/-- The text of a formula holds when the formula does. -/
theorem wellRead_text {f : Formula} (h : f.AtomsUncut) :
    WellRead f.text f.tightness fun v => f.Holds v := by
  -- on the formula; parentheses around a part are there exactly if it binds too loosely
  induction f with
  | atom sql =>
    exact {
      readable := h.1
      or_of_cutAt := fun hcut => absurd hcut (h.2 _)
      and_of_cutAt := fun hcut => absurd hcut (h.2 _)
      holds_iff := fun _ => Iff.rfl }
  | not f ih =>
    have hf := (ih h).enclosed 2
    have hor : ¬CutAt .or _ := fun hcut => by have := hf.or_of_cutAt hcut; omega
    have hand : ¬CutAt .and _ := fun hcut => by have := hf.and_of_cutAt hcut; omega
    exact {
      readable := readable_not hf.readable
      or_of_cutAt := fun hcut => absurd ((cutAt_not hf.readable).1 hcut) hor
      and_of_cutAt := fun hcut => absurd ((cutAt_not hf.readable).1 hcut) hand
      holds_iff := fun v => (holds_not hf.readable hor hand v).trans (not_congr (hf.holds_iff v)) }
  | and f g ihf ihg =>
    have hf := (ihf h.1).enclosed 1
    have hg := (ihg h.2).enclosed 1
    have hfor : ¬CutAt .or _ := fun hcut => by have := hf.or_of_cutAt hcut; omega
    have hgor : ¬CutAt .or _ := fun hcut => by have := hg.or_of_cutAt hcut; omega
    exact {
      readable := readable_joined hf.readable hg.readable
      or_of_cutAt := fun hcut => by
        rcases (cutAt_joined hf.readable hg.readable).1 hcut with heq | hcut | hcut
        · cases heq
        · exact absurd hcut hfor
        · exact absurd hcut hgor
      and_of_cutAt := fun _ => Nat.one_lt_two
      holds_iff := fun v => (holds_and hf.readable hg.readable hfor hgor v).trans
        (and_congr (hf.holds_iff v) (hg.holds_iff v)) }
  | or f g ihf ihg =>
    have hf := ihf h.1
    have hg := ihg h.2
    exact {
      readable := readable_joined hf.readable hg.readable
      or_of_cutAt := fun _ => Nat.zero_lt_one
      and_of_cutAt := fun _ => Nat.zero_lt_two
      holds_iff := fun v => (holds_or hf.readable hg.readable v).trans
        (or_congr (hf.holds_iff v) (hg.holds_iff v)) }

end Formula

end RelevanceSql.Sql
