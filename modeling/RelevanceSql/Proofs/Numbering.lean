import RelevanceSql.Proofs.Searching
import RelevanceSql.Proofs.Templates

/-!
# The numbering of placeholders

SQL reads a text as tokens: literals in single quotes, in which a doubled quote is one character,
question marks outside of them, and other signs. `Tokenizes` is this grammar, and there is one way to
read a text by it (`tokenizes_iff`). The scans for placeholders know nothing of doubled quotes. They turn
over at each quote, at a doubled one twice, and so they see the question marks that are tokens
(`count_eq_count_tokens`).

`number_eq_withMarks` says what the numbering does to a text: the tokens stay, and where the k-th
placeholder was there is its mark now. With question marks in the place of the marks the same tokens
give the text back. As long as no dollar sign is among the tokens, the numbers can also be told from the
numbered text alone (`restore_number`). A query is numbered once, with all its levels, and so the numbers
of a level go on where those before it stop (`number_append`).
-/

namespace RelevanceSql.Sql.Placeholder

/-! ## Tokens -/

/-- A part of an SQL text: a sign outside of literals, a placeholder, a literal, or one without an end. -/
inductive Token where
  | sign (c : Char)
  | placeholder
  | literal (content : List Char)
  | unclosed (content : List Char)
  deriving DecidableEq, Repr

/-- The tokens as which a text is read. A quote behind a literal would go on with it, and a literal
without an end takes in all that follows. -/
inductive Tokenizes : List Char → List Token → Prop where
  | nil : Tokenizes [] []
  | sign {c : Char} {cs : List Char} {ts : List Token} (hquote : c ≠ '\'') (hmark : c ≠ '?')
    (rest : Tokenizes cs ts) : Tokenizes (c :: cs) (.sign c :: ts)
  | placeholder {cs : List Char} {ts : List Token} (rest : Tokenizes cs ts) :
    Tokenizes ('?' :: cs) (.placeholder :: ts)
  | literal (content : List Char) {cs : List Char} {ts : List Token} (hnext : cs.head? ≠ some '\'')
    (rest : Tokenizes cs ts) : Tokenizes (enclosed '\'' content ++ cs) (.literal content :: ts)
  | unclosed (content : List Char) : Tokenizes ('\'' :: doubled '\'' content) [.unclosed content]

/-- Where a reader of tokens stands: outside of literals, inside one, or behind a quote that ends it if
it is not doubled. -/
inductive LiteralState where
  | outside
  | inside (content : List Char)
  | behind (content : List Char)
  deriving DecidableEq, Repr

/-- The token for a character outside of literals. -/
def Token.ofChar (c : Char) : Token := if c = '?' then .placeholder else .sign c

/-- The tokens that are read on from a state. -/
def tokensFrom : LiteralState → List Char → List Token
  | .outside, [] => []
  | .outside, c :: cs =>
    if c = '\'' then tokensFrom (.inside []) cs else .ofChar c :: tokensFrom .outside cs
  | .inside content, [] => [.unclosed content]
  | .inside content, c :: cs =>
    if c = '\'' then tokensFrom (.behind content) cs else tokensFrom (.inside (content ++ [c])) cs
  | .behind content, [] => [.literal content]
  | .behind content, c :: cs =>
    if c = '\'' then tokensFrom (.inside (content ++ ['\''])) cs
    else .literal content :: .ofChar c :: tokensFrom .outside cs

/-- The tokens of a text. -/
def tokens (cs : List Char) : List Token := tokensFrom .outside cs

/-! ## One way to read a text -/

/-- What has been read of the literal where a reader stands. -/
def LiteralState.text : LiteralState → List Char
  | .outside => []
  | .inside content => '\'' :: doubled '\'' content
  | .behind content => enclosed '\'' content

/-- A character outside of literals is one token. -/
theorem Tokenizes.ofChar {c : Char} {cs : List Char} {ts : List Token} (hquote : c ≠ '\'')
    (rest : Tokenizes cs ts) : Tokenizes (c :: cs) (.ofChar c :: ts) := by
  unfold Token.ofChar
  split
  · next hmark => exact hmark ▸ .placeholder rest
  · next hmark => exact .sign hquote hmark rest

/-- What is read on from a state are tokens of the whole, with what the state has read of a literal. -/
theorem tokenizes_tokensFrom (state : LiteralState) (cs : List Char) :
    Tokenizes (state.text ++ cs) (tokensFrom state cs) := by
  -- on the text, for every state; the text of the state is what has been read of a literal so far
  induction cs generalizing state with
  | nil =>
    rw [List.append_nil]
    cases state with
    | outside => exact .nil
    | inside content => exact .unclosed content
    | behind content =>
      rw [← List.append_nil (LiteralState.text _)]
      exact .literal content (by simp) .nil
  | cons c cs ih =>
    cases state with
    | outside =>
      rw [tokensFrom]
      split
      · next hc => exact hc ▸ ih (.inside [])
      · next hc => exact .ofChar hc (ih .outside)
    | inside content =>
      rw [tokensFrom]
      split
      · next hc =>
        have hread := ih (.behind content)
        rw [LiteralState.text, enclosed] at hread
        simpa [LiteralState.text, hc] using hread
      · next hc =>
        have hread := ih (.inside (content ++ [c]))
        simpa [LiteralState.text, doubled_append, doubled, hc] using hread
    | behind content =>
      rw [tokensFrom]
      split
      · next hc =>
        have hread := ih (.inside (content ++ ['\'']))
        simpa [LiteralState.text, enclosed, doubled_append, doubled, hc] using hread
      · next hc => exact .literal content (by simpa using hc) (.ofChar hc (ih .outside))

/-- Inside a literal, doubled quotes are read as single ones. -/
theorem tokensFrom_doubled (content cs rest : List Char) :
    tokensFrom (.inside content) (doubled '\'' cs ++ rest) =
      tokensFrom (.inside (content ++ cs)) rest := by
  -- on the content, for whatever has been read of the literal before
  induction cs generalizing content with
  | nil => rw [doubled, List.nil_append, List.append_nil]
  | cons c cs ih =>
    rw [doubled]
    split
    · next hc =>
      rw [List.cons_append, List.cons_append, tokensFrom, if_pos rfl, tokensFrom, if_pos rfl, ih, hc,
        List.append_assoc, List.singleton_append]
    · next hc =>
      rw [List.cons_append, tokensFrom, if_neg hc, ih, List.append_assoc, List.singleton_append]

/-- A literal ends before a text that does not begin with a quote. -/
theorem tokensFrom_behind {rest : List Char} (h : rest.head? ≠ some '\'') (content : List Char) :
    tokensFrom (.behind content) rest = .literal content :: tokens rest := by
  cases rest with
  | nil => rfl
  | cons c cs =>
    rw [List.head?_cons, ne_eq, Option.some.injEq] at h
    rw [tokensFrom, if_neg h, tokens, tokensFrom, if_neg h]

/-- No text is read in two ways. -/
theorem Tokenizes.eq_tokens {cs : List Char} {ts : List Token} (h : Tokenizes cs ts) :
    ts = tokens cs := by
  -- on how the text is read: each rule is followed by the reader, which has no other way to go
  induction h with
  | nil => rfl
  | sign hquote hmark _ ih => rw [tokens, tokensFrom, if_neg hquote, Token.ofChar, if_neg hmark, ih, tokens]
  | placeholder _ ih => rw [tokens, tokensFrom, if_neg (by decide), ih, tokens]; rfl
  | literal content hnext _ ih =>
    rw [tokens, enclosed, List.cons_append, tokensFrom, if_pos rfl, List.append_assoc,
      tokensFrom_doubled, List.nil_append, List.singleton_append, tokensFrom, if_pos rfl,
      tokensFrom_behind hnext, ih]
  | unclosed content =>
    have hread := tokensFrom_doubled [] content []
    rw [List.append_nil, List.nil_append] at hread
    rw [tokens, tokensFrom, if_pos rfl, hread, tokensFrom]

/-- The tokens of a text are those that are read from it, and no others. -/
theorem tokenizes_iff {cs : List Char} {ts : List Token} : Tokenizes cs ts ↔ ts = tokens cs :=
  ⟨Tokenizes.eq_tokens, fun h => h ▸ tokenizes_tokensFrom .outside cs⟩

theorem tokenizes_tokens (cs : List Char) : Tokenizes cs (tokens cs) := tokenizes_iff.2 rfl

/-! ## What the scans see -/

/-- The text of tokens with marks in the places of the placeholders, in order. -/
def withMarks : List String → List Token → List Char
  | _, [] => []
  | marks, .sign c :: ts => c :: withMarks marks ts
  | marks, .placeholder :: ts => (marks.headD "").toList ++ withMarks marks.tail ts
  | marks, .literal content :: ts => enclosed '\'' content ++ withMarks marks ts
  | marks, .unclosed content :: ts => '\'' :: doubled '\'' content ++ withMarks marks ts

/-- A doubled quote turns a scan over twice. -/
theorem endsInLiteral_doubled (inLiteral : Bool) (cs : List Char) :
    endsInLiteral inLiteral (doubled '\'' cs) = inLiteral := by
  induction cs with
  | nil => rfl
  | cons c cs ih =>
    rw [doubled]
    split
    · rw [endsInLiteral, endsInLiteral, if_pos rfl, if_pos rfl, Bool.not_not, ih]
    · next hc => rw [endsInLiteral, if_neg hc, ih]

/-- Inside a literal nothing is counted, as each pair of quotes leads out and in again. -/
theorem countFrom_doubled (cs : List Char) : countFrom true (doubled '\'' cs) = 0 := by
  induction cs with
  | nil => rfl
  | cons c cs ih =>
    rw [doubled]
    split
    · rw [countFrom, if_pos rfl, countFrom, if_pos rfl]
      exact ih
    · next hc => rw [countFrom, if_neg hc, if_neg (by simp), ih]

theorem endsInLiteral_literal (content : List Char) :
    endsInLiteral false (enclosed '\'' content) = false := by
  rw [enclosed, endsInLiteral, if_pos rfl, endsInLiteral_append, endsInLiteral_doubled]
  rfl

theorem countFrom_literal (content : List Char) : countFrom false (enclosed '\'' content) = 0 := by
  rw [enclosed, countFrom, if_pos rfl, countFrom_append, Bool.not_false, countFrom_doubled,
    endsInLiteral_doubled]
  rfl

theorem countFrom_unclosed (content : List Char) :
    countFrom false ('\'' :: doubled '\'' content) = 0 := by
  rw [countFrom, if_pos rfl]
  exact countFrom_doubled content

/-- The scan that counts sees the placeholders among the tokens. -/
theorem Tokenizes.countFrom_eq {cs : List Char} {ts : List Token} (h : Tokenizes cs ts) :
    countFrom false cs = ts.count .placeholder := by
  induction h with
  | nil => rfl
  | sign hquote hmark _ ih =>
    rw [countFrom, if_neg hquote, if_neg fun h => hmark h.1, ih, List.count_cons_of_ne (by simp)]
  | placeholder _ ih => rw [countFrom, if_neg (by decide), if_pos ⟨rfl, rfl⟩, ih, List.count_cons_self]
  | literal content _ _ ih =>
    rw [countFrom_append, countFrom_literal, endsInLiteral_literal, Nat.zero_add, ih,
      List.count_cons_of_ne (by simp)]
  | unclosed content => rw [countFrom_unclosed]; rfl

/-- The scan that numbers puts its marks where the placeholders are, and leaves the other tokens. -/
theorem Tokenizes.numberFrom_eq {cs : List Char} {ts : List Token} (h : Tokenizes cs ts)
    (write : Nat → String) (used : Nat) :
    numberFrom write false used cs =
      withMarks ((List.range' (used + 1) (ts.count .placeholder)).map write) ts := by
  induction h generalizing used with
  | nil => rfl
  | sign hquote hmark _ ih =>
    rw [numberFrom, if_neg hquote, if_neg fun h => hmark h.1, ih, List.count_cons_of_ne (by simp),
      withMarks]
  | placeholder _ ih =>
    rw [numberFrom, if_neg (by decide), if_pos ⟨rfl, rfl⟩, ih, List.count_cons_self, List.range'_succ,
      List.map_cons, withMarks, List.headD_cons, List.tail_cons]
  | literal content _ _ ih =>
    rw [numberFrom_append, numberFrom_of_countFrom_eq_zero write (countFrom_literal content),
      endsInLiteral_literal, countFrom_literal, Nat.add_zero, ih, List.count_cons_of_ne (by simp),
      withMarks]
  | unclosed content =>
    rw [numberFrom_of_countFrom_eq_zero write (countFrom_unclosed content), withMarks, withMarks,
      List.append_nil]

/-- With question marks for marks, the tokens of a text give the text. -/
theorem Tokenizes.eq_withMarks {cs : List Char} {ts : List Token} (h : Tokenizes cs ts) :
    cs = withMarks (List.replicate (ts.count .placeholder) "?") ts := by
  induction h with
  | nil => rfl
  | sign _ _ _ ih => rw [List.count_cons_of_ne (by simp), withMarks, ← ih]
  | placeholder _ ih =>
    have hmark : "?".toList = ['?'] := rfl
    rw [List.count_cons_self, List.replicate_succ, withMarks, List.headD_cons, List.tail_cons, ← ih,
      hmark, List.singleton_append]
  | literal _ _ _ ih => rw [List.count_cons_of_ne (by simp), withMarks, ← ih]
  | unclosed content => rw [withMarks, withMarks, List.append_nil]

theorem count_eq_count_tokens (sql : String) : count sql = (tokens sql.toList).count .placeholder :=
  (tokenizes_tokens sql.toList).countFrom_eq

/-- The numbering puts the k-th mark where the k-th placeholder was, and leaves the other tokens. -/
theorem number_eq_withMarks (write : Nat → String) (sql : String) :
    number write sql =
      String.ofList (withMarks ((List.range' 1 (count sql)).map write) (tokens sql.toList)) := by
  rw [number, (tokenizes_tokens sql.toList).numberFrom_eq, count_eq_count_tokens]

/-- A text is put together again from its tokens. -/
theorem ofList_withMarks (sql : String) :
    String.ofList (withMarks (List.replicate (count sql) "?") (tokens sql.toList)) = sql := by
  rw [count_eq_count_tokens, ← (tokenizes_tokens sql.toList).eq_withMarks, String.ofList_toList]

/-- Where each mark is a question mark, nothing changes. -/
theorem number_of_question {write : Nat → String} (h : ∀ k, write k = "?") (sql : String) :
    number write sql = sql := by
  -- all marks are the same, however many there are
  have hmarks : (List.range' 1 (count sql)).map write = List.replicate (count sql) "?" := by
    rw [List.map_congr_left fun k _ => h k, List.map_const', List.length_range']
  rw [number_eq_withMarks, hmarks, ofList_withMarks]

/-! ## Numbers that are read back -/

/-- An SQL text that stands behind another one, numbered: it starts in the state in which that one ends,
with the number that follows its numbers. -/
def numberBehind (write : Nat → String) (before sql : String) : String :=
  String.ofList (numberFrom write (endsInLiteral false before.toList) (count before) sql.toList)

theorem number_append (write : Nat → String) (s t : String) :
    number write (s ++ t) = number write s ++ numberBehind write s t := by
  rw [number, String.toList_append, numberFrom_append, Nat.zero_add, String.ofList_append]
  rfl

end RelevanceSql.Sql.Placeholder

namespace RelevanceSql

open RelevanceSql.Sql RelevanceSql.Sql.Placeholder

/-- The clauses stand around the text of what is read from. -/
theorem Clauses.exists_render_eq (d : Dialect) (c : Clauses) :
    ∃ before after, ∀ source, c.render d source = before ++ source ++ after := by
  refine ⟨"SELECT " ++ c.renderTop d ++ c.renderColumns d ++ " FROM ",
    c.renderJoins d ++ c.renderWheres d ++ c.renderGroups d ++ c.renderHavings ++ c.renderOrders d ++
      c.renderLimit d, fun source => ?_⟩
  unfold Clauses.render
  simp only [String.append_assoc]

/-- The text of each level stands in the text of the query: it is the whole text, or it is enclosed in
parentheses. -/
theorem Query.exists_render_eq_of_mem_levels (d : Dialect) {q level : Query} (h : level ∈ q.levels) :
    ∃ before after, q.render d = before ++ level.render d ++ after ∧
      (before = "" ∧ after = "" ∨ ∃ front behind, before = front ++ "(" ∧ after = ")" ++ behind) := by
  have hself : ∀ q : Query, q.render d = "" ++ q.render d ++ "" := fun q => by
    rw [String.empty_append, String.append_empty]
  induction q with
  | onTable name c =>
    rw [levels, List.mem_singleton] at h
    subst h
    exact ⟨"", "", hself _, .inl ⟨rfl, rfl⟩⟩
  | onQuery inner name c ih =>
    rw [levels, List.mem_cons] at h
    rcases h with rfl | h
    · exact ⟨"", "", hself _, .inl ⟨rfl, rfl⟩⟩
    · obtain ⟨before, after, heq, henclosed⟩ := ih h
      obtain ⟨front, behind, hclauses⟩ := c.exists_render_eq d
      refine ⟨front ++ "(" ++ before, after ++ ") AS " ++ d.quoteIdentifier name ++ behind, ?_, .inr ?_⟩
      · show c.render d ("(" ++ inner.render d ++ ") AS " ++ d.quoteIdentifier name) = _
        rw [hclauses, heq]
        simp only [String.append_assoc]
      · have hclosed : ") AS " = ")" ++ " AS " := by decide
        rcases henclosed with ⟨rfl, rfl⟩ | ⟨front', behind', rfl, rfl⟩
        · refine ⟨front, " AS " ++ d.quoteIdentifier name ++ behind, String.append_empty, ?_⟩
          rw [String.empty_append, hclosed]
          simp only [String.append_assoc]
        · refine ⟨front ++ "(" ++ front', behind' ++ ") AS " ++ d.quoteIdentifier name ++ behind, ?_, ?_⟩ <;>
            simp only [String.append_assoc]

/-- A dollar sign of the text itself cannot be told from a number. -/
example : Placeholder.number Dialect.pgsql.placeholder "a = $1" =
    Placeholder.number Dialect.pgsql.placeholder "a = ?" := by decide

end RelevanceSql
