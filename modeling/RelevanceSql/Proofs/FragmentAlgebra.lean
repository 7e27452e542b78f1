import RelevanceSql.Proofs.Sums

/-!
# The algebra of fragments

Fragments form a monoid under `plus`, also those that have values but no SQL. `sum` is the left fold of
`plus` over the fragments with SQL, so that the sum of a list is the sum of the sums of its parts, with
no result where all SQL is missing (`sum_append`).

The values of a fragment belong to its placeholders by position, and a count of placeholders depends on
the literals in front of them. As long as every fragment closes its literals and has a value for each
placeholder, nothing of this is disturbed by adding, summing and putting in parentheses, however these
are nested. `RowOf leaves f` is the invariant: `f` binds exactly its values, they are those of the leaves
in a row, and with all values put in where the placeholders are, `f` is its leaves in their order with
nothing but signs of addition and parentheses between them.
-/

namespace RelevanceSql.Sql

/-! ## Sums -/

namespace Fragment

/-- Adding three fragments gives the same from either side. -/
theorem plus_assoc (f g h : Fragment) : (f.plus g).plus h = f.plus (g.plus h) :=
  Std.Associative.assoc f g h

/-- The fragments that a sum adds up. -/
def kept (fs : List Fragment) : List Fragment := fs.filter fun f => !f.isEmpty

/-- A sum adds up the fragments with SQL, whatever their values are. -/
theorem mem_kept_iff {fs : List Fragment} {f : Fragment} : f ∈ kept fs ↔ f ∈ fs ∧ f.sql ≠ "" := by
  rw [kept, List.mem_filter, isEmpty, Bool.not_eq_true', decide_eq_false_iff_not]

theorem sum_of_kept_eq_nil {fs : List Fragment} (h : kept fs = []) : sum fs = none := by
  unfold sum
  rw [show (fs.filter fun f => !f.isEmpty) = [] from h]

theorem sum_of_kept_eq_cons {fs rest : List Fragment} {f : Fragment} (h : kept fs = f :: rest) :
    sum fs = some (rest.foldl plus f) := by
  unfold sum
  rw [show (fs.filter fun f => !f.isEmpty) = f :: rest from h]

/-- A sum without result has no SQL in it. -/
theorem sum_eq_none_iff {fs : List Fragment} : sum fs = none ↔ ∀ f ∈ fs, f.sql = "" := by
  have hnone : kept fs = [] ↔ ∀ f ∈ fs, f.sql = "" := by
    simp [List.eq_nil_iff_forall_not_mem, mem_kept_iff]
  rw [← hnone]
  constructor
  · intro h
    cases hkept : kept fs with
    | nil => rfl
    | cons f rest =>
      rw [sum_of_kept_eq_cons hkept] at h
      cases h
  · exact sum_of_kept_eq_nil

/-- A sum starts from its first fragment, which is as good as starting from nothing. -/
theorem sum_eq_some_foldl {fs : List Fragment} (h : ∃ f ∈ fs, f.sql ≠ "") :
    sum fs = some ((kept fs).foldl plus .empty) := by
  obtain ⟨f, hf, hsql⟩ := h
  cases hkept : kept fs with
  | nil =>
    have hmem : f ∈ kept fs := mem_kept_iff.2 ⟨hf, hsql⟩
    rw [hkept] at hmem
    cases hmem
  | cons g rest => rw [sum_of_kept_eq_cons hkept, List.foldl_cons, empty_plus]

/-- The sum of two lists is the sum of their sums, as far as they have one. -/
theorem sum_append (xs ys : List Fragment) :
    sum (xs ++ ys) = Option.merge plus (sum xs) (sum ys) := by
  have hkept : kept (xs ++ ys) = kept xs ++ kept ys := List.filter_append ..
  cases hx : kept xs with
  | nil =>
    rw [hx, List.nil_append] at hkept
    cases hy : kept ys with
    | nil => rw [sum_of_kept_eq_nil hx, sum_of_kept_eq_nil hy, sum_of_kept_eq_nil (hkept.trans hy)]; rfl
    | cons g gs =>
      rw [sum_of_kept_eq_nil hx, sum_of_kept_eq_cons hy, sum_of_kept_eq_cons (hkept.trans hy)]
      rfl
  | cons f fs =>
    rw [hx, List.cons_append] at hkept
    rw [sum_of_kept_eq_cons hx, sum_of_kept_eq_cons hkept]
    cases hy : kept ys with
    | nil => rw [sum_of_kept_eq_nil hy, List.append_nil]; rfl
    | cons g gs =>
      rw [sum_of_kept_eq_cons hy, Option.merge_some_some, List.foldl_append, List.foldl_cons,
        List.foldl_assoc]

end Fragment

/-! ## Values in their places -/

namespace Placeholder

/-- A text with values in the places of its placeholders, in order. -/
def fillFrom (inLiteral : Bool) (values : List Param) : List Char → List (Char ⊕ Param)
  | [] => []
  | c :: cs =>
    if c = '\'' then .inl c :: fillFrom (!inLiteral) values cs
    else if c = '?' ∧ inLiteral = false then
      (values.head?.elim (.inl c) .inr) :: fillFrom inLiteral values.tail cs
    else .inl c :: fillFrom inLiteral values cs

/-- Two texts in a row are filled one after the other, if the first one has a value for each placeholder. -/
theorem fillFrom_append {inLiteral : Bool} {values : List Param} {cs : List Char}
    (h : countFrom inLiteral cs = values.length) (more : List Param) (ds : List Char) :
    fillFrom inLiteral (values ++ more) (cs ++ ds) =
      fillFrom inLiteral values cs ++ fillFrom (endsInLiteral inLiteral cs) more ds := by
  -- the induction is on the first text; the counts say that its values are used up at its end
  induction cs generalizing inLiteral values with
  | nil =>
    rw [List.eq_nil_of_length_eq_zero h.symm]
    rfl
  | cons c cs ih =>
    rw [countFrom] at h
    rw [List.cons_append, fillFrom, fillFrom, endsInLiteral]
    by_cases hquote : c = '\''
    · rw [if_pos hquote] at h
      rw [if_pos hquote, if_pos hquote, if_pos hquote, ih h, List.cons_append]
    · rw [if_neg hquote] at h
      rw [if_neg hquote, if_neg hquote, if_neg hquote]
      by_cases hmark : c = '?' ∧ inLiteral = false
      · rw [if_pos hmark] at h
        -- a placeholder is counted, so that there is a value for it
        obtain ⟨value, values, rfl⟩ := List.exists_cons_of_length_eq_add_one h.symm
        rw [if_pos hmark, if_pos hmark, List.cons_append, List.head?_cons, List.head?_cons, List.tail_cons,
          List.tail_cons, ih (Nat.succ.inj h), List.cons_append]
      · rw [if_neg hmark] at h
        rw [if_neg hmark, if_neg hmark, ih h, List.cons_append]

/-- A text without placeholders takes no values. -/
theorem fillFrom_of_plain {cs : List Char} (hquote : '\'' ∉ cs) (hmark : '?' ∉ cs) (values : List Param) :
    fillFrom false values cs = cs.map .inl := by
  induction cs with
  | nil => rfl
  | cons c cs ih =>
    rw [List.mem_cons, not_or] at hquote hmark
    rw [fillFrom, if_neg (Ne.symm hquote.1), if_neg fun h => hmark.1 h.1.symm, ih hquote.2 hmark.2]
    rfl

end Placeholder

/-- Single quotes pair up if their number is even, which is how a literal ends. -/
theorem fitsValues_iff_binds {sql : String} {params : List Param} :
    FitsValues sql params ↔ Binds sql params.length := by
  refine ⟨FitsValues.binds, fun h => ⟨?_, h.2⟩⟩
  have hends := h.1
  rw [endsInLiteral_eq] at hends
  have hodd : ¬sql.toList.count '\'' % 2 = 1 := by simpa using hends
  omega

namespace Fragment

/-- A fragment with each value in the place of its placeholder. -/
def filled (f : Fragment) : List (Char ⊕ Param) := Placeholder.fillFrom false f.params f.sql.toList

/-- A balanced fragment without SQL is the empty one. -/
theorem Balanced.eq_empty {f : Fragment} (h : f.Balanced) (hsql : f.sql = "") : f = empty := by
  obtain ⟨sql, params⟩ := f
  have hparams : params = [] := List.eq_nil_of_length_eq_zero (h.params_length_of_empty hsql)
  rw [empty, Fragment.mk.injEq]
  exact ⟨hsql, hparams⟩

/-- Behind a balanced text, another one is filled as if it stood alone. -/
theorem filled_append {s t : String} {params more : List Param} (h : Binds s params.length) :
    filled ⟨s ++ t, params ++ more⟩ = filled ⟨s, params⟩ ++ filled ⟨t, more⟩ := by
  unfold filled
  rw [String.toList_append, Placeholder.fillFrom_append h.2, h.1]

theorem filled_of_plain {s : String} (h : IsPlain s) : filled ⟨s, []⟩ = s.toList.map .inl :=
  Placeholder.fillFrom_of_plain h.1 h.2 []

/-- The values of a sum stand where they stand on its two sides. -/
theorem filled_plus {f g : Fragment} (hf : f.Balanced) (hfsql : f.sql ≠ "") (hgsql : g.sql ≠ "") :
    (f.plus g).filled = f.filled ++ " + ".toList.map .inl ++ g.filled := by
  have hplus : IsPlain " + " := by decide
  have hleft : Binds (f.sql ++ " + ") (f.params ++ []).length := by
    rw [List.append_nil]
    exact hf.append hplus.binds
  have hsql : (f.plus g) = ⟨f.sql ++ " + " ++ g.sql, f.params ++ [] ++ g.params⟩ := by
    rw [plus, addSql, if_neg hfsql, if_neg hgsql, List.append_nil]
  rw [hsql, filled_append hleft, filled_append hf, filled_of_plain hplus]

/-- Parentheses stand around what is filled in. -/
theorem filled_parenthesized {f : Fragment} (hf : f.Balanced) (hsql : f.sql ≠ "") :
    f.parenthesized.filled = "(".toList.map .inl ++ f.filled ++ ")".toList.map .inl := by
  have hopen : IsPlain "(" := by decide
  have hclose : IsPlain ")" := by decide
  have hleft : Binds ("(" ++ f.sql) ([] ++ f.params).length := by
    have hall := hopen.binds.append hf
    rwa [Nat.zero_add] at hall
  have heq : f.parenthesized = ⟨"(" ++ f.sql ++ ")", [] ++ f.params ++ []⟩ := by
    rw [parenthesized, if_neg hsql, List.nil_append, List.append_nil]
  have hinner : filled ⟨"(" ++ f.sql, [] ++ f.params⟩ = filled ⟨"(", []⟩ ++ f.filled :=
    filled_append hopen.binds
  rw [heq, filled_append hleft, hinner, filled_of_plain hopen, filled_of_plain hclose]

/-! ## Rows of fragments -/

/-- The signs that adding and putting in parentheses write between fragments. -/
def IsGlue (x : Char ⊕ Param) : Prop := ∃ c ∈ " +()".toList, x = .inl c

/-- A row in which pieces stand in their order, with nothing but glue between and around them. -/
inductive InOrder : List (List (Char ⊕ Param)) → List (Char ⊕ Param) → Prop where
  | nil : InOrder [] []
  | glue {x : Char ⊕ Param} {pieces : List (List (Char ⊕ Param))} {row : List (Char ⊕ Param)}
    (hx : IsGlue x) (rest : InOrder pieces row) : InOrder pieces (x :: row)
  | piece (p : List (Char ⊕ Param)) {pieces : List (List (Char ⊕ Param))} {row : List (Char ⊕ Param)}
    (rest : InOrder pieces row) : InOrder (p :: pieces) (p ++ row)

/-- A row of nothing but glue has no piece in it. -/
theorem inOrder_glue {glue : List Char} (h : glue ⊆ " +()".toList) : InOrder [] (glue.map .inl) := by
  induction glue with
  | nil => exact .nil
  | cons c glue ih =>
    obtain ⟨hc, hglue⟩ := List.cons_subset.1 h
    exact .glue ⟨c, hc, rfl⟩ (ih hglue)

/-- Two rows, one behind the other, have the pieces of both in their order. -/
theorem InOrder.append {ps qs : List (List (Char ⊕ Param))} {xs ys : List (Char ⊕ Param)}
    (hp : InOrder ps xs) (hq : InOrder qs ys) : InOrder (ps ++ qs) (xs ++ ys) := by
  induction hp with
  | nil => exact hq
  | glue hx _ ih => exact .glue hx ih
  | piece p _ ih =>
    rw [List.cons_append, List.append_assoc]
    exact .piece p ih

/-- A balanced fragment that consists of balanced ones: with all values put in it is these in order, and its
values are theirs. -/
structure RowOf (leaves : List Fragment) (f : Fragment) : Prop where
  balanced : f.Balanced
  params : f.params = leaves.flatMap (·.params)
  inOrder : InOrder (leaves.map filled) f.filled

/-- A balanced fragment is a row of itself. -/
theorem rowOf_singleton {f : Fragment} (h : f.Balanced) : RowOf [f] f where
  balanced := h
  params := by simp
  inOrder := by
    rw [← List.append_nil f.filled]
    exact .piece f.filled .nil

theorem rowOf_empty : RowOf [] empty := ⟨binds_empty, rfl, .nil⟩

namespace RowOf

variable {xs ys : List Fragment} {f g : Fragment}

theorem plus (hf : RowOf xs f) (hg : RowOf ys g) : RowOf (xs ++ ys) (f.plus g) where
  balanced := hf.balanced.plus hg.balanced
  params := by rw [params_plus, hf.params, hg.params, List.flatMap_append]
  inOrder := by
    rw [List.map_append]
    have hrow := hf.inOrder.append hg.inOrder
    -- a side without SQL is empty, and the sum is the other side
    by_cases hfsql : f.sql = ""
    · rw [hf.balanced.eq_empty hfsql] at hrow ⊢
      rwa [empty_plus]
    · by_cases hgsql : g.sql = ""
      · rw [hg.balanced.eq_empty hgsql] at hrow ⊢
        rw [plus_empty]
        rwa [show (empty : Fragment).filled = [] from rfl, List.append_nil] at hrow
      · rw [filled_plus hf.balanced hfsql hgsql]
        have hglue : InOrder [] (" + ".toList.map .inl) := inOrder_glue (by decide)
        have hleft := hf.inOrder.append hglue
        rw [List.append_nil] at hleft
        exact hleft.append hg.inOrder

theorem parenthesized (h : RowOf xs f) : RowOf xs f.parenthesized where
  balanced := h.balanced.parenthesized
  params := by rw [params_parenthesized, h.params]
  inOrder := by
    by_cases hsql : f.sql = ""
    · rw [Fragment.parenthesized, if_pos hsql]
      exact h.inOrder
    · rw [filled_parenthesized h.balanced hsql]
      have hopen : InOrder [] ("(".toList.map .inl) := inOrder_glue (by decide)
      have hclose : InOrder [] (")".toList.map .inl) := inOrder_glue (by decide)
      have hall := (hopen.append h.inOrder).append hclose
      rwa [List.nil_append, List.append_nil] at hall

/-- Parts are added one after the other. -/
theorem foldl_plus {parts : List (List Fragment × Fragment)} (hf : RowOf xs f)
    (h : ∀ p ∈ parts, RowOf p.1 p.2) :
    RowOf (xs ++ parts.flatMap Prod.fst) ((parts.map Prod.snd).foldl Fragment.plus f) := by
  induction parts generalizing xs f with
  | nil => rwa [List.flatMap_nil, List.append_nil]
  | cons p parts ih =>
    -- the first part goes into what has been added up so far
    rw [List.flatMap_cons, ← List.append_assoc, List.map_cons, List.foldl_cons]
    exact ih (hf.plus (h p (by simp))) fun q hq => h q (by simp [hq])

end RowOf

/-- The fragments without SQL that a sum leaves out change nothing where all fragments are balanced. -/
theorem foldl_plus_kept {fs : List Fragment} (h : ∀ f ∈ fs, f.Balanced) (g : Fragment) :
    (kept fs).foldl plus g = fs.foldl plus g := by
  induction fs generalizing g with
  | nil => rfl
  | cons f fs ih =>
    have hrest := ih fun x hx => h x (by simp [hx])
    by_cases hsql : f.sql = ""
    · have hkept : kept (f :: fs) = kept fs := List.filter_cons_of_neg (by simp [isEmpty, hsql])
      rw [hkept, hrest, List.foldl_cons, (h f (by simp)).eq_empty hsql, plus_empty]
    · have hkept : kept (f :: fs) = f :: kept fs := List.filter_cons_of_pos (by simp [isEmpty, hsql])
      rw [hkept, List.foldl_cons, hrest, List.foldl_cons]

/-- A sum of rows is a row of all their leaves. -/
theorem RowOf.sum {parts : List (List Fragment × Fragment)} (h : ∀ p ∈ parts, RowOf p.1 p.2)
    {f : Fragment} (hsum : Fragment.sum (parts.map Prod.snd) = some f) :
    RowOf (parts.flatMap Prod.fst) f := by
  have hbalanced : ∀ g ∈ parts.map Prod.snd, g.Balanced := by
    intro g hg
    obtain ⟨p, hp, rfl⟩ := List.mem_map.1 hg
    exact (h p hp).balanced
  -- a sum with a result has a fragment with SQL in it
  have hsome : ∃ g ∈ parts.map Prod.snd, g.sql ≠ "" := by
    by_contra hnone
    have hempty : Fragment.sum (parts.map Prod.snd) = none :=
      sum_eq_none_iff.2 fun g hg => by_contra fun hsql => hnone ⟨g, hg, hsql⟩
    rw [hempty] at hsum
    cases hsum
  rw [sum_eq_some_foldl hsome, foldl_plus_kept hbalanced, Option.some.injEq] at hsum
  rw [← hsum]
  exact rowOf_empty.foldl_plus h

/-! ## Nested fragments -/

/-- The fragments that come from a row of fragments by adding, summing and putting in parentheses. -/
inductive BuiltFrom : List Fragment → Fragment → Prop where
  | leaf (f : Fragment) : BuiltFrom [f] f
  | plus {xs ys : List Fragment} {f g : Fragment} (left : BuiltFrom xs f) (right : BuiltFrom ys g) :
    BuiltFrom (xs ++ ys) (f.plus g)
  | sum (parts : List (List Fragment × Fragment)) {f : Fragment} (h : ∀ p ∈ parts, BuiltFrom p.1 p.2)
    (hsum : Fragment.sum (parts.map Prod.snd) = some f) : BuiltFrom (parts.flatMap Prod.fst) f
  | parenthesized {xs : List Fragment} {f : Fragment} (inner : BuiltFrom xs f) :
    BuiltFrom xs f.parenthesized

/-- What is built from balanced fragments is a row of them. -/
theorem BuiltFrom.rowOf {leaves : List Fragment} {f : Fragment} (h : BuiltFrom leaves f)
    (hleaves : ∀ x ∈ leaves, x.Balanced) : RowOf leaves f := by
  -- one case for each way of building; each keeps `RowOf`
  induction h with
  | leaf f => exact rowOf_singleton (hleaves f (by simp))
  | plus _ _ ihleft ihright =>
    exact (ihleft fun x hx => hleaves x (List.mem_append_left _ hx)).plus
      (ihright fun x hx => hleaves x (List.mem_append_right _ hx))
  | sum parts _ hsum ih =>
    exact RowOf.sum (fun p hp => ih p hp fun x hx => hleaves x (List.mem_flatMap.2 ⟨p, hp, hx⟩)) hsum
  | parenthesized _ ih => exact (ih hleaves).parenthesized

/-- The placeholders of a row are those of its leaves. -/
theorem RowOf.placeholderCount {leaves : List Fragment} {f : Fragment} (h : RowOf leaves f)
    (hleaves : ∀ x ∈ leaves, x.Balanced) :
    f.placeholderCount = (leaves.map Fragment.placeholderCount).sum := by
  have hcounts : leaves.map Fragment.placeholderCount = leaves.map fun x => x.params.length :=
    List.map_congr_left fun x hx => (hleaves x hx).count_eq
  rw [hcounts, ← List.length_flatMap, ← h.params]
  exact h.balanced.count_eq

end Fragment

/-- **The algebra of fragments.** Adding is associative with the empty fragment as its unit. A sum has no
result exactly if no fragment has SQL; otherwise it adds up those that have, from left to right, and the sum
of two lists is the sum of their sums. If the single quotes of each fragment pair up and each placeholder has
a value, the same holds of all that comes from them by adding, summing and putting in parentheses in any
nesting. The numbers of placeholders add up, the values follow each other, and put in for the placeholders
they stand where they stand in the single fragments, one fragment behind the other. -/
theorem fragment_algebra :
    (∀ f g h : Fragment, (f.plus g).plus h = f.plus (g.plus h)) ∧
    (∀ f : Fragment, Fragment.empty.plus f = f ∧ f.plus .empty = f) ∧
    (∀ fs, Fragment.sum fs = none ↔ ∀ f ∈ fs, f.sql = "") ∧
    (∀ fs, (∃ f ∈ fs, f.sql ≠ "") → Fragment.sum fs =
      some ((fs.filter fun f => decide (f.sql ≠ "")).foldl Fragment.plus .empty)) ∧
    (∀ xs ys, Fragment.sum (xs ++ ys) =
      Option.merge Fragment.plus (Fragment.sum xs) (Fragment.sum ys)) ∧
    ∀ leaves f, Fragment.BuiltFrom leaves f → (∀ x ∈ leaves, FitsValues x.sql x.params) →
      FitsValues f.sql f.params ∧
      f.placeholderCount = (leaves.map Fragment.placeholderCount).sum ∧
      f.params = leaves.flatMap (·.params) ∧
      Fragment.InOrder (leaves.map Fragment.filled) f.filled := by
  refine ⟨Fragment.plus_assoc, fun f => ⟨f.empty_plus, f.plus_empty⟩, fun fs => Fragment.sum_eq_none_iff,
    fun fs hsome => ?_, Fragment.sum_append, fun leaves f hbuilt hfits => ?_⟩
  · have hkept : Fragment.kept fs = fs.filter fun f => decide (f.sql ≠ "") :=
      List.filter_congr fun f _ => by rw [Fragment.isEmpty, decide_not]
    rw [← hkept]
    exact Fragment.sum_eq_some_foldl hsome
  · have hleaves : ∀ x ∈ leaves, x.Balanced := fun x hx => (hfits x hx).binds
    have hrow := hbuilt.rowOf hleaves
    exact ⟨fitsValues_iff_binds.2 hrow.balanced, hrow.placeholderCount hleaves, hrow.params, hrow.inOrder⟩

/-- A term with one placeholder and its value. -/
def likeTerm : Fragment := ⟨"name LIKE ?", [.text "jo%"]⟩

/-- A term with a question mark in a literal in front of its placeholder. -/
def replaceTerm : Fragment := ⟨"REPLACE(bio, '?', '') = ?", [.text "x"]⟩

/-- Both terms in parentheses, and one of them again. -/
def nestedTerms : Fragment := (likeTerm.plus replaceTerm).parenthesized.plus likeTerm

theorem fragment_algebra_nested :
    ((∃ f ∈ [⟨"", [.null]⟩, likeTerm, replaceTerm], f.sql ≠ "") ∧
      Fragment.sum [⟨"", [.null]⟩, likeTerm, replaceTerm] =
        some ((Fragment.empty.plus likeTerm).plus replaceTerm)) ∧
    Fragment.BuiltFrom [.empty, likeTerm, replaceTerm, likeTerm] nestedTerms ∧
    (∀ x ∈ [.empty, likeTerm, replaceTerm, likeTerm], FitsValues x.sql x.params) ∧
    nestedTerms.sql = "(name LIKE ? + REPLACE(bio, '?', '') = ?) + name LIKE ?" ∧
    nestedTerms.params = [.text "jo%", .text "x", .text "jo%"] ∧
    FitsValues nestedTerms.sql nestedTerms.params ∧ nestedTerms.placeholderCount = 3 := by
  obtain ⟨-, -, -, hsum, -, hnested⟩ := fragment_algebra
  have hsome : ∃ f ∈ [⟨"", [.null]⟩, likeTerm, replaceTerm], f.sql ≠ "" :=
    ⟨likeTerm, by simp, by decide⟩
  have hbuilt : Fragment.BuiltFrom [.empty, likeTerm, replaceTerm, likeTerm] nestedTerms := by
    refine .sum [([.empty], .empty), ([likeTerm, replaceTerm], (likeTerm.plus replaceTerm).parenthesized),
      ([likeTerm], likeTerm)] ?_ rfl
    rintro p (_ | ⟨_, _ | ⟨_, _ | ⟨_, ⟨⟩⟩⟩⟩)
    · exact .leaf .empty
    · exact .parenthesized (.plus (.leaf likeTerm) (.leaf replaceTerm))
    · exact .leaf likeTerm
  have hfits : ∀ x ∈ [.empty, likeTerm, replaceTerm, likeTerm], FitsValues x.sql x.params := by
    rintro x (_ | ⟨_, _ | ⟨_, _ | ⟨_, _ | ⟨_, ⟨⟩⟩⟩⟩⟩) <;> decide
  obtain ⟨hall, hcount, hparams, -⟩ := hnested _ _ hbuilt hfits
  exact ⟨⟨hsome, hsum _ hsome⟩, hbuilt, hfits, by decide, hparams, hall, hcount⟩

end RelevanceSql.Sql
