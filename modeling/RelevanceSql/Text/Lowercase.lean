import RelevanceSql.Text.CaseTables

/-!
# Lower-casing

The full Unicode mapping of a text to small letters. All letters but two map on their own: the
dotted capital I becomes an i and a combining dot, and a capital sigma becomes the final sigma when
it ends a word, that is when a letter with case stands before it and none after it, case-ignorable
marks passed over on both sides. `lowerFrom` reads the text once and carries what stands before.
-/

namespace RelevanceSql.Text

/-- The small letter of a letter that maps to exactly one, and any other character itself. -/
def lowerSimple (c : Char) : Char :=
  match caseRuns.find? fun r => r.covers c.toNat with
  | some r => Char.ofNat (r.small + (c.toNat - r.first))
  | none => c

/-- The small letters of a letter, its neighbours left aside. -/
def lowerChar (c : Char) : List Char :=
  if c = 'İ' then ['i', '\u0307'] else [lowerSimple c]

/-- Whether the next character that is not case-ignorable has case. -/
def casedFollows (cs : List Char) : Bool :=
  match cs.dropWhile isCaseIgnorable with
  | [] => false
  | c :: _ => isCased c

/-- Whether the last character that is not case-ignorable has case, once `c` is read as well. -/
def casedBefore (before : Bool) (c : Char) : Bool :=
  if isCaseIgnorable c then before else isCased c

/-- Lower-cases a text before which stands a letter with case, or none. -/
def lowerFrom (before : Bool) : List Char → List Char
  | [] => []
  | c :: cs =>
    (if c = 'Σ' then [if before && !casedFollows cs then 'ς' else 'σ'] else lowerChar c) ++
      lowerFrom (casedBefore before c) cs

/-- The text in small letters. -/
def lower (cs : List Char) : List Char := lowerFrom false cs

theorem lowerFrom_cons_sigma (before : Bool) (cs : List Char) :
    lowerFrom before ('Σ' :: cs) =
      (if before && !casedFollows cs then 'ς' else 'σ') :: lowerFrom (casedBefore before 'Σ') cs := by
  simp [lowerFrom]

/-- Every letter but the capital sigma maps without a look at its neighbours. -/
theorem lowerFrom_cons_of_ne_sigma {c : Char} (h : c ≠ 'Σ') (before : Bool) (cs : List Char) :
    lowerFrom before (c :: cs) = lowerChar c ++ lowerFrom (casedBefore before c) cs := by
  simp [lowerFrom, h]

end RelevanceSql.Text
