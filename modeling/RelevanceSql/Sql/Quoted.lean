/-!
# Quoted text

Text between two quotation marks, in which the mark itself is written twice. Identifiers are quoted
this way with the mark of the dialect, and shown text values with a single quote.
-/

namespace RelevanceSql.Sql

/-- The characters of a text, a given mark among them written twice. -/
def doubled (mark : Char) : List Char → List Char
  | [] => []
  | c :: cs => if c = mark then mark :: mark :: doubled mark cs else c :: doubled mark cs

/-- A text between two marks. -/
def enclosed (mark : Char) (cs : List Char) : List Char := mark :: (doubled mark cs ++ [mark])

theorem doubled_append (mark : Char) (cs ds : List Char) :
    doubled mark (cs ++ ds) = doubled mark cs ++ doubled mark ds := by
  induction cs with
  | nil => rfl
  | cons c cs ih => by_cases h : c = mark <;> simp [doubled, h, ih]

end RelevanceSql.Sql
