import RelevanceSql.Sql.Param

/-!
# Values by clause

The values of a query's placeholders, kept in one list for each clause in which placeholders can
stand. Clauses are rendered in a fixed order, and `flatten` lists the values in that order.
-/

namespace RelevanceSql.Sql

/-- The clauses that hold values: the select list, FROM, joins, WHERE, HAVING and ORDER BY. -/
inductive Clause where
  | select
  | source
  | join
  | filter
  | having
  | order
  deriving DecidableEq, Repr

/-- The clauses in the order in which they are rendered. -/
def Clause.all : List Clause := [.select, .source, .join, .filter, .having, .order]

/-- One list of values for each clause. -/
structure Bindings where
  select : List Param := []
  source : List Param := []
  join : List Param := []
  filter : List Param := []
  having : List Param := []
  order : List Param := []
  deriving BEq, Repr

namespace Bindings

/-- No values at all. -/
def empty : Bindings := {}

/-- The values of a clause. -/
def get (b : Bindings) : Clause → List Param
  | .select => b.select
  | .source => b.source
  | .join => b.join
  | .filter => b.filter
  | .having => b.having
  | .order => b.order

/-- Puts other values in the place of those of a clause. -/
def replace (b : Bindings) (clause : Clause) (params : List Param) : Bindings :=
  match clause with
  | .select => { b with select := params }
  | .source => { b with source := params }
  | .join => { b with join := params }
  | .filter => { b with filter := params }
  | .having => { b with having := params }
  | .order => { b with order := params }

/-- Adds values behind those of a clause. -/
def extend (b : Bindings) (clause : Clause) (params : List Param) : Bindings :=
  b.replace clause (b.get clause ++ params)

/-- Adds one value behind those of a clause. -/
def push (b : Bindings) (clause : Clause) (param : Param) : Bindings := b.extend clause [param]

/-- The values of a clause, and the bindings without them. -/
def take (b : Bindings) (clause : Clause) : List Param × Bindings :=
  (b.get clause, b.replace clause [])

/-- Adds the values of other bindings, clause by clause, behind those that are there. -/
def append (b other : Bindings) : Bindings :=
  Clause.all.foldl (fun acc clause => acc.extend clause (other.get clause)) b

/-- All values in the order in which the clauses are rendered. -/
def flatten (b : Bindings) : List Param := Clause.all.flatMap b.get

/-- The number of values. -/
def size (b : Bindings) : Nat := Clause.all.foldr (fun clause n => (b.get clause).length + n) 0

/-- Whether there is no value. -/
def isEmpty (b : Bindings) : Bool := decide (b.size = 0)

@[ext]
theorem ext_get {b c : Bindings} (h : ∀ clause, b.get clause = c.get clause) : b = c := by
  obtain ⟨b1, b2, b3, b4, b5, b6⟩ := b
  obtain ⟨c1, c2, c3, c4, c5, c6⟩ := c
  have h1 := h .select
  have h2 := h .source
  have h3 := h .join
  have h4 := h .filter
  have h5 := h .having
  have h6 := h .order
  simp only [get] at h1 h2 h3 h4 h5 h6
  subst h1 h2 h3 h4 h5 h6
  rfl

@[simp]
theorem get_replace_self (b : Bindings) (clause : Clause) (params : List Param) :
    (b.replace clause params).get clause = params := by cases clause <;> rfl

theorem get_replace_of_ne (b : Bindings) {clause other : Clause} (h : other ≠ clause)
    (params : List Param) : (b.replace clause params).get other = b.get other := by
  cases clause <;> cases other <;> first | rfl | exact absurd rfl h

theorem get_replace (b : Bindings) (clause other : Clause) (params : List Param) :
    (b.replace clause params).get other = if other = clause then params else b.get other := by
  split
  · next h => rw [h, get_replace_self]
  · next h => exact get_replace_of_ne b h params

theorem get_extend (b : Bindings) (clause other : Clause) (params : List Param) :
    (b.extend clause params).get other = if other = clause then b.get clause ++ params else b.get other :=
  get_replace b clause other _

@[simp]
theorem get_empty (clause : Clause) : empty.get clause = [] := by cases clause <;> rfl

/-- Appending works on each clause by itself. -/
@[simp]
theorem get_append (b other : Bindings) (clause : Clause) :
    (b.append other).get clause = b.get clause ++ other.get clause := by
  cases clause <;> rfl

/-- The values in the order in which the clauses are rendered, clause by clause. -/
theorem flatten_eq (b : Bindings) :
    b.flatten = b.get .select ++ b.get .source ++ b.get .join ++ b.get .filter ++ b.get .having ++
      b.get .order := by
  simp [flatten, Clause.all]

/-- The size is the number of listed values. -/
theorem length_flatten (b : Bindings) : b.flatten.length = b.size := by
  simp [flatten, size, Clause.all]

end Bindings

end RelevanceSql.Sql
