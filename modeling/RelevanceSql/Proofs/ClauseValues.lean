import Mathlib.Tactic.Common
import RelevanceSql.Sql.Bindings

/-!
# Bindings as independent lists

The values of a query are kept by clause, and clauses are found by a dispatch for reading and another
one for writing. That the two agree means that bindings are six lists of which each goes its own way:
what an operation does to one of them depends on nothing but this list (`Operation.onList`), and it
does nothing to a list of a clause that it does not name. A single operation is compared with its
effect on a list in `get_apply`; a run of operations then does to each list what its operations do one
after the other (`get_run`), and it takes out what the list held at that moment (`fst_run`).

Appending is done for all clauses at once. It joins the lists pairwise, and so it is associative, with
the empty bindings as its unit; a set of bindings can be appended to itself like any other.
-/

namespace RelevanceSql.Sql.Bindings

/-! ## Operations -/

/-- What can be done to bindings. The last one appends a copy of the bindings to themselves. -/
inductive Operation where
  | push (clause : Clause) (param : Param)
  | extend (clause : Clause) (params : List Param)
  | replace (clause : Clause) (params : List Param)
  | take (clause : Clause)
  | append (other : Bindings)
  | appendSelf

namespace Operation

/-- Does one operation; only taking values out gives any. -/
def apply (b : Bindings) : Operation → Option (List Param) × Bindings
  | push clause param => (none, b.push clause param)
  | extend clause params => (none, b.extend clause params)
  | replace clause params => (none, b.replace clause params)
  | take clause => let (values, rest) := b.take clause; (some values, rest)
  | append other => (none, b.append other)
  | appendSelf => (none, b.append b)

/-- What an operation does to the list of one clause. -/
def onList (clause : Clause) (values : List Param) : Operation → List Param
  | push named param => if clause = named then values ++ [param] else values
  | extend named params => if clause = named then values ++ params else values
  | replace named params => if clause = named then params else values
  | take named => if clause = named then [] else values
  | append other => values ++ other.get clause
  | appendSelf => values ++ values

/-- The values that an operation takes out of six lists. -/
def taken (lists : Clause → List Param) : Operation → Option (List Param)
  | take clause => some (lists clause)
  | _ => none

/-- The clauses that an operation is about. Appending is about the clauses in which there is something to
append. -/
def Names (clause : Clause) : Operation → Prop
  | push named _ | extend named _ | replace named _ | take named => clause = named
  | append other => other.get clause ≠ []
  | appendSelf => True

/-- A list of a clause that an operation does not name stays as it is. -/
theorem onList_of_not_names {op : Operation} {clause : Clause} (h : ¬op.Names clause)
    (values : List Param) : op.onList clause values = values := by
  cases op with
  | push | extend | replace | take => exact if_neg h
  | append other => rw [onList, not_not.1 h, List.append_nil]
  | appendSelf => exact absurd trivial h

/-- What an operation does to the list of a clause depends on this list only. -/
theorem get_apply (op : Operation) (b : Bindings) (clause : Clause) :
    (op.apply b).2.get clause = op.onList clause (b.get clause) := by
  cases op with
  | push named param =>
    show (b.extend named [param]).get clause = _
    -- pushing one value is extending by a list of one
    rw [get_extend, onList]
    split
    · next h => rw [h]
    · rfl
  | extend named params =>
    show (b.extend named params).get clause = _
    rw [get_extend, onList]
    split
    · next h => rw [h]
    · rfl
  | replace named params => exact get_replace b named clause params
  | take named => exact get_replace b named clause []
  | append other => exact get_append b other clause
  | appendSelf => exact get_append b b clause

theorem fst_apply (op : Operation) (b : Bindings) : (op.apply b).1 = op.taken b.get := by
  cases op <;> rfl

/-- What is taken out depends on the clauses that are named, and on no other. -/
theorem taken_congr {op : Operation} {lists others : Clause → List Param}
    (h : ∀ clause, op.Names clause → lists clause = others clause) : op.taken lists = op.taken others := by
  cases op with
  | take clause => exact congrArg some (h clause rfl)
  | push | extend | replace | append | appendSelf => rfl

/-- An operation leaves what it does not name. -/
theorem get_apply_of_not_names {op : Operation} {clause : Clause} (h : ¬op.Names clause) (b : Bindings) :
    (op.apply b).2.get clause = b.get clause := by
  rw [get_apply, onList_of_not_names h]

/-- Operations that name different clauses commute, and each takes out what it would take out alone. -/
theorem apply_comm {first second : Operation} (h : ∀ clause, first.Names clause → ¬second.Names clause)
    (b : Bindings) :
    (second.apply (first.apply b).2).2 = (first.apply (second.apply b).2).2 ∧
      (second.apply (first.apply b).2).1 = (second.apply b).1 := by
  constructor
  · apply ext_get
    intro clause
    rw [get_apply, get_apply, get_apply, get_apply]
    -- a clause is left alone by one of the two operations at least
    by_cases hfirst : first.Names clause
    · rw [onList_of_not_names (h clause hfirst), onList_of_not_names (h clause hfirst)]
    · rw [onList_of_not_names hfirst, onList_of_not_names hfirst]
  · rw [fst_apply, fst_apply]
    exact taken_congr fun clause hsecond => get_apply_of_not_names (fun hfirst => h clause hfirst hsecond) b

end Operation

/-! ## Runs -/

/-- Does one operation after the other, and gives what each of them takes out. -/
def run (b : Bindings) : List Operation → List (Option (List Param)) × Bindings
  | [] => ([], b)
  | op :: ops =>
    let (values, next) := op.apply b
    let (rest, last) := next.run ops
    (values :: rest, last)

/-- The list of one clause after a row of operations. -/
def listAfter (clause : Clause) (ops : List Operation) (values : List Param) : List Param :=
  ops.foldl (fun values op => op.onList clause values) values

/-- A run does to each list what its operations do to it, one after the other. -/
theorem get_run (b : Bindings) (ops : List Operation) (clause : Clause) :
    (b.run ops).2.get clause = listAfter clause ops (b.get clause) := by
  induction ops generalizing b with
  | nil => rfl
  | cons op ops ih =>
    show ((op.apply b).2.run ops).2.get clause = listAfter clause ops (op.onList clause (b.get clause))
    rw [ih, op.get_apply]

/-- A run takes out what a list holds after the operations up to that one. -/
theorem fst_run (b : Bindings) (ops : List Operation) :
    (b.run ops).1 = ops.mapIdx fun i op =>
      op.taken fun clause => listAfter clause (ops.take i) (b.get clause) := by
  induction ops generalizing b with
  | nil => rfl
  | cons op ops ih =>
    -- what the later operations find has gone through the first one
    have hlater : ∀ i clause, listAfter clause (ops.take i) ((op.apply b).2.get clause) =
        listAfter clause ((op :: ops).take (i + 1)) (b.get clause) := by
      intro i clause
      rw [op.get_apply]
      rfl
    show (op.apply b).1 :: ((op.apply b).2.run ops).1 = _
    rw [List.mapIdx_cons, ih, op.fst_apply]
    simp only [hlater]
    rfl

/-! ## Appending -/

/-- Appending is done clause by clause, and lists can be put together in either order. -/
theorem append_assoc (a b c : Bindings) : (a.append b).append c = a.append (b.append c) :=
  ext_get fun clause => by simp only [get_append, List.append_assoc]

theorem empty_append (b : Bindings) : empty.append b = b :=
  ext_get fun clause => by rw [get_append, get_empty, List.nil_append]

theorem append_empty (b : Bindings) : b.append empty = b :=
  ext_get fun clause => by rw [get_append, get_empty, List.append_nil]

/-- **Bindings are six independent lists.** After any operations the values of each clause are what the
operations make of this list alone, whatever the other lists hold, and values are taken out as the list has
them then; an operation does nothing to a list of a clause that it does not name. Appending joins the lists
clause by clause, the values that are there first; it is associative, with the empty bindings as its unit. All
values are listed clause by clause in the order of rendering, and there are as many as the size says.
Operations that name different clauses commute, and both take out what they take out alone. -/
theorem lists_of_run :
    (∀ (b : Bindings) (ops : List Operation),
      (∀ clause, (b.run ops).2.get clause = listAfter clause ops (b.get clause)) ∧
      (b.run ops).1 = ops.mapIdx fun i op =>
        op.taken fun clause => listAfter clause (ops.take i) (b.get clause)) ∧
    (∀ (op : Operation) (clause : Clause), ¬op.Names clause →
      ∀ values, op.onList clause values = values) ∧
    (∀ a b c : Bindings, (∀ clause, (a.append b).get clause = a.get clause ++ b.get clause) ∧
      (a.append b).append c = a.append (b.append c) ∧ empty.append a = a ∧ a.append empty = a) ∧
    (∀ b : Bindings, b.flatten = b.get .select ++ b.get .source ++ b.get .join ++ b.get .filter ++
      b.get .having ++ b.get .order ∧ b.size = b.flatten.length) ∧
    ∀ first second : Operation, (∀ clause, first.Names clause → ¬second.Names clause) → ∀ b : Bindings,
      (second.apply (first.apply b).2).2 = (first.apply (second.apply b).2).2 ∧
      (second.apply (first.apply b).2).1 = (second.apply b).1 ∧
      (first.apply (second.apply b).2).1 = (first.apply b).1 := by
  refine ⟨fun b ops => ⟨b.get_run ops, b.fst_run ops⟩, fun op clause => Operation.onList_of_not_names,
    fun a b c => ⟨a.get_append b, a.append_assoc b c, a.empty_append, a.append_empty⟩,
    fun b => ⟨b.flatten_eq, b.length_flatten.symm⟩, fun first second hdisjoint b => ?_⟩
  obtain ⟨hsame, hsecond⟩ := Operation.apply_comm hdisjoint b
  have hdisjoint' : ∀ clause, second.Names clause → ¬first.Names clause :=
    fun clause hs hf => hdisjoint clause hf hs
  exact ⟨hsame, hsecond, (Operation.apply_comm hdisjoint' b).2⟩

/-- Values in two clauses. -/
def filteredBindings : Bindings := { select := [.text "s"], filter := [.integer 1, .null] }

theorem lists_of_run_filtered :
    (¬(Operation.push .filter .null).Names .select ∧
      (Operation.push .filter .null).onList .select [.text "s"] = [.text "s"]) ∧
    (∀ clause, (Operation.take .filter).Names clause →
      ¬(Operation.append { select := [.integer 7] }).Names clause) ∧
    ((Operation.append { select := [.integer 7] }).apply ((Operation.take .filter).apply filteredBindings).2).2 =
      ((Operation.take .filter).apply ((Operation.append { select := [.integer 7] }).apply filteredBindings).2).2 ∧
    ((Operation.take .filter).apply
      ((Operation.append { select := [.integer 7] }).apply filteredBindings).2).1 =
        some [.integer 1, .null] ∧
    (filteredBindings.run [.appendSelf, .take .select, .push .select .null]).2.get .select = [.null] ∧
    (filteredBindings.run [.appendSelf, .take .select, .push .select .null]).1 =
      [none, some [.text "s", .text "s"], none] := by
  obtain ⟨hrun, hnames, -, -, hcomm⟩ := lists_of_run
  have hfree : ¬(Operation.push .filter .null).Names .select := nofun
  have hdisjoint : ∀ clause, (Operation.take .filter).Names clause →
      ¬(Operation.append { select := [.integer 7] }).Names clause := by
    rintro clause rfl h
    exact h rfl
  obtain ⟨hsame, -, htaken⟩ := hcomm _ _ hdisjoint filteredBindings
  exact ⟨⟨hfree, hnames _ _ hfree _⟩, hdisjoint, hsame, htaken, (hrun _ _).1 .select, (hrun _ _).2⟩

end RelevanceSql.Sql.Bindings
