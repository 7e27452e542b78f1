import Mathlib.Algebra.BigOperators.Group.List.Basic
import RelevanceSql.Proofs.Expressions
import RelevanceSql.Proofs.Terms

/-!
# Sums of expressions

A sum of expressions is written by adding their fragments one after the other (`fragment_total`), and a sum of
sums is written like the sum of all their summands (`total_flatMap`). The value of a sum is the sum of the
values (`eval_total`), but one summand that is NULL makes it NULL (`eval_total_of_null`).
-/

namespace RelevanceSql.Sql

/-! ## Sums of fragments -/

theorem addSql_assoc (a b c : String) : addSql (addSql a b) c = addSql a (addSql b c) := by
  unfold addSql
  by_cases ha : a = ""
  · simp [ha]
  · by_cases hb : b = ""
    · simp [ha, hb]
    · by_cases hc : c = ""
      · simp [ha, hb, hc]
      · simp [ha, hb, hc, String.append_assoc]

instance : Std.Associative Fragment.plus where
  assoc f g h := by
    simp only [Fragment.plus, addSql_assoc, List.append_assoc]

/-- The total of two lists, neither of them empty, is the sum of their totals. -/
theorem total_append {fs gs : List Fragment} (hfs : fs ≠ []) (hgs : gs ≠ [])
    (h : ∀ f ∈ fs ++ gs, f.sql ≠ "") :
    Fragment.total (fs ++ gs) = (Fragment.total fs).plus (Fragment.total gs) := by
  obtain ⟨f, fs, rfl⟩ := List.exists_cons_of_ne_nil hfs
  obtain ⟨g, gs, rfl⟩ := List.exists_cons_of_ne_nil hgs
  rw [total_of_sql_ne_empty h, total_of_sql_ne_empty fun x hx => h x (List.mem_append_left _ hx),
    total_of_sql_ne_empty fun x hx => h x (List.mem_append_right _ hx)]
  show (fs ++ g :: gs).foldl Fragment.plus f = _
  rw [List.foldl_append, List.foldl_cons, List.foldl_assoc]

/-- A sum of sums is written like one sum. -/
theorem total_flatMap {α : Type} {xs : List α} {g : α → List Fragment} (hne : ∀ x ∈ xs, g x ≠ [])
    (h : ∀ x ∈ xs, ∀ f ∈ g x, f.sql ≠ "") :
    Fragment.total (xs.map fun x => Fragment.total (g x)) = Fragment.total (xs.flatMap g) := by
  induction xs with
  | nil => rfl
  | cons x xs ih =>
    have hone : Fragment.total [Fragment.total (g x)] = Fragment.total (g x) :=
      total_of_sql_ne_empty fun f hf => by rw [List.mem_singleton.1 hf]; exact sql_total_ne_empty _
    rw [List.map_cons, List.flatMap_cons]
    cases xs with
    | nil => simpa using hone
    | cons y ys =>
      have hrest : ∀ z ∈ y :: ys, ∀ f ∈ g z, f.sql ≠ "" := fun z hz => h z (List.mem_cons_of_mem x hz)
      have hsome : (y :: ys).flatMap g ≠ [] := by
        rw [List.flatMap_cons]
        exact List.append_ne_nil_of_left_ne_nil (hne y (by simp)) _
      rw [← List.singleton_append, total_append (List.cons_ne_nil _ _) (by simp), hone,
        ih (fun z hz => hne z (List.mem_cons_of_mem x hz)) hrest, total_append (hne x (by simp)) hsome]
      · intro f hf
        rcases List.mem_append.1 hf with hf | hf
        · exact h x (by simp) f hf
        · obtain ⟨z, hz, hf⟩ := List.mem_flatMap.1 hf
          exact hrest z hz f hf
      · intro f hf
        rcases List.mem_append.1 hf with hf | hf
        · rw [List.mem_singleton.1 hf]
          exact sql_total_ne_empty _
        · obtain ⟨z, _, rfl⟩ := List.mem_map.1 hf
          exact sql_total_ne_empty _

/-! ## Sums of expressions -/

namespace Expr

/-- The sum of expressions, zero if there are none. -/
def total : List Expr → Expr
  | [] => count 0
  | e :: es => es.foldl (arith .plus) e

/-- An expression that can be added to another one as it is written. -/
structure IsSummand (e : Expr) : Prop where
  wellBracketed : e.WellBracketed
  strength : 2 < e.strength
  sql_ne_empty : e.sql ≠ ""

/-- Adding up expressions and adding up what they are written as come to the same text. -/
theorem sql_foldl_plus (es : List Expr) (e : Expr) (hne : e.sql ≠ "") (h : ∀ x ∈ es, x.sql ≠ "") :
    (es.foldl (arith .plus) e).fragment = (es.map fragment).foldl Fragment.plus e.fragment := by
  induction es generalizing e with
  | nil => rfl
  | cons x es ih =>
    have hx : x.sql ≠ "" := h x (by simp)
    have hplus : (arith .plus e x).fragment = e.fragment.plus x.fragment := by
      have hsql : e.sql ++ " + " ++ x.sql = addSql e.sql x.sql := by rw [addSql, if_neg hne, if_neg hx]
      exact congrArg (Fragment.mk · (e.values ++ x.values)) hsql
    have hsum : (arith .plus e x).sql ≠ "" := append_ne_empty_left (append_ne_empty_left hne _) _
    rw [List.foldl_cons, ih _ hsum fun y hy => h y (by simp [hy]), hplus]
    rfl

/-- A sum is written by adding what its summands are written by. -/
theorem fragment_total {es : List Expr} (h : ∀ e ∈ es, e.IsSummand) :
    (total es).fragment = Fragment.total (es.map fragment) := by
  rw [total_of_sql_ne_empty fun f hf => by
    obtain ⟨e, he, rfl⟩ := List.mem_map.1 hf
    exact (h e he).sql_ne_empty]
  cases es with
  | nil => rfl
  | cons e es =>
    exact sql_foldl_plus es e (h e (by simp)).sql_ne_empty fun x hx => (h x (by simp [hx])).sql_ne_empty

/-- A total of fragments with paired parentheses has paired parentheses. -/
theorem wellBracketed_total {es : List Expr} (h : ∀ e ∈ es, e.IsSummand) : (total es).WellBracketed := by
  -- a sum so far holds together as tightly as an addition asks for on its left
  have hfold : ∀ (es : List Expr) (e : Expr), e.WellBracketed → 2 ≤ e.strength → (∀ x ∈ es, x.IsSummand) →
      (es.foldl (arith .plus) e).WellBracketed := by
    intro es
    induction es with
    | nil => exact fun e he _ _ => he
    | cons x es ih =>
      intro e he hstrength hes
      have hx := hes x (by simp)
      have hsum : (arith .plus e x).WellBracketed := ⟨he, hx.wellBracketed, hstrength, hx.strength⟩
      exact ih _ hsum (Nat.le_refl 2) fun y hy => hes y (by simp [hy])
  cases es with
  | nil => trivial
  | cons e es =>
    have he := h e (by simp)
    exact hfold es e he.wellBracketed (Nat.le_of_lt he.strength) fun x hx => h x (by simp [hx])

section Values

variable {db : Database} {row : Row}

/-- The value of a sum of numbers is their sum. -/
theorem eval_total {es : List Expr} {worth : Expr → ℚ}
    (h : ∀ e ∈ es, e.eval db row = .ok (.number (worth e))) :
    (total es).eval db row = .ok (.number (es.map worth).sum) := by
  have hfold : ∀ (es : List Expr) (e : Expr) (q : ℚ), e.eval db row = .ok (.number q) →
      (∀ x ∈ es, x.eval db row = .ok (.number (worth x))) →
      (es.foldl (arith .plus) e).eval db row = .ok (.number (q + (es.map worth).sum)) := by
    intro es
    induction es with
    | nil =>
      intro e q he _
      simpa using he
    | cons x es ih =>
      intro e q he hes
      have hsum : (arith .plus e x).eval db row = .ok (.number (q + worth x)) :=
        eval_arith .plus he (hes x (by simp))
      rw [List.foldl_cons, ih _ _ hsum fun y hy => hes y (by simp [hy]), List.map_cons, List.sum_cons,
        add_assoc]
  cases es with
  | nil => simp [total, eval]
  | cons e es =>
    rw [List.map_cons, List.sum_cons]
    exact hfold es e _ (h e (by simp)) fun x hx => h x (by simp [hx])

/-- Whether the value of an expression is a number. -/
def IsNumber (db : Database) (row : Row) (e : Expr) : Prop := ∃ q, e.eval db row = .ok (.number q)

/-- The number that an expression is worth, zero if it is worth none. -/
def amount (db : Database) (row : Row) (e : Expr) : ℚ :=
  match e.eval db row with
  | .ok (.number q) => q
  | _ => 0

theorem eval_eq_amount {e : Expr} (h : e.IsNumber db row) :
    e.eval db row = .ok (.number (e.amount db row)) := by
  obtain ⟨q, hq⟩ := h
  rw [amount, hq]

/-- An expression whose value is a number is worth that number. -/
theorem amount_eq {e : Expr} {q : ℚ} (h : e.eval db row = .ok (.number q)) : e.amount db row = q := by
  rw [amount, h]

section Numbers

variable {es : List Expr} (h : ∀ e ∈ es, e.IsNumber db row)
include h

theorem isNumber_total : (total es).IsNumber db row := ⟨_, eval_total fun e he => eval_eq_amount (h e he)⟩

theorem amount_total : (total es).amount db row = (es.map fun e => e.amount db row).sum :=
  amount_eq (eval_total fun e he => eval_eq_amount (h e he))

end Numbers

/-- Whether the value of an expression is a number or NULL. -/
def IsNumeric (db : Database) (row : Row) (e : Expr) : Prop :=
  e.eval db row = .ok .null ∨ e.IsNumber db row

theorem IsNumeric.plus {a b : Expr} (ha : a.IsNumeric db row) (hb : b.IsNumeric db row) :
    (arith .plus a b).IsNumeric db row := by
  rcases ha with ha | ⟨p, ha⟩ <;> rcases hb with hb | ⟨q, hb⟩
  · exact Or.inl (eval_arith .plus ha hb)
  · exact Or.inl (eval_arith .plus ha hb)
  · exact Or.inl (eval_arith .plus ha hb)
  · exact Or.inr ⟨p + q, eval_arith .plus ha hb⟩

/-- A sum is NULL as soon as one of its sides is. -/
theorem IsNumeric.eval_plus_of_null {a b : Expr} (ha : a.IsNumeric db row) (hb : b.IsNumeric db row)
    (h : a.eval db row = .ok .null ∨ b.eval db row = .ok .null) :
    (arith .plus a b).eval db row = .ok .null := by
  rcases h with ha | hb
  · rcases hb with hb | ⟨q, hb⟩
    all_goals exact eval_arith .plus ha hb
  · rcases ha with ha | ⟨p, ha⟩
    all_goals exact eval_arith .plus ha hb

/-- One summand that is NULL makes a sum NULL. -/
theorem eval_total_of_null {es : List Expr} (h : ∀ e ∈ es, e.IsNumeric db row)
    (hnull : ∃ e ∈ es, e.eval db row = .ok .null) : (total es).eval db row = .ok .null := by
  have hfold : ∀ (es : List Expr) (e : Expr), (∀ x ∈ e :: es, x.IsNumeric db row) →
      (∃ x ∈ e :: es, x.eval db row = .ok .null) → (es.foldl (arith .plus) e).eval db row = .ok .null := by
    intro es
    induction es with
    | nil => simp
    | cons x es ih =>
      intro e hes hnull
      have he := hes e (by simp)
      have hx := hes x (by simp)
      refine ih (arith .plus e x) ?_ ?_
      · intro y hy
        rcases List.mem_cons.1 hy with rfl | hy
        · exact he.plus hx
        · exact hes y (by simp [hy])
      · obtain ⟨y, hy, hynull⟩ := hnull
        rcases List.mem_cons.1 hy with rfl | hy
        · exact ⟨_, List.mem_cons_self, he.eval_plus_of_null hx (Or.inl hynull)⟩
        · rcases List.mem_cons.1 hy with rfl | hy
          · exact ⟨_, List.mem_cons_self, he.eval_plus_of_null hx (Or.inr hynull)⟩
          · exact ⟨y, by simp [hy], hynull⟩
  cases es with
  | nil =>
    obtain ⟨e, he, _⟩ := hnull
    cases he
  | cons e es => exact hfold es e h hnull

theorem isNumeric_total {es : List Expr} (h : ∀ e ∈ es, e.IsNumeric db row) :
    (total es).IsNumeric db row := by
  by_cases hnull : ∃ e ∈ es, e.eval db row = .ok .null
  · exact Or.inl (eval_total_of_null h hnull)
  · exact Or.inr (isNumber_total fun e he => (h e he).resolve_left fun hnone => hnull ⟨e, he, hnone⟩)

end Values

end Expr

end RelevanceSql.Sql
