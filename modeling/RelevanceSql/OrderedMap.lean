/-!
# Maps in order of insertion

A map from names to values that is read in the order in which its names first came in. Putting a
value under a name that is there replaces the value and keeps the place. The order is that of the
columns of a score and of its bound values, and that in which documents are written.
-/

namespace RelevanceSql

/-- Puts a value under a name: in the place of the name, or at the end. -/
def putEntry {α : Type} (key : String) (value : α) : List (String × α) → List (String × α)
  | [] => [(key, value)]
  | (k, v) :: rest => if k = key then (k, value) :: rest else (k, v) :: putEntry key value rest

/-- The names after a value is put under one of them, or under a new one. -/
theorem keys_putEntry {α : Type} (key : String) (value : α) (entries : List (String × α)) :
    (putEntry key value entries).map Prod.fst =
      if key ∈ entries.map Prod.fst then entries.map Prod.fst else entries.map Prod.fst ++ [key] := by
  induction entries with
  | nil => simp [putEntry]
  | cons e rest ih =>
    obtain ⟨k, v⟩ := e
    rw [putEntry]
    by_cases h : k = key
    · simp [h]
    · have h' : ¬ key = k := fun e => h e.symm
      simp only [h, if_false, List.map_cons, ih, List.mem_cons, h', false_or]
      split <;> simp

theorem nodup_keys_putEntry {α : Type} {key : String} {value : α} {entries : List (String × α)}
    (h : (entries.map Prod.fst).Nodup) : ((putEntry key value entries).map Prod.fst).Nodup := by
  rw [keys_putEntry]
  split
  · exact h
  · next hk =>
    rw [List.nodup_append]
    refine ⟨h, by simp, ?_⟩
    intro a ha b hb
    rw [List.mem_singleton] at hb
    rintro rfl
    exact hk (hb ▸ ha)

/-- Names with their values, each name once. -/
structure OrderedMap (α : Type) where
  entries : List (String × α)
  keys_nodup : (entries.map Prod.fst).Nodup

namespace OrderedMap

variable {α : Type}

/-- The map without names. -/
def empty : OrderedMap α := ⟨[], by simp⟩

instance : Inhabited (OrderedMap α) := ⟨empty⟩

/-- The names, in order. -/
def keys (m : OrderedMap α) : List String := m.entries.map Prod.fst

/-- The values, in the order of their names. -/
def values (m : OrderedMap α) : List α := m.entries.map Prod.snd

/-- The value under a name. -/
def get? (m : OrderedMap α) (key : String) : Option α :=
  (m.entries.find? fun e => decide (e.1 = key)).map Prod.snd

/-- Whether a name is there. -/
def contains (m : OrderedMap α) (key : String) : Bool := (m.get? key).isSome

/-- The number of names. -/
def size (m : OrderedMap α) : Nat := m.entries.length

/-- Whether there is no name. -/
def isEmpty (m : OrderedMap α) : Bool := m.entries.isEmpty

/-- Puts a value under a name. -/
def insert (m : OrderedMap α) (key : String) (value : α) : OrderedMap α :=
  ⟨putEntry key value m.entries, nodup_keys_putEntry m.keys_nodup⟩

/-- Puts a value under a name, and gives the value that was there. -/
def exchange (m : OrderedMap α) (key : String) (value : α) : Option α × OrderedMap α :=
  (m.get? key, m.insert key value)

/-- Puts one value after the other. -/
def ofList (pairs : List (String × α)) : OrderedMap α :=
  pairs.foldl (fun m p => m.insert p.1 p.2) empty

theorem ext_entries {m n : OrderedMap α} (h : m.entries = n.entries) : m = n := by
  obtain ⟨e, _⟩ := m
  obtain ⟨f, _⟩ := n
  subst h
  rfl

theorem keys_insert (m : OrderedMap α) (key : String) (value : α) :
    (m.insert key value).keys = if key ∈ m.keys then m.keys else m.keys ++ [key] :=
  keys_putEntry key value m.entries

/-- A value that was put is found under its name. -/
theorem get?_insert_self (m : OrderedMap α) (key : String) (value : α) :
    (m.insert key value).get? key = some value := by
  obtain ⟨entries, _⟩ := m
  simp only [get?, insert]
  induction entries with
  | nil => simp [putEntry]
  | cons e rest ih =>
    obtain ⟨k, v⟩ := e
    rw [putEntry]
    by_cases h : k = key
    · simp [h]
    · simp only [h, if_false, List.find?_cons, decide_false]
      exact ih (by simp_all)

/-- Under all other names the map stays as it was. -/
theorem get?_insert_of_ne (m : OrderedMap α) {key other : String} (h : other ≠ key) (value : α) :
    (m.insert key value).get? other = m.get? other := by
  obtain ⟨entries, _⟩ := m
  simp only [get?, insert]
  induction entries with
  | nil => simp [putEntry, Ne.symm h]
  | cons e rest ih =>
    obtain ⟨k, v⟩ := e
    rw [putEntry]
    by_cases hk : k = key
    · subst hk
      simp [Ne.symm h]
    · by_cases ho : k = other
      · subst ho
        simp [hk]
      · simp only [hk, if_false, List.find?_cons, ho, decide_false]
        exact ih (by simp_all)

theorem putEntry_of_not_mem {key : String} {entries : List (String × α)}
    (h : key ∉ entries.map Prod.fst) (value : α) :
    putEntry key value entries = entries ++ [(key, value)] := by
  induction entries with
  | nil => rfl
  | cons e rest ih =>
    obtain ⟨k, v⟩ := e
    rw [List.map_cons, List.mem_cons, not_or] at h
    rw [putEntry, if_neg (Ne.symm h.1), ih h.2, List.cons_append]

theorem entries_foldl_insert {pairs : List (String × α)} {m : OrderedMap α}
    (h : (m.keys ++ pairs.map Prod.fst).Nodup) :
    (pairs.foldl (fun m p => m.insert p.1 p.2) m).entries = m.entries ++ pairs := by
  induction pairs generalizing m with
  | nil => rw [List.foldl_nil, List.append_nil]
  | cons p pairs ih =>
    have hnew : p.1 ∉ m.keys := fun hmem =>
      (List.nodup_append.1 h).2.2 _ hmem _ (List.mem_cons_self ..) rfl
    have hkeys : (m.insert p.1 p.2).keys = m.keys ++ [p.1] := by rw [keys_insert, if_neg hnew]
    have hentries : (m.insert p.1 p.2).entries = m.entries ++ [(p.1, p.2)] := putEntry_of_not_mem hnew p.2
    rw [List.map_cons, List.append_cons, ← hkeys] at h
    rw [List.foldl_cons, ih h, hentries, ← List.append_cons]

/-- Pairs with different names are the entries of their map. -/
theorem entries_ofList {pairs : List (String × α)} (h : (pairs.map Prod.fst).Nodup) :
    (ofList pairs).entries = pairs := by
  have hall := entries_foldl_insert (m := empty) (by simpa [keys, empty] using h)
  exact hall.trans (List.nil_append _)

/-- Under a name that is there, its value is found. -/
theorem get?_eq_some_iff {m : OrderedMap α} {key : String} {value : α} :
    m.get? key = some value ↔ (key, value) ∈ m.entries := by
  obtain ⟨entries, hnodup⟩ := m
  simp only [get?]
  induction entries with
  | nil => simp
  | cons e rest ih =>
    obtain ⟨k, v⟩ := e
    have hrest := List.nodup_cons.1 hnodup
    rw [List.find?_cons, List.mem_cons, Prod.mk.injEq]
    by_cases hk : k = key
    · subst hk
      -- the name is not there again
      have habsent : (k, value) ∉ rest := fun hmem =>
        hrest.1 (List.mem_map.2 ⟨_, hmem, rfl⟩)
      simp [habsent, eq_comm]
    · simp only [hk, decide_false, Ne.symm hk, false_and, false_or]
      exact ih hrest.2

end OrderedMap

end RelevanceSql
