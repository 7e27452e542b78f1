import Mathlib.Data.Finset.Card
import RelevanceSql.Proofs.RoundTrip

/-!
# Maps and the pairs that were put in

A map that keeps the order of insertion is decided by its history, the row of all pairs that were put
in: its names are those of the history in the order in which they first came, and under each of them is
the value that came last. `OrderedMap.Records` says this of a map and a history. The empty map records
the empty history, and putting in one more pair makes the history longer by that pair
(`Records.insert`); so it holds of every run, however it is divided into a list to start from and the
insertions that follow.

An insertion also tells which value was there. In a run that is the last value of the history so far
(`Records.fst_exchangeAll`).
-/

namespace RelevanceSql

open RelevanceSql.Document

variable {α : Type}

/-! ## Histories -/

/-- The value that came last under a name. -/
def lastValue? (key : String) (history : List (String × α)) : Option α :=
  ((history.filter fun p => decide (p.1 = key)).getLast?).map Prod.snd

/-- One more pair is the last one under its name, and changes no other. -/
theorem lastValue?_concat (key : String) (history : List (String × α)) (p : String × α) :
    lastValue? key (history ++ [p]) = if p.1 = key then some p.2 else lastValue? key history := by
  unfold lastValue?
  rw [List.filter_append]
  split
  · next h => simp [h]
  · next h => simp [h]

theorem lastValue?_eq_none_iff {key : String} {history : List (String × α)} :
    lastValue? key history = none ↔ key ∉ history.map Prod.fst := by
  rw [lastValue?, Option.map_eq_none_iff, List.getLast?_eq_none_iff, List.filter_eq_nil_iff, List.mem_map]
  constructor
  · rintro h ⟨p, hp, heq⟩
    exact h p hp (decide_eq_true heq)
  · intro h p hp heq
    exact h ⟨p, hp, of_decide_eq_true heq⟩

/-! ## One insertion -/

/-- An insertion leaves the other names with their values where they are, and moves none to another place. -/
theorem getElem?_putEntry_of_ne {key other : String} (h : other ≠ key) (value v : α)
    (entries : List (String × α)) (i : Nat) :
    (putEntry key value entries)[i]? = some (other, v) ↔ entries[i]? = some (other, v) := by
  induction entries generalizing i with
  | nil => cases i <;> simp [putEntry, h.symm]
  | cons e rest ih =>
    obtain ⟨k, w⟩ := e
    rw [putEntry]
    -- either the entry is replaced here, or the insertion goes on behind it
    by_cases hk : k = key
    · subst hk
      cases i <;> simp [h.symm]
    · rw [if_neg hk]
      cases i with
      | zero => rfl
      | succ i => exact ih i

/-- A name that is there gets the new value in its place. -/
theorem getElem?_putEntry_self {key : String} {value old : α} {entries : List (String × α)}
    (hnodup : (entries.map Prod.fst).Nodup) {i : Nat} (h : entries[i]? = some (key, old)) :
    (putEntry key value entries)[i]? = some (key, value) := by
  induction entries generalizing i with
  | nil => simp at h
  | cons e rest ih =>
    obtain ⟨k, w⟩ := e
    obtain ⟨hfresh, hrest⟩ := List.nodup_cons.1 hnodup
    rw [putEntry]
    cases i with
    | zero =>
      cases h
      rw [if_pos rfl]
      rfl
    | succ i =>
      -- another entry in front cannot have this name, since it comes again behind it
      have hlater : key ∈ rest.map Prod.fst := List.mem_map.2 ⟨_, List.mem_of_getElem? h, rfl⟩
      rw [if_neg (fun heq : k = key => hfresh (heq ▸ hlater))]
      exact ih hrest h

namespace OrderedMap

/-- A name that is not in the map has no value. -/
theorem get?_eq_none_iff {m : OrderedMap α} {key : String} : m.get? key = none ↔ key ∉ m.keys := by
  rw [Option.eq_none_iff_forall_ne_some, keys, List.mem_map]
  constructor
  · rintro h ⟨⟨k, v⟩, hmem, rfl⟩
    exact h v (get?_eq_some_iff.2 hmem)
  · intro h v hv
    exact h ⟨(key, v), get?_eq_some_iff.1 hv, rfl⟩

/-! ## Runs of insertions -/

/-- A map whose names are those of a history, in the order in which they came first, each with the value
that came last. -/
structure Records (m : OrderedMap α) (history : List (String × α)) : Prop where
  mem_keys_iff : ∀ key, key ∈ m.keys ↔ key ∈ history.map Prod.fst
  ordered : m.keys.Pairwise fun a b =>
    (history.map Prod.fst).idxOf a < (history.map Prod.fst).idxOf b
  get?_eq : ∀ key, m.get? key = lastValue? key history

theorem records_empty : (empty : OrderedMap α).Records [] where
  mem_keys_iff _ := Iff.rfl
  ordered := .nil
  get?_eq _ := rfl

namespace Records

variable {m : OrderedMap α} {history : List (String × α)}

/-- One more pair makes the history longer by this pair. -/
theorem insert (h : m.Records history) (key : String) (value : α) :
    (m.insert key value).Records (history ++ [(key, value)]) where
  mem_keys_iff other := by
    rw [keys_insert, List.map_append, List.mem_append, ← h.mem_keys_iff]
    split
    · next hkey =>
      -- the name comes again, and adds no name
      constructor
      · exact .inl
      · rintro (hother | hother)
        · exact hother
        · rw [List.mem_singleton.1 hother]
          exact hkey
    · exact List.mem_append
  ordered := by
    rw [List.map_append, List.map_singleton, keys_insert]
    -- names that were there keep their first places in the longer history
    have hplace : ∀ a ∈ m.keys, (history.map Prod.fst ++ [key]).idxOf a = (history.map Prod.fst).idxOf a :=
      fun a ha => List.idxOf_append_of_mem ((h.mem_keys_iff a).1 ha)
    have hkeys : m.keys.Pairwise fun a b =>
        (history.map Prod.fst ++ [key]).idxOf a < (history.map Prod.fst ++ [key]).idxOf b := by
      refine h.ordered.imp_of_mem fun {a b} ha hb hlt => ?_
      rwa [hplace a ha, hplace b hb]
    split
    · exact hkeys
    · next hnew =>
      refine List.pairwise_append.2 ⟨hkeys, List.pairwise_singleton .., fun a ha b hb => ?_⟩
      rw [List.mem_singleton.1 hb, hplace a ha,
        List.idxOf_append_of_notMem (mt (h.mem_keys_iff key).2 hnew)]
      exact Nat.lt_add_right _ (List.idxOf_lt_length_of_mem ((h.mem_keys_iff a).1 ha))
  get?_eq other := by
    rw [lastValue?_concat]
    split
    · next heq =>
      cases heq
      exact m.get?_insert_self key value
    · next hne =>
      rw [m.get?_insert_of_ne (Ne.symm hne) value]
      exact h.get?_eq other

/-- A run of insertions makes the history longer by all of its pairs. -/
theorem foldl_insert (h : m.Records history) (pairs : List (String × α)) :
    (pairs.foldl (fun m p => m.insert p.1 p.2) m).Records (history ++ pairs) := by
  induction pairs generalizing m history with
  | nil => rwa [List.append_nil]
  | cons p pairs ih =>
    rw [List.foldl_cons, List.append_cons]
    exact ih (h.insert p.1 p.2)

/-- A map has as many entries as there are different names in its history. -/
theorem size_eq (h : m.Records history) : m.size = (history.map Prod.fst).toFinset.card := by
  have hsame : (history.map Prod.fst).toFinset = m.keys.toFinset := by
    ext key
    rw [List.mem_toFinset, List.mem_toFinset, h.mem_keys_iff]
  have hcard : m.keys.toFinset.card = m.keys.length := List.toFinset_card_of_nodup m.keys_nodup
  rw [hsame, hcard, keys, List.length_map, size]

end Records

theorem records_ofList (pairs : List (String × α)) : (ofList pairs).Records pairs :=
  records_empty.foldl_insert pairs

/-- Puts in one pair after the other, and gives for each of them the value that was there. -/
def exchangeAll (m : OrderedMap α) : List (String × α) → List (Option α) × OrderedMap α
  | [] => ([], m)
  | p :: pairs =>
    let (previous, next) := m.exchange p.1 p.2
    let (values, last) := next.exchangeAll pairs
    (previous :: values, last)

theorem snd_exchangeAll (m : OrderedMap α) (pairs : List (String × α)) :
    (m.exchangeAll pairs).2 = pairs.foldl (fun m p => m.insert p.1 p.2) m := by
  induction pairs generalizing m with
  | nil => rfl
  | cons p pairs ih => exact ih (m.insert p.1 p.2)

/-- What is given back for a pair is the last value of the history up to this pair. -/
theorem Records.fst_exchangeAll {m : OrderedMap α} {history : List (String × α)}
    (h : m.Records history) (pairs : List (String × α)) :
    (m.exchangeAll pairs).1 = pairs.mapIdx fun i p => lastValue? p.1 (history ++ pairs.take i) := by
  induction pairs generalizing m history with
  | nil => rfl
  | cons p pairs ih =>
    -- the history before a later pair begins with the pair that is put in now
    have hrest : (fun i (q : String × α) => lastValue? q.1 (history ++ (p :: pairs).take (i + 1))) =
        fun i q => lastValue? q.1 (history ++ [p] ++ pairs.take i) := by
      funext i q
      rw [List.take_succ_cons, List.append_cons]
    rw [List.mapIdx_cons, List.take_zero, List.append_nil, ← h.get?_eq, hrest]
    exact congrArg (m.get? p.1 :: ·) (ih (h.insert p.1 p.2))

/-- It makes no difference where the list ends and the insertions begin. -/
theorem ofList_append (pairs inserts : List (String × α)) :
    ofList (pairs ++ inserts) = ((ofList pairs).exchangeAll inserts).2 := by
  rw [snd_exchangeAll, ofList, List.foldl_append]
  rfl

end OrderedMap

/-! ## Histories in documents -/

namespace Document

/-- Members of an object that are read as the pairs of a history. -/
abbrev ReadsAs (read : Value → Option α) : List (String × Value) → List (String × α) → Prop :=
  List.Forall₂ fun member p => member.1 = p.1 ∧ read member.2 = some p.2

/-- An object is read as the map of its members, one insertion for each. -/
theorem map?_of_readsAs {read : Value → Option α} {v : Value} {members : List (String × Value)}
    {pairs : List (String × α)} (hv : v.members? = some members) (h : ReadsAs read members pairs) :
    v.map? read = some (OrderedMap.ofList pairs) := by
  have hpairs : (members.mapM fun entry => (read entry.2).map fun a => (entry.1, a)) = some pairs := by
    clear hv
    induction h with
    | nil => rfl
    | @cons member p members pairs hmember _ ih =>
      rw [List.mapM_cons, hmember.2, ih, hmember.1]
      rfl
  rw [Value.map?, hv]
  exact congrArg (Option.map OrderedMap.ofList) hpairs

theorem readDocument_map?_of_readsAs {read : Value → Option α} {text : String}
    {members : List (String × Value)} {pairs : List (String × α)}
    (htext : (Value.parse? text).bind Value.members? = some members) (h : ReadsAs read members pairs) :
    readDocument (·.map? read) text = .ok (OrderedMap.ofList pairs) := by
  obtain ⟨v, hv, hmembers⟩ := Option.bind_eq_some_iff.1 htext
  rw [readDocument, hv, Option.bind_some, map?_of_readsAs hmembers h]

/-- Any members with a text, also of one name, stand in a document. -/
theorem members?_parse?_ofMembers {members : List (String × Value)}
    (h : ∀ member ∈ members, member.2.IsProper) :
    ∀ write ∈ [Value.compact, Value.indented],
      (Value.parse? (write (Value.ofMembers members))).bind Value.members? = some members := by
  intro write hwrite
  rw [parse?_written (Value.isProper_ofMembers h) write hwrite]
  exact members?_ofMembers members

end Document

/-- **Maps keep the order of insertion.** After any list of pairs and any insertions that follow it, the map
has the different names of this history, each once and in the order in which they came first, and under each
of them the value that came last. Each insertion gave the last value of the history up to it. The same map
comes from the history as one list of pairs, and from any document that is an object with such members.
Putting a value under a name gives the value that was there, if the name was; it leaves the other names with
their values in their places, replaces the value in the place of the name, and puts a new name at the end. -/
theorem OrderedMap.map_of_history (pairs inserts : List (String × α)) :
    (∃ values m, (ofList pairs).exchangeAll inserts = (values, m) ∧ m.keys.Nodup ∧
      m.Records (pairs ++ inserts) ∧
      (∀ key, m.get? key = none ↔ key ∉ (pairs ++ inserts).map Prod.fst) ∧
      m.size = ((pairs ++ inserts).map Prod.fst).toFinset.card ∧
      values = inserts.mapIdx (fun i p => lastValue? p.1 (pairs ++ inserts.take i)) ∧
      m = ofList (pairs ++ inserts) ∧
      ∀ (read : Value → Option α) (members : List (String × Value)), ReadsAs read members (pairs ++ inserts) →
        (∀ text, (Value.parse? text).bind Value.members? = some members →
          readDocument (·.map? read) text = .ok m) ∧
        ((∀ member ∈ members, member.2.IsProper) → ∀ write ∈ [Value.compact, Value.indented],
          (Value.parse? (write (Value.ofMembers members))).bind Value.members? = some members)) ∧
    ∀ (m : OrderedMap α) (key : String) (value : α),
      ((m.exchange key value).1 = none ↔ key ∉ m.keys) ∧
      (∀ previous, (m.exchange key value).1 = some previous ↔ (key, previous) ∈ m.entries) ∧
      (∀ other, other ≠ key → ∀ (i : Nat) (v : α),
        (m.exchange key value).2.entries[i]? = some (other, v) ↔ m.entries[i]? = some (other, v)) ∧
      (∀ (i : Nat) (previous : α), m.entries[i]? = some (key, previous) →
        (m.exchange key value).2.entries[i]? = some (key, value)) ∧
      (key ∉ m.keys → (m.exchange key value).2.entries = m.entries ++ [(key, value)]) := by
  refine ⟨⟨_, _, rfl, ?_⟩, fun m key value => ?_⟩
  · rw [← ofList_append]
    have hrecords := records_ofList (pairs ++ inserts)
    refine ⟨(ofList (pairs ++ inserts)).keys_nodup, hrecords, fun key => ?_, hrecords.size_eq,
      (records_ofList pairs).fst_exchangeAll inserts, rfl, fun read members hreads =>
      ⟨fun text htext => readDocument_map?_of_readsAs htext hreads, members?_parse?_ofMembers⟩⟩
    rw [hrecords.get?_eq, lastValue?_eq_none_iff]
  · exact ⟨get?_eq_none_iff, fun _ => get?_eq_some_iff,
      fun _ hother i v => getElem?_putEntry_of_ne hother value v m.entries i,
      fun _ _ hplace => getElem?_putEntry_self m.keys_nodup hplace,
      fun hnew => putEntry_of_not_mem hnew value⟩

/-- The members of an object in which a name comes again behind another one. -/
def repeatedMembers : List (String × Value) :=
  [("b", .ofString "one"), ("a", .ofString "two"), ("b", .ofString "three")]

theorem OrderedMap.map_of_history_repeated :
    (ReadsAs Value.string? repeatedMembers ([("b", "one"), ("a", "two")] ++ [("b", "three")]) ∧
      (Value.parse? "\x7b\"b\":\"one\",\"a\":\"two\",\"b\":\"three\"\x7d").bind Value.members? =
        some repeatedMembers ∧
      readDocument (·.map? Value.string?) "\x7b\"b\":\"one\",\"a\":\"two\",\"b\":\"three\"\x7d" =
        .ok ((ofList [("b", "one"), ("a", "two")]).exchangeAll [("b", "three")]).2) ∧
    (∀ member ∈ repeatedMembers, member.2.IsProper) ∧
    ("a" ≠ "b" ∧ (ofList [("b", "one"), ("a", "two")]).entries[1]? = some ("a", "two") ∧
      ((ofList [("b", "one"), ("a", "two")]).exchange "b" "three").2.entries[1]? = some ("a", "two")) ∧
    ((ofList [("b", "one"), ("a", "two")]).entries[0]? = some ("b", "one") ∧
      ((ofList [("b", "one"), ("a", "two")]).exchange "b" "three").2.entries[0]? = some ("b", "three")) ∧
    "c" ∉ (ofList [("b", "one"), ("a", "two")]).keys ∧
      ((ofList [("b", "one"), ("a", "two")]).exchange "c" "three").2.entries =
        [("b", "one"), ("a", "two"), ("c", "three")] := by
  obtain ⟨⟨values, m, hrun, _, _, _, _, _, _, hdocument⟩, hstep⟩ :=
    map_of_history [("b", "one"), ("a", "two")] [("b", "three")]
  have hreads : ReadsAs Value.string? repeatedMembers
      ([("b", "one"), ("a", "two")] ++ [("b", "three")]) :=
    .cons ⟨rfl, Value.string?_ofString _⟩ (.cons ⟨rfl, Value.string?_ofString _⟩
      (.cons ⟨rfl, Value.string?_ofString _⟩ .nil))
  have hproper : ∀ member ∈ repeatedMembers, member.2.IsProper := by
    rintro member (_ | ⟨_, _ | ⟨_, _ | ⟨_, ⟨⟩⟩⟩⟩) <;> exact Value.isProper_ofString _
  have hcompact : (Value.ofMembers repeatedMembers).compact =
      "\x7b\"b\":\"one\",\"a\":\"two\",\"b\":\"three\"\x7d" := by decide +kernel
  have htext := (hdocument _ _ hreads).2 hproper Value.compact (List.mem_cons_self ..)
  rw [hcompact] at htext
  have hfirst : (ofList [("b", "one"), ("a", "two")]).entries[0]? = some ("b", "one") := by decide
  have hsecond : (ofList [("b", "one"), ("a", "two")]).entries[1]? = some ("a", "two") := by decide
  have hnew : "c" ∉ (ofList [("b", "one"), ("a", "two")]).keys := by decide
  obtain ⟨_, _, hother, hself, _⟩ := hstep (ofList [("b", "one"), ("a", "two")]) "b" "three"
  refine ⟨⟨hreads, htext, ?_⟩, hproper, ⟨by decide, hsecond, (hother "a" (by decide) 1 "two").2 hsecond⟩,
    ⟨hfirst, hself 0 "one" hfirst⟩, hnew,
    (hstep (ofList [("b", "one"), ("a", "two")]) "c" "three").2.2.2.2 hnew⟩
  rw [hrun]
  exact (hdocument _ _ hreads).1 _ htext

end RelevanceSql
