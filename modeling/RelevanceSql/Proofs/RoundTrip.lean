import RelevanceSql.Config.Document
import RelevanceSql.Proofs.DocumentText

/-!
# Configurations come back from their documents

Configurations, models, specifications and joins are written by `toValue` and read by `ofValue?`. The
two are driven by different things: a writer leaves out the members that are not there, a reader looks
members up by name and has defaults, and it tells texts, integers and other numbers apart by how they
are written. Together they lose nothing (`readDocument_written`): order and absence of members, the
form of a grouping, and the kind of a bound value all come back.

Only binary64 numbers are a matter of their own. Infinities and NaN have no text, and the reader of
decimals is not always exact, so that a number comes back if it is finite and its shortest decimal is
read as the same number (`IsKept`). That it is not read as an integer is no assumption: its decimal has a
fraction or an exponent.
-/

namespace RelevanceSql.Document

open RelevanceSql.Number

/-! ## Binary64 numbers -/

/-- A binary64 number that documents keep: it is finite, and its decimal is read as the same number. -/
def IsKept (x : Float) : Prop := isFinite x = true ∧ (Numeral.ofFloat x).toFloat? = some x

instance (x : Float) : Decidable (IsKept x) := inferInstanceAs (Decidable (_ ∧ _))

/-- A number that documents keep is finite, so it is written as a number and not as null. -/
theorem ofFloat_of_isKept {x : Float} (h : IsKept x) :
    Value.ofFloat x = .number (Numeral.ofFloat x) :=
  if_pos h.1

/-! ## Parts of documents -/

/-- What is written item by item is read item by item. -/
theorem mapM_map_eq_some {α β : Type} {read : β → Option α} {write : α → β} {as : List α}
    (h : ∀ a ∈ as, read (write a) = some a) : (as.map write).mapM read = some as := by
  induction as with
  | nil => rfl
  | cons a as ih =>
    have htail : (as.map write).mapM read = some as := ih fun b hb => h b (List.mem_cons_of_mem a hb)
    rw [List.map_cons, List.mapM_cons, h a (List.mem_cons_self ..), htail]
    rfl

/-- The members of an object come back under their names, in their order. -/
theorem members?_ofMembers (members : List (String × Value)) :
    (Value.ofMembers members).members? = some members := by
  apply mapM_map_eq_some
  intro m _
  show (stringOf? (pointsOf m.1)).map (fun name => (name, m.2)) = some m
  rw [stringOf?_pointsOf]
  rfl

/-- A number that documents keep is read back as it was. -/
theorem float?_ofFloat {x : Float} (h : IsKept x) : (Value.ofFloat x).float? = some x := by
  rw [ofFloat_of_isKept h]
  exact h.2

/-- A count is read back up to the largest one. -/
theorem count?_ofCount (n : UInt64) : (Value.ofCount n).count? = some n := by
  have hbound : countBound = 2 ^ 64 := rfl
  have hn : n.toNat < 2 ^ 64 := n.toNat_lt
  have hint : (Value.ofCount n).int? = some (Int.ofNat n.toNat) := by
    show (Numeral.ofInt (n.toNat : Int)).toInt? = some (n.toNat : Int)
    exact toInt?_ofInt (by omega) (by omega)
  rw [Value.count?, hint]
  show (if n.toNat < countBound then some n.toNat.toUInt64 else none) = some n
  rw [hbound, if_pos hn, Nat.toUInt64_eq, UInt64.ofNat_toNat]

theorem list?_map {α : Type} {read : Value → Option α} {write : α → Value} {as : List α}
    (h : ∀ a ∈ as, read (write a) = some a) : (Value.list (as.map write)).list? read = some as :=
  mapM_map_eq_some h

theorem list?_ofStrings (ss : List String) : (Value.ofStrings ss).list? Value.string? = some ss :=
  list?_map fun s _ => Value.string?_ofString s

/-- A map comes back with its entries in their order. -/
theorem map?_ofMap {α : Type} {read : Value → Option α} {write : α → Value} {m : OrderedMap α}
    (h : ∀ a ∈ m.values, read (write a) = some a) : (Value.ofMap write m).map? read = some m := by
  have hentries : (m.entries.map fun entry => (entry.1, write entry.2)).mapM
      (fun entry => (read entry.2).map fun a => (entry.1, a)) = some m.entries := by
    apply mapM_map_eq_some
    intro e he
    rw [h e.2 (List.mem_map_of_mem he)]
    rfl
  -- a map that is made of its own entries is the same map, as no name repeats
  have hsame : OrderedMap.ofList m.entries = m :=
    OrderedMap.ext_entries (OrderedMap.entries_ofList m.keys_nodup)
  rw [Value.map?, Value.ofMap, members?_ofMembers]
  show Option.map OrderedMap.ofList _ = some m
  rw [hentries, Option.map_some, hsame]

/-- A list of two is read as a pair if both its items are read. -/
theorem pair?_of_some {α β : Type} {readFirst : Value → Option α} {readSecond : Value → Option β}
    {v w : Value} {a : α} {b : β} (ha : readFirst v = some a) (hb : readSecond w = some b) :
    (Value.list [v, w]).pair? readFirst readSecond = some (a, b) := by
  rw [Value.pair?]
  simp only [ha, hb]

/-! ### Records -/

/-- A record whose members stand in the order of their names is read as these members. -/
theorem record?_ofMembers {names : List String} (hnames : names.Nodup) {members : List (String × Value)}
    (h : (members.map Prod.fst).Sublist names) :
    (Value.ofMembers members).record? names = some members := by
  have hknown : members.filter (fun m => names.contains m.1) = members := by
    rw [List.filter_eq_self]
    intro m hm
    exact List.contains_iff_mem.2 (h.subset (List.mem_map_of_mem hm))
  have hrecord : (Value.ofMembers members).record? names =
      if (members.map Prod.fst).Nodup then some members else none := by
    rw [Value.record?, members?_ofMembers]
    · show (if ((members.filter fun m => names.contains m.1).map Prod.fst).Nodup then _ else _) = _
      rw [hknown]
    · rintro items ⟨⟩
  -- the members are some of the names, so none of them is there twice
  rw [hrecord, if_pos (hnames.sublist h)]

/-- A member that is there is read. -/
theorem Record.member?_of_some {α : Type} {r : Record} {name : String} {v : Value} {read : Value → Option α}
    {a : α} (h : r.lookup name = some v) (hread : read v = some a) (default : α) :
    r.member? name default read = some a := by
  rw [Record.member?, h]
  exact hread

/-- A member that may be missing is read as it was written or not. -/
theorem Record.member?_optional {α : Type} {r : Record} {name : String} {write : α → Value}
    {read : Value → Option α} {o : Option α} (h : r.lookup name = o.map write)
    (hread : ∀ a ∈ o, read (write a) = some a) (hnull : ∀ a, write a ≠ .null) :
    r.member? name none (·.nullable? read) = some o := by
  rw [Record.member?, h]
  cases o with
  | none => rfl
  | some a =>
    show (write a).nullable? read = some (some a)
    rw [Value.nullable?, hread a rfl]
    · rfl
    · exact hnull a

/-- An optional member is found under its name if it is there. -/
@[simp]
theorem lookup_optionalMember {α : Type} (name : String) (write : α → Value) (o : Option α) :
    (optionalMember name write o).lookup name = o.map write := by
  cases o with
  | none => rfl
  | some a => rw [optionalMember, List.lookup_cons_self, Option.map_some]

/-- An optional member is not found under any other name. -/
@[simp]
theorem lookup_optionalMember_of_ne {α : Type} {name other : String} (h : other ≠ name)
    (write : α → Value) (o : Option α) : (optionalMember name write o).lookup other = none := by
  cases o with
  | none => rfl
  | some a =>
    have hne : (other == name) = false := beq_eq_false_iff_ne.2 h
    rw [optionalMember, List.lookup_cons, hne]
    rfl

theorem optionalMember_sublist {α : Type} (name : String) (write : α → Value) (o : Option α) :
    ((optionalMember name write o).map Prod.fst).Sublist [name] := by
  cases o with
  | none => exact List.nil_sublist _
  | some a => exact List.Sublist.refl _

/-! ### What is written has a text -/

/-- The code points of a text are those of its characters. -/
theorem areChars_pointsOf (s : String) : AreChars (pointsOf s) := by
  intro n hn
  obtain ⟨c, -, rfl⟩ := List.mem_map.1 hn
  exact c.valid

namespace Value

theorem isProper_ofString (s : String) : (ofString s).IsProper := .text (areChars_pointsOf s)

/-- Every number has a text, as infinities and NaN are written as null. -/
theorem isProper_ofFloat (x : Float) : (ofFloat x).IsProper := by
  unfold ofFloat
  split
  · exact .number (ofDecimal_spec _ _).1
  · exact .null

theorem isProper_ofInt (i : Int) : (ofInt i).IsProper := .number (Document.isProper_ofInt i)

theorem isProper_map {α : Type} {write : α → Value} {as : List α} (h : ∀ a ∈ as, (write a).IsProper) :
    (Value.list (as.map write)).IsProper := by
  refine .list ?_
  intro v hv
  obtain ⟨a, ha, rfl⟩ := List.mem_map.1 hv
  exact h a ha

theorem isProper_pair {v w : Value} (hv : v.IsProper) (hw : w.IsProper) : (Value.list [v, w]).IsProper := by
  refine .list ?_
  simp only [List.mem_cons, List.not_mem_nil, or_false, forall_eq_or_imp, forall_eq]
  exact ⟨hv, hw⟩

theorem isProper_ofStrings (ss : List String) : (ofStrings ss).IsProper :=
  isProper_map fun s _ => isProper_ofString s

/-- An object has a text if the values of its members have one: its names are texts. -/
theorem isProper_ofMembers {members : List (String × Value)} (h : ∀ m ∈ members, m.2.IsProper) :
    (ofMembers members).IsProper := by
  refine .object ?_ ?_
  · intro m hm
    obtain ⟨k, -, rfl⟩ := List.mem_map.1 hm
    exact areChars_pointsOf k.1
  · intro m hm
    obtain ⟨k, hk, rfl⟩ := List.mem_map.1 hm
    exact h k hk

theorem isProper_ofMap {α : Type} {write : α → Value} {m : OrderedMap α}
    (h : ∀ a ∈ m.values, (write a).IsProper) : (ofMap write m).IsProper := by
  apply isProper_ofMembers
  intro k hk
  obtain ⟨e, he, rfl⟩ := List.mem_map.1 hk
  exact h e.2 (List.mem_map_of_mem he)

end Value

theorem isProper_optionalMember {α : Type} {name : String} {write : α → Value} {o : Option α}
    (h : ∀ a ∈ o, (write a).IsProper) : ∀ m ∈ optionalMember name write o, m.2.IsProper := by
  intro m hm
  cases o with
  | none => cases hm
  | some a =>
    rw [List.mem_singleton.1 hm]
    exact h a rfl

end RelevanceSql.Document

namespace RelevanceSql

open RelevanceSql.Sql RelevanceSql.Document

/-! ## Bound values and groupings -/

/-- The binary64 numbers of a bound value. -/
def Sql.Param.floats : Param → List Float
  | .float x => [x]
  | _ => []

/-- Every bound value has a text. -/
theorem Sql.Param.isProper_toValue (p : Param) : p.toValue.IsProper := by
  cases p with
  | text s => exact Value.isProper_ofString s
  | integer n => exact Value.isProper_ofInt _
  | float x => exact Value.isProper_ofFloat x
  | null => exact .null

/-- A bound value that is a text is written as this text, and no other value is written as a text. -/
theorem Sql.Param.string?_toValue (p : Param) : p.toValue.string? = p.text? := by
  cases p with
  | text s => exact Value.string?_ofString s
  | integer n => rfl
  | float x =>
    show (Value.ofFloat x).string? = none
    unfold Value.ofFloat
    split <;> rfl
  | null => rfl

/-- A bound value is read back as what it was: a text as a text whatever it looks like, an integer as an
integer, and a number that happens to be whole as a binary64 number. -/
theorem Sql.Param.ofValue?_toValue {p : Param} (h : ∀ x ∈ p.floats, IsKept x) :
    Param.ofValue? p.toValue = some p := by
  cases p with
  | text s =>
    show (Param.text s).toValue.string?.map Param.text = some (.text s)
    rw [string?_toValue]
    rfl
  | integer n =>
    have hlow := n.le_toInt
    have hhigh := n.toInt_lt
    have hfits : n.toInt < ((Nat.pow 2 63 : Nat) : Int) := hhigh
    have hint : Value.int? (.number (Numeral.ofInt n.toInt)) = some n.toInt :=
      toInt?_ofInt (by omega) (by omega)
    show Param.ofValue? (.number (Numeral.ofInt n.toInt)) = _
    rw [Param.ofValue?]
    simp only [hint, if_pos hfits, Int64.ofInt_toInt]
  | float x =>
    have hx : IsKept x := h x (List.mem_singleton_self x)
    -- the decimal of a binary64 number has a fraction or an exponent, so that it is not read as an integer
    have hint : Value.int? (.number (Numeral.ofFloat x)) = none := toInt?_ofDecimal _ _
    have hfloat : Value.float? (.number (Numeral.ofFloat x)) = some x := hx.2
    show Param.ofValue? (Value.ofFloat x) = _
    rw [ofFloat_of_isKept hx, Param.ofValue?]
    simp only [hint, hfloat, Option.map_some]
  | null => rfl

/-- A list of bound values is read back if each of them is. -/
theorem Sql.Param.listOfValue?_map {ps : List Param} (h : ∀ p ∈ ps, ∀ x ∈ p.floats, IsKept x) :
    Param.listOfValue? (.list (ps.map Param.toValue)) = some ps :=
  list?_map fun p hp => Param.ofValue?_toValue (h p hp)

theorem GroupBy.isProper_toValue (g : GroupBy) : g.toValue.IsProper := by
  cases g with
  | column name => exact Value.isProper_ofString name
  | columns names => exact Value.isProper_ofStrings names

/-- A grouping by one column and one by a list of one column are told apart. -/
theorem GroupBy.ofValue?_toValue (g : GroupBy) : GroupBy.ofValue? g.toValue = some g := by
  cases g with
  | column name =>
    show (Value.ofString name).string?.map GroupBy.column = some (.column name)
    rw [Value.string?_ofString, Option.map_some]
  | columns names =>
    show ((Value.ofStrings names).list? Value.string?).map GroupBy.columns = some (.columns names)
    rw [list?_ofStrings, Option.map_some]

/-- A grouping is not written as null, so null means that there is none. -/
theorem GroupBy.toValue_ne_null (g : GroupBy) : g.toValue ≠ .null := by
  cases g with
  | column name => rintro ⟨⟩
  | columns names => rintro ⟨⟩

/-! ## Joins -/

namespace JoinSpec

/-- The binary64 numbers in the conditions of a join. -/
def floats (j : JoinSpec) : List Float :=
  j.equals.toList.flatMap (fun c => c.2.floats) ++
    j.member.toList.flatMap fun c => c.2.flatMap Param.floats

/-- A condition with one value, written. -/
def equalsValue (c : String × Param) : Value := .list [.ofString c.1, c.2.toValue]

/-- A condition with several values, written. -/
def memberValue (c : String × List Param) : Value := .list [.ofString c.1, .list (c.2.map Param.toValue)]

/-- The written members of the description of a join. -/
def members (j : JoinSpec) : Record :=
  [("keys", .ofStrings j.keys)] ++ optionalMember "where" equalsValue j.equals ++
    optionalMember "whereIn" memberValue j.member

theorem isProper_toValue (j : JoinSpec) : j.toValue.IsProper := by
  have hequals : ∀ c ∈ j.equals, (equalsValue c).IsProper := fun c _ =>
    Value.isProper_pair (Value.isProper_ofString c.1) c.2.isProper_toValue
  have hmember : ∀ c ∈ j.member, (memberValue c).IsProper := fun c _ =>
    Value.isProper_pair (Value.isProper_ofString c.1) (Value.isProper_map fun p _ => p.isProper_toValue)
  show (Value.ofMembers j.members).IsProper
  apply Value.isProper_ofMembers
  intro m hm
  rcases List.mem_append.1 hm with hm | hm
  · rcases List.mem_append.1 hm with hm | hm
    · rw [List.mem_singleton.1 hm]
      exact Value.isProper_ofStrings j.keys
    · exact isProper_optionalMember hequals m hm
  · exact isProper_optionalMember hmember m hm

theorem ofValue?_toValue {j : JoinSpec} (h : ∀ x ∈ j.floats, IsKept x) :
    JoinSpec.ofValue? j.toValue = some j := by
  have hequals : ∀ c ∈ j.equals, (equalsValue c).pair? Value.string? Param.ofValue? = some c := by
    intro c hc
    refine pair?_of_some (Value.string?_ofString c.1) (Param.ofValue?_toValue ?_)
    intro x hx
    exact h x (List.mem_append_left _ (List.mem_flatMap.2 ⟨c, Option.mem_toList.2 hc, hx⟩))
  have hmember : ∀ c ∈ j.member, (memberValue c).pair? Value.string? Param.listOfValue? = some c := by
    intro c hc
    refine pair?_of_some (Value.string?_ofString c.1) (Param.listOfValue?_map ?_)
    intro p hp x hx
    exact h x (List.mem_append_right _ (List.mem_flatMap.2
      ⟨c, Option.mem_toList.2 hc, List.mem_flatMap.2 ⟨p, hp, hx⟩⟩))
  have hrecord : j.toValue.record? ["keys", "where", "whereIn"] = some j.members := by
    refine record?_ofMembers (by decide) ?_
    rw [List.map_append, List.map_append]
    exact (((List.Sublist.refl ["keys"]).append (optionalMember_sublist "where" _ _)).append
      (optionalMember_sublist "whereIn" _ _))
  have hkeysRead : j.members.member? "keys" [] (·.list? Value.string?) = some j.keys :=
    Record.member?_of_some (by simp [members]) (list?_ofStrings j.keys) []
  have hequalsRead : j.members.member? "where" none
      (·.nullable? (·.pair? Value.string? Param.ofValue?)) = some j.equals := by
    refine Record.member?_optional ?_ hequals ?_
    · simp [members, List.lookup_append, List.lookup_cons]
    · rintro c ⟨⟩
  have hmemberRead : j.members.member? "whereIn" none
      (·.nullable? (·.pair? Value.string? Param.listOfValue?)) = some j.member := by
    refine Record.member?_optional ?_ hmember ?_
    · simp [members, List.lookup_append, List.lookup_cons]
    · rintro c ⟨⟩
  unfold JoinSpec.ofValue?
  rw [hrecord]
  simp only [Option.bind_eq_bind, Option.bind_some, hkeysRead, hequalsRead, hmemberRead]
  rfl

end JoinSpec

/-! ## Specifications -/

namespace SearchSpec

/-- The weights of a specification, and the binary64 numbers in its joins. -/
def floats (s : SearchSpec) : List Float :=
  s.columns.values ++ s.fulltextColumns.values ++ s.joins.values.flatMap JoinSpec.floats

/-- The written members of a specification. -/
def members (s : SearchSpec) : Record :=
  [("columns", .ofMap .ofFloat s.columns), ("fulltextColumns", .ofMap .ofFloat s.fulltextColumns),
      ("joins", .ofMap JoinSpec.toValue s.joins)] ++
    optionalMember "groupBy" GroupBy.toValue s.groupBy ++
    [("mutations", .ofMap .ofString s.mutations)] ++
    optionalMember "maxWords" .ofCount s.maxWords

theorem isProper_toValue (s : SearchSpec) : s.toValue.IsProper := by
  show (Value.ofMembers s.members).IsProper
  apply Value.isProper_ofMembers
  intro m hm
  rcases List.mem_append.1 hm with hm | hm
  · rcases List.mem_append.1 hm with hm | hm
    · rcases List.mem_append.1 hm with hm | hm
      · simp only [List.mem_cons, List.not_mem_nil, or_false] at hm
        rcases hm with rfl | rfl | rfl
        · exact Value.isProper_ofMap fun x _ => Value.isProper_ofFloat x
        · exact Value.isProper_ofMap fun x _ => Value.isProper_ofFloat x
        · exact Value.isProper_ofMap fun j _ => j.isProper_toValue
      · exact isProper_optionalMember (fun g _ => g.isProper_toValue) m hm
    · rw [List.mem_singleton.1 hm]
      exact Value.isProper_ofMap fun f _ => Value.isProper_ofString f
  · exact isProper_optionalMember (fun n _ => Value.isProper_ofInt n.toNat) m hm

theorem ofValue?_toValue {s : SearchSpec} (h : ∀ x ∈ s.floats, IsKept x) :
    SearchSpec.ofValue? s.toValue = some s := by
  have hcolumns : (Value.ofMap .ofFloat s.columns).map? Value.float? = some s.columns :=
    map?_ofMap fun x hx => float?_ofFloat (h x (List.mem_append_left _ (List.mem_append_left _ hx)))
  have hfulltext : (Value.ofMap .ofFloat s.fulltextColumns).map? Value.float? =
      some s.fulltextColumns :=
    map?_ofMap fun x hx => float?_ofFloat (h x (List.mem_append_left _ (List.mem_append_right _ hx)))
  have hjoins : (Value.ofMap JoinSpec.toValue s.joins).map? JoinSpec.ofValue? = some s.joins := by
    refine map?_ofMap fun j hj => JoinSpec.ofValue?_toValue ?_
    intro x hx
    exact h x (List.mem_append_right _ (List.mem_flatMap.2 ⟨j, hj, hx⟩))
  have hmutations : (Value.ofMap .ofString s.mutations).map? Value.string? = some s.mutations :=
    map?_ofMap fun f _ => Value.string?_ofString f
  have hrecord : s.toValue.record?
      ["columns", "fulltextColumns", "joins", "groupBy", "mutations", "maxWords"] = some s.members := by
    refine record?_ofMembers (by decide) ?_
    rw [List.map_append, List.map_append, List.map_append]
    exact (((List.Sublist.refl ["columns", "fulltextColumns", "joins"]).append
      (optionalMember_sublist "groupBy" _ _)).append (List.Sublist.refl ["mutations"])).append
      (optionalMember_sublist "maxWords" _ _)
  have hcolumnsRead : s.members.member? "columns" .empty (·.map? Value.float?) = some s.columns :=
    Record.member?_of_some (by simp [members]) hcolumns _
  have hfulltextRead : s.members.member? "fulltextColumns" .empty (·.map? Value.float?) =
      some s.fulltextColumns :=
    Record.member?_of_some (by simp [members, List.lookup_cons]) hfulltext _
  have hjoinsRead : s.members.member? "joins" .empty (·.map? JoinSpec.ofValue?) = some s.joins :=
    Record.member?_of_some (by simp [members, List.lookup_cons]) hjoins _
  have hgroupByRead : s.members.member? "groupBy" none (·.nullable? GroupBy.ofValue?) =
      some s.groupBy := by
    refine Record.member?_optional ?_ (fun g _ => g.ofValue?_toValue) GroupBy.toValue_ne_null
    simp [members, List.lookup_append, List.lookup_cons]
  have hmutationsRead : s.members.member? "mutations" .empty (·.map? Value.string?) =
      some s.mutations := by
    refine Record.member?_of_some ?_ hmutations _
    simp [members, List.lookup_append, List.lookup_cons]
  have hmaxWordsRead : s.members.member? "maxWords" none (·.nullable? Value.count?) =
      some s.maxWords := by
    refine Record.member?_optional ?_ (fun n _ => count?_ofCount n) ?_
    · simp [members, List.lookup_append, List.lookup_cons]
    · rintro n ⟨⟩
  unfold SearchSpec.ofValue?
  rw [hrecord]
  simp only [Option.bind_eq_bind, Option.bind_some, hcolumnsRead, hfulltextRead, hjoinsRead,
    hgroupByRead, hmutationsRead, hmaxWordsRead]
  rfl

end SearchSpec

/-! ## Models and configurations -/

/-- The binary64 numbers of a model. -/
def Model.floats (m : Model) : List Float := m.search.floats

theorem Model.isProper_toValue (m : Model) : m.toValue.IsProper := by
  apply Value.isProper_ofMembers
  simp only [List.mem_cons, List.not_mem_nil, or_false, forall_eq_or_imp, forall_eq]
  exact ⟨Value.isProper_ofString m.table, Value.isProper_ofString m.key, m.search.isProper_toValue⟩

/-- A model is read back if documents keep the numbers of its specification. -/
theorem Model.ofValue?_toValue {m : Model} (h : ∀ x ∈ m.floats, IsKept x) :
    Model.ofValue? m.toValue = some m := by
  have hsearch : SearchSpec.ofValue? m.search.toValue = some m.search := SearchSpec.ofValue?_toValue h
  have hrecord : m.toValue.record? ["table", "key", "search"] =
      some [("table", .ofString m.table), ("key", .ofString m.key), ("search", m.search.toValue)] :=
    record?_ofMembers (by decide) (List.Sublist.refl _)
  unfold Model.ofValue?
  rw [hrecord]
  simp [List.lookup_cons, Record.member?, Value.string?_ofString, hsearch]

/-- The weights of a configuration. -/
def Config.floats (c : Config) : List Float := c.matchers.values

theorem Config.isProper_toValue (c : Config) : c.toValue.IsProper := by
  apply Value.isProper_ofMembers
  simp only [List.mem_cons, List.not_mem_nil, or_false, forall_eq_or_imp, forall_eq]
  exact ⟨Value.isProper_ofMap fun x _ => Value.isProper_ofFloat x, Value.isProper_ofInt c.maxWords.toNat⟩

/-- A configuration is read back if documents keep its weights. -/
theorem Config.ofValue?_toValue {c : Config} (h : ∀ x ∈ c.floats, IsKept x) :
    Config.ofValue? c.toValue = some c := by
  have hmatchers : (Value.ofMap .ofFloat c.matchers).map? Value.float? = some c.matchers :=
    map?_ofMap fun x hx => float?_ofFloat (h x hx)
  have hrecord : c.toValue.record? ["matchers", "maxWords"] =
      some [("matchers", .ofMap .ofFloat c.matchers), ("maxWords", .ofCount c.maxWords)] :=
    record?_ofMembers (by decide) (List.Sublist.refl _)
  unfold Config.ofValue?
  rw [hrecord]
  simp [List.lookup_cons, Record.member?, count?_ofCount, hmatchers]

/-! ## Documents -/

/-- Both ways to write a value are read back. -/
theorem parse?_written {v : Value} (h : v.IsProper) :
    ∀ write ∈ [Value.compact, Value.indented], Value.parse? (write v) = some v := by
  intro write hwrite
  simp only [List.mem_cons, List.not_mem_nil, or_false] at hwrite
  rcases hwrite with rfl | rfl
  · exact parse?_compact h
  · exact parse?_indented h

/-- What is read from a value is read from its document, however it is written. -/
theorem readDocument_eq_ok {α : Type} {read : Value → Option α} {v : Value} {a : α} (hv : v.IsProper)
    (h : read v = some a) :
    ∀ write ∈ [Value.compact, Value.indented], readDocument read (write v) = .ok a := by
  intro write hwrite
  rw [readDocument, parse?_written hv write hwrite, Option.bind_some, h]

/-- **What is written is read back.** Every configuration, specification, join and model comes back from
its document as it was, in one line or on several, if documents keep its binary64 numbers. -/
theorem readDocument_written {write : Value → String} (hwrite : write ∈ [Value.compact, Value.indented]) :
    (∀ c : Config, (∀ x ∈ c.floats, IsKept x) → readDocument Config.ofValue? (write c.toValue) = .ok c) ∧
    (∀ s : SearchSpec, (∀ x ∈ s.floats, IsKept x) →
      readDocument SearchSpec.ofValue? (write s.toValue) = .ok s) ∧
    (∀ j : JoinSpec, (∀ x ∈ j.floats, IsKept x) →
      readDocument JoinSpec.ofValue? (write j.toValue) = .ok j) ∧
    ∀ m : Model, (∀ x ∈ m.floats, IsKept x) → readDocument Model.ofValue? (write m.toValue) = .ok m := by
  refine ⟨?_, ?_, ?_, ?_⟩
  · intro c h
    exact readDocument_eq_ok c.isProper_toValue (Config.ofValue?_toValue h) write hwrite
  · intro s h
    exact readDocument_eq_ok s.isProper_toValue (SearchSpec.ofValue?_toValue h) write hwrite
  · intro j h
    exact readDocument_eq_ok j.isProper_toValue (JoinSpec.ofValue?_toValue h) write hwrite
  · intro m h
    exact readDocument_eq_ok m.isProper_toValue (Model.ofValue?_toValue h) write hwrite

/-- Bound values of all kinds: the integers at both ends, a whole binary64 number, a text that looks
like a number, and null. -/
def ratedUsers : JoinSpec where
  keys := ["users.id", "orders.user_id"]
  equals := some ("users.rating", .float 1.0)
  member := some ("users.code", [.integer Int64.minValue, .integer Int64.maxValue, .text "1.0", .null])

/-- A model grouped by a list of one column, with weights that are whole, broken and negative. -/
def orders : Model where
  table := "orders"
  search :=
    { columns := .ofList [("orders.title", 2.0), ("note", 0.1)]
      fulltextColumns := .ofList [("body", -1.5)]
      joins := .ofList [("users", ratedUsers)]
      groupBy := some (.columns ["orders.id"])
      mutations := .ofList [("note", "LOWER")] }

theorem readDocument_written_orders :
    (Value.compact ∈ [Value.compact, Value.indented] ∧ (∀ x ∈ ({} : Config).floats, IsKept x) ∧
      (∀ x ∈ orders.search.floats, IsKept x) ∧ (∀ x ∈ ratedUsers.floats, IsKept x) ∧
      ∀ x ∈ orders.floats, IsKept x) ∧
    readDocument Config.ofValue? ({} : Config).toValue.compact = .ok {} ∧
    readDocument SearchSpec.ofValue? orders.search.toValue.compact = .ok orders.search ∧
    readDocument JoinSpec.ofValue? ratedUsers.toValue.compact = .ok ratedUsers ∧
    readDocument Model.ofValue? orders.toValue.compact = .ok orders := by
  have hcompact : Value.compact ∈ [Value.compact, Value.indented] := List.mem_cons_self ..
  have hconfig : ∀ x ∈ ({} : Config).floats, IsKept x := by decide +kernel
  have hjoin : ∀ x ∈ ratedUsers.floats, IsKept x := by decide +kernel
  have horders : ∀ x ∈ orders.floats, IsKept x := by decide +kernel
  obtain ⟨hc, hs, hj, hm⟩ := readDocument_written hcompact
  exact ⟨⟨hcompact, hconfig, horders, hjoin, horders⟩, hc {} hconfig, hs orders.search horders,
    hj ratedUsers hjoin, hm orders horders⟩

/-- How integers, whole binary64 numbers and texts are told apart. -/
example : (Value.list ([.integer 1, .float 1.0, .text "1", .null].map Param.toValue)).compact =
    "[1,1.0,\"1\",null]" := by decide +kernel

end RelevanceSql
