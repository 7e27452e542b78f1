import RelevanceSql.Config.Basic
import RelevanceSql.Proofs.NumberSigns
import RelevanceSql.Proofs.Searching

/-!
# How matchers are resolved

A configuration names its matchers and gives them weights. The same list of entries is seen three
times: as it stands in the configuration, as the matchers it is resolved to, and as those of them
that take part in a search. What a score is made of, and in which order, rests on the three being in
step. Resolving loses nothing: the entries can be read back from the matchers (`entries_of_resolve`).
It fails exactly if an entry is at fault, and with the fault of the first such entry
(`resolve_eq_error_iff`); `EntryFault` says what the fault of an entry is, its name coming before its
weight.

A weight is refused if it compares as less than zero or is no number. What that means for negative zero
and for the infinities is read off the bits (`isBadWeight_iff`).
-/

namespace RelevanceSql

open RelevanceSql.Sql

/-! ## Weights -/

theorem isBadWeight_eq_true_iff {weight : Float} :
    isBadWeight weight = true ↔ weight < 0.0 ∨ weight.isNaN = true := by
  rw [isBadWeight, Bool.or_eq_true, decide_eq_true_iff]

/-- The weights that are refused: those below zero, of which negative zero is none and negative infinity is
one, and NaN. -/
theorem isBadWeight_iff {weight : Float} :
    isBadWeight weight = true ↔ Number.IsBelowZero weight ∨ Number.IsNaN weight := by
  rw [isBadWeight_eq_true_iff, Number.lt_zero_iff, Number.isNaN_eq_true_iff]
  tauto

/-! ## Entries -/

namespace Matcher

/-- No two matchers have one name. -/
theorem name_injective {m n : Matcher} (h : m.name = n.name) : m = n := by
  have hfound := ofName?_name m
  rw [h, ofName?_name, Option.some.injEq] at hfound
  exact hfound.symm

theorem ofName?_eq_some_iff {name : String} {m : Matcher} : ofName? name = some m ↔ m.name = name :=
  ⟨name_of_ofName?, fun h => h ▸ ofName?_name m⟩

/-- A name without a matcher is that of none. -/
theorem ofName?_eq_none_iff {name : String} : ofName? name = none ↔ ∀ m : Matcher, m.name ≠ name := by
  rw [Option.eq_none_iff_forall_ne_some]
  exact forall_congr' fun m => not_congr ofName?_eq_some_iff

end Matcher

/-- An entry without a fault: its name is that of a matcher, and its weight is neither below zero nor NaN. -/
def IsResolvable (entry : String × Float) : Prop :=
  (∃ m : Matcher, m.name = entry.1) ∧ ¬(Number.IsBelowZero entry.2 ∨ Number.IsNaN entry.2)

/-- The fault of an entry. The weight counts only if the name is that of a matcher. -/
inductive EntryFault : String × Float → ConfigFault → Prop where
  | unknownMatcher {name : String} {weight : Float} (h : ∀ m : Matcher, m.name ≠ name) :
    EntryFault (name, weight) (.unknownMatcher name)
  | negativeWeight {weight : Float} (m : Matcher) (h : Number.IsBelowZero weight ∨ Number.IsNaN weight) :
    EntryFault (m.name, weight) (.negativeWeight m.name weight)

/-- With an unknown name the weight is not looked at. -/
theorem resolveEntry_of_unknown {name : String} (h : ∀ m : Matcher, m.name ≠ name) (weight : Float) :
    resolveEntry (name, weight) = .error (.unknownMatcher name) := by
  simp only [resolveEntry, Matcher.ofName?_eq_none_iff.2 h]

/-- With the name of a matcher the weight decides. -/
theorem resolveEntry_name (m : Matcher) (weight : Float) :
    resolveEntry (m.name, weight) =
      if isBadWeight weight then .error (.negativeWeight m.name weight) else .ok (m, weight) := by
  simp only [resolveEntry, Matcher.ofName?_name]

/-- `EntryFault` says what is wrong with an entry that is refused. -/
theorem resolveEntry_eq_error_iff {entry : String × Float} {fault : ConfigFault} :
    resolveEntry entry = .error fault ↔ EntryFault entry fault := by
  constructor
  · intro h
    obtain ⟨name, weight⟩ := entry
    -- the name comes before the weight
    by_cases hname : ∃ m : Matcher, m.name = name
    · obtain ⟨m, rfl⟩ := hname
      rw [resolveEntry_name] at h
      split at h
      · next hweight =>
        cases h
        exact .negativeWeight m (isBadWeight_iff.1 hweight)
      · cases h
    · have hunknown : ∀ m : Matcher, m.name ≠ name := not_exists.1 hname
      rw [resolveEntry_of_unknown hunknown] at h
      cases h
      exact .unknownMatcher hunknown
  · intro h
    cases h with
    | unknownMatcher h => exact resolveEntry_of_unknown h _
    | negativeWeight m h => rw [resolveEntry_name, if_pos (isBadWeight_iff.2 h)]

/-- An entry without a fault is resolved to a matcher and a weight that give it back. -/
theorem resolveEntry_eq_ok_iff {entry : String × Float} {e : Matcher × Float} :
    resolveEntry entry = .ok e ↔ (e.1.name, e.2) = entry ∧ IsResolvable entry := by
  constructor
  · intro h
    obtain ⟨name, weight⟩ := entry
    by_cases hname : ∃ m : Matcher, m.name = name
    · obtain ⟨m, rfl⟩ := hname
      rw [resolveEntry_name] at h
      split at h
      · cases h
      · next hweight =>
        cases h
        exact ⟨rfl, ⟨m, rfl⟩, mt isBadWeight_iff.2 hweight⟩
    · rw [resolveEntry_of_unknown (not_exists.1 hname)] at h
      cases h
  · rintro ⟨rfl, -, hweight⟩
    rw [resolveEntry_name, if_neg (mt isBadWeight_iff.1 hweight)]

theorem exists_resolveEntry_eq_ok_iff {entry : String × Float} :
    (∃ e, resolveEntry entry = .ok e) ↔ IsResolvable entry := by
  constructor
  · rintro ⟨e, he⟩
    exact (resolveEntry_eq_ok_iff.1 he).2
  · intro h
    obtain ⟨m, hm⟩ := h.1
    exact ⟨(m, entry.2), resolveEntry_eq_ok_iff.2 ⟨by rw [hm], h⟩⟩

/-! ## Lists of entries -/

namespace MatcherSet

/-- The entries that stand for matchers with weights in a configuration. -/
def entries (s : MatcherSet) : List (String × Float) := s.map fun e => (e.1.name, e.2)

/-- Matchers with weights are known by the entries that stand for them. -/
theorem entries_injective {s t : MatcherSet} (h : s.entries = t.entries) : s = t := by
  refine List.map_injective_iff.2 ?_ h
  rintro ⟨m, w⟩ ⟨n, x⟩ heq
  obtain ⟨hname, hweight⟩ := Prod.mk.injEq .. ▸ heq
  exact Prod.ext (Matcher.name_injective hname) hweight

/-- Entries without a fault are resolved, however often a name comes again. -/
theorem exists_resolve_eq_ok {entries : List (String × Float)}
    (h : ∀ entry ∈ entries, IsResolvable entry) : ∃ s, resolve entries = .ok s :=
  exists_mapM_eq_ok fun entry hentry => exists_resolveEntry_eq_ok_iff.2 (h entry hentry)

/-- What entries are resolved to gives them back, and nothing but entries without a fault is resolved. -/
theorem entries_of_resolve {entries : List (String × Float)} {s : MatcherSet}
    (h : resolve entries = .ok s) : s.entries = entries ∧ ∀ entry ∈ entries, IsResolvable entry := by
  have hsteps := forall₂_of_mapM_eq_ok h
  clear h
  -- the induction is on the entries together with what each of them is resolved to
  induction hsteps with
  | nil => exact ⟨rfl, by simp⟩
  | @cons entry e entries s hentry _ ih =>
    obtain ⟨hback, hresolvable⟩ := resolveEntry_eq_ok_iff.1 hentry
    refine ⟨?_, List.forall_mem_cons.2 ⟨hresolvable, ih.2⟩⟩
    rw [MatcherSet.entries, List.map_cons, hback]
    exact congrArg (entry :: ·) ih.1

theorem resolve_eq_ok_iff {entries : List (String × Float)} {s : MatcherSet} :
    resolve entries = .ok s ↔ s.entries = entries ∧ ∀ entry ∈ entries, IsResolvable entry := by
  refine ⟨entries_of_resolve, ?_⟩
  rintro ⟨hback, hresolvable⟩
  -- the entries are resolved to something, which gives back the same entries and so is the same
  obtain ⟨t, ht⟩ := exists_resolve_eq_ok hresolvable
  rw [ht, entries_injective ((entries_of_resolve ht).1.trans hback.symm)]

/-- A list of entries has the fault of its first entry that has one. -/
theorem resolve_eq_error_iff {entries : List (String × Float)} {fault : ConfigFault} :
    resolve entries = .error fault ↔ ∃ before entry after, entries = before ++ entry :: after ∧
      (∀ e ∈ before, IsResolvable e) ∧ EntryFault entry fault := by
  simp only [resolve, mapM_eq_error_iff, exists_resolveEntry_eq_ok_iff, resolveEntry_eq_error_iff]

/-! ## Matchers that take part -/

theorem applies_eq_true_iff {count : Nat} {d : Dialect} {m : Matcher} :
    applies count d m = true ↔ d.supports m = true ∧ (m.usesWholePhrase = true → 2 ≤ count) := by
  rw [applies, Bool.and_eq_true, Bool.not_eq_true', Bool.and_eq_false_imp, decide_eq_false_iff_not,
    Nat.not_lt, and_comm]

/-- A matcher takes part if the dialect has it, and those for phrases only with two tokens. -/
theorem mem_applicable_iff {s : MatcherSet} {count : Nat} {d : Dialect} {e : Matcher × Float} :
    e ∈ s.applicable count d ↔
      e ∈ s ∧ d.supports e.1 = true ∧ (e.1.usesWholePhrase = true → 2 ≤ count) := by
  rw [applicable, List.mem_filter, applies_eq_true_iff]

/-- With more tokens no matcher is lost, and those that are there keep their order. -/
theorem applicable_sublist_of_le (s : MatcherSet) (d : Dialect) {m n : Nat} (h : m ≤ n) :
    (s.applicable m d).Sublist (s.applicable n d) := by
  refine List.monotone_filter_right s fun e he => ?_
  obtain ⟨hsupported, hphrase⟩ := applies_eq_true_iff.1 he
  exact applies_eq_true_iff.2 ⟨hsupported, fun hwhole => Nat.le_trans (hphrase hwhole) h⟩

end MatcherSet

/-! ## Configurations -/

namespace Config

/-- A cap of zero has a fault of its own, which no entry has. -/
theorem validate_eq_invalidMaxWords_iff {c : Config} :
    c.validate = .error .invalidMaxWords ↔ c.maxWords = 0 := by
  unfold validate
  split
  · next hcap => simp [hcap]
  · next hcap =>
    refine iff_of_false (fun h => ?_) hcap
    -- any other fault would be that of an entry
    obtain ⟨_, _, _, _, _, hfault⟩ := MatcherSet.resolve_eq_error_iff.1 h
    cases hfault

theorem validate_of_ne_zero {c : Config} (h : c.maxWords ≠ 0) :
    c.validate = MatcherSet.resolve c.matchers.entries :=
  if_neg h

/-- What a configuration is resolved to gives its entries back. -/
theorem entries_of_validate {c : Config} {s : MatcherSet} (h : c.validate = .ok s) :
    s.entries = c.matchers.entries := by
  unfold validate at h
  split at h
  · cases h
  · exact (MatcherSet.entries_of_resolve h).1

end Config

/-- **Matchers of a configuration.** A list of entries is resolved exactly if every name is that of a matcher
and no weight is below zero or NaN; the matchers give the entries back in their order, and any other
list has the fault of its first bad entry. A configuration is refused for its cap exactly if that is zero,
and otherwise has the matchers or the fault of its entries. Which matchers take part in a search depends on
the dialect and on whether there are two tokens; they stay in order, also as entries of the configuration,
and with more tokens none is lost. -/
theorem MatcherSet.matchers_of_entries :
    (∀ entries : List (String × Float),
      ((∃ s, resolve entries = .ok s) ↔ ∀ entry ∈ entries, IsResolvable entry) ∧
      (∀ s, resolve entries = .ok s → s.entries = entries) ∧
      ∀ fault, resolve entries = .error fault ↔ ∃ before entry after,
        entries = before ++ entry :: after ∧ (∀ e ∈ before, IsResolvable e) ∧ EntryFault entry fault) ∧
    (∀ weight : Float, weight < 0.0 ∨ weight.isNaN = true ↔
      Number.IsBelowZero weight ∨ Number.IsNaN weight) ∧
    (∀ c : Config, (c.validate = .error .invalidMaxWords ↔ c.maxWords = 0) ∧
      (c.maxWords ≠ 0 → c.validate = resolve c.matchers.entries) ∧
      ∀ s, c.validate = .ok s → s.entries = c.matchers.entries ∧
        ∀ count d, (s.applicable count d).entries.Sublist c.matchers.entries) ∧
    ∀ (s : MatcherSet) (d : Dialect),
      (∀ count, (s.applicable count d).Sublist s ∧ ∀ e, e ∈ s.applicable count d ↔
        e ∈ s ∧ d.supports e.1 = true ∧ (e.1.usesWholePhrase = true → 2 ≤ count)) ∧
      ∀ m n, m ≤ n → (s.applicable m d).Sublist (s.applicable n d) := by
  refine ⟨fun entries => ⟨⟨?_, exists_resolve_eq_ok⟩, fun s hs => (entries_of_resolve hs).1,
    fun fault => resolve_eq_error_iff⟩, fun weight => ?_, fun c => ⟨Config.validate_eq_invalidMaxWords_iff,
    Config.validate_of_ne_zero, fun s hs => ?_⟩, fun s d => ⟨fun count => ⟨List.filter_sublist, fun e =>
    mem_applicable_iff⟩, fun m n => s.applicable_sublist_of_le d⟩⟩
  · rintro ⟨s, hs⟩
    exact (entries_of_resolve hs).2
  · rw [← isBadWeight_eq_true_iff, isBadWeight_iff]
  · have hback := Config.entries_of_validate hs
    refine ⟨hback, fun count d => ?_⟩
    rw [← hback]
    exact List.filter_sublist.map _

/-- A matcher that is named twice, and the least and the largest weight that there are. -/
def repeatedEntries : List (String × Float) :=
  [("acronymMatcher", -0.0), ("exactFullMatcher", 1.0 / 0.0), ("acronymMatcher", 2.0)]

/-- Two matchers, and the cap that a configuration has by itself. -/
def acronymConfig : Config := { matchers := .ofList [("acronymMatcher", 2.0), ("exactFullMatcher", 3.0)] }

theorem MatcherSet.matchers_of_entries_repeated :
    ((∃ s, resolve repeatedEntries = .ok s) ∧
      resolve repeatedEntries =
        .ok [(.acronym, -0.0), (.exactFull, 1.0 / 0.0), (.acronym, 2.0)] ∧
      entries [(.acronym, -0.0), (.exactFull, 1.0 / 0.0), (.acronym, 2.0)] = repeatedEntries) ∧
    resolve (repeatedEntries ++ [("soundsMatcher", -1.0), ("acronymMatcher", 0.0 / 0.0)]) =
      .error (.unknownMatcher "soundsMatcher") ∧
    (acronymConfig.maxWords ≠ 0 ∧ acronymConfig.validate = resolve acronymConfig.matchers.entries) ∧
    (acronymConfig.validate = .ok [(.acronym, 2.0), (.exactFull, 3.0)] ∧
      entries [(.acronym, 2.0), (.exactFull, 3.0)] = acronymConfig.matchers.entries) ∧
    1 ≤ 2 ∧ (applicable [(.acronym, 2.0), (.exactFull, 3.0)] 1 .sqlite).Sublist
      (applicable [(.acronym, 2.0), (.exactFull, 3.0)] 2 .sqlite) := by
  obtain ⟨hresolve, -, hconfig, happlicable⟩ := matchers_of_entries
  have hresolvable : ∀ entry ∈ repeatedEntries, IsResolvable entry := by
    rintro entry (_ | ⟨_, _ | ⟨_, _ | ⟨_, ⟨⟩⟩⟩⟩)
    · exact ⟨⟨.acronym, rfl⟩, by decide +kernel⟩
    · exact ⟨⟨.exactFull, rfl⟩, by decide +kernel⟩
    · exact ⟨⟨.acronym, rfl⟩, by decide +kernel⟩
  have hunknown : ∀ m : Matcher, m.name ≠ "soundsMatcher" := by
    intro m
    cases m <;> decide
  have hrepeated : resolve repeatedEntries =
      .ok [(.acronym, -0.0), (.exactFull, 1.0 / 0.0), (.acronym, 2.0)] :=
    resolve_eq_ok_iff.2 ⟨rfl, hresolvable⟩
  have hcap : acronymConfig.maxWords ≠ 0 := by decide
  have hvalid : acronymConfig.validate = .ok [(.acronym, 2.0), (.exactFull, 3.0)] := by
    refine (Config.validate_of_ne_zero hcap).trans (resolve_eq_ok_iff.2 ⟨rfl, ?_⟩)
    rintro entry (_ | ⟨_, _ | ⟨_, ⟨⟩⟩⟩)
    · exact ⟨⟨.acronym, rfl⟩, by decide +kernel⟩
    · exact ⟨⟨.exactFull, rfl⟩, by decide +kernel⟩
  refine ⟨⟨(hresolve repeatedEntries).1.2 hresolvable, hrepeated, (hresolve _).2.1 _ hrepeated⟩,
    ((hresolve _).2.2 _).2 ⟨repeatedEntries, _, _, rfl, hresolvable, .unknownMatcher hunknown⟩,
    ⟨hcap, (hconfig acronymConfig).2.1 hcap⟩, ⟨hvalid, ((hconfig acronymConfig).2.2 _ hvalid).1⟩,
    by decide, (happlicable _ .sqlite).2 1 2 (by decide)⟩

end RelevanceSql
