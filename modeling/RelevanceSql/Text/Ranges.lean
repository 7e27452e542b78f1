/-!
# Sets of code points

A Unicode property is given as the ascending list of its blocks, each with its first and last code
point. Looking a code point up stops at the first block that does not lie wholly before it.
-/

namespace RelevanceSql.Text

/-- Whether a code point lies in one of the blocks of an ascending list. -/
def inRanges : List (Nat × Nat) → Nat → Bool
  | [], _ => false
  | (first, last) :: rest, n =>
    if n < first then false else if n ≤ last then true else inRanges rest n

/-- What is found lies in one of the blocks. -/
theorem exists_of_inRanges {blocks : List (Nat × Nat)} {n : Nat} (h : inRanges blocks n = true) :
    ∃ b ∈ blocks, b.1 ≤ n ∧ n ≤ b.2 := by
  induction blocks with
  | nil => simp [inRanges] at h
  | cons b rest ih =>
    obtain ⟨first, last⟩ := b
    rw [inRanges] at h
    split at h
    · cases h
    · split at h
      · exact ⟨(first, last), by simp, by simp; omega⟩
      · obtain ⟨b, hb, hn⟩ := ih h
        exact ⟨b, by simp [hb], hn⟩

end RelevanceSql.Text
