/-!
# Sets of characters

A set of characters is held as closed ranges of code points in ascending order, so that a search
may stop at the first range that does not lie wholly below the code point it looks for.

* `CodeRanges.contains_iff`: the search finds exactly the characters that lie in some range.
-/

namespace Tokenizer.Text

/-- Every range is non-empty and lies at or above `low`, and each lies above the one before it. -/
def ascending (low : Nat) : List (Nat × Nat) → Bool
  | [] => true
  | (first, last) :: rest => low ≤ first && first ≤ last && ascending (last + 1) rest

/-- Whether `n` lies in one of the ranges, which ascend. -/
def searchRanges (n : Nat) : List (Nat × Nat) → Bool
  | [] => false
  | (first, last) :: rest => if n ≤ last then first ≤ n else searchRanges n rest

/-- A set of characters, as ascending closed ranges of code points. -/
structure CodeRanges where
  ranges : List (Nat × Nat)
  isAscending : ascending 0 ranges = true

/-- Membership of a character. -/
def CodeRanges.contains (s : CodeRanges) (c : Char) : Bool :=
  searchRanges c.toNat s.ranges

theorem low_le_of_ascending {low : Nat} {rs : List (Nat × Nat)} (h : ascending low rs = true)
    {r : Nat × Nat} (hr : r ∈ rs) : low ≤ r.1 := by
  induction rs generalizing low with
  | nil => cases hr
  | cons s rest ih =>
    simp only [ascending, Bool.and_eq_true, decide_eq_true_eq] at h
    rcases List.mem_cons.1 hr with rfl | hr
    · exact h.1.1
    · exact Nat.le_trans (by omega) (ih h.2 hr)

theorem searchRanges_iff {n low : Nat} {rs : List (Nat × Nat)} (h : ascending low rs = true) :
    searchRanges n rs = true ↔ ∃ r ∈ rs, r.1 ≤ n ∧ n ≤ r.2 := by
  induction rs generalizing low with
  | nil => simp [searchRanges]
  | cons s rest ih =>
    simp only [ascending, Bool.and_eq_true, decide_eq_true_eq] at h
    rw [searchRanges]
    split
    · next hn =>
      refine ⟨fun hs => ⟨s, by simp, by simpa using hs, hn⟩, fun ⟨r, hr, h₁, h₂⟩ => ?_⟩
      rcases List.mem_cons.1 hr with rfl | hr
      · simpa using h₁
      · have := low_le_of_ascending h.2 hr
        omega
    · next hn =>
      rw [ih h.2]
      refine ⟨fun ⟨r, hr, h'⟩ => ⟨r, by simp [hr], h'⟩, fun ⟨r, hr, h₁, h₂⟩ => ?_⟩
      rcases List.mem_cons.1 hr with rfl | hr
      · exact absurd h₂ hn
      · exact ⟨r, hr, h₁, h₂⟩

/-- The search finds exactly the characters that lie in some range. -/
theorem CodeRanges.contains_iff (s : CodeRanges) (c : Char) :
    s.contains c = true ↔ ∃ r ∈ s.ranges, r.1 ≤ c.toNat ∧ c.toNat ≤ r.2 :=
  searchRanges_iff s.isAscending

end Tokenizer.Text
