/-!
# Tables of code point ranges

A character class is stored as a list of closed ranges in ascending order.
Membership can then stop at the first range that begins above the number that
is looked for. `inRanges_iff` says that this changes nothing on a table in
order.
-/

namespace Remedy

/-- `n` lies in a range of the table, which has to be in ascending order. -/
def inRanges : List (Nat × Nat) → Nat → Bool
  | [], _ => false
  | (low, high) :: rest, n => if n < low then false else n ≤ high || inRanges rest n

theorem inRanges_iff {ranges : List (Nat × Nat)} (n : Nat)
    (ordered : ranges.Pairwise fun a b => a.1 ≤ b.1) :
    inRanges ranges n = true ↔ ∃ r ∈ ranges, r.1 ≤ n ∧ n ≤ r.2 := by
  induction ranges with
  | nil => simp [inRanges]
  | cons r rest ih =>
    obtain ⟨low, high⟩ := r
    obtain ⟨hlow, hrest⟩ := List.pairwise_cons.mp ordered
    rw [inRanges]
    split
    next hn =>
      simp only [Bool.false_eq_true, List.mem_cons, false_iff, not_exists, not_and]
      rintro s (rfl | hs) h
      · omega
      · have := hlow s hs
        omega
    next hn =>
      have hn := Nat.not_lt.mp hn
      simp [ih hrest, hn]

end Remedy
