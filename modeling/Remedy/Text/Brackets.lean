/-!
# Bracket pairs of array types

An array type is written as its element type followed by one pair `[]` per
dimension. Types, rendered code and demo values all write those pairs, so they
share this one definition.
-/

namespace Remedy

/-- `n` pairs of square brackets. -/
def bracketPairs (n : Nat) : String := String.join (List.replicate n "[]")

theorem bracketPairs_zero : bracketPairs 0 = "" := rfl

theorem bracketPairs_succ (n : Nat) : bracketPairs (n + 1) = "[]" ++ bracketPairs n := by
  rw [bracketPairs, List.replicate_succ, String.join_cons]
  rfl

theorem toList_bracketPairs_succ (n : Nat) :
    (bracketPairs (n + 1)).toList = '[' :: ']' :: (bracketPairs n).toList := by
  rw [bracketPairs_succ, String.toList_append]
  rfl

theorem bracketPairs_add (m n : Nat) :
    bracketPairs (m + n) = bracketPairs m ++ bracketPairs n := by
  induction m with
  | zero => rw [Nat.zero_add, bracketPairs_zero, String.empty_append]
  | succ m ih => rw [Nat.succ_add, bracketPairs_succ, bracketPairs_succ, ih, String.append_assoc]

theorem bracketPairs_succ' (n : Nat) : bracketPairs (n + 1) = bracketPairs n ++ "[]" :=
  bracketPairs_add n 1

theorem mem_bracketPairs {n : Nat} {c : Char} (h : c ∈ (bracketPairs n).toList) :
    c = '[' ∨ c = ']' := by
  induction n with
  | zero => cases h
  | succ n ih =>
    rw [toList_bracketPairs_succ] at h
    rcases List.mem_cons.mp h with hopen | hrest
    · exact .inl hopen
    · rcases List.mem_cons.mp hrest with hclose | hpairs
      · exact .inr hclose
      · exact ih hpairs

theorem notMem_bracketPairs {n : Nat} {c : Char} (hopen : c ≠ '[') (hclose : c ≠ ']') :
    c ∉ (bracketPairs n).toList := by
  intro hmem
  rcases mem_bracketPairs hmem with h | h
  · exact hopen h
  · exact hclose h

end Remedy
