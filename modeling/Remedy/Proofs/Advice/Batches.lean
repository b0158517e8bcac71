import Mathlib.Algebra.Group.Nat.Defs
import Remedy.Engine

/-!
# Batches of diagnostics

An engine with a seed helps with a batch as if every diagnostic were alone: the
item at place `i` gets the help that an engine seeded with the seed plus `i` gives
for this one diagnostic. So a batch may be cut anywhere. Its second part is a
batch of its own, whose seed has moved on by the length of the first.

Seeds are added modulo `2 ^ 64`, and the results hold on both sides of the point
where the sum wraps around.
-/

namespace Remedy

/-- Adding to a seed is addition modulo `2 ^ 64`. -/
theorem seed_add_ofNat (seed : UInt64) (n : Nat) :
    seed + UInt64.ofNat n = UInt64.ofNat ((seed.toNat + n) % 2 ^ 64) := by
  apply UInt64.toNat_inj.mp
  simp

namespace Engine

variable {σ : Type}

/-- The engine with another seed. -/
def seeded (e : Engine σ) (seed : UInt64) : Engine σ :=
  { e with settings := { e.settings with seed := some seed } }

variable {e : Engine σ} {tree : Tree} {seed : UInt64}

/-- What is drawn for a diagnostic depends on the seed only through the source. -/
theorem drawHelp_seeded (d : Diagnostic) : (e.seeded seed).drawHelp tree d = e.drawHelp tree d := rfl

variable [SeededSource σ]

/-- With a seed, the source that the caller supplies does not matter. -/
theorem help_seeded (otherwise : σ) (d : Diagnostic) :
    (e.seeded seed).help otherwise tree d = (e.drawHelp tree d (SeededSource.ofSeed seed)).1 := by
  have hsource : (e.seeded seed).source otherwise 0 = SeededSource.ofSeed seed := by
    show SeededSource.ofSeed (seed + 0) = _
    rw [UInt64.add_zero]
  rw [help, hsource, drawHelp_seeded]

/-- An item of a batch is helped as if it were alone, by an engine whose seed has
moved on to the place of the item. -/
theorem getElem?_helpAll_seeded (otherwise : Nat → σ) (other : σ) (ds : List Diagnostic) (i : Nat) :
    ((e.seeded seed).helpAll otherwise tree ds)[i]? =
      ds[i]?.map ((e.seeded (seed + UInt64.ofNat i)).help other tree) := by
  rw [helpAll, List.getElem?_map, List.getElem?_zipIdx, Option.map_map, Nat.zero_add]
  congr 1
  funext d
  rw [help_seeded]
  rfl

theorem length_helpAll (otherwise : Nat → σ) (ds : List Diagnostic) :
    (e.helpAll otherwise tree ds).length = ds.length := by
  rw [helpAll, List.length_map, List.length_zipIdx]

/-- The second part of a batch is a batch whose seed has moved on. -/
theorem helpAll_seeded_append (otherwise others : Nat → σ) (ds es : List Diagnostic) :
    (e.seeded seed).helpAll otherwise tree (ds ++ es) =
      (e.seeded seed).helpAll others tree ds ++
        (e.seeded (seed + UInt64.ofNat ds.length)).helpAll others tree es := by
  apply List.ext_getElem?
  intro i
  rw [getElem?_helpAll_seeded otherwise (others 0)]
  by_cases hi : i < ds.length
  · rw [List.getElem?_append_left hi, List.getElem?_append_left (by rwa [length_helpAll]),
      getElem?_helpAll_seeded others (others 0)]
  · have hle := Nat.le_of_not_lt hi
    rw [List.getElem?_append_right hle, List.getElem?_append_right (by rwa [length_helpAll]),
      getElem?_helpAll_seeded others (others 0), length_helpAll, UInt64.add_assoc,
      ← UInt64.ofNat_add, Nat.add_sub_cancel' hle]

/-- **Batches.** Whatever the parts of the engine are, and whatever sources the
caller supplies besides the seed,

* the help for a batch in two parts is the help for the first part followed by
  the help that an engine gives for the second part whose seed has moved on by the
  length of the first, modulo `2 ^ 64`;
* a batch of one diagnostic gets the help for that diagnostic;
* there is one entry for each diagnostic, in order, and the entry at place `i` is
  the help that an engine seeded with the seed plus `i`, modulo `2 ^ 64`, gives for
  the diagnostic there. -/
theorem helpAll_splits (e : Engine σ) (tree : Tree) (seed : UInt64) (otherwise others : Nat → σ) :
    (∀ ds es : List Diagnostic,
        (e.seeded seed).helpAll otherwise tree (ds ++ es) =
          (e.seeded seed).helpAll others tree ds ++
            (e.seeded (UInt64.ofNat ((seed.toNat + ds.length) % 2 ^ 64))).helpAll others tree es) ∧
      (∀ d : Diagnostic, (e.seeded seed).helpAll otherwise tree [d] =
        [(e.seeded seed).help (others 0) tree d]) ∧
      ∀ ds : List Diagnostic,
        ((e.seeded seed).helpAll otherwise tree ds).length = ds.length ∧
        ∀ i, ((e.seeded seed).helpAll otherwise tree ds)[i]? =
          ds[i]?.map ((e.seeded (UInt64.ofNat ((seed.toNat + i) % 2 ^ 64))).help (others i) tree) := by
  refine ⟨?_, ?_, ?_⟩
  · intro ds es
    rw [← seed_add_ofNat]
    exact helpAll_seeded_append otherwise others ds es
  · intro d
    rw [help_seeded, ← help_seeded (otherwise 0)]
    rfl
  · intro ds
    refine ⟨length_helpAll otherwise ds, fun i => ?_⟩
    rw [← seed_add_ofNat]
    exact getElem?_helpAll_seeded otherwise (others i) ds i

end Engine

end Remedy
