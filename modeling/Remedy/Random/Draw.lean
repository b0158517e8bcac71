import Remedy.Random.Source

/-!
# Drawing from a source

A `Draw` is a computation that takes words from a random source. The draws here
are the four that demo values need: a number below a bound, a fair coin, and a
fraction of one.

A number below `n` is a word scaled to `n`: the upper half of the product. The
lower half tells whether the word is one of those that would make some numbers
more likely than others. Such a word is thrown away and the next one tried. The
definition has to end on every source, so it gives up after `patience` words
and takes the next one as it is. The patience is so large that every cycle of a
source with 64 bits of state has come round by then: where it runs out, no
further word would have been kept.
-/

namespace Remedy

/-- Computations that take words from a source. -/
abbrev Draw (σ : Type) := StateM σ

namespace Draw

/-! ## Values from any source -/

/-- Whatever the source holds, the value drawn has the property. -/
def Ensures {σ α : Type} (x : Draw σ α) (P : α → Prop) : Prop := ∀ source, P (x source).1

theorem Ensures.pure {σ α : Type} {P : α → Prop} {a : α} (h : P a) :
    (Pure.pure a : Draw σ α).Ensures P := fun _ => h

/-- What holds after every value of the first draw holds after both. -/
theorem Ensures.bind {σ α β : Type} {P : β → Prop} (x : Draw σ α) {f : α → Draw σ β}
    (h : ∀ a, (f a).Ensures P) : (x >>= f).Ensures P :=
  fun source => h (x source).1 (x source).2

/-- What is ensured of the first value may be used for the second draw. -/
theorem Ensures.bind_of {σ α β : Type} {P : α → Prop} {Q : β → Prop} {x : Draw σ α}
    {f : α → Draw σ β} (hx : x.Ensures P) (hf : ∀ a, P a → (f a).Ensures Q) :
    (x >>= f).Ensures Q :=
  fun source => hf (x source).1 (hx source) (x source).2

/-- Whatever the two sources hold, the values drawn from them are related. -/
def Agree {σ τ α β : Type} (R : α → β → Prop) (x : Draw σ α) (y : Draw τ β) : Prop :=
  ∀ source other, R (x source).1 (y other).1

theorem Agree.pure {σ τ α β : Type} {R : α → β → Prop} {a : α} {b : β} (h : R a b) :
    Agree R (Pure.pure a : Draw σ α) (Pure.pure b : Draw τ β) := fun _ _ => h

/-- Draws that agree after any two first values agree after the first draws. -/
theorem Agree.bind {σ τ α β γ δ : Type} {R : γ → δ → Prop} (x : Draw σ α) (y : Draw τ β)
    {f : α → Draw σ γ} {g : β → Draw τ δ} (h : ∀ a b, Agree R (f a) (g b)) :
    Agree R (x >>= f) (y >>= g) :=
  fun source other => h (x source).1 (y other).1 (x source).2 (y other).2

/-- Where the first values are related, only related values have to be looked at. -/
theorem Agree.bind_of {σ τ α β γ δ : Type} {R : α → β → Prop} {S : γ → δ → Prop}
    {x : Draw σ α} {y : Draw τ β} {f : α → Draw σ γ} {g : β → Draw τ δ} (hx : Agree R x y)
    (h : ∀ a b, R a b → Agree S (f a) (g b)) : Agree S (x >>= f) (y >>= g) :=
  fun source other =>
    h (x source).1 (y other).1 (hx source other) (x source).2 (y other).2

theorem Agree.imp {σ τ α β : Type} {R S : α → β → Prop} {x : Draw σ α} {y : Draw τ β}
    (hx : Agree R x y) (h : ∀ a b, R a b → S a b) : Agree S x y :=
  fun source other => h _ _ (hx source other)

variable {σ : Type} [RandomSource σ]

/-! ## Words -/

/-- The next 32 bits. -/
def word32 : Draw σ (BitVec 32) := fun s =>
  ((RandomSource.next32 s).1.toBitVec, (RandomSource.next32 s).2)

/-- The next 64 bits. -/
def word64 : Draw σ (BitVec 64) := fun s =>
  ((RandomSource.next64 s).1.toBitVec, (RandomSource.next64 s).2)

/-! ## Numbers below a bound -/

/-- A word scaled to the numbers below `n`. -/
def scale {w : Nat} (word : BitVec w) (n : Nat) (hn : 0 < n) : Fin n :=
  ⟨(word.toNat * n) >>> w, by
    rw [Nat.shiftRight_eq_div_pow]
    exact Nat.div_lt_of_lt_mul (Nat.mul_lt_mul_of_pos_right word.isLt hn)⟩

/-- The word may be kept: the lower half of the product lies below the largest
multiple `n * 2 ^ k` of `n` that fits into a word. -/
def isFair {w : Nat} (word : BitVec w) (n : Nat) : Bool :=
  decide (word.toNat * n % (1 <<< w) < n <<< (w - (n.log2 + 1)))

/-- The number of words that are tried before one is taken as it is. -/
def patience : Nat := UInt64.size

/-- The first word that may be kept, scaled to `n`, among at most the given
number of words, or else the word after them. -/
def belowWithin {w : Nat} (word : Draw σ (BitVec w)) (n : Nat) (hn : 0 < n) :
    Nat → Draw σ (Fin n)
  | 0 => do return scale (← word) n hn
  | tries + 1 => do
      let v ← word
      if isFair v n then return scale v n hn else belowWithin word n hn tries

/-- A number below `n` from words of 32 bits. -/
def below32 (n : Nat) (hn : 0 < n) : Draw σ (Fin n) := belowWithin word32 n hn patience

/-- A number below `n` from words of 64 bits. -/
def below64 (n : Nat) (hn : 0 < n) : Draw σ (Fin n) := belowWithin word64 n hn patience

/-! ## Coins and fractions -/

/-- A fair coin: the highest bit of a word is clear. -/
def coin : Draw σ Bool := do
  let v ← word64
  return !v.msb

/-- The numerator of a fraction of one with denominator `2 ^ 53`. -/
def fraction : Draw σ Nat := do
  let v ← word64
  return v.toNat >>> 11

end Draw

end Remedy
