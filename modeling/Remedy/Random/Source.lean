/-!
# Sources of random words

Demo values are drawn from a source of random words that the caller supplies.
A source hands out words of 32 or 64 bits and the source that remains, so a run
can be repeated from the same starting point. The two simple sources below are
fixed sequences of 64-bit words and answer a request for 32 bits with the low
half of the next word.
-/

namespace Remedy

/-- States from which random words can be taken. -/
class RandomSource (σ : Type) where
  /-- The next 32 random bits and the state after them. -/
  next32 : σ → UInt32 × σ
  /-- The next 64 random bits and the state after them. -/
  next64 : σ → UInt64 × σ

/-- The words `value`, `value + step`, `value + 2 * step` and so on, modulo
`2 ^ 64`. With both fields zero, every word is zero. -/
structure SteppedWords where
  value : UInt64 := 0
  step : UInt64 := 0
deriving DecidableEq

/-- The next word of the arithmetic sequence. -/
def SteppedWords.next (s : SteppedWords) : UInt64 × SteppedWords :=
  (s.value, { s with value := s.value + s.step })

instance : RandomSource SteppedWords where
  next32 s := (s.next.1.toUInt32, s.next.2)
  next64 := SteppedWords.next

/-- The listed words, and zeros after them. -/
structure ListedWords where
  words : List UInt64
deriving DecidableEq

/-- The next listed word. -/
def ListedWords.next (s : ListedWords) : UInt64 × ListedWords :=
  (s.words.headD 0, ⟨s.words.tail⟩)

instance : RandomSource ListedWords where
  next32 s := (s.next.1.toUInt32, s.next.2)
  next64 := ListedWords.next

end Remedy
