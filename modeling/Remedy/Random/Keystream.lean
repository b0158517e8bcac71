import Remedy.Random.Source

/-!
# A seeded keystream

The reproducible source is the ChaCha stream cipher with twelve rounds, a
64-bit block counter that starts at zero, and stream number zero. Its key is
expanded from a 64-bit seed. The output is the plain sequence of the 32-bit
words of all blocks. A 64-bit word is two words of it, the first one low.

The state of the cipher is a matrix of four rows with four words each. A round
works on whole rows at once, first down the columns, and then down the
diagonals, which become columns when the rows are turned against each other.
-/

namespace Remedy

/-- Four words of a cipher state. -/
structure CipherRow where
  w0 : UInt32
  w1 : UInt32
  w2 : UInt32
  w3 : UInt32
deriving DecidableEq

namespace CipherRow

/-- Combine two rows word by word. -/
def zip (f : UInt32 → UInt32 → UInt32) (x y : CipherRow) : CipherRow :=
  ⟨f x.w0 y.w0, f x.w1 y.w1, f x.w2 y.w2, f x.w3 y.w3⟩

instance : Add CipherRow := ⟨zip (· + ·)⟩
instance : XorOp CipherRow := ⟨zip (· ^^^ ·)⟩

/-- Rotate every word to the left by `n` bits, for `0 < n < 32`. -/
def rotateBits (n : UInt32) (x : CipherRow) : CipherRow :=
  let rotate (w : UInt32) : UInt32 := (w <<< n) ||| (w >>> (32 - n))
  ⟨rotate x.w0, rotate x.w1, rotate x.w2, rotate x.w3⟩

/-- Move every word one place to the left, the first word to the end. -/
def turn (x : CipherRow) : CipherRow := ⟨x.w1, x.w2, x.w3, x.w0⟩

/-- The word at a place; the places count modulo four. -/
def get (x : CipherRow) (i : Nat) : UInt32 :=
  match i % 4 with
  | 0 => x.w0
  | 1 => x.w1
  | 2 => x.w2
  | _ => x.w3

end CipherRow

/-- A cipher state: four rows. -/
structure CipherBlock where
  a : CipherRow
  b : CipherRow
  c : CipherRow
  d : CipherRow
deriving DecidableEq

namespace CipherBlock

/-- The round on columns. -/
def mixColumns (m : CipherBlock) : CipherBlock :=
  let a := m.a + m.b
  let d := (m.d ^^^ a).rotateBits 16
  let c := m.c + d
  let b := (m.b ^^^ c).rotateBits 12
  let a := a + b
  let d := (d ^^^ a).rotateBits 8
  let c := c + d
  let b := (b ^^^ c).rotateBits 7
  ⟨a, b, c, d⟩

/-- The round on diagonals. -/
def mixDiagonals (m : CipherBlock) : CipherBlock :=
  let mixed := mixColumns ⟨m.a, m.b.turn, m.c.turn.turn, m.d.turn.turn.turn⟩
  ⟨mixed.a, mixed.b.turn.turn.turn, mixed.c.turn.turn, mixed.d.turn⟩

/-- The state after `n` pairs of rounds. -/
def rounds : Nat → CipherBlock → CipherBlock
  | 0, m => m
  | n + 1, m => rounds n m.mixColumns.mixDiagonals

/-- The output block of a state: the state after twelve rounds, added to the
state itself. -/
def output (m : CipherBlock) : CipherBlock :=
  let mixed := rounds 6 m
  ⟨mixed.a + m.a, mixed.b + m.b, mixed.c + m.c, mixed.d + m.d⟩

/-- The word at a place of the block, row by row; the places count modulo
sixteen. -/
def get (m : CipherBlock) (i : Nat) : UInt32 :=
  match i / 4 % 4 with
  | 0 => m.a.get i
  | 1 => m.b.get i
  | 2 => m.c.get i
  | _ => m.d.get i

end CipherBlock

/-- A keystream: its key of eight words, and the number of 32-bit words that
have been taken from it. -/
structure Keystream where
  keyLow : CipherRow
  keyHigh : CipherRow
  position : Nat := 0
deriving DecidableEq

namespace Keystream

/-- One step of the generator that expands a seed. -/
def seedStep (state : UInt64) : UInt64 :=
  state * 6364136223846793005 + 11634580027462260723

/-- The key word that belongs to a state of the seed's generator: its upper
bits folded to 32, rotated to the right by its five highest bits. -/
def seedWord (state : UInt64) : UInt32 :=
  let folded := (((state >>> 18) ^^^ state) >>> 27).toUInt32
  let turn := (state >>> 59).toUInt32
  (folded >>> turn) ||| (folded <<< ((32 - turn) % 32))

/-- The keystream of a seed, at its beginning. -/
def ofSeed (seed : UInt64) : Keystream :=
  let s0 := seedStep seed
  let s1 := seedStep s0
  let s2 := seedStep s1
  let s3 := seedStep s2
  let s4 := seedStep s3
  let s5 := seedStep s4
  let s6 := seedStep s5
  let s7 := seedStep s6
  { keyLow := ⟨seedWord s0, seedWord s1, seedWord s2, seedWord s3⟩
    keyHigh := ⟨seedWord s4, seedWord s5, seedWord s6, seedWord s7⟩ }

/-- The output block with the given number. -/
def block (k : Keystream) (number : Nat) : CipherBlock :=
  CipherBlock.output
    { a := ⟨0x61707865, 0x3320646e, 0x79622d32, 0x6b206574⟩
      b := k.keyLow
      c := k.keyHigh
      d := ⟨UInt32.ofNat number, UInt32.ofNat (number >>> 32), 0, 0⟩ }

/-- The word at a position of the stream. -/
def word (k : Keystream) (position : Nat) : UInt32 := (k.block (position / 16)).get position

instance : RandomSource Keystream where
  next32 k := (k.word k.position, { k with position := k.position + 1 })
  next64 k :=
    ((k.word k.position).toUInt64 ||| ((k.word (k.position + 1)).toUInt64 <<< 32),
      { k with position := k.position + 2 })

end Keystream

end Remedy
