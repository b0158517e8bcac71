/-!
# Form encoding

The encoding of one value in a query, as HTML forms use it. Letters, digits and
the characters `.`, `-`, `*` and `_` of ASCII stand for themselves, a space
becomes `+`, and every other byte of the value's UTF-8 form becomes `%` with two
upper-case hexadecimal digits. None of the characters that structure a query can
then occur in a value. `decode` is the reading direction.
-/

namespace Remedy

namespace FormEncoding

/-- The upper-case hexadecimal digit of a number below sixteen. -/
def hexDigit (n : Nat) : Char :=
  if n < 10 then Char.ofNat ('0'.toNat + n) else Char.ofNat ('A'.toNat + (n - 10))

/-- The byte stands for itself. -/
def isPlain (b : UInt8) : Bool :=
  let c := Char.ofNat b.toNat
  c.isAlphanum || c == '.' || c == '-' || c == '*' || c == '_'

/-- The written form of one byte. -/
def encodeByte (b : UInt8) : List Char :=
  if isPlain b then [Char.ofNat b.toNat]
  else if b = 0x20 then ['+']
  else ['%', hexDigit (b.toNat / 16), hexDigit (b.toNat % 16)]

/-- The bytes of a text in UTF-8. -/
def utf8Bytes (s : String) : List UInt8 := s.toUTF8.data.toList

/-- The written form of a value. -/
def encode (value : String) : String := String.ofList ((utf8Bytes value).flatMap encodeByte)

/-! ## Reading -/

/-- The value of a hexadecimal digit in either case. -/
def hexValue? (c : Char) : Option Nat :=
  if c.isDigit then some (c.toNat - '0'.toNat)
  else if 'A' ≤ c ∧ c ≤ 'F' then some (c.toNat - 'A'.toNat + 10)
  else if 'a' ≤ c ∧ c ≤ 'f' then some (c.toNat - 'a'.toNat + 10)
  else none

/-- The bytes that a written form stands for; none if an escape is cut short or
has a wrong digit. -/
def decodeBytes : List Char → Option (List UInt8)
  | [] => some []
  | '%' :: high :: low :: rest => do
      let h ← hexValue? high
      let l ← hexValue? low
      let bytes ← decodeBytes rest
      return UInt8.ofNat (16 * h + l) :: bytes
  | c :: rest => do
      let bytes ← decodeBytes rest
      if c = '+' then return 0x20 :: bytes
      else if c = '%' then none
      else return String.utf8EncodeChar c ++ bytes

/-- The value that a written form stands for; none also if its bytes are no
text. -/
def decode (written : String) : Option String := do
  let bytes ← decodeBytes written.toList
  String.fromUTF8? ⟨bytes.toArray⟩

end FormEncoding

end Remedy
