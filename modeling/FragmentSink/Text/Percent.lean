import FragmentSink.Text.Hexadecimal

/-
  Percent-encoding: a byte is written as a percent sign and
  two hexadecimal digits.

  Characters outside ASCII are always encoded, byte by byte of
  their UTF-8 form; which characters of ASCII are encoded is a
  parameter.

  Key definitions include:
    * `Percent.encode`
    * `Percent.hexPair`
    * `Percent.decoded?`
-/

namespace FragmentSink

namespace Percent

------------------------------------------------------------
-- Hexadecimal Digits
------------------------------------------------------------

/- The upper-case hexadecimal digit of a number below sixteen. -/
def hexDigit (n : Nat) : Char :=
  if n < 10 then Char.ofNat (48 + n) else Char.ofNat (55 + n)

/- The two hexadecimal digits of a byte. -/
def hexPair (b : UInt8) : List Char :=
  [hexDigit (b.toNat / 16), hexDigit (b.toNat % 16)]

------------------------------------------------------------
-- Encoding
------------------------------------------------------------

/- The encoded form of a byte. -/
def encodeByte (b : UInt8) : List Char :=
  '%' :: hexPair b

/- A control character of ASCII. -/
def isControl (c : Char) : Bool :=
  c.toNat < 0x20 || c.toNat = 0x7F

/- The encoded form of a character. -/
def encodeChar (special : Char → Bool) (c : Char) : List Char :=
  if c.toNat < 0x80 then
    if special c then encodeByte c.toNat.toUInt8 else [c]
  else
    (String.utf8EncodeChar c).flatMap encodeByte

/- The encoded form of a text. -/
def encode (special : Char → Bool) (cs : List Char) : List Char :=
  cs.flatMap (encodeChar special)

------------------------------------------------------------
-- Decoding
------------------------------------------------------------

/- The byte of two hexadecimal digits. -/
def byte? (a b : Char) : Option UInt8 :=
  (Hexadecimal.number? [a, b]).map Nat.toUInt8

/- The bytes of a text in which a percent sign may stand for a byte. -/
def bytesOf : List Char → List UInt8
| [] => []
| '%' :: a :: b :: cs =>
    match byte? a b with
    | some byte => byte :: bytesOf cs
    | none => '%'.toNat.toUInt8 :: bytesOf (a :: b :: cs)
| c :: cs => String.utf8EncodeChar c ++ bytesOf cs

/- The text that an encoded one stands for, if its bytes are one. -/
def decoded? (cs : List Char) : Option (List Char) :=
  (String.fromUTF8? ⟨(bytesOf cs).toArray⟩).map String.toList

end Percent

end FragmentSink
