/-
  Decimal texts of integers, and the reading of natural
  numbers.

  Key definitions include:
    * `Decimal.padded`
    * `Decimal.readNat?`
-/

namespace FragmentSink

namespace Decimal

------------------------------------------------------------
-- Writing
------------------------------------------------------------

/- The digits of a natural number, without leading zeros. -/
def digits (n : Nat) : List Char :=
  Nat.toDigits 10 n

/- Fill a text with zeros on the left, up to a width. -/
def zeroFilled (width : Nat) (cs : List Char) : List Char :=
  List.replicate (width - cs.length) '0' ++ cs

/- An integer filled with zeros up to a width, in which a minus sign is counted. -/
def padded (width : Nat) (n : Int) : List Char :=
  if n < 0 then
    '-' :: zeroFilled (width - 1) (digits n.natAbs)
  else
    zeroFilled width (digits n.natAbs)

------------------------------------------------------------
-- Reading
------------------------------------------------------------

/- The value of a digit. -/
def digitValue (c : Char) : Nat :=
  c.toNat - '0'.toNat

/- The value of a list of digits. -/
def value (cs : List Char) : Nat :=
  cs.foldl (fun n c => n * 10 + digitValue c) 0

/-
  Read a natural number below a bound: digits only, with any
  number of leading zeros and at most one plus sign in front.
-/
def readNat? (bound : Nat) (cs : List Char) : Option Nat :=
  let ds :=
    match cs with
    | '+' :: rest => rest
    | _ => cs
  if ds.isEmpty then none
  else if ds.all Char.isDigit then
    if value ds < bound then some (value ds) else none
  else none

end Decimal

end FragmentSink
