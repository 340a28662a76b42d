import FragmentSink.Text.Hexadecimal
import FragmentSink.Text.Parts

/-
  Labels of domain names in letters, digits and hyphens of
  ASCII alone.

  The characters of ASCII come first.  Each other character is
  told by a difference from the one before it, counted over the
  numbers of characters and the places in the label, and the
  difference is written in digits of which the least comes
  first.

  Key definitions include:
    * `Punycode.encode`
    * `Punycode.decode?`
-/

namespace FragmentSink

namespace Punycode

------------------------------------------------------------
-- Digits
------------------------------------------------------------

/- A character of ASCII. -/
def isAscii (c : Char) : Bool :=
  c.toNat < 0x80

/- The digit of a number below thirty-six: letters first. -/
def digit (n : Nat) : Char :=
  if n < 26 then Char.ofNat (97 + n) else Char.ofNat (22 + n)

/- The number of a digit, in either case. -/
def number? (c : Char) : Option Nat :=
  if c.isDigit then some (c.toNat - '0'.toNat + 26)
  else if c.isAlpha then some (c.toLower.toNat - 'a'.toNat)
  else none

/- The first number outside ASCII. -/
def firstNumber : Nat := 128

/- The bias at the start. -/
def firstBias : Nat := 72

/- How far the position of a digit is from that of the digit before it. -/
def step : Nat := 36

/- Divide a difference by thirty-five while it is large, counting thirty-six for each division. -/
def shrink (delta k : Nat) : Nat × Nat :=
  if 455 < delta then shrink (delta / 35) (k + 36) else (delta, k)
termination_by delta
decreasing_by exact Nat.div_lt_self (by omega) (by omega)

/- The bias for the next difference. -/
def adapt (delta count : Nat) (isFirst : Bool) : Nat :=
  let delta := if isFirst then delta / 700 else delta / 2
  let (delta, k) := shrink (delta + delta / count) 0
  k + 36 * delta / (delta + 38)

/- The least value at which a digit is followed by another one. -/
def threshold (bias k : Nat) : Nat :=
  max 1 (min 26 (k - bias))

theorem threshold_pos (bias k : Nat) :
    0 < threshold bias k := by
  simp only [threshold]
  omega

------------------------------------------------------------
-- Encoding
------------------------------------------------------------

/- The digits of a difference, the least first. -/
def digitsOf (bias q k : Nat) : List Char :=
  let t := threshold bias k
  if q < t then [digit q]
  else
    digit (t + (q - t) % (36 - t)) ::
      digitsOf bias ((q - t) / (36 - t)) (k + 36)
termination_by q
decreasing_by
  have hPos := threshold_pos bias k
  have hLe := Nat.div_le_self
    (q - threshold bias k) (36 - threshold bias k)
  omega

/- How far an encoding has come. -/
structure Progress where
  delta : Nat
  bias : Nat
  handled : Nat
  written : List Char

/- Encode one character of a label, if it is the one whose turn it is. -/
def encodeAt
    (basic : Nat)
    (n : Nat)
    (p : Progress)
    (c : Char) : Progress :=
  if c.toNat < n then { p with delta := p.delta + 1 }
  else if c.toNat = n then
    { delta := 0
      bias := adapt p.delta (p.handled + 1) (p.handled = basic)
      handled := p.handled + 1
      written := p.written ++ digitsOf p.bias p.delta 36 }
  else p

/- Encode the characters outside ASCII in the order of their numbers. -/
def encodeFrom
    (label : List Char)
    (basic : Nat) : List Nat → Nat → Progress → Progress
| [], _, p => p
| n :: later, passed, p =>
    let p :=
      { p with
        delta := p.delta + (n - passed) * (p.handled + 1) }
    let p := label.foldl (encodeAt basic n) p
    encodeFrom label basic later (n + 1)
      { p with delta := p.delta + 1 }

/- The encoded form of a label. -/
def encode (label : List Char) : List Char :=
  let basic := label.filter isAscii
  let others :=
    ((label.filter fun c => !isAscii c).map Char.toNat)
      |>.mergeSort
      |>.eraseDups
  let front := if basic.isEmpty then [] else basic ++ ['-']
  let p :=
    encodeFrom label basic.length others firstNumber
      ⟨0, firstBias, basic.length, []⟩
  front ++ p.written

------------------------------------------------------------
-- Decoding
------------------------------------------------------------

/- Differences and weights stay below this number. -/
def bound : Nat := 4294967296

/-
  How far a label has been read: its characters so far, the
  number and place of the last one, and where the difference
  that is being read began, what its next digit weighs and the
  position of that digit.
-/
structure Reading where
  text : List Char
  number : Nat
  place : Nat
  began : Nat
  weight : Nat
  position : Nat
  bias : Nat
deriving DecidableEq, Repr

namespace Reading

/- Put the character that a difference leads to into its place. -/
def settled? (r : Reading) : Option Reading :=
  let count := r.text.length + 1
  let number := r.number + r.place / count
  let place := r.place % count
  if number.isValidChar then
    some
      { text :=
          r.text.take place ++ Char.ofNat number :: r.text.drop place
        number := number
        place := place + 1
        began := place + 1
        weight := 1
        position := step
        bias := adapt (r.place - r.began) count (r.began = 0) }
  else none

/- Read one digit. -/
def next? (r : Reading) (c : Char) : Option Reading :=
  (number? c).bind fun d =>
    let t := threshold r.bias r.position
    let weight := r.weight * (step - t)
    let r := { r with place := r.place + d * r.weight }
    if bound ≤ r.place then none
    else if d < t then r.settled?
    else if bound ≤ weight then none
    else
      some { r with weight := weight, position := r.position + step }

end Reading

/- The characters of ASCII in front of the last hyphen, and the digits after it. -/
def cutFront (code : List Char) : List Char × List Char :=
  let digits := (code.reverse.takeWhile (· ≠ '-')).reverse
  let front := code.take (code.length - digits.length - 1)
  if front.isEmpty then ([], code) else (front, digits)

/- The label of an encoded form. -/
def decode? (code : List Char) : Option (List Char) :=
  let (front, digits) := cutFront code
  let start : Reading :=
    ⟨front, firstNumber, 0, 0, 1, step, firstBias⟩
  match digits.foldlM Reading.next? start with
  | some r => if r.position = step then some r.text else none
  | none => none

end Punycode

end FragmentSink
