import FragmentSink.Number.Word
import FragmentSink.Toml.Quoted
import FragmentSink.Toml.Value

/-
  The numbers, truth values and moments of a TOML document.

  Each is written as one word, except that a date and a time
  may stand a space apart.

  Key definitions include:
    * `Toml.integer?`
    * `Toml.float?`
    * `Toml.dateAndTime?`
    * `Toml.scalar?`
-/

namespace FragmentSink

namespace Toml

------------------------------------------------------------
-- Digits
------------------------------------------------------------

/- Digits with single underscores between them; the result is without the underscores. -/
def grouped? (isDigit : Char → Bool) : List Char → Option (List Char)
| [] => none
| [c] => if isDigit c then some [c] else none
| c :: '_' :: cs =>
    if isDigit c then (grouped? isDigit cs).map (c :: ·) else none
| c :: cs =>
    if isDigit c then (grouped? isDigit cs).map (c :: ·) else none

/- A sign that may stand in front of a number, and the rest. -/
def signed : List Char → Bool × List Char
| '+' :: cs => (false, cs)
| '-' :: cs => (true, cs)
| cs => (false, cs)

/- Decimal digits that do not begin with a superfluous zero. -/
def wholeDigits? : List Char → Option (List Char)
| ['0'] => some ['0']
| '0' :: _ => none
| cs => grouped? Char.isDigit cs

------------------------------------------------------------
-- Integers
------------------------------------------------------------

/- The value of grouped digits in a base, which is sixteen at most. -/
def inBase? (base : Nat) (cs : List Char) : Option Nat :=
  (grouped? (fun c => (Hexadecimal.digit? c).any (· < base)) cs).bind
    (Hexadecimal.inBase? base)

/- Keep an integer of 64 bits. -/
def inWord? (n : Int) : Option Int :=
  if Word.FitsInt n then some n else none

/- An integer: decimal with a sign, or in base 16, 8 or 2 without one. -/
def integer? : List Char → Option Int
| '0' :: 'x' :: cs => (inBase? 16 cs).bind fun n => inWord? n
| '0' :: 'o' :: cs => (inBase? 8 cs).bind fun n => inWord? n
| '0' :: 'b' :: cs => (inBase? 2 cs).bind fun n => inWord? n
| cs =>
    let (negative, ds) := signed cs
    (wholeDigits? ds).bind fun ds =>
      let n : Int := Decimal.value ds
      inWord? (if negative then -n else n)

------------------------------------------------------------
-- Floating-Point Numbers
------------------------------------------------------------

/- Split off the characters of grouped decimal digits. -/
def digitSpan (cs : List Char) : List Char × List Char :=
  cs.span fun c => c.isDigit || c = '_'

/- The exponent of a number, zero if there is none. -/
def exponent? : List Char → Option Int
| [] => some 0
| 'e' :: cs | 'E' :: cs =>
    let (negative, ds) := signed cs
    (grouped? Char.isDigit ds).map fun ds =>
      let n : Int := Decimal.value ds
      if negative then -n else n
| _ => none

/- The fraction digits and the exponent of a number, one of which must be there. -/
def fractionAndExponent? : List Char → Option (List Char × Int)
| [] => none
| '.' :: cs =>
    let (ds, rest) := digitSpan cs
    (grouped? Char.isDigit ds).bind fun ds =>
      (exponent? rest).map fun e => (ds, e)
| cs => (exponent? cs).map fun e => ([], e)

/-
  A finite number, or one that is infinite by name; no text
  too large for a positive number is read.
-/
def float? (cs : List Char) : Option Binary64 :=
  let (negative, rest) := signed cs
  if rest = "inf".toList then some (.infinite negative)
  else if rest = "nan".toList then some .nan
  else
    let (whole, rest) := digitSpan rest
    (wholeDigits? whole).bind fun whole =>
      (fractionAndExponent? rest).bind fun (fraction, e) =>
        let x := Binary64.ofDecimal negative
          (Decimal.value (whole ++ fraction))
          (e - fraction.length)
        if x = .infinite false then none else some x

------------------------------------------------------------
-- Moments
------------------------------------------------------------

/- A number of a fixed count of digits at the front, within bounds. -/
def field?
    (width low high : Nat)
    (cs : List Char) : Option (Nat × List Char) :=
  let ds := cs.take width
  if ds.length = width ∧ ds.all Char.isDigit then
    let n := Decimal.value ds
    if low ≤ n ∧ n ≤ high then some (n, cs.drop width) else none
  else none

/- Drop an expected character. -/
def expect? (c : Char) : List Char → Option (List Char)
| d :: cs => if c = d then some cs else none
| [] => none

/- The days of a month of the proleptic Gregorian calendar. -/
def daysIn (year month : Nat) : Nat :=
  if month = 2 then
    if year % 4 = 0 ∧ (year % 100 ≠ 0 ∨ year % 400 = 0) then 29
    else 28
  else if month ∈ [4, 6, 9, 11] then 30
  else 31

/- What follows a date. -/
def afterDate? (cs : List Char) : Option (List Char) := do
  let (year, cs) ← field? 4 0 9999 cs
  let cs ← expect? '-' cs
  let (month, cs) ← field? 2 1 12 cs
  let cs ← expect? '-' cs
  let (_, cs) ← field? 2 1 (daysIn year month) cs
  some cs

/- What follows the fraction of a second, if there is one. -/
def afterFraction? : List Char → Option (List Char)
| '.' :: cs =>
    match cs with
    | c :: _ =>
        if c.isDigit then some (cs.dropWhile Char.isDigit)
        else none
    | [] => none
| cs => some cs

/- What follows a time; a minute may have a leap second. -/
def afterTime? (cs : List Char) : Option (List Char) := do
  let (_, cs) ← field? 2 0 23 cs
  let cs ← expect? ':' cs
  let (_, cs) ← field? 2 0 59 cs
  let cs ← expect? ':' cs
  let (_, cs) ← field? 2 0 60 cs
  afterFraction? cs

/- Whether a text is an offset from universal time, or empty. -/
def isOffset : List Char → Bool
| [] => true
| ['Z'] | ['z'] => true
| c :: cs =>
    (c = '+' || c = '-') &&
      ((do
        let (_, cs) ← field? 2 0 23 cs
        let cs ← expect? ':' cs
        let (_, cs) ← field? 2 0 59 cs
        some cs.isEmpty).getD false)

/- Whether a text is a time with or without an offset. -/
def isTimeOfDay (cs : List Char) : Bool :=
  match afterTime? cs with
  | some rest => isOffset rest
  | none => false

/- Whether a word is a date, a time, or both. -/
def isMoment (cs : List Char) : Bool :=
  afterTime? cs = some [] ||
    match afterDate? cs with
    | some [] => true
    | some (c :: rest) => (c = 'T' || c = 't') && isTimeOfDay rest
    | none => false

------------------------------------------------------------
-- Words
------------------------------------------------------------

/- Whether a character ends a word. -/
def endsWord (c : Char) : Bool :=
  c ∈ [' ', '\t', '\n', ',', ']', '\x7d', '#']

/- The word at the front and what follows it. -/
def word (cs : List Char) : List Char × List Char :=
  cs.span fun c => !endsWord c

/- The value a word stands for. -/
def ofWord? (w : List Char) : Option Value :=
  if w = "true".toList then some (.boolean true)
  else if w = "false".toList then some (.boolean false)
  else if isMoment w then some (.moment (.ofList w))
  else
    match integer? w with
    | some n => some (.integer n)
    | none => (float? w).map .float

/- The date at the front, with the time a space behind it if there is one. -/
def dateAndTime? (cs : List Char) : Option (Value × List Char) :=
  match word cs with
  | (date, ' ' :: rest) =>
      let (time, rest) := word rest
      if afterDate? date = some [] && isTimeOfDay time then
        some (.moment (.ofList (date ++ ' ' :: time)), rest)
      else none
  | _ => none

/- A value of one word, or a date and a time, and what follows it. -/
def scalar? (cs : List Char) : Option (Value × List Char) :=
  match dateAndTime? cs with
  | some found => some found
  | none =>
      let (w, rest) := word cs
      (ofWord? w).map fun v => (v, rest)

end Toml

end FragmentSink
