import FragmentSink.Text.Hexadecimal

/-
  Reading JSON texts.

  Numbers are only checked.  A text in which an escape stands
  for half of a pair is accepted without a value, since it
  does not matter in a part that is passed over.

  Key definitions include:
    * `Json.Value`
    * `Json.read?`
-/

namespace FragmentSink

namespace Json

------------------------------------------------------------
-- Values
------------------------------------------------------------

/- A value; the members of an object keep their order and may repeat a key. -/
inductive Value where
| null
| boolean (b : Bool)
| number
| text (s : Option String)
| array (elements : List Value)
| object (members : List (Option String × Value))

------------------------------------------------------------
-- Texts
------------------------------------------------------------

/- The number of an escape by number, whose letter has been read. -/
def unit? (cs : List Char) : Option Nat :=
  if cs.length < 4 then none
  else Hexadecimal.number? (cs.take 4)

/- The second half of a pair, as an escape of its own. -/
def lowHalf? : List Char → Option Nat
| '\\' :: 'u' :: cs =>
    (unit? cs).filter fun n => 0xDC00 ≤ n ∧ n ≤ 0xDFFF
| _ => none

/-
  The character an escape stands for, if it stands for a whole
  one, and how many characters follow its backslash.
-/
def escape? : List Char → Option (Option Char × Nat)
| '"' :: _ => some (some '"', 1)
| '\\' :: _ => some (some '\\', 1)
| '/' :: _ => some (some '/', 1)
| 'b' :: _ => some (some '\x08', 1)
| 'f' :: _ => some (some '\x0c', 1)
| 'n' :: _ => some (some '\n', 1)
| 'r' :: _ => some (some '\r', 1)
| 't' :: _ => some (some '\t', 1)
| 'u' :: cs =>
    (unit? cs).map fun n =>
      if 0xD800 ≤ n ∧ n ≤ 0xDBFF then
        match lowHalf? (cs.drop 4) with
        | some low =>
            (some (.ofNat
              (0x10000 + (n - 0xD800) * 0x400 + (low - 0xDC00))), 11)
        | none => (none, 5)
      else if 0xDC00 ≤ n ∧ n ≤ 0xDFFF then (none, 5)
      else (some (.ofNat n), 5)
| _ => none

/- The rest of a text; the counter skips what an escape has used up. -/
def body? :
    Nat → List Char → Option (Option (List Char) × List Char)
| _, [] => none
| skip + 1, _ :: cs => body? skip cs
| 0, '"' :: cs => some (some [], cs)
| 0, '\\' :: cs =>
    match escape? cs with
    | some (c, used) =>
        (body? used cs).map fun (s, rest) =>
          (c.bind fun c => s.map (c :: ·), rest)
    | none => none
| 0, c :: cs =>
    if c.toNat < 0x20 then none
    else
      (body? 0 cs).map fun (s, rest) => (s.map (c :: ·), rest)

/- A text and what follows it. -/
def text? : List Char → Option (Option String × List Char)
| '"' :: cs =>
    (body? 0 cs).map fun (s, rest) => (s.map .ofList, rest)
| _ => none

------------------------------------------------------------
-- Numbers
------------------------------------------------------------

/- What follows one or more digits. -/
def afterDigits? : List Char → Option (List Char)
| c :: cs =>
    if c.isDigit then some (cs.dropWhile Char.isDigit) else none
| [] => none

/- What follows the digits before the point, without superfluous zeros. -/
def afterWhole? : List Char → Option (List Char)
| '0' :: cs =>
    match cs with
    | c :: _ => if c.isDigit then none else some cs
    | [] => some []
| cs => afterDigits? cs

/- What follows a fraction, if there is one. -/
def afterFraction? : List Char → Option (List Char)
| '.' :: cs => afterDigits? cs
| cs => some cs

/- What follows an exponent, if there is one. -/
def afterExponent? : List Char → Option (List Char)
| 'e' :: cs | 'E' :: cs =>
    match cs with
    | '+' :: cs | '-' :: cs => afterDigits? cs
    | cs => afterDigits? cs
| cs => some cs

/- What follows a number. -/
def afterNumber? (cs : List Char) : Option (List Char) :=
  let unsigned :=
    match cs with
    | '-' :: cs => cs
    | cs => cs
  ((afterWhole? unsigned).bind afterFraction?).bind afterExponent?

------------------------------------------------------------
-- Reading
------------------------------------------------------------

/- Skip white space. -/
def skipBlanks (cs : List Char) : List Char :=
  cs.dropWhile fun c => [' ', '\t', '\n', '\r'].contains c

/- Reads a value and returns what follows it. -/
abbrev Reader := List Char → Option (Value × List Char)

/- A value that is a fixed word. -/
def word? (w : String) (v : Value) : Reader := fun cs =>
  if w.toList.isPrefixOf cs then some (v, cs.drop w.length)
  else none

/- The elements of an array that is not empty; the bound is on their number. -/
def elements?
    (value : Reader) :
    Nat → List Char → Option (List Value × List Char)
| 0, _ => none
| bound + 1, cs => do
    let (v, cs) ← value (skipBlanks cs)
    match skipBlanks cs with
    | ',' :: cs =>
        let (vs, rest) ← elements? value bound cs
        some (v :: vs, rest)
    | ']' :: rest => some ([v], rest)
    | _ => none

/- The members of an object that is not empty; the bound is on their number. -/
def members?
    (value : Reader) :
    Nat → List Char →
      Option (List (Option String × Value) × List Char)
| 0, _ => none
| bound + 1, cs => do
    let (key, cs) ← text? (skipBlanks cs)
    match skipBlanks cs with
    | ':' :: cs =>
        let (v, cs) ← value (skipBlanks cs)
        match skipBlanks cs with
        | ',' :: cs =>
            let (ms, rest) ← members? value bound cs
            some ((key, v) :: ms, rest)
        | '\x7d' :: rest => some ([(key, v)], rest)
        | _ => none
    | _ => none

/- A value nested so many levels at most. -/
def value? : Nat → Reader
| 0, _ => none
| levels + 1, cs =>
    match cs with
    | '"' :: _ =>
        (text? cs).map fun (s, rest) => (.text s, rest)
    | 'n' :: _ => word? "null" .null cs
    | 't' :: _ => word? "true" (.boolean true) cs
    | 'f' :: _ => word? "false" (.boolean false) cs
    | '[' :: rest =>
        match skipBlanks rest with
        | ']' :: rest => some (.array [], rest)
        | rest =>
            (elements? (value? levels) rest.length rest).map
              fun (vs, rest) => (.array vs, rest)
    | '\x7b' :: rest =>
        match skipBlanks rest with
        | '\x7d' :: rest => some (.object [], rest)
        | rest =>
            (members? (value? levels) rest.length rest).map
              fun (ms, rest) => (.object ms, rest)
    | _ => (afterNumber? cs).map fun rest => (.number, rest)

/- The value of a text that holds nothing else. -/
def read? (s : String) : Option Value :=
  let cs := skipBlanks s.toList
  match value? (cs.length + 1) cs with
  | some (v, rest) =>
      if (skipBlanks rest).isEmpty then some v else none
  | none => none

end Json

end FragmentSink
