import FragmentSink.Text.Decimal
import FragmentSink.Text.Hexadecimal

/-
  The quoted texts of a TOML document.

  A basic text is written between double quotes and has
  escapes, a literal text between single quotes and has none.
  Either may be written between three quotes, and then holds
  line ends, of which one right after the opening quotes is
  dropped.

  Line ends are single characters here.  The readers return
  the text and what follows it.

  Key definitions include:
    * `Toml.Quoted.line?`
    * `Toml.Quoted.read?`
-/

namespace FragmentSink

namespace Toml

namespace Quoted

------------------------------------------------------------
-- Characters
------------------------------------------------------------

/- White space within a line. -/
def isBlank (c : Char) : Bool :=
  c = ' ' || c = '\t'

/- A character that may stand in texts and comments: none that controls, but tabs. -/
def isPlain (c : Char) : Bool :=
  c = '\t' || (0x20 ≤ c.toNat && c.toNat ≠ 0x7F)

/- The character with a number of so many hexadecimal digits at the front. -/
def numbered? (width : Nat) (cs : List Char) : Option Char :=
  if cs.length < width then none
  else
    match Hexadecimal.number? (cs.take width) with
    | some n => if n.isValidChar then some (Char.ofNat n) else none
    | none => none

/- The character an escape stands for, and how many characters follow its backslash. -/
def escape? : List Char → Option (Char × Nat)
| 'b' :: _ => some ('\x08', 1)
| 't' :: _ => some ('\t', 1)
| 'n' :: _ => some ('\n', 1)
| 'f' :: _ => some ('\x0c', 1)
| 'r' :: _ => some ('\r', 1)
| '"' :: _ => some ('"', 1)
| '\\' :: _ => some ('\\', 1)
| 'u' :: cs => (numbered? 4 cs).map fun c => (c, 5)
| 'U' :: cs => (numbered? 8 cs).map fun c => (c, 9)
| _ => none

/-
  How many characters a line end after a backslash drops: the
  blanks around it and further line ends.
-/
def continuation? (cs : List Char) : Option Nat :=
  match cs.dropWhile isBlank with
  | '\n' :: rest =>
      some ((cs.takeWhile isBlank).length + 1 +
        (rest.takeWhile fun c => isBlank c || c = '\n').length)
  | _ => none

------------------------------------------------------------
-- Texts of One Line
------------------------------------------------------------

/- The rest of a basic text; the counter skips what an escape has used up. -/
def basic : Nat → List Char → Option (List Char × List Char)
| _, [] => none
| skip + 1, _ :: cs => basic skip cs
| 0, '"' :: cs => some ([], cs)
| 0, '\\' :: cs =>
    match escape? cs with
    | some (c, used) =>
        (basic used cs).map fun (body, rest) => (c :: body, rest)
    | none => none
| 0, c :: cs =>
    if isPlain c then
      (basic 0 cs).map fun (body, rest) => (c :: body, rest)
    else none

/- The rest of a literal text. -/
def literal : List Char → Option (List Char × List Char)
| [] => none
| '\'' :: cs => some ([], cs)
| c :: cs =>
    if isPlain c then
      (literal cs).map fun (body, rest) => (c :: body, rest)
    else none

/- A quoted text of one line. -/
def line? : List Char → Option (String × List Char)
| '"' :: cs =>
    (basic 0 cs).map fun (body, rest) => (.ofList body, rest)
| '\'' :: cs =>
    (literal cs).map fun (body, rest) => (.ofList body, rest)
| _ => none

------------------------------------------------------------
-- Texts of Several Lines
------------------------------------------------------------

/-
  The end of a text of several lines at a run of quotes: the
  last three close it, up to two before them belong to it.
  Fewer than three do not close it.
-/
def closing?
    (quote : Char)
    (cs : List Char) : Option (List Char × List Char) :=
  let run := (cs.takeWhile (· = quote)).length
  if 3 ≤ run ∧ run ≤ 5 then
    some (List.replicate (run - 3) quote, cs.drop run)
  else none

/- Whether more quotes follow each other than any text can end in. -/
def overfull (quote : Char) (cs : List Char) : Bool :=
  5 < (cs.takeWhile (· = quote)).length

/- The rest of a basic text of several lines; the counter skips what an escape has used up. -/
def basicLines : Nat → List Char → Option (List Char × List Char)
| _, [] => none
| skip + 1, _ :: cs => basicLines skip cs
| 0, '\\' :: cs =>
    match continuation? cs with
    | some used => basicLines used cs
    | none =>
        match escape? cs with
        | some (c, used) =>
            (basicLines used cs).map fun (body, rest) =>
              (c :: body, rest)
        | none => none
| 0, c :: cs =>
    if overfull '"' (c :: cs) then none
    else
      match closing? '"' (c :: cs) with
      | some ended => some ended
      | none =>
          if isPlain c || c = '\n' then
            (basicLines 0 cs).map fun (body, rest) =>
              (c :: body, rest)
          else none

/- The rest of a literal text of several lines. -/
def literalLines : List Char → Option (List Char × List Char)
| [] => none
| c :: cs =>
    if overfull '\'' (c :: cs) then none
    else
      match closing? '\'' (c :: cs) with
      | some ended => some ended
      | none =>
          if isPlain c || c = '\n' then
            (literalLines cs).map fun (body, rest) =>
              (c :: body, rest)
          else none

/- Drop a line end right after the opening quotes. -/
def afterOpening : List Char → List Char
| '\n' :: cs => cs
| cs => cs

/- A quoted text. -/
def read? : List Char → Option (String × List Char)
| '"' :: '"' :: '"' :: cs =>
    (basicLines 0 (afterOpening cs)).map fun (body, rest) =>
      (.ofList body, rest)
| '\'' :: '\'' :: '\'' :: cs =>
    (literalLines (afterOpening cs)).map fun (body, rest) =>
      (.ofList body, rest)
| cs => line? cs

end Quoted

end Toml

end FragmentSink
