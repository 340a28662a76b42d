import FragmentSink.Toml.Placement
import FragmentSink.Toml.Scalar

/-
  Reading a TOML document.

  A document is a list of lines, each of which is empty, a
  header, or a key with its value; a value between brackets
  may go over several lines.  Values may be nested, and keys
  dotted, less than eighty levels deep.

  Key definitions include:
    * `Toml.value?`
    * `Toml.read?`
-/

namespace FragmentSink

namespace Toml

/- How many levels a value may be nested, and how many parts a key may have. -/
def deepest : Nat := 79

------------------------------------------------------------
-- Gaps
------------------------------------------------------------

/- Skip the white space of a line. -/
def skipBlanks (cs : List Char) : List Char :=
  cs.dropWhile Quoted.isBlank

/- Skip white space, line ends and comments; the flag tells whether a comment is open. -/
def skipGaps? : Bool → List Char → Option (List Char)
| _, [] => some []
| true, c :: cs =>
    if c = '\n' then skipGaps? false cs
    else if Quoted.isPlain c then skipGaps? true cs
    else none
| false, c :: cs =>
    if c = '#' then skipGaps? true cs
    else if c = '\n' || Quoted.isBlank c then skipGaps? false cs
    else some (c :: cs)

/- Skip the rest of a line, which may hold a comment only. -/
def endLine? (cs : List Char) : Option (List Char) :=
  match skipBlanks cs with
  | [] => some []
  | '\n' :: rest => some rest
  | '#' :: rest =>
      match rest.dropWhile Quoted.isPlain with
      | [] => some []
      | '\n' :: rest => some rest
      | _ => none
  | _ => none

------------------------------------------------------------
-- Keys
------------------------------------------------------------

/- A character of a key without quotes. -/
def isBare (c : Char) : Bool :=
  c.isAlphanum || c = '-' || c = '_'

/- A part of a key. -/
def keyPart? (cs : List Char) : Option (String × List Char) :=
  match cs with
  | '"' :: _ | '\'' :: _ => Quoted.line? cs
  | _ =>
      let (part, rest) := cs.span isBare
      if part.isEmpty then none else some (.ofList part, rest)

/- A dotted key of so many parts at most, with the blanks around it. -/
def key? : Nat → List Char → Option (List String × List Char)
| 0, _ => none
| parts + 1, cs => do
    let (part, cs) ← keyPart? (skipBlanks cs)
    match skipBlanks cs with
    | '.' :: cs =>
        let (path, cs) ← key? parts cs
        some (part :: path, cs)
    | cs => some ([part], cs)

------------------------------------------------------------
-- Values
------------------------------------------------------------

/- Reads a value and returns what follows it. -/
abbrev Reader := List Char → Option (Value × List Char)

/- The rest of an array; the bound is on its elements. -/
def elements?
    (value : Reader) :
    Nat → List Char → Option (List Value × List Char)
| 0, _ => none
| bound + 1, cs => do
    match ← skipGaps? false cs with
    | ']' :: rest => some ([], rest)
    | cs =>
        let (v, cs) ← value cs
        match ← skipGaps? false cs with
        | ',' :: cs =>
            let (vs, rest) ← elements? value bound cs
            some (v :: vs, rest)
        | ']' :: rest => some ([v], rest)
        | _ => none

/- The rest of a nonempty table between braces; the bound is on its keys. -/
def pairs?
    (value : Reader) :
    Nat → Entries → List Char → Option (Entries × List Char)
| 0, _, _ => none
| bound + 1, entries, cs => do
    let (path, cs) ← key? deepest cs
    let cs ← expect? '=' cs
    let (v, cs) ← value (skipBlanks cs)
    let entries ← Value.assign? v path entries
    match skipBlanks cs with
    | ',' :: cs => pairs? value bound entries cs
    | '\x7d' :: rest => some (entries, rest)
    | _ => none

/- The rest of a table between braces. -/
def braced?
    (value : Reader)
    (cs : List Char) : Option (Entries × List Char) :=
  match skipBlanks cs with
  | '\x7d' :: rest => some ([], rest)
  | cs => pairs? value cs.length [] cs

/- A value without brackets. -/
def plain? (cs : List Char) : Option (Value × List Char) :=
  match cs with
  | '"' :: _ | '\'' :: _ =>
      (Quoted.read? cs).map fun (s, rest) => (.text s, rest)
  | _ => scalar? cs

/- A value nested so many levels at most. -/
def value? : Nat → Reader
| 0, cs =>
    match cs with
    | '[' :: _ | '\x7b' :: _ => none
    | _ => plain? cs
| levels + 1, cs =>
    match cs with
    | '[' :: rest =>
        (elements? (value? levels) cs.length rest).map
          fun (vs, rest) => (.array vs, rest)
    | '\x7b' :: rest =>
        (braced? (value? levels) rest).map
          fun (entries, rest) => (.table .inline entries, rest)
    | _ => plain? cs

------------------------------------------------------------
-- Lines
------------------------------------------------------------

/- What has been read: the outermost table, and the header whose table keys are set in. -/
structure Draft where
  entries : Entries := []
  header : List String := []

/- A header of one table, after its bracket. -/
def tableHeader? (d : Draft) (cs : List Char) : Option (Draft × List Char) := do
  let (path, cs) ← key? deepest cs
  let cs ← expect? ']' cs
  let entries ← Value.openTable? path d.entries
  some (⟨entries, path⟩, cs)

/- A header of an array of tables, after its two brackets. -/
def elementHeader? (d : Draft) (cs : List Char) : Option (Draft × List Char) := do
  let (path, cs) ← key? deepest cs
  let cs ← expect? ']' cs
  let cs ← expect? ']' cs
  let entries ← Value.openElement? path d.entries
  some (⟨entries, path⟩, cs)

/- A key and its value, set in the table of the last header. -/
def keyAndValue? (d : Draft) (cs : List Char) : Option (Draft × List Char) := do
  let (path, cs) ← key? deepest cs
  let cs ← expect? '=' cs
  let (v, cs) ← value? deepest (skipBlanks cs)
  let entries ←
    Value.enter? (Value.assign? v path) d.header d.entries
  some (⟨entries, d.header⟩, cs)

/- What stands on a line that is not empty. -/
def line? (d : Draft) (cs : List Char) : Option (Draft × List Char) :=
  match cs with
  | '[' :: '[' :: rest => elementHeader? d rest
  | '[' :: rest => tableHeader? d rest
  | _ => keyAndValue? d cs

/- The lines of a document; the bound is on their number. -/
def lines? : Nat → Draft → List Char → Option Entries
| 0, _, _ => none
| bound + 1, d, cs =>
    match skipBlanks cs with
    | [] => some d.entries
    | '\n' :: rest => lines? bound d rest
    | '#' :: rest =>
        (endLine? ('#' :: rest)).bind (lines? bound d)
    | cs => do
        let (d, cs) ← line? d cs
        lines? bound d (← endLine? cs)

/- Write every line end as a single character. -/
def plainLineEnds : List Char → List Char
| '\r' :: '\n' :: cs => '\n' :: plainLineEnds cs
| c :: cs => c :: plainLineEnds cs
| [] => []

/- The outermost table of a document, which may begin with a byte-order mark. -/
def read? (document : String) : Option Entries :=
  let cs :=
    match document.toList with
    | '\uFEFF' :: cs => cs
    | cs => cs
  let cs := plainLineEnds cs
  lines? (cs.length + 1) {} cs

end Toml

end FragmentSink
