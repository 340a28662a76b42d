/-
  Cutting texts into parts: at a character, at line ends, at
  white space, and at the two ends.

  White space is every character with the Unicode property of
  that name.

  Main statements:
    * `Parts.isBlank_of_isWhitespace`
-/

namespace FragmentSink

namespace Parts

------------------------------------------------------------
-- Cutting at a Character
------------------------------------------------------------

/- The parts between the characters that pass a test; there is always one part. -/
def splitWhere (p : Char → Bool) : List Char → List (List Char)
| [] => [[]]
| c :: cs =>
    if p c then
      [] :: splitWhere p cs
    else
      match splitWhere p cs with
      | [] => [[c]]
      | part :: parts => (c :: part) :: parts

/- The parts between the occurrences of a character. -/
def splitAt (sep : Char) (cs : List Char) : List (List Char) :=
  splitWhere (· = sep) cs

/- The text before the first occurrence of a character and the text after it. -/
def cutAt? (sep : Char) (cs : List Char) : Option (List Char × List Char) :=
  match cs.dropWhile (· ≠ sep) with
  | [] => none
  | _ :: rest => some (cs.takeWhile (· ≠ sep), rest)

/- Drop the characters at the end that pass a test. -/
def trimEnd (p : Char → Bool) (cs : List Char) : List Char :=
  (cs.reverse.dropWhile p).reverse

/- Drop the characters at both ends that pass a test. -/
def trim (p : Char → Bool) (cs : List Char) : List Char :=
  trimEnd p (cs.dropWhile p)

/- The text after a beginning it may have. -/
def stripFront? (front : List Char) (cs : List Char) : Option (List Char) :=
  if front.isPrefixOf cs then some (cs.drop front.length) else none

/- Whether a text occurs in another. -/
def occursIn (part : List Char) : List Char → Bool
| [] => part.isEmpty
| c :: cs => part.isPrefixOf (c :: cs) || occursIn part cs

/-
  Write `new` for every occurrence of a nonempty text, from
  the left.  The counter skips what is left of an occurrence.
-/
def replaceFrom
    (old new : List Char) :
    Nat → List Char → List Char
| _, [] => []
| skip + 1, _ :: cs => replaceFrom old new skip cs
| 0, c :: cs =>
    if old.isPrefixOf (c :: cs) then
      new ++ replaceFrom old new (old.length - 1) cs
    else
      c :: replaceFrom old new 0 cs

/- Write `new` for every occurrence of a nonempty text, from the left. -/
def replace (old new cs : List Char) : List Char :=
  replaceFrom old new 0 cs

------------------------------------------------------------
-- Lines
------------------------------------------------------------

/- A line without the carriage return before its end. -/
def withoutReturn (line : List Char) : List Char :=
  match line.getLast? with
  | some '\r' => line.dropLast
  | _ => line

/- The lines of a text; a line end at the very end opens no further line. -/
def lines (cs : List Char) : List (List Char) :=
  let parts := splitAt '\n' cs
  let last := parts.getLastD []
  let ended := parts.dropLast.map withoutReturn
  if last.isEmpty then ended else ended ++ [last]

------------------------------------------------------------
-- White Space
------------------------------------------------------------

/- The white space of Unicode. -/
def isBlank (c : Char) : Bool :=
  let n := c.toNat
  (0x09 ≤ n ∧ n ≤ 0x0D) || n = 0x20 || n = 0x85 || n = 0xA0 ||
    n = 0x1680 || (0x2000 ≤ n ∧ n ≤ 0x200A) || n = 0x2028 ||
    n = 0x2029 || n = 0x202F || n = 0x205F || n = 0x3000

/- The words of a text: its nonempty parts between white space. -/
def words (cs : List Char) : List (List Char) :=
  (splitWhere isBlank cs).filter fun w => !w.isEmpty

/- Every white space of ASCII is one of Unicode. -/
theorem isBlank_of_isWhitespace {c : Char}
    (h : c.isWhitespace = true) :
    isBlank c = true := by
  simp only [Char.isWhitespace, Bool.or_eq_true,
    decide_eq_true_eq] at h
  rcases h with ((h | h) | h) | h <;> subst h <;> decide

end Parts

end FragmentSink
