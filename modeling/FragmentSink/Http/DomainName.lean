import FragmentSink.Http.DomainName.Direction
import FragmentSink.Http.DomainName.Joiner
import FragmentSink.Http.DomainName.Punycode
import FragmentSink.Http.DomainName.Refused
import FragmentSink.Http.DomainName.Replaced
import FragmentSink.Text.Composed

/-
  Domain names in ASCII.

  Characters that stand for others are replaced, the name is
  composed, and its labels outside ASCII get their ASCII form.
  A label that has that form already must be one that these
  steps can lead to.

  Key definitions include:
    * `DomainName.Label`
    * `DomainName.Label.ofChars?`
    * `DomainName.ascii?`
-/

namespace FragmentSink

namespace DomainName

------------------------------------------------------------
-- Characters
------------------------------------------------------------

/- What a character becomes in a name, if a name may have it. -/
def settle? (c : Char) : Option (List Char) :=
  if Punycode.isAscii c then some [c.toLower]
  else if Refused.isSilent c then some []
  else
    match Replaced.ofChar? c with
    | some others => some others
    | none => if Refused.holds c then none else some [c]

/- What characters become in a name, if a name may have them. -/
def settled? (cs : List Char) : Option (List Char) :=
  (cs.mapM settle?).map fun parts =>
    let cs := parts.flatten
    if cs.all Punycode.isAscii then cs else Composed.ofChars cs

------------------------------------------------------------
-- Labels
------------------------------------------------------------

/- A label of a name in ASCII, and the text it stands for. -/
structure Label where
  ascii : List Char
  text : List Char
deriving DecidableEq, Repr

namespace Label

/- What stands in front of the ASCII form of a label outside ASCII. -/
def mark : List Char := "xn--".toList

/- The longest ASCII form that is read, without its mark. -/
def longestCode : Nat := 2000

/- The longest label that gets an ASCII form. -/
def longestText : Nat := 1000

/-
  Whether a label outside ASCII begins with a character of its
  own and has its joiners in place.
-/
def isSound (text : List Char) : Bool :=
  !text.head?.any Mark.holds && Joiner.areInPlace text

/- Whether the code of an ASCII form can be read. -/
def isCode (code : List Char) : Bool :=
  !code.isEmpty && code.getLast? ≠ some '-' &&
    code.all Punycode.isAscii && code.length ≤ longestCode

/- The label in ASCII form with a code. -/
def ofCode? (code : List Char) : Option Label :=
  if isCode code then
    match Punycode.decode? code with
    | none => none
    | some text =>
        if settled? text = some text ∧ isSound text then
          some ⟨mark ++ code, text⟩
        else none
  else none

/- The label of settled characters without a point. -/
def ofChars? (cs : List Char) : Option Label :=
  if cs.any Refused.isDenied then none
  else
    match Parts.stripFront? mark cs with
    | some code => ofCode? code
    | none =>
        if cs.all Punycode.isAscii then some ⟨cs, cs⟩
        else if isSound cs ∧ cs.length ≤ longestText then
          some ⟨mark ++ Punycode.encode cs, cs⟩
        else none

/- The directions of the characters of a label. -/
def directions (l : Label) : List Direction :=
  l.text.map Direction.ofChar

end Label

------------------------------------------------------------
-- Names
------------------------------------------------------------

/- Whether the labels of a name are read in directions that go together. -/
def isReadable (labels : List Label) : Bool :=
  let lines := labels.map Label.directions
  lines.all Direction.followsRule ||
    !lines.any fun ds => ds.any Direction.needsRule

/- A name in ASCII. -/
def ascii? (cs : List Char) : Option (List Char) :=
  (settled? cs).bind fun cs =>
    ((Parts.splitAt '.' cs).mapM Label.ofChars?).bind fun labels =>
      if labels.all (fun l => l.text.all Punycode.isAscii) ∨
          isReadable labels then
        some (['.'].intercalate (labels.map Label.ascii))
      else none

end DomainName

end FragmentSink
