import FragmentSink.Http.DomainName
import FragmentSink.Number.Power
import FragmentSink.Text.Decimal
import FragmentSink.Text.Hexadecimal
import FragmentSink.Text.Parts
import FragmentSink.Text.Percent

/-
  The hosts of addresses: names, numbers of the fourth version
  and numbers of the sixth.

  A name is written in ASCII.  A name that ends in a number is
  a number of the fourth version.

  Key definitions include:
    * `Host.ofText?`
-/

namespace FragmentSink

namespace Host

------------------------------------------------------------
-- Numbers of the Fourth Version
------------------------------------------------------------

/- A part of a number: in base 16, 8 or 10, by how it begins. -/
def numberPart? (cs : List Char) : Option Nat :=
  match cs with
  | [] => none
  | '0' :: 'x' :: ds | '0' :: 'X' :: ds => Hexadecimal.inBase? 16 ds
  | '0' :: d :: ds => Hexadecimal.inBase? 8 (d :: ds)
  | _ => Hexadecimal.inBase? 10 cs

/- The labels of a name without an empty one at the end. -/
def labels (cs : List Char) : List (List Char) :=
  let parts := Parts.splitAt '.' cs
  if parts.getLast? = some [] then parts.dropLast else parts

/- Whether a name ends in a number. -/
def endsInNumber (cs : List Char) : Bool :=
  match (labels cs).getLast? with
  | some last =>
      (!last.isEmpty && last.all Char.isDigit) ||
        (numberPart? last).isSome
  | none => false

/- The value of the parts of a number; the last one fills what is left. -/
def numberOf? (parts : List Nat) : Option Nat :=
  match parts.getLast? with
  | none => none
  | some last =>
      let front := parts.dropLast
      if 4 < parts.length ∨ front.any (255 < ·) ∨
          twoTo (8 * (4 - front.length)) ≤ last then
        none
      else
        some
          (front.foldl (fun n p => n * 256 + p) 0 *
            twoTo (8 * (4 - front.length)) + last)

/- The four bytes of a number with points between them. -/
def dotted (n : Nat) : List Char :=
  let byte (i : Nat) : List Char :=
    Decimal.digits (n / twoTo (8 * i) % 256)
  byte 3 ++ '.' :: byte 2 ++ '.' :: byte 1 ++ '.' :: byte 0

------------------------------------------------------------
-- Numbers of the Sixth Version
------------------------------------------------------------

/- A group of up to four hexadecimal digits. -/
def group? (cs : List Char) : Option Nat :=
  if cs.isEmpty ∨ 4 < cs.length then none else Hexadecimal.inBase? 16 cs

/- The two groups of four decimal bytes, without leading zeros. -/
def dottedGroups? (cs : List Char) : Option (List Nat) :=
  let byte? (p : List Char) : Option Nat :=
    if p.isEmpty ∨ 3 < p.length ∨ (p.head? = some '0' ∧ p ≠ ['0'])
    then none
    else (Hexadecimal.inBase? 10 p).filter (· ≤ 255)
  match (Parts.splitAt '.' cs).mapM byte? with
  | some [a, b, c, d] => some [a * 256 + b, c * 256 + d]
  | _ => none

/- Groups between colons, of which the last may be four decimal bytes. -/
def groups? (cs : List Char) : Option (List Nat) :=
  if cs.isEmpty then some []
  else
    let parts := Parts.splitAt ':' cs
    match parts.getLast? with
    | some last =>
        if last.contains '.' then
          (parts.dropLast.mapM group?).bind fun front =>
            (dottedGroups? last).map fun back => front ++ back
        else parts.mapM group?
    | none => none

/- The text around the first pair of colons. -/
def cutGap? : List Char → Option (List Char × List Char)
| ':' :: ':' :: cs => some ([], cs)
| c :: cs =>
    (cutGap? cs).map fun (before, after) => (c :: before, after)
| [] => none

/- The eight groups of a number; a pair of colons stands for one or more zeros. -/
def sixthGroups? (cs : List Char) : Option (List Nat) :=
  match cutGap? cs with
  | none =>
      (groups? cs).filter fun g => g.length = 8
  | some (before, after) =>
      if before.contains '.' then none
      else
        (groups? before).bind fun front =>
          (groups? after).bind fun back =>
            if front.length + back.length ≤ 7 then
              some
                (front ++
                  List.replicate (8 - front.length - back.length) 0 ++
                  back)
            else none

/- The longest run of zeros, the first if there are several: where it starts and its length. -/
def longestRun (groups : List Nat) : Nat × Nat :=
  (List.range groups.length).foldl
    (fun best i =>
      let run := ((groups.drop i).takeWhile (· = 0)).length
      if best.2 < run then (i, run) else best)
    (0, 0)

/- Groups with colons between them. -/
def joined (groups : List Nat) : List Char :=
  [':'].intercalate (groups.map (Nat.toDigits 16))

/- The shortest written form of a number of the sixth version. -/
def sixthText (groups : List Nat) : List Char :=
  let (start, run) := longestRun groups
  if run < 2 then joined groups
  else
    joined (groups.take start) ++ [':', ':'] ++
      joined (groups.drop (start + run))

------------------------------------------------------------
-- Hosts
------------------------------------------------------------

/- The written form of a named or numbered host. -/
def ofName? (cs : List Char) : Option (List Char) :=
  (Percent.decoded? cs).bind fun decoded =>
    (DomainName.ascii? decoded).bind fun name =>
      if name.isEmpty then none
      else if endsInNumber name then
        ((labels name).mapM numberPart?).bind fun parts =>
          (numberOf? parts).map dotted
      else some name

/- The written form of a number of the sixth version after its opening bracket. -/
def ofBracket? (rest : List Char) : Option (List Char) :=
  if rest.getLast? = some ']' then
    (sixthGroups? rest.dropLast).map fun groups =>
      '[' :: sixthText groups ++ [']']
  else none

/- The written form of a host. -/
def ofText? (cs : List Char) : Option (List Char) :=
  match cs with
  | '[' :: rest => ofBracket? rest
  | _ => ofName? cs

/- The written form of a host that need not be a domain name. -/
def ofAnyText? (cs : List Char) : Option (List Char) :=
  match cs with
  | '[' :: rest => ofBracket? rest
  | _ =>
      if cs.any Refused.isSeparator then none
      else some (Percent.encode Percent.isControl cs)

end Host

end FragmentSink
