import FragmentSink.Http.Scheme
import FragmentSink.Text.Parts
import FragmentSink.Text.Percent

/-
  The paths of addresses.

  Segments that stand for folders are resolved from the left,
  and characters that may not stand in a path are encoded.  A
  segment that names a drive is never left upwards.

  Key definitions include:
    * `AddressPath`
    * `AddressPath.read`
-/

namespace FragmentSink

------------------------------------------------------------
-- Encoded Characters
------------------------------------------------------------

namespace Address

/- Encoded in a fragment. -/
def isSpecialInFragment (c : Char) : Bool :=
  Percent.isControl c || [' ', '"', '<', '>', '\x60'].contains c

/- Encoded in a path. -/
def isSpecialInPath (c : Char) : Bool :=
  isSpecialInFragment c || ['#', '?', '\x7b', '\x7d'].contains c

end Address

------------------------------------------------------------
-- Segments
------------------------------------------------------------

namespace PathSegment

/- Whether a segment stands for the folder it is in. -/
def isDot (s : List Char) : Bool :=
  [".", "%2e"].contains (String.ofList (s.map Char.toLower))

/- Whether a segment stands for the folder above. -/
def isDoubleDot (s : List Char) : Bool :=
  ["..", ".%2e", "%2e.", "%2e%2e"].contains
    (String.ofList (s.map Char.toLower))

/- Whether a segment is a letter and the sign of a drive. -/
def isDrive : List Char → Bool
| [c, sign] => c.isAlpha && (sign = ':' || sign = '|')
| _ => false

/- Whether a segment is a drive in its usual form. -/
def isUsualDrive (s : List Char) : Bool :=
  isDrive s && s.getLast? = some ':'

/- Whether a text begins with a drive and the end of a name. -/
def beginsWithDrive (cs : List Char) : Bool :=
  isDrive (cs.take 2) &&
    match cs.drop 2 with
    | [] => true
    | c :: _ => ['/', '\\', '?', '#'].contains c

end PathSegment

------------------------------------------------------------
-- Paths
------------------------------------------------------------

/-
  A path as far as it has been read, in reverse, and whether it
  begins with a drive that was put into its usual form.
-/
structure AddressPath where
  reversed : List Char
  hasDrive : Bool
deriving DecidableEq, Repr

namespace AddressPath

/- The written form of a path. -/
def chars (p : AddressPath) : List Char :=
  p.reversed.reverse

/- Whether a path ends in a slash. -/
def isClosed (p : AddressPath) : Bool :=
  p.reversed.head? = some '/'

/- A path that ends in a slash. -/
def close (p : AddressPath) : AddressPath :=
  if p.isClosed then p else { p with reversed := '/' :: p.reversed }

/- The last segment of a reversed path. -/
def lastName (reversed : List Char) : List Char :=
  (reversed.takeWhile (· ≠ '/')).reverse

/- A path without a slash at its end, where another slash and no drive stand before it. -/
def unclosed (p : AddressPath) : AddressPath :=
  match p.reversed with
  | '/' :: front =>
      if front.contains '/' &&
          !PathSegment.beginsWithDrive (lastName front ++ ['/']) then
        { p with reversed := front }
      else p
  | _ => p

/- A path without its last segment; the drive of a file stays. -/
def dropName (k : SchemeKind) (p : AddressPath) : AddressPath :=
  if k = .file ∧ PathSegment.isUsualDrive (lastName p.reversed) then p
  else { p with reversed := p.reversed.dropWhile (· ≠ '/') }

/- The path of the folder above. -/
def up (k : SchemeKind) (p : AddressPath) : AddressPath :=
  p.unclosed.dropName k

/- Write a segment behind a path. -/
def append (p : AddressPath) (s : List Char) : AddressPath :=
  { p with reversed := s.reverse ++ p.reversed }

/- Whether a segment is a drive with which a path begins. -/
def startsWithDrive (p : AddressPath) (s : List Char) : Bool :=
  p.reversed = ['/'] && PathSegment.isDrive s

/- Read a segment, after which a slash may follow. -/
def next
    (k : SchemeKind)
    (seesDrive : Bool)
    (hasSlash : Bool)
    (p : AddressPath)
    (s : List Char) : AddressPath :=
  let closed (p : AddressPath) : AddressPath :=
    if hasSlash then p.close else p
  if PathSegment.isDoubleDot s then closed (p.up k)
  else if PathSegment.isDot s then p.close
  else
    let p :=
      if seesDrive && p.startsWithDrive s then
        { p.append (s.take 1 ++ [':']) with hasDrive := true }
      else p.append (Percent.encode Address.isSpecialInPath s)
    if hasSlash then p.append ['/'] else p

/- Read segments behind the start of a path. -/
def read
    (k : SchemeKind)
    (seesDrive : Bool)
    (start : List Char)
    (cs : List Char) : AddressPath :=
  let segments := Parts.splitWhere k.isSlash cs
  let front := segments.dropLast
  let p := front.foldl (next k seesDrive true) ⟨start, false⟩
  next k seesDrive false p (segments.getLastD [])

end AddressPath

end FragmentSink
