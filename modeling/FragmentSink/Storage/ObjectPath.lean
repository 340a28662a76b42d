import FragmentSink.Text.Parts
import FragmentSink.Text.Percent

/-
  Paths of stored objects.

  A path is a list of nonempty segments in which no character
  stands that a store could read as anything but itself.

  Key definitions include:
    * `ObjectPath`
    * `ObjectPath.ofKey`
    * `ObjectPath.text`
-/

namespace FragmentSink

------------------------------------------------------------
-- Object Paths
------------------------------------------------------------

/- The path of an object: its segments, from the root. -/
structure ObjectPath where
  segments : List (List Char)
deriving DecidableEq, Repr

namespace ObjectPath

/- The characters of ASCII that are not written as themselves in a segment. -/
def isSpecial (c : Char) : Bool :=
  Percent.isControl c ||
    ['\\', '\x7b', '^', '\x7d', '%', '\x60', ']', '"', '>', '[', '~',
      '<', '#', '|', '*', '?'].contains c

/- The written form of a segment; one that would name a directory is encoded whole. -/
def encodeSegment (cs : List Char) : List Char :=
  if cs = ['.'] then "%2E".toList
  else if cs = ['.', '.'] then "%2E%2E".toList
  else Percent.encode isSpecial cs

/- The path of a key: its nonempty parts between slashes, encoded. -/
def ofKeyChars (key : List Char) : ObjectPath :=
  ⟨((Parts.splitAt '/' key).filter fun s => !s.isEmpty).map
    encodeSegment⟩

/- The path of a key: its nonempty parts between slashes, encoded. -/
def ofKey (key : String) : ObjectPath :=
  ofKeyChars key.toList

/- The segments of a path, joined by slashes, as characters. -/
def chars (p : ObjectPath) : List Char :=
  ['/'].intercalate p.segments

/- The written form of a path. -/
def text (p : ObjectPath) : String :=
  String.ofList p.chars

end ObjectPath

end FragmentSink
