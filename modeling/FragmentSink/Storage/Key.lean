import FragmentSink.Fragment
import FragmentSink.Text.Decimal
import FragmentSink.Text.Parts

/-
  The key under which a fragment is stored.

  A key names the place of a fragment: a prefix, the topic,
  the partition, and the offset filled with zeros to twenty
  characters, so that keys of one partition sort by offset.

  Key definitions include:
    * `storageKey`
-/

namespace FragmentSink

------------------------------------------------------------
-- Storage Keys
------------------------------------------------------------

/- The width that the offset of a key is filled to. -/
def offsetWidth : Nat := 20

/- A prefix without the slashes at its ends. -/
def trimmedPrefix (keyPrefix : List Char) : List Char :=
  Parts.trim (· = '/') keyPrefix

/- The part of a key that names the place of the fragment. -/
def tokenKey (t : OffsetToken) : List Char :=
  t.key.topic.toList ++
    '/' :: (toString t.key.partition.toInt).toList ++
    '/' :: Decimal.padded offsetWidth t.offset.toInt

/- The key of a fragment, as characters. -/
def storageKeyChars (keyPrefix : List Char) (t : OffsetToken) : List Char :=
  match trimmedPrefix keyPrefix with
  | [] => tokenKey t
  | cs => cs ++ '/' :: tokenKey t

/- The key of a fragment: an empty prefix is left out together with its slash. -/
def storageKey (keyPrefix : String) (t : OffsetToken) : String :=
  String.ofList (storageKeyChars keyPrefix.toList t)

end FragmentSink
