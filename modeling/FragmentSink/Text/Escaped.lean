import FragmentSink.Text.Hidden

/-
  Texts between double quotes on one line: quotes, backslashes
  and hidden characters are written as escapes.

  Key definitions include:
    * `Escaped.ofChar`
    * `Escaped.quoted`
-/

namespace FragmentSink

namespace Escaped

/- The escape of a character by its number. -/
def numbered (c : Char) : List Char :=
  "\\u\x7b".toList ++ Nat.toDigits 16 c.toNat ++ ['\x7d']

/- A character as it is written between quotes. -/
def ofChar (c : Char) : List Char :=
  if c = '\x00' then ['\\', '0']
  else if c = '\t' then ['\\', 't']
  else if c = '\r' then ['\\', 'r']
  else if c = '\n' then ['\\', 'n']
  else if c = '"' ∨ c = '\\' then ['\\', c]
  else if Hidden.holds c then numbered c
  else [c]

/- A text between quotes. -/
def quoted (s : String) : String :=
  .ofList ('"' :: s.toList.flatMap ofChar ++ ['"'])

end Escaped

end FragmentSink
