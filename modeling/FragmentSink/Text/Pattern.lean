import FragmentSink.Text.Decimal
import FragmentSink.Text.Parts

/-
  Extended patterns over bytes, and which texts are patterns.

  Nothing is matched here.  A text is a pattern if its brackets
  and groups are closed, its ranges run upwards, and whatever
  repeats has something before it to repeat.  A group that is
  closed without being opened is an ordinary byte.

  Key definitions include:
    * `Pattern.tokens?`
    * `Pattern.isWellFormed`
-/

namespace FragmentSink

namespace Pattern

------------------------------------------------------------
-- Brackets
------------------------------------------------------------

/- What stands at one place in brackets: a byte, or a name between marks. -/
inductive Element where
| byte (c : Char)
| symbol (name : List Char)
| equals (name : List Char)
| family (name : List Char)
deriving DecidableEq, Repr

namespace Element

/- The families of bytes that have a name. -/
def families : List String :=
  ["alnum", "alpha", "blank", "cntrl", "digit", "graph", "lower",
   "print", "punct", "space", "upper", "xdigit"]

/- Whether a name means something; symbols are single bytes. -/
def isKnown : Element → Bool
| .byte _ => true
| .symbol name | .equals name => name.length = 1
| .family name => families.contains (String.ofList name)

/- The byte at which a range that begins or ends here does so. -/
def place? : Element → Option Char
| .byte c | .symbol [c] => some c
| _ => none

/- Whether a range can begin here. -/
def mayBeginRange : Element → Bool
| .byte _ | .symbol _ => true
| .equals _ | .family _ => false

end Element

/- The rest of a text, which is shorter. -/
abbrev Shorter (cs : List Char) :=
  { rest : List Char // rest.length < cs.length }

/- Cut a name at its mark and the bracket after it. -/
def cutName? (mark : Char) :
    (cs : List Char) → Option (List Char × Shorter cs)
| [] | [_] => none
| c :: d :: cs =>
    if c = mark ∧ d = ']' then
      some ([], ⟨cs, by simp only [List.length_cons]; omega⟩)
    else
      (cutName? mark (d :: cs)).map fun (name, rest) =>
        (c :: name, ⟨rest.1, Nat.lt_succ_of_lt rest.2⟩)

/- The longest name in brackets. -/
def longestName : Nat := 31

/- The element of a name between marks. -/
def named?
    (mark : Char)
    (make : List Char → Element)
    (a b : Char)
    (cs : List Char) : Option (Element × Shorter (a :: b :: cs)) :=
  (cutName? mark cs).bind fun (name, rest) =>
    if name.length ≤ longestName then
      some (make name,
        ⟨rest.1, Nat.lt_succ_of_lt (Nat.lt_succ_of_lt rest.2)⟩)
    else none

/- The element a text begins with. -/
def element? : (cs : List Char) → Option (Element × Shorter cs)
| [] => none
| '[' :: '.' :: cs => named? '.' .symbol '[' '.' cs
| '[' :: '=' :: cs => named? '=' .equals '[' '=' cs
| '[' :: ':' :: cs => named? ':' .family '[' ':' cs
| c :: cs => some (.byte c, ⟨cs, Nat.lt_succ_self _⟩)

/- What follows a hyphen. -/
def cutHyphen? : (cs : List Char) → Option (Shorter cs)
| '-' :: cs => some ⟨cs, Nat.lt_succ_self _⟩
| _ => none

/- Whether the elements of a range stand in order. -/
def inOrder (first last : Element) : Bool :=
  match first.place?, last.place? with
  | some a, some b => a ≤ b
  | _, _ => false

/-
  Cut one element or range, if it means something.  A hyphen
  stands for itself at the front and before the closing
  bracket only.
-/
def cutItem?
    (isFirst : Bool)
    (cs : List Char) : Option (Shorter cs) :=
  let isLost :=
    match cutHyphen? cs with
    | some rest => !isFirst && rest.1.head? ≠ some ']'
    | none => false
  if isLost then none
  else
    (element? cs).bind fun (e, rest) =>
      let alone : Option (Shorter cs) :=
        if e.isKnown then some rest else none
      match cutHyphen? rest.1 with
      | none => alone
      | some after =>
          if !e.mayBeginRange || after.1.head? = some ']' then alone
          else
            (element? after.1).bind fun (last, rest') =>
              if inOrder e last then
                some
                  ⟨rest'.1,
                    Nat.lt_trans rest'.2
                      (Nat.lt_trans after.2 rest.2)⟩
              else none

/- Cut what is left of an expression in brackets; a bracket at its front does not close it. -/
def cutItems? (isFirst : Bool) (cs : List Char) : Option (List Char) :=
  match cs with
  | [] => none
  | c :: rest =>
      if c = ']' ∧ !isFirst then some rest
      else
        match cutItem? isFirst (c :: rest) with
        | none => none
        | some left => cutItems? false left.1
termination_by cs.length
decreasing_by exact left.2

theorem cutItems?_length
    {isFirst : Bool}
    {cs rest : List Char}
    (h : cutItems? isFirst cs = some rest) :
    rest.length < cs.length := by
  fun_induction cutItems? isFirst cs with
  | case1 => cases h
  | case2 _ _ => cases h; exact Nat.lt_succ_self _
  | case3 => cases h
  | case4 _ _ _ _ left _ ih => exact Nat.lt_trans (ih h) left.2

/- Cut an expression in brackets after its opening one. -/
def cutBracket? (cs : List Char) : Option (List Char) :=
  match cs with
  | '^' :: cs => cutItems? true cs
  | _ => cutItems? true cs

theorem cutBracket?_length
    {cs rest : List Char}
    (h : cutBracket? cs = some rest) :
    rest.length < cs.length := by
  unfold cutBracket? at h
  split at h
  · exact Nat.lt_succ_of_lt (cutItems?_length h)
  · exact cutItems?_length h

------------------------------------------------------------
-- Tokens
------------------------------------------------------------

/- The parts of a pattern. -/
inductive Token where
| letter (c : Char)
| set
| anchor
| reference (group : Nat)
| repetition
| openBrace
| closeBrace
| openGroup
| closeGroup
| bar
deriving DecidableEq, Repr

/- What a byte after a backslash means. -/
def escaped (c : Char) : Token :=
  if '1' ≤ c ∧ c ≤ '9' then .reference (c.toNat - '0'.toNat)
  else if ['<', '>', 'b', 'B', '\x60', '\''].contains c then .anchor
  else if ['w', 'W', 's', 'S'].contains c then .set
  else .letter c

/- What a byte means that begins no brackets and no escape. -/
def plain (c : Char) : Token :=
  match c with
  | '.' => .set
  | '^' | '$' => .anchor
  | '*' | '+' | '?' => .repetition
  | '\x7b' => .openBrace
  | '\x7d' => .closeBrace
  | '(' => .openGroup
  | ')' => .closeGroup
  | '|' => .bar
  | _ => .letter c

/- The parts of a text; none if brackets or a backslash at the end are left open. -/
def tokens? (cs : List Char) : Option (List Token) :=
  match cs with
  | [] => some []
  | ['\\'] => none
  | '\\' :: c :: cs => (tokens? cs).map (escaped c :: ·)
  | '[' :: cs =>
      match _h : cutBracket? cs with
      | none => none
      | some rest => (tokens? rest).map (.set :: ·)
  | c :: cs => (tokens? cs).map (plain c :: ·)
termination_by cs.length
decreasing_by
  all_goals simp only [List.length_cons]
  · omega
  · exact Nat.lt_succ_of_lt (cutBracket?_length _h)
  · omega

------------------------------------------------------------
-- Repetitions in Braces
------------------------------------------------------------

/- The most repetitions there may be. -/
def mostRepetitions : Nat := 32767

/- The letters of parts that are letters. -/
def letters? (ts : List Token) : Option (List Char) :=
  ts.mapM fun t =>
    match t with
    | .letter c => some c
    | _ => none

/- The number of digits; no digits are no number. -/
def number? (cs : List Char) : Option Nat :=
  if !cs.isEmpty ∧ cs.all Char.isDigit then some (Decimal.value cs)
  else none

/- Whether braces hold one number, or two numbers in order either of which may be left out. -/
def isInterval (ts : List Token) : Bool :=
  match (letters? ts).map (Parts.splitAt ',') with
  | some [n] => (number? n).any (· ≤ mostRepetitions)
  | some [least, most] =>
      let least? := if least.isEmpty then some 0 else number? least
      if most.isEmpty then least?.any (· ≤ mostRepetitions)
      else
        match least?, number? most with
        | some m, some n => m ≤ n && n ≤ mostRepetitions
        | _, _ => false
  | _ => false

------------------------------------------------------------
-- Groups
------------------------------------------------------------

/-
  A group that is open, or the pattern itself: its number, the
  groups that were closed before it, and those closed in its
  earlier alternatives.
-/
structure Group where
  number : Nat
  before : List Nat
  earlier : List Nat
deriving DecidableEq, Repr

/-
  How far a pattern has been read: whether something stands
  here that can be repeated, the open groups around this place,
  how many groups there were, and those that can be referred to.
-/
structure Progress where
  isRepeatable : Bool
  group : Group
  around : List Group
  count : Nat
  closed : List Nat
deriving DecidableEq, Repr

namespace Progress

/- Nothing has been read. -/
def start : Progress :=
  ⟨false, ⟨0, [], []⟩, [], 0, []⟩

/- Open a group. -/
def opened (p : Progress) : Progress :=
  { p with
    isRepeatable := false
    group := ⟨p.count + 1, p.closed, []⟩
    around := p.group :: p.around
    count := p.count + 1 }

/- Close a group; a closing sign outside groups stands for itself. -/
def closing (p : Progress) : Progress :=
  match p.around with
  | [] => { p with isRepeatable := true }
  | outer :: around =>
      { p with
        isRepeatable := true
        group := outer
        around := around
        closed := p.group.number :: p.group.earlier ++ p.closed }

/- Begin another alternative. -/
def alternative (p : Progress) : Progress :=
  { p with
    isRepeatable := false
    group := { p.group with earlier := p.group.earlier ++ p.closed }
    closed := p.group.before }

end Progress

/- Whether the parts of a pattern fit together, from some place on. -/
def fits (p : Progress) (ts : List Token) : Bool :=
  match ts with
  | [] => p.around.isEmpty
  | .letter _ :: ts | .set :: ts | .closeBrace :: ts =>
      fits { p with isRepeatable := true } ts
  | .anchor :: ts => fits { p with isRepeatable := false } ts
  | .reference n :: ts =>
      p.closed.contains n && fits { p with isRepeatable := true } ts
  | .repetition :: ts => p.isRepeatable && fits p ts
  | .openBrace :: ts =>
      let rest := ts.dropWhile (· ≠ .closeBrace)
      p.isRepeatable && !rest.isEmpty &&
        isInterval (ts.takeWhile (· ≠ .closeBrace)) &&
        fits p rest.tail
  | .openGroup :: ts => fits p.opened ts
  | .closeGroup :: ts => fits p.closing ts
  | .bar :: ts => fits p.alternative ts
termination_by ts.length
decreasing_by
  all_goals simp only [List.length_cons, List.length_tail]
  all_goals
    have := (List.dropWhile_suffix (· ≠ Token.closeBrace)
      (l := ts)).length_le
    omega

------------------------------------------------------------
-- Patterns
------------------------------------------------------------

/- The bytes of a text, each as the character of its number. -/
def bytesOf (s : String) : List Char :=
  s.toUTF8.toList.map fun b => Char.ofNat b.toNat

/- Whether a text is a pattern. -/
def isWellFormed (s : String) : Bool :=
  (tokens? (bytesOf s)).any (fits .start)

end Pattern

end FragmentSink
