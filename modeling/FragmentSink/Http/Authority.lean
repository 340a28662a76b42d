import FragmentSink.Http.Host
import FragmentSink.Http.Path

/-
  Authorities: the user, the host and the number that stand
  between the slashes of an address and its path.

  Key definitions include:
    * `AddressUser`
    * `Authority`
    * `Authority.cut?`
-/

namespace FragmentSink

------------------------------------------------------------
-- Users
------------------------------------------------------------

/-
  A user in an address, as it is written: a name and a
  password, either of which may be missing.
-/
structure AddressUser where
  name : List Char
  password : List Char
deriving DecidableEq, Repr

namespace AddressUser

/- No user. -/
def nobody : AddressUser := ⟨[], []⟩

/- Encoded in the name and password of a user. -/
def isSpecial (c : Char) : Bool :=
  Address.isSpecialInPath c ||
    ['/', ':', ';', '=', '@', '[', '\\', ']', '^', '|'].contains c

/- The user of a text, in which a colon stands before the password. -/
def ofChars (cs : List Char) : AddressUser :=
  let encode := Percent.encode isSpecial
  match Parts.cutAt? ':' cs with
  | some (name, password) => ⟨encode name, encode password⟩
  | none => ⟨encode cs, []⟩

/- The written form of a user in front of a host. -/
def text (u : AddressUser) : List Char :=
  if u = nobody then []
  else
    u.name ++
      (if u.password.isEmpty then [] else ':' :: u.password) ++ ['@']

/- Whether a user can be told to a server: the name can be read, and a name or a password can. -/
def canBeTold (u : AddressUser) : Bool :=
  match Percent.decoded? u.name with
  | none => false
  | some name =>
      !name.isEmpty ||
        (!u.password.isEmpty && (Percent.decoded? u.password).isSome)

end AddressUser

------------------------------------------------------------
-- Numbers
------------------------------------------------------------

namespace Authority

/- Whether a character ends the number after a host. -/
def endsPort (c : Char) : Bool :=
  ['/', '\\', '?', '#'].contains c

/- Cut a number of 16 bits after a host; an empty one and the one of the scheme are left out. -/
def cutPort?
    (scheme : String)
    (cs : List Char) : Option (Option Nat × List Char) :=
  let (digits, rest) := cs.span Char.isDigit
  let value := Decimal.value digits
  if 65536 ≤ value ∨ rest.head?.any fun c => !endsPort c then none
  else if digits.isEmpty ∨ Scheme.standardPort? scheme = some value then
    some (none, rest)
  else some (some value, rest)

end Authority

------------------------------------------------------------
-- Authorities
------------------------------------------------------------

/- What stands between the slashes and the path of an address. -/
structure Authority where
  user : AddressUser
  host : List Char
  portNumber : Option Nat
deriving DecidableEq, Repr

namespace Authority

/- Whether a character ends an authority. -/
def isEnd (k : SchemeKind) (c : Char) : Bool :=
  k.isSlash c || c = '?' || c = '#'

/-
  Cut the user in front of the last at sign; where there is
  none in front of it, a host has to follow.
-/
def cutUser?
    (k : SchemeKind)
    (cs : List Char) : Option (AddressUser × List Char) :=
  let (front, rest) := cs.span fun c => !isEnd k c
  if front.contains '@' then
    let after := (front.reverse.takeWhile (· ≠ '@')).reverse
    let user := front.take (front.length - after.length - 1)
    if user.isEmpty ∧ after.isEmpty ∧ !rest.isEmpty then none
    else some (.ofChars user, after ++ rest)
  else some (.nobody, cs)

/- Cut a host at its end or a colon; colons between brackets belong to it. -/
def cutHost
    (k : SchemeKind) :
    Bool → List Char → List Char × List Char
| _, [] => ([], [])
| inside, c :: cs =>
    if (c = ':' ∧ !inside) ∨ isEnd k c then ([], c :: cs)
    else
      let inside :=
        if c = '[' then true else if c = ']' then false else inside
      let (host, rest) := cutHost k inside cs
      (c :: host, rest)

/- The written form of a host, which only a plain scheme can do without. -/
def host?
    (k : SchemeKind)
    (cs : List Char) : Option (List Char) :=
  if k = .plain then Host.ofAnyText? cs
  else if cs.isEmpty then none
  else Host.ofText? cs

/- Cut an authority; without a host it has no user and no number. -/
def cut?
    (k : SchemeKind)
    (scheme : String)
    (cs : List Char) : Option (Authority × List Char) :=
  (cutUser? k cs).bind fun (user, cs) =>
    let (written, rest) := cutHost k false cs
    (host? k written).bind fun host =>
      if host.isEmpty ∧ user ≠ .nobody then none
      else
        match rest with
        | ':' :: digits =>
            if host.isEmpty then none
            else
              (cutPort? scheme digits).map fun (portNumber, rest) =>
                (⟨user, host, portNumber⟩, rest)
        | _ => some (⟨user, host, none⟩, rest)

end Authority

end FragmentSink
