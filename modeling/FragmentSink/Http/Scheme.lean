/-
  Schemes: what stands in front of the colon of an address.

  The schemes of the web and that of local files have rules of
  their own; all others share one set of rules.

  Key definitions include:
    * `SchemeKind`
    * `Scheme.kindOf`
    * `Scheme.cut?`
-/

namespace FragmentSink

------------------------------------------------------------
-- Kinds of Schemes
------------------------------------------------------------

/- The kinds of schemes, by the rules for their addresses. -/
inductive SchemeKind where
| web
| file
| plain
deriving DecidableEq, Repr

namespace SchemeKind

/- Whether a character separates the parts of a path. -/
def isSlash (k : SchemeKind) (c : Char) : Bool :=
  c = '/' || (k ≠ .plain && c = '\\')

end SchemeKind

------------------------------------------------------------
-- Schemes
------------------------------------------------------------

namespace Scheme

/- The number after a host that a scheme of the web stands for. -/
def standardPort? (scheme : String) : Option Nat :=
  match scheme with
  | "http" | "ws" => some 80
  | "https" | "wss" => some 443
  | "ftp" => some 21
  | _ => none

/- The kind of a scheme. -/
def kindOf (scheme : String) : SchemeKind :=
  if (standardPort? scheme).isSome then .web
  else if scheme = "file" then .file
  else .plain

/- The scheme in front of an address, in lower case, and what follows its colon. -/
def cut? (cs : List Char) : Option (String × List Char) :=
  match cs with
  | c :: _ =>
      if c.isAlpha then
        match cs.span fun c =>
            c.isAlphanum || ['+', '-', '.'].contains c with
        | (name, ':' :: rest) =>
            some (.ofList (name.map Char.toLower), rest)
        | _ => none
      else none
  | [] => none

end Scheme

end FragmentSink
