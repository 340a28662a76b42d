import FragmentSink.Text.Decimal
import FragmentSink.Text.Parts

/-
  Reading the arguments of a command line.

  An option has a long name and may have a short one.  Its
  value is attached to it, or is the argument after it, unless
  that looks like an option itself.  A value that stands apart
  is looked at only when the next option or the end is
  reached, so an unknown option in between is noticed first.

  Key definitions include:
    * `Usage`
    * `Level`
    * `Level.read`

  Main statements:
    * `Reading.settle_settle`
-/

namespace FragmentSink

namespace Cli

------------------------------------------------------------
-- Wrong Uses
------------------------------------------------------------

/- Why a command line is not carried out. -/
inductive Usage where
| unknownArgument
| invalidValue
| valueValidation
| argumentConflict
| tooManyValues
| invalidSubcommand
| missingSubcommand
| displayHelp
| displayVersion
deriving DecidableEq, Repr

namespace Usage

/- The written name of a wrong use. -/
def label : Usage → String
| .unknownArgument => "UnknownArgument"
| .invalidValue => "InvalidValue"
| .valueValidation => "ValueValidation"
| .argumentConflict => "ArgumentConflict"
| .tooManyValues => "TooManyValues"
| .invalidSubcommand => "InvalidSubcommand"
| .missingSubcommand => "MissingSubcommand"
| .displayHelp => "DisplayHelp"
| .displayVersion => "DisplayVersion"

/- Whether help or the version was asked for. -/
def isAnswer : Usage → Bool
| .displayHelp | .displayVersion => true
| _ => false

end Usage

------------------------------------------------------------
-- Options
------------------------------------------------------------

/- What an option takes or does. -/
inductive OptionKind where
| text
| path
| word
| count
| help
| version
deriving DecidableEq, Repr

namespace OptionKind

/- Whether an option takes a value. -/
def takesValue : OptionKind → Bool
| .text | .path | .word => true
| .count | .help | .version => false

end OptionKind

/- An option of a command. -/
structure CliOption where
  long : String
  short : Option Char := none
  kind : OptionKind
deriving DecidableEq, Repr

/- The options of a command, and the commands that may follow them. -/
structure Level where
  options : List CliOption
  commands : List String := []

namespace Level

/- The option with a long name. -/
def long? (l : Level) (name : String) : Option CliOption :=
  l.options.find? fun o => o.long = name

/- The option with a short name. -/
def short? (l : Level) (c : Char) : Option CliOption :=
  l.options.find? fun o => o.short = some c

/- The wrong use of an argument that is no option and no value. -/
def stray (l : Level) : Usage :=
  if l.commands.isEmpty then .unknownArgument
  else .invalidSubcommand

end Level

------------------------------------------------------------
-- Values
------------------------------------------------------------

/- The number a text is read as: digits with at most one plus sign, in 64 bits. -/
def word? (s : String) : Option UInt64 :=
  (Decimal.readNat? UInt64.size s.toList).map .ofNat

/- Whether a value suits its option. -/
def checkValue (kind : OptionKind) (v : String) : Except Usage Unit :=
  match kind with
  | .path => if v = "" then .error .invalidValue else .ok ()
  | .word =>
      if (word? v).isSome then .ok () else .error .valueValidation
  | _ => .ok ()

/-
  The values read so far, by the long names of their options,
  and an option that is not settled yet.
-/
structure Reading where
  values : List (String × String) := []
  pending : Option (CliOption × Option String) := none
deriving DecidableEq, Repr

namespace Reading

/- The value of an option. -/
def value? (r : Reading) (name : String) : Option String :=
  (r.values.find? fun v => v.1 = name).map Prod.snd

/- Take the value of an option, which may be given once. -/
def accept
    (r : Reading)
    (o : CliOption)
    (v : String) : Except Usage Reading :=
  if (r.value? o.long).isSome then .error .argumentConflict
  else
    (checkValue o.kind v).map fun _ =>
      { r with values := r.values ++ [(o.long, v)] }

/- Take the option that is not settled yet. -/
def settle (r : Reading) : Except Usage Reading :=
  match r.pending with
  | none => .ok r
  | some (_, none) => .error .invalidValue
  | some (o, some v) => { r with pending := none }.accept o v

/- Whether the next argument is the value of an option. -/
def isWaiting (r : Reading) : Bool :=
  match r.pending with
  | some (_, none) => true
  | _ => false

/- Give a waiting option its value. -/
def fill (r : Reading) (v : String) : Reading :=
  { r with pending := r.pending.map fun (o, _) => (o, some v) }

/- Take an option that has no value. -/
def flag (r : Reading) (o : CliOption) : Except Usage Reading := do
  let r ← r.settle
  match o.kind with
  | .help => .error .displayHelp
  | .version => .error .displayVersion
  | _ => .ok r

/- Take an option that has a value, or will have one. -/
def option
    (r : Reading)
    (o : CliOption)
    (attached : Option String) : Except Usage Reading := do
  let r ← r.settle
  match attached with
  | some v => r.accept o v
  | none => .ok { r with pending := some (o, none) }

/- A settled reading has nothing left to settle. -/
theorem settle_settle
    {r settled : Reading}
    (h : r.settle = .ok settled) :
    settled.settle = .ok settled := by
  suffices hNone : settled.pending = none by
    simp only [settle, hNone]
  unfold settle at h
  split at h
  · next hNone =>
    cases h
    exact hNone
  · cases h
  · next o v _ =>
    unfold accept at h
    split at h
    · cases h
    · cases hCheck : checkValue o.kind v with
      | error e =>
          rw [hCheck] at h
          cases h
      | ok u =>
          rw [hCheck] at h
          cases h
          rfl

end Reading

------------------------------------------------------------
-- Arguments
------------------------------------------------------------

namespace Level

/-
  Take the short options written in one argument; what follows
  one with a value is attached to it.
-/
def readShort
    (l : Level)
    (r : Reading) : List Char → Except Usage Reading
| [] => .ok r
| c :: cs =>
    match l.short? c with
    | none => .error .unknownArgument
    | some o =>
        if o.kind.takesValue then
          let attached :=
            match cs with
            | '=' :: v => some (String.ofList v)
            | [] => none
            | v => some (String.ofList v)
          r.option o attached
        else
          match r.flag o with
          | .error e => .error e
          | .ok r => readShort l r cs

/- Take a long option, with the value after its equals sign. -/
def readLong
    (l : Level)
    (r : Reading)
    (cs : List Char) : Except Usage Reading :=
  let (name, attached) :=
    match Parts.cutAt? '=' cs with
    | some (name, v) => (name, some (String.ofList v))
    | none => (cs, none)
  match l.long? (.ofList name) with
  | none => .error .unknownArgument
  | some o =>
      if o.kind.takesValue then r.option o attached
      else if attached.isSome then .error .tooManyValues
      else r.flag o

/-
  Read arguments up to the name of a command, which is
  returned with the arguments after it.  After two hyphens no
  argument is an option, a value or a command.
-/
def read
    (l : Level)
    (r : Reading) :
    Bool → List String →
      Except Usage (Reading × Option (String × List String))
| _, [] => .ok (r, none)
| true, _ :: _ => .error l.stray
| false, a :: rest =>
    if !r.isWaiting && l.commands.contains a then
      .ok (r, some (a, rest))
    else
      match a.toList with
      | ['-', '-'] => read l r true rest
      | '-' :: '-' :: cs =>
          match l.readLong r cs with
          | .error e => .error e
          | .ok r => read l r false rest
      | '-' :: c :: cs =>
          match l.readShort r (c :: cs) with
          | .error e => .error e
          | .ok r => read l r false rest
      | _ =>
          if r.isWaiting then read l (r.fill a) false rest
          else .error l.stray

/- Read all arguments of a command that has no further commands. -/
def readAll
    (l : Level)
    (args : List String) : Except Usage Reading := do
  let (r, _) ← l.read {} false args
  r.settle

end Level

end Cli

end FragmentSink
