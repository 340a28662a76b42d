import FragmentSink.Broker.Consumer
import FragmentSink.Cli.Invocation
import FragmentSink.Config.File
import FragmentSink.Status.Check
import FragmentSink.Storage.Store

/-
  Carrying out a command line.

  A command ends with an exit code, the lines it shows and,
  where it failed, the text of the failure; or it is an
  ingestion that found its configuration, its store and its
  broker client usable, and goes on from there.

  Key definitions include:
    * `ExitCode`
    * `Failure.exitCode`
    * `Outcome`
    * `run`

  Main statements:
    * `ExitCode.number_injective`
-/

namespace FragmentSink

------------------------------------------------------------
-- Exit Codes
------------------------------------------------------------

/- How the program ends. -/
inductive ExitCode where
| success
| config
| kafka
| storage
| bufferCommit
| other
| fault
deriving DecidableEq, Repr

namespace ExitCode

/- The number of an exit code. -/
def number : ExitCode → Nat
| .success => 0
| .config => 1
| .kafka => 2
| .storage => 4
| .bufferCommit => 7
| .other => 10
| .fault => 101

/- No two exit codes have one number. -/
theorem number_injective
    {a b : ExitCode}
    (h : a.number = b.number) :
    a = b := by
  revert h
  cases a <;> cases b <;> decide

/- The exit code of an error. -/
def ofError : Error → ExitCode
| .config _ => .config
| .kafka _ => .kafka
| .storage _ => .storage
| .bufferCommitFailed => .bufferCommit
| .io _ => .other

/-
  The words that tell the exit code of a failure that is only
  a text, in the order they are looked for.
-/
def clues : List (ExitCode × List String) :=
  [(.config, ["config", "toml", "parse"]),
   (.kafka, ["kafka", "rdkafka", "consumer"]),
   (.bufferCommit, ["buffer commit"]),
   (.storage, ["storage", "s3", "object_store"])]

/- The exit code of a failure that is only a text. -/
def ofText (s : String) : ExitCode :=
  let cs := s.toList.map Char.toLower
  match clues.find? fun (_, words) =>
      words.any fun w => Parts.occursIn w.toList cs with
  | some (code, _) => code
  | none => .other

end ExitCode

------------------------------------------------------------
-- Failures
------------------------------------------------------------

/- Why a command failed; a fault cuts it short. -/
inductive Failure where
| error (e : Error)
| text (s : String)
| fault (f : Fault)
deriving DecidableEq, Repr

namespace Failure

/- The wording of a failure. -/
def message : Failure → String
| .error e => e.message
| .text s => s
| .fault f => f.message

/- The exit code of a failure. -/
def exitCode : Failure → ExitCode
| .error e => .ofError e
| .text s => .ofText s
| .fault _ => .fault

end Failure

------------------------------------------------------------
-- Outcomes
------------------------------------------------------------

/- How a command line is carried out. -/
inductive Outcome where
/- It is not a command. -/
| refused (why : Cli.Usage)
/- It was carried out. -/
| done (lines : List String)
| failed (why : Failure)
/- The ingestion runs. -/
| ingests (settings : Settings)
deriving DecidableEq, Repr

namespace Outcome

/- The exit code of a command that ended. -/
def exitNumber? : Outcome → Option Nat
| .refused why => some (if why.isAnswer then 0 else 2)
| .done _ => some ExitCode.success.number
| .failed why => some why.exitCode.number
| .ingests _ => none

/- The lines a command shows; help is not among them. -/
def lines : Outcome → List String
| .refused .displayVersion => [Invocation.versionLine]
| .done shown => shown
| _ => []

/- The text of a failure; a command cut short does not come to tell it. -/
def failure? : Outcome → Option String
| .failed (.fault _) => none
| .failed why => some why.message
| _ => none

end Outcome

------------------------------------------------------------
-- Commands
------------------------------------------------------------

namespace Invocation

/- The error of a document that gives no settings. -/
def unreadable (_ : Complaint) : Error :=
  .config "TOML parse error"

/- The settings of the configuration file, before the rules are looked at. -/
def load
    (i : Invocation)
    (files : FileTree) : Except Failure Settings :=
  let path := i.configFile.getD standardFile
  match files.readText path.toList with
  | .error e => .error (.text e.message)
  | .ok document =>
      (Settings.decode document).mapError fun c =>
        .error (unreadable c)

/- Settings that break no rule. -/
def checked (s : Settings) : Except Failure Settings :=
  match s.validate with
  | .error e => .error (.error e)
  | .ok () => .ok s

/- Open what an ingestion needs: first the store, then the broker client. -/
def opened (files : FileTree) (s : Settings) : Except Failure Settings :=
  match BlobStore.ofSettings s.storage files with
  | .error e => .error (.error (.storage e))
  | .ok _ =>
      match Consumer.ofSettings s.kafka .standard with
      | .error f => .error (.fault f)
      | .ok (.error e) => .error (.error (.kafka e))
      | .ok (.ok _) => .ok s

/- The outcome of a command that may fail. -/
def outcome
    (answer : Except Failure Settings)
    (next : Settings → Outcome) : Outcome :=
  match answer with
  | .error why => .failed why
  | .ok s => next s

/- Carry out a command. -/
def run (i : Invocation) (files : FileTree) (web : Web) : Outcome :=
  match i.command with
  | .status address => .done (Status.lines web address)
  | .validate =>
      outcome (do checked (← i.load files))
        fun _ => .done ["Configuration is valid"]
  | .ingest overrides =>
      outcome
        (do
          let s ← i.load files
          opened files (← checked (overrides.apply s)))
        .ingests

end Invocation

/- Carry out a command line. -/
def run (args : List String) (files : FileTree) (web : Web) : Outcome :=
  match Invocation.ofArguments args with
  | .error why => .refused why
  | .ok i => i.run files web

end FragmentSink
