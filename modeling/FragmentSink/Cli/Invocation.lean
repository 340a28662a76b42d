import FragmentSink.Cli.Overrides

/-
  The commands of the program, as its command line gives them.

  The options that hold for every command may stand before or
  after its name; the one after it wins.

  Key definitions include:
    * `Command`
    * `Invocation.ofArguments`
-/

namespace FragmentSink

------------------------------------------------------------
-- Commands
------------------------------------------------------------

/- What the program is asked to do. -/
inductive Command where
| ingest (overrides : Overrides)
| status (address : String)
| validate
deriving DecidableEq, Repr

/- A command, and the file its configuration is in. -/
structure Invocation where
  command : Command
  configFile : Option String
deriving DecidableEq, Repr

namespace Invocation

/- The name of the program with its version. -/
def versionLine : String := "replaysink 0.1.0"

/- The file of the configuration where none is named. -/
def standardFile : String := "config.toml"

/- The address a status is asked from where none is given. -/
def standardAddress : String := "http://localhost:8080"

------------------------------------------------------------
-- Levels
------------------------------------------------------------

/- The options of every command. -/
def common : List Cli.CliOption :=
  [{ long := "config", short := some 'c', kind := .path },
   { long := "verbose", short := some 'v', kind := .count },
   Overrides.helpOption]

/- The options before the name of a command, and the names. -/
def outer : Cli.Level :=
  { options :=
      common ++
        [{ long := "version", short := some 'V', kind := .version }]
    commands := ["ingest", "status", "validate", "help"] }

/- The options after the name of a command. -/
def inner (name : String) : Cli.Level :=
  { options :=
      common ++
        (if name = "ingest" then Overrides.options
         else if name = "status" then
          [{ long := "url", kind := .text }]
         else []) }

/- The command of a name and the values after it. -/
def commandOf (name : String) (r : Cli.Reading) : Command :=
  if name = "ingest" then .ingest (.ofReading r)
  else if name = "status" then
    .status ((r.value? "url").getD standardAddress)
  else .validate

/- The wrong use of asking for help, on a command there is or on none. -/
def helpOn (args : List String) : Cli.Usage :=
  match args with
  | [] => .displayHelp
  | [name] =>
      if outer.commands.contains name then .displayHelp
      else .invalidSubcommand
  | _ => .invalidSubcommand

/- The command of a command line. -/
def ofArguments (args : List String) : Except Cli.Usage Invocation := do
  match ← outer.read {} false args with
  | (before, none) =>
      let _ ← before.settle
      .error .missingSubcommand
  | (before, some (name, rest)) =>
      if name = "help" then
        .error (helpOn rest)
      else
        let after ← (inner name).readAll rest
        let before ← before.settle
        .ok
          ⟨commandOf name after,
            (after.value? "config").orElse fun _ =>
              before.value? "config"⟩

end Invocation

end FragmentSink
