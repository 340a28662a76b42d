import FragmentSink.Cli.Run

/-
  The program: it reads the configuration file that its
  command line names, carries the command out, shows its lines
  and the text of a failure, and ends with the exit code.

  No connection is opened here, so no address answers, and an
  ingestion ends where it would go on with its broker.
-/

namespace FragmentSink

/- The configuration file of a command line, as the only file there is. -/
def filesFor (args : List String) : IO FileTree := do
  match Invocation.ofArguments args with
  | .error _ => return .empty
  | .ok i =>
      let path := i.configFile.getD Invocation.standardFile
      try
        let content ← IO.FS.readBinFile path
        let names := FileTree.namesOf path.toList
        return (FileTree.empty.write [] names content).2
      catch
        | .inappropriateType .. =>
            return (FileTree.empty.makeFolders path.toList).2
        | _ => return .empty

/- Show an outcome, and give the number the program ends with. -/
def report (outcome : Outcome) : IO UInt32 := do
  for line in outcome.lines do
    IO.println line
  match outcome.failure? with
  | some why => IO.eprintln why
  | none => pure ()
  return (outcome.exitNumber?.getD ExitCode.kafka.number).toUInt32

end FragmentSink

/- Carry out the command line of the program. -/
def main (args : List String) : IO UInt32 := do
  let files ← FragmentSink.filesFor args
  FragmentSink.report (FragmentSink.run args files .silent)
