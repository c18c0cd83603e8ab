import Questline.Session.Schedule
import Questline.Session.Setup

/-! The commands of the command line, from arguments to what comes of them. -/
namespace Questline

inductive CommandResult where
  /-- The arguments are not accepted. -/
  | refused
  | failed (fault : Fault)
  | done (code : Nat) (output : String) (disk : Disk)

namespace CommandLine

/-- The lines of a report on a script: its size, then each warning. -/
def reportLines (loaded : Source.Loaded) : List String :=
  let path := loaded.path.text
  let program := loaded.program
  ("SCRIPT:" ++ path ++ "|labels=" ++ toString program.labels.size ++ "|commands=" ++
    toString program.commandCount ++ "|warnings=" ++ toString program.warnings.length) ::
    program.warnings.map fun warning =>
      "WARNING:" ++ path ++ ":" ++ toString (warning.line.getD 0) ++ ":" ++ warning.code ++ "|" ++
        Json.quote warning.message

/-- Reports on all scripts at a path, once all of them have been read. -/
def check (d : Disk) (path : Path) : Except Fault (List String) := do
  let loaded ← (← Source.collect d path).mapM (Source.load d)
  return "RESULT:OK" :: loaded.flatMap reportLines

def errorLines (f : Fault) : List String :=
  ["RESULT:ERROR", "ERROR_CODE:" ++ f.code, "ERROR_MSG_JSON:" ++ Json.quote f.message]

def usageLines : List String :=
  ["Usage: wsl run [OPTIONS] SCRIPT [ARGS]...",
    "       wsl check PATH",
    "",
    "Options:",
    "  --globals FILE   keep global variables in this file",
    "  --config FILE    read the configuration from this file",
    "  --prefix TEXT    sending this text starts another script",
    "  --debug          show what the script does",
    "  --seed NUMBER    begin the random numbers here"]

def unlines (lines : List String) : String := String.join (lines.map (· ++ "\n"))

/-- Carries out a command to its end, with the whole input given. -/
def execute (d : Disk) (input : List String) (seed : UInt32) : Option Invocation → CommandResult
  | none => .refused
  | some .help => .done 0 (unlines usageLines) d
  | some (.check path) =>
    match check d path with
    | .ok lines => .done 0 (unlines lines) d
    | .error f => .failed f
  | some (.run options script arguments) =>
    match Session.create d options script arguments seed with
    | .error f => .failed f
    | .ok session =>
      let session := (input.foldl Session.addLine session).endInput.run
      .done (session.exitCode?.getD 1) session.transcript session.console.disk

end CommandLine

end Questline
