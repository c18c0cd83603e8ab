import Questline.CommandLine

/-! The program. It reads files and standard input, keeps time, and prints; everything else is done
by the session, which sees the file system as a value. -/
namespace Questline.Main

/-- Adds what the file system has at a path to a disk. -/
def fetch (d : Disk) (p : Path) : IO Disk := do
  try
    let content ← IO.FS.readBinFile p.text
    return d.add p content.toList
  catch
    | .inappropriateType .. => return d.add ⟨p.text ++ "/"⟩ []
    | _ => return d

/-- Adds a path and everything below it. -/
partial def fetchAll (d : Disk) (p : Path) : IO Disk := do
  let d ← fetch d p
  if d.isFile p || !d.exists? p then return d
  let directory : IO.FS.DirEntry := ⟨p.text, "."⟩
  (← directory.root.readDir).foldlM (fun d entry => fetchAll d (p.join ⟨entry.fileName⟩)) d

/-- The lines that have come in and not been taken, and whether there will be no more. -/
abbrev Inbox := IO.Ref (List String × Bool)

partial def collectInput (inbox : Inbox) (input : IO.FS.Stream) : IO Unit := do
  let line ← try input.getLine catch _ => pure ""
  if line.isEmpty then inbox.modify fun (lines, _) => (lines, true)
  else
    inbox.modify fun (lines, isEnded) => (lines ++ [line], isEnded)
    collectInput inbox input

/-- Lets a session go on up to a time. Where it looked for files in vain, these are fetched and it
goes on from where it was before. -/
partial def advance (time : Nat) (fetched : List Path) (s : Session) : IO Session := do
  let next := s.advanceTo time
  let wanted := next.console.sought.filter fun p => !fetched.contains p
  if wanted.isEmpty then return next
  let disk ← wanted.foldlM fetch s.console.disk
  advance time (fetched ++ wanted) (s.setConsole { s.console with disk })

/-- Writes the file of global variables. A file that cannot be written is left as it is. -/
def writeGlobals (store : FileStore) : IO Unit := do
  try
    let directory := (store.path.parent?.map Path.text).getD ""
    unless directory.isEmpty do IO.FS.createDirAll directory
    IO.FS.writeFile store.path.text (GlobalsFile.render store.globals.values)
  catch _ => pure ()

/-- Milliseconds between two looks at the clock and the input. -/
def interval : UInt32 := 10

/-- Runs a session in real time and gives its exit code. -/
partial def serve (inbox : Inbox) (begun : Nat) (s : Session) : IO UInt32 := do
  let time := (← IO.monoMsNow) - begun
  let (lines, isEnded) ← inbox.modifyGet fun (lines, isEnded) => ((lines, isEnded), ([], isEnded))
  let s := lines.foldl Session.addLine (s.setConsole { s.console with disk := {}, sought := [] })
  let next ← advance time [] (if isEnded then s.endInput else s)
  let output ← IO.getStdout
  output.putStr next.transcript
  output.flush
  match s.store, next.store with
  | some before, some after =>
    if before.globals.revision ≠ after.globals.revision then writeGlobals after
  | _, _ => pure ()
  match next.exitCode? with
  | some code => return code.toUInt32
  | none =>
    IO.sleep interval
    serve inbox begun { next with transcript := "" }

def report (f : Fault) : IO UInt32 := do
  IO.eprint (CommandLine.unlines (CommandLine.errorLines f))
  return 1

def runScript (options : RunOptions) (script : String) (arguments : List String) : IO UInt32 := do
  let seed := (← IO.monoNanosNow).toUInt32
  let paths := options.config.toList ++ options.globals.toList ++ Source.places script none
  let disk ← paths.foldlM fetch {}
  match Session.create disk options script arguments seed with
  | .error f => report f
  | .ok session =>
    let inbox ← IO.mkRef ([], false)
    let _ ← IO.asTask (collectInput inbox (← IO.getStdin)) .dedicated
    match session.store with
    | some store => if store.globals.revision ≠ 0 then writeGlobals store
    | none => pure ()
    serve inbox (← IO.monoMsNow) session

def checkScripts (path : Path) : IO UInt32 := do
  match CommandLine.check (← fetchAll {} path) path with
  | .error f => report f
  | .ok lines =>
    IO.print (CommandLine.unlines lines)
    return 0

end Questline.Main

def main (arguments : List String) : IO UInt32 := do
  match Questline.Invocation.read? arguments with
  | some (.run options script rest) => Questline.Main.runScript options script rest
  | some (.check path) => Questline.Main.checkScripts path
  | some .help =>
    IO.print (Questline.CommandLine.unlines Questline.CommandLine.usageLines)
    return 0
  | none =>
    IO.eprint (Questline.CommandLine.unlines Questline.CommandLine.usageLines)
    return 2
