import Questline.Invocation
import Questline.Session.Supervisor

/-! How a session is set up: configuration, options, global variables and the first script, in this
order, so that the first thing that is wrong is the one reported. -/
namespace Questline

/-- The configuration in a file, or the default one where none is named. -/
def Config.load (d : Disk) : Option Path → Except Fault Config
  | none => .ok {}
  | some path =>
    match d.readText path with
    | .error e => .error (Fault.ofCause (.configUnreadable e))
    | .ok text => (Config.read? text).elim (.error (Fault.ofCause .configInvalid)) .ok

/-- Options on the command line override the configuration. -/
def RunOptions.override (o : RunOptions) (config : Config) : Config :=
  { config with
    scriptPrefix := o.scriptPrefix.getD config.scriptPrefix
    debug := o.debug || config.debug
    randomSeed := o.seed.or config.randomSeed }

/-- A session in which one script has been started. A seed may be given for those who ask for none.
-/
def Session.create (d : Disk) (o : RunOptions) (script : String) (arguments : List String)
    (seed : UInt32) : Except Fault Session := do
  let config := o.override (← Config.load d o.config)
  let config := { config with randomSeed := config.randomSeed.or (some seed) }
  let store ← o.globals.mapM (FileStore.load d)
  let loaded ← Source.find d script none
  let world : World Console := {
    client := { scriptPrefix := config.scriptPrefix, disk := d }
    globals := (store.map FileStore.globals).getD {} }
  let engine ← Engine.create config [] world
  return { engine := engine.start loaded.name loaded.program arguments
           base := loaded.path.parent?, store : Session }.keep

end Questline
