import Questline.Script.Step

/-! Several scripts on one client and one clock. Scripts take turns: the first one that can take a
step does, so each runs until it is blocked, and no time passes meanwhile. -/
namespace Questline

structure Engine (σ : Type) where
  table : CommandTable
  config : Config
  world : World σ
  /-- In the order in which they were started. -/
  scripts : List Script := []

namespace Engine

variable {σ : Type}

/-- An engine with the given custom commands, which must be fit for the table. -/
def create (config : Config) (commands : List (String × Handler)) (world : World σ) :
    Except Fault (Engine σ) := do
  return { table := ← CommandTable.standard.extendAll commands, config, world }

variable (e : Engine σ)

/-- Starts a script. Its arguments become special variables, so globals of those names go. -/
def start (name : String) (program : Program) (arguments : List String) : Engine σ :=
  let globals := (Script.argumentBindings arguments).foldl
    (fun (g : Globals) (b : String × String) => g.remove b.1) e.world.globals
  { e with
    world := { e.world with globals }
    scripts := e.scripts ++ [Script.create e.config name program arguments] }

/-- The order in which a script attends to what may wake it where nothing else decides. -/
def wakes : List Wake := [.message, .event, .deadline]

/-- Steps the first script that can take a step, where `before` are those that cannot. -/
def stepFirst? [Client σ] (table : CommandTable) (world : World σ) :
    (before scripts : List Script) → Option (World σ × List Script)
  | _, [] => none
  | before, s :: rest =>
    match wakes.findSome? fun wake => Run.step? table wake ⟨s, world⟩ with
    | some r => some (r.world, before ++ r.script :: rest)
    | none => stepFirst? table world (before ++ [s]) rest

def step? [Client σ] : Option (Engine σ) :=
  (stepFirst? e.table e.world [] e.scripts).map fun (world, scripts) => { e with world, scripts }

/-- One step of the script at an index, which is woken in a given way if it waits. -/
def stepAt? [Client σ] (index : Nat) (wake : Wake) : Option (Engine σ) := do
  let r ← Run.step? e.table wake ⟨← e.scripts[index]?, e.world⟩
  return { e with world := r.world, scripts := e.scripts.set index r.script }

/-- Takes steps until every script is blocked or finished, `fuel` steps at most. -/
def settleWithin [Client σ] : (fuel : Nat) → Engine σ → Engine σ
  | 0, e => e
  | fuel + 1, e =>
    match e.step? with
    | some e => settleWithin fuel e
    | none => e

/-- The number of steps after which scripts that never wait are left to themselves. -/
def patience : Nat := 10000000

def settle [Client σ] : Engine σ := settleWithin patience e

def nextDeadline? : Option Nat := (e.scripts.filterMap Script.deadline?).min?

def setClock (now : Nat) : Engine σ := { e with world := { e.world with now } }

def publish (event : GameEvent) : Engine σ :=
  { e with world := { e.world with stream := e.world.stream.publish event } }

def script? (name : String) : Option Script := e.scripts.find? fun s => s.name = name

def modify (name : String) (f : Script → Script) : Engine σ :=
  { e with scripts := e.scripts.map fun s => if s.name = name then f s else s }

def stopAll : Engine σ := { e with scripts := e.scripts.map Script.stop }

def clearLogs : Engine σ := { e with scripts := e.scripts.map fun s => { s with log := [] } }

def clearNews : Engine σ :=
  { e with scripts := e.scripts.map fun s => { s with events := [], log := [] } }

end Engine

end Questline
