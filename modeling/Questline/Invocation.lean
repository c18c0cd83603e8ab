import Questline.Number.Numeral
import Questline.Path

/-! What the arguments of the command line ask for. -/
namespace Questline

inductive Setting where
  | globals
  | config
  | scriptPrefix
  | seed
deriving Repr, DecidableEq

namespace Setting

def all : List Setting := [globals, config, scriptPrefix, seed]

def name : Setting → String
  | globals => "globals"
  | config => "config"
  | scriptPrefix => "prefix"
  | seed => "seed"

def ofName? (name : String) : Option Setting := all.find? fun s => s.name = name

end Setting

structure RunOptions where
  globals : Option Path := none
  config : Option Path := none
  scriptPrefix : Option String := none
  debug : Bool := false
  seed : Option UInt32 := none

namespace RunOptions

/-- A seed is a whole number of 32 bits, whose sign may be written. -/
def seed? (text : String) : Option UInt32 := do
  let (negative, digits) := Number.takeSign text.toList
  let value ← Number.readNat? (String.ofList digits)
  if (negative && 0 < value) || Nat.pow 2 32 ≤ value then none else some (UInt32.ofNat value)

/-- Gives a setting a value, which each may be given once. -/
def set? (o : RunOptions) (setting : Setting) (value : String) : Option RunOptions :=
  match setting with
  | .globals => if o.globals.isSome then none else some { o with globals := some ⟨value⟩ }
  | .config => if o.config.isSome then none else some { o with config := some ⟨value⟩ }
  | .scriptPrefix =>
    if o.scriptPrefix.isSome then none else some { o with scriptPrefix := some value }
  | .seed =>
    if o.seed.isSome then none
    else (seed? value).map fun seed => { o with seed := some seed }

end RunOptions

inductive Invocation where
  | run (options : RunOptions) (script : String) (arguments : List String)
  | check (path : Path)
  | help

namespace Invocation

/-- From here on no argument is an option. -/
def endOfOptions : String := "--"

def helpName : String := "help"

def debugName : String := "debug"

/-- The name of an option and the value attached to it. -/
def option? (argument : String) : Option (String × Option String) := do
  let rest := (← Text.strip? argument "--").toList
  let value? := match rest.dropWhile (· ≠ '=') with
    | _ :: value => some (String.ofList value)
    | [] => none
  if rest.isEmpty then none else some (String.ofList (rest.takeWhile (· ≠ '=')), value?)

/-- Whether an argument looks like options of one letter. -/
def isCluster (argument : String) : Bool :=
  Text.startsWith argument "-" && !Text.startsWith argument "--" && argument ≠ "-"

def isHyphened (argument : String) : Bool := Text.startsWith argument "-" && argument ≠ "-"

/-- Whether an argument looks like an option, but is none. The letter for help is the only one. -/
def isForeign (argument : String) : Bool :=
  match option? argument with
  | some (name, _) => name ≠ helpName && name ≠ debugName && (Setting.ofName? name).isNone
  | none => isCluster argument && (argument.toList.drop 1).any (· ≠ 'h')

/-- Whether an argument can be the value of the option in front of it. Behind the script this
includes what looks like an option and is none. -/
def mayBeValue (behindScript : Bool) (argument : String) : Bool :=
  !isHyphened argument || (behindScript && isForeign argument)

/-- The script and its arguments, where no option follows. -/
def ofLiteral? (options : RunOptions) (script? : Option String) (rest : List String) :
    Option Invocation :=
  match script?, rest with
  | some script, arguments => some (run options script arguments)
  | none, script :: arguments => some (run options script arguments)
  | none, [] => none

/-- Reads the arguments of a run. Options stand before the script or between it and its first
argument; from that argument on everything is taken literally. -/
def readRun? (options : RunOptions) (script? : Option String) : List String → Option Invocation
  | [] => ofLiteral? options script? []
  | argument :: rest =>
    if argument = endOfOptions then ofLiteral? options script? rest
    else if !isHyphened argument then
      if script?.isSome then ofLiteral? options script? (argument :: rest)
      else readRun? options (some argument) rest
    else if isForeign argument then
      if script?.isSome then ofLiteral? options script? (argument :: rest)
      else if Text.startsWith argument "-h" then some help
      else none
    else
      match option? argument with
      | none => some help
      | some (name, value?) =>
        if name = helpName then if value?.isNone then some help else none
        else if name = debugName then
          if value?.isSome || options.debug then none
          else readRun? { options with debug := true } script? rest
        else
          match Setting.ofName? name, value?, rest with
          | some setting, some value, rest =>
            match options.set? setting value with
            | some options => readRun? options script? rest
            | none => none
          | some setting, none, value :: rest =>
            match options.set? setting value with
            | some options =>
              if mayBeValue script?.isSome value then readRun? options script? rest else none
            | none => none
          | _, _, _ => none

def readCheck? : List String → Option Invocation
  | [] => none
  | argument :: rest =>
    if argument = endOfOptions then
      match rest with
      | [path] => some (check ⟨path⟩)
      | _ => none
    else if isHyphened argument then
      if argument = "--help" || Text.startsWith argument "-h" then some help else none
    else
      match rest with
      | [] | ["--"] => some (check ⟨argument⟩)
      | next :: _ => if next = "--help" || Text.startsWith next "-h" then some help else none

/-- What the arguments ask for, if they are accepted. -/
def read? : List String → Option Invocation
  | "run" :: rest => readRun? {} none rest
  | "check" :: rest => readCheck? rest
  | "help" :: _ | "--help" :: _ | "-h" :: _ => some help
  | _ => none

end Invocation

end Questline
