/-! The commands that every script may use. -/
namespace Questline

inductive Builtin where
  | counter
  | debug
  | debugLevel
  | delay
  | deleteLocal
  | deleteVariable
  | echo
  | otherwise
  | exit
  | gosub
  | goto
  | ifSet (digit : Fin 10)
  | matchText
  | matchPattern
  | matchWait
  | math
  | move
  | nextRoom
  | pause
  | playSound
  | put
  | random
  | returnBack
  | run
  | save
  | setLocal
  | setVariable
  | shift
  | timer
  | wait
  | waitFor
  | waitForPattern
deriving Repr, DecidableEq

namespace Builtin

/-- The keyword of a command, in lower case. -/
def keyword : Builtin → String
  | counter => "counter"
  | debug => "debug"
  | debugLevel => "debuglevel"
  | delay => "delay"
  | deleteLocal => "deletelocalvariable"
  | deleteVariable => "deletevariable"
  | echo => "echo"
  | otherwise => "else"
  | exit => "exit"
  | gosub => "gosub"
  | goto => "goto"
  | ifSet digit => "if_" ++ toString digit.val
  | matchText => "match"
  | matchPattern => "matchre"
  | matchWait => "matchwait"
  | math => "math"
  | move => "move"
  | nextRoom => "nextroom"
  | pause => "pause"
  | playSound => "playsound"
  | put => "put"
  | random => "random"
  | returnBack => "return"
  | run => "run"
  | save => "save"
  | setLocal => "setlocalvariable"
  | setVariable => "setvariable"
  | shift => "shift"
  | timer => "timer"
  | wait => "wait"
  | waitFor => "waitfor"
  | waitForPattern => "waitforre"

def all : List Builtin :=
  [counter, debug, debugLevel, delay, deleteLocal, deleteVariable, echo, otherwise, exit, gosub,
    goto] ++ (List.finRange 10).map ifSet ++
  [matchText, matchPattern, matchWait, math, move, nextRoom, pause, playSound, put, random,
    returnBack, run, save, setLocal, setVariable, shift, timer, wait, waitFor, waitForPattern]

/-- The commands that talk to the game and therefore wait out its round-time. -/
def throttled : List Builtin := [put, move]

end Builtin

end Questline
