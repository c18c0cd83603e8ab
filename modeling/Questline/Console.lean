import Questline.Client
import Questline.Script.State

/-! A client on a terminal. Game output comes in line by line, and some lines tell about the state
of the game. What scripts send and echo goes out as a transcript, and scripts that are to be run are
queued for whoever looks after them. -/
namespace Questline

/-- What a line of game output tells about the state of the game. -/
inductive Notice where
  | roundtime (seconds : Nat)
  | roomTitle (title : String)
  | roomExits (exits : String)
deriving Repr, DecidableEq

namespace Notice

/-- Seconds in plain digits, of 32 bits at most. What follows the digits does not matter. -/
def roundtime? (line : String) : Option Notice := do
  let rest ← Text.strip? line "Roundtime:"
  let digits := (rest.toList.dropWhile Text.isBlank).takeWhile Text.isPlainDigit
  let seconds ← Number.readNat? (String.ofList digits)
  if seconds < Nat.pow 2 32 then some (roundtime seconds) else none

/-- A title between square brackets, which fill the line. -/
def roomTitle? (line : String) : Option Notice :=
  match line.toList with
  | '[' :: rest =>
    match rest.reverse with
    | ']' :: inner =>
      let title := Text.trim (String.ofList inner.reverse)
      if title.isEmpty then none else some (roomTitle title)
    | _ => none
  | _ => none

def roomExits? (line : String) : Option Notice := do
  let rest ← (Text.strip? line "Obvious paths:").or (Text.strip? line "Obvious exits:")
  return roomExits (String.ofList ((Text.trim rest).toList.reverse.dropWhile (· = '.')).reverse)

def read? (line : String) : Option Notice :=
  (roundtime? line).or ((roomTitle? line).or (roomExits? line))

end Notice

structure RunRequest where
  name : String
  arguments : List String
deriving Repr, DecidableEq

structure Console where
  /-- Sending a text that starts with this one asks for a script to be run. -/
  scriptPrefix : String := ""
  live : Dict Value := .empty
  roundtimeEnd : Option Nat := none
  requests : List RunRequest := []
  /-- Whether nobody takes requests any more. -/
  isClosed : Bool := false
  /-- Whether nothing can be written any more. -/
  isBroken : Bool := false
  disk : Disk := {}
  /-- The files that were looked for in vain. -/
  sought : List Path := []

namespace Console

variable (c : Console)

/-! ### Game output -/

/-- A line of this text alone is a prompt. -/
def promptText : String := ">"

def stripEnd (raw : String) : String :=
  String.ofList (raw.toList.reverse.dropWhile fun ch => ch = '\r' || ch = '\n').reverse

def setLive (key : LiveValue) (value : Value) : Console :=
  { c with live := c.live.insert key.name value }

def heed (now : Nat) : Notice → Console
  | .roundtime seconds => { c with roundtimeEnd := some (now + seconds * 1000) }
  | .roomTitle title => c.setLive .roomTitle (.text title)
  | .roomExits exits => c.setLive .roomExits (.text exits)

/-- Takes in one line of game output and gives the events it stands for. -/
def ingest (now : Nat) (raw : String) : List GameEvent × Console :=
  let line := stripEnd raw
  if Text.trim line = promptText then ([.prompt], c)
  else
    match Notice.read? line with
    | none => ([.line line], c)
    | some notice =>
      let isRoom := match notice with
        | .roomExits _ => true
        | _ => false
      (.line line :: if isRoom then [.roomChange] else [], c.heed now notice)

/-! ### What scripts see and do -/

/-- The seconds of round-time still to wait out, a begun one counted in full. -/
def roundtime (now : Nat) : Nat := (c.roundtimeEnd.getD 0 - now + 999) / 1000

def liveValue (now : Nat) (key : LiveValue) : Option Value :=
  if key = .roundTime then some (.number (Float.ofNat (c.roundtime now))) else c.live.get? key.name

def run (name : String) (arguments : List String) : Except Fault Unit × Console :=
  if c.isClosed then (.error (Fault.ofCause (.runUnavailable name)), c)
  else (.ok (), { c with requests := c.requests ++ [⟨name, arguments⟩] })

/-- The script that a sent text asks for: the words behind the prefix. -/
def request? (text : String) : Option RunRequest :=
  if c.scriptPrefix.isEmpty then none
  else
    match (Text.strip? text c.scriptPrefix).map Text.words with
    | some (name :: arguments) => some ⟨name, arguments⟩
    | _ => none

/-- Sends a text and remembers it as the last command. A text with the prefix asks for a script. -/
def send (text : String) : Except String Unit × Console :=
  if c.isBroken then (.error "closed", c)
  else
    let c := c.setLive .lastCommand (.text text)
    match c.request? text with
    | none => (.ok (), c)
    | some request =>
      let (result, c) := c.run request.name request.arguments
      (result.mapError Fault.message, c)

/-- Plays a sound, which is read and not heard. -/
def sound (path : String) : SoundOutcome × Console :=
  let outcome := SoundOutcome.ofFile c.disk path none
  (outcome, match outcome with
    | .unopened _ => { c with sought := c.sought ++ [⟨path⟩] }
    | _ => c)

instance : Client Console where
  live := liveValue
  roundtime := roundtime
  send := send
  run := run
  sound := sound

/-! ### The transcript -/

/-- A line of the transcript. A mark tells commands and echoes apart. -/
def transcriptLine (mark text : String) : String := mark ++ " " ++ text ++ "\n"

def writes (effect : Effect) : String :=
  if c.isBroken then ""
  else
    match effect with
    | .send text => transcriptLine ">" text
    | .echo text | .trace text => transcriptLine "|" text
    | _ => ""

end Console

end Questline
