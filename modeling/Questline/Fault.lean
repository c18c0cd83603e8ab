import Questline.Builtin
import Questline.Text.Basic

/-! What can go wrong with a script, why, and how it is worded. A fault is a cause together with the
line it is blamed on and its severity: a warning is reported and the script goes on, a fatal fault
ends the script. -/
namespace Questline

inductive Severity where
  | fatal
  | warning
deriving Repr, DecidableEq

/-- What the operating system says about a file that cannot be used. -/
inductive DiskError where
  | missing
  | isDirectory
  | notDirectory
  | notText
deriving Repr, DecidableEq

def DiskError.message : DiskError → String
  | missing => "No such file or directory (os error 2)"
  | isDirectory => "Is a directory (os error 21)"
  | notDirectory => "Not a directory (os error 20)"
  | notText => "stream did not contain valid UTF-8"

inductive Cause where
  -- reading scripts and values
  | duplicateLabel (name : String)
  | notNumber (text : String)
  -- variables, jumps and calls
  | specialConflict (name : String)
  | labelUndefined (label : String)
  | returnOutside
  -- the set of commands
  | commandName (name : String)
  | commandReserved (name : String)
  | commandUnknown (line : String)
  | scriptCrashed (name : String)
  -- arguments of commands
  | invalidArguments (command : Builtin)
  | notSeconds (command : Builtin) (text : String)
  | badPattern (pattern : String)
  | hugePattern (pattern : String)
  | nothingPending
  | operandNotNumber (text : String)
  | variableNotNumber (name : String)
  | divisionByZero
  | unknownOperator (operator : String)
  | boundTooLarge (text : String)
  | emptyRange (low high : Nat)
  | notTimer (name : String)
  | timerUndefined (name : String)
  | timerAction (action : String)
  | argumentVanished (position : String)
  -- the client
  | sendFailed (text reason : String)
  | soundMissing (path : String) (error : DiskError)
  | soundFailed (path reason : String)
  | scriptMissing (name : String)
  | runUnavailable (name : String)
  -- files of the command line
  | sourceNotFound (script : String)
  | pathNotFound (path : String)
  | sourceEmpty (path : String)
  | sourceUnreadable (error : DiskError)
  | configUnreadable (error : DiskError)
  | configInvalid
  | globalsUnreadable (error : DiskError)
  | globalsInvalid
  | globalsSchema (schema : String)
  -- anything that a custom command reports
  | other (code message : String)
deriving Repr, DecidableEq

namespace Cause

/-- The code by which programs tell causes apart. -/
def code : Cause → String
  | duplicateLabel _ => "PARSE_DUPLICATE_LABEL"
  | notNumber _ => "VAR_TYPE"
  | specialConflict _ => "VAR_NAME_CONFLICT"
  | labelUndefined _ => "ENGINE_LABEL_UNDEFINED"
  | returnOutside => "ENGINE_RETURN_OUTSIDE_SUBROUTINE"
  | commandName _ => "ENGINE_COMMAND_NAME_INVALID"
  | commandReserved _ => "ENGINE_COMMAND_RESERVED"
  | commandUnknown _ => "ENGINE_COMMAND_UNKNOWN"
  | scriptCrashed _ => "ENGINE_SCRIPT_PANIC"
  | invalidArguments command => "ENGINE_" ++ Text.upperPlain command.keyword ++ "_ARGS"
  | notSeconds _ _ => "ENGINE_ARGUMENT_NUMBER"
  | badPattern _ | hugePattern _ => "ENGINE_MATCH_PATTERN"
  | nothingPending => "ENGINE_MATCHWAIT_EMPTY"
  | operandNotNumber _ => "ENGINE_MATH_OPERAND"
  | variableNotNumber _ => "ENGINE_MATH_NOT_NUMBER"
  | divisionByZero => "ENGINE_MATH_DIVIDE_BY_ZERO"
  | unknownOperator _ => "ENGINE_MATH_OPERATOR"
  | boundTooLarge _ => "ENGINE_RANDOM_ARGS"
  | emptyRange _ _ => "ENGINE_RANDOM_RANGE"
  | notTimer _ => "ENGINE_TIMER_NOT_TIMER"
  | timerUndefined _ => "ENGINE_TIMER_UNDEFINED"
  | timerAction _ => "ENGINE_TIMER_COMMAND"
  | argumentVanished _ => "ENGINE_SHIFT_MISSING"
  | sendFailed _ _ => "ENGINE_SEND_FAILED"
  | soundMissing _ _ => "ENGINE_SOUND_MISSING"
  | soundFailed _ _ => "ENGINE_SOUND_FAILED"
  | scriptMissing _ => "HOST_SCRIPT_MISSING"
  | runUnavailable _ => "HOST_RUN_UNAVAILABLE"
  | sourceNotFound _ | pathNotFound _ => "CLI_SOURCE_NOT_FOUND"
  | sourceEmpty _ => "CLI_SOURCE_EMPTY"
  | sourceUnreadable _ => "CLI_SOURCE_READ"
  | configUnreadable _ => "CLI_CONFIG_READ"
  | configInvalid => "CLI_CONFIG_INVALID"
  | globalsUnreadable _ => "CLI_STATE_READ"
  | globalsInvalid => "CLI_STATE_INVALID"
  | globalsSchema _ => "CLI_STATE_SCHEMA"
  | other code _ => code

def quoted (name : String) : String := "\"" ++ name ++ "\""

def message : Cause → String
  | duplicateLabel name => "Label " ++ quoted name ++ " is already defined."
  | notNumber text => "Value " ++ quoted text ++ " is not a number."
  | specialConflict name => "Cannot overwrite special variable " ++ quoted name ++ "."
  | labelUndefined label => "Label " ++ quoted label ++ " does not exist."
  | returnOutside => "Invalid use of return, not in a subroutine."
  | commandName name => "Command name " ++ quoted name ++ " is not a single word."
  | commandReserved name => "Command " ++ quoted name ++ " is built in and cannot be replaced."
  | commandUnknown line => "Invalid command " ++ quoted line
  | scriptCrashed name => "Script " ++ quoted name ++ " ended unexpectedly."
  | invalidArguments command => "Invalid arguments to " ++ command.keyword ++ "."
  | notSeconds command text =>
    "Invalid argument to " ++ command.keyword ++ ": " ++ quoted text ++
      " is not a number of seconds."
  | badPattern pattern => "Invalid regular expression " ++ quoted pattern ++ ":"
  | hugePattern pattern =>
    "Invalid regular expression " ++ quoted pattern ++
      ": Compiled regex exceeds size limit of 10485760 bytes."
  | nothingPending => "matchwait called with no pending matches."
  | operandNotNumber text => "Operand " ++ quoted text ++ " is not a number."
  | variableNotNumber name => "Variable " ++ quoted name ++ " is not a number."
  | divisionByZero => "Cannot divide by zero."
  | unknownOperator operator => "Unknown math operator " ++ quoted operator ++ "."
  | boundTooLarge text => "Random bound " ++ quoted text ++ " is too large."
  | emptyRange low high =>
    "Invalid random range: " ++ toString low ++ " is greater than " ++ toString high ++ "."
  | notTimer name => "Variable " ++ quoted name ++ " is not a timer."
  | timerUndefined name => "Timer " ++ quoted name ++ " is not defined."
  | timerAction action => "Invalid timer command " ++ quoted action ++ "."
  | argumentVanished position => "Argument " ++ position ++ " vanished while shifting."
  | sendFailed text reason => "Could not send " ++ quoted text ++ ": " ++ reason
  | soundMissing path error =>
    "Sound file " ++ quoted path ++ " could not be opened: " ++ error.message
  | soundFailed path reason => "Could not play " ++ quoted path ++ ": " ++ reason
  | scriptMissing name => "Script " ++ quoted name ++ " not found."
  | runUnavailable name => "Cannot start script " ++ quoted name ++ " while shutting down."
  | sourceNotFound script => "Script does not exist: " ++ script
  | pathNotFound path => "Path does not exist: " ++ path
  | sourceEmpty path => "No .wsl/.cmd files under " ++ path
  | sourceUnreadable error | configUnreadable error | globalsUnreadable error => error.message
  | configInvalid => "The configuration is not valid."
  | globalsInvalid => "The globals file is not valid."
  | globalsSchema schema => "Unsupported globals schema: " ++ schema
  | other _ message => message

/-- The severity that a cause has unless the one who reports it says otherwise. -/
def severity : Cause → Severity
  | invalidArguments .setVariable
  | invalidArguments .deleteVariable
  | invalidArguments .deleteLocal => .warning
  | duplicateLabel _ | returnOutside | commandUnknown _ | nothingPending | timerUndefined _
  | sendFailed _ _ | soundMissing _ _ | soundFailed _ _ => .warning
  | _ => .fatal

end Cause

structure Fault where
  cause : Cause
  line : Option Nat := none
  severity : Severity := cause.severity
deriving Repr, DecidableEq

namespace Fault

def ofCause (cause : Cause) : Fault := { cause }

def code (f : Fault) : String := f.cause.code

def message (f : Fault) : String := f.cause.message

/-- Blames the fault on a line, unless it names one already. -/
def atLine (f : Fault) (line : Nat) : Fault := { f with line := some (f.line.getD line) }

def asWarning (f : Fault) : Fault := { f with severity := .warning }

def isFatal (f : Fault) : Bool := f.severity == .fatal

def display (f : Fault) : String := f.code ++ ": " ++ f.message

end Fault

end Questline
