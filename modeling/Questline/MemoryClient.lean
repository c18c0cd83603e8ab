import Questline.Client

/-! A client without a game behind it, in which everything that a script can meet may be set up. -/
namespace Questline

structure MemoryClient where
  live : Dict Value := .empty
  roundtime : Nat := 0
  /-- The texts that cannot be sent. -/
  refused : List String := []
  /-- The scripts that cannot be run. -/
  absent : List String := []
  isMute : Bool := false
  disk : Disk := {}

namespace MemoryClient

/-- Sends a text and remembers it as the last command. -/
def send (c : MemoryClient) (text : String) : Except String Unit × MemoryClient :=
  if c.refused.contains text then (.error "link down", c)
  else (.ok (), { c with live := c.live.insert LiveValue.lastCommand.name (.text text) })

def run (c : MemoryClient) (name : String) (_ : List String) : Except Fault Unit × MemoryClient :=
  if c.absent.contains name then (.error (Fault.ofCause (.scriptMissing name)), c) else (.ok (), c)

def sound (c : MemoryClient) (path : String) : SoundOutcome × MemoryClient :=
  (.ofFile c.disk path (if c.isMute then some "no device" else none), c)

instance : Client MemoryClient where
  live c _ key := c.live.get? key.name
  roundtime c _ := c.roundtime
  send := send
  run := run
  sound := sound

end MemoryClient

end Questline
