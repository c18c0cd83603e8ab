import Questline.Disk
import Questline.Variables

/-! What a script needs from the game client it runs against. -/
namespace Questline

/-- What comes of playing a sound file: it cannot be opened, it cannot be played, or its bytes are
played. -/
inductive SoundOutcome where
  | unopened (error : DiskError)
  | failed (reason : String)
  | played (content : List UInt8)

/-- What comes of playing a file. It is opened first; a directory can be opened, but not read. A
device that refuses to play does so before anything is read. -/
def SoundOutcome.ofFile (d : Disk) (path : String) (refusal : Option String) : SoundOutcome :=
  match d.lookup ⟨path⟩ with
  | .error e => .unopened e
  | .ok entry =>
    match refusal, entry with
    | some reason, _ => .failed reason
    | none, .file content => .played content
    | none, .directory => .failed DiskError.isDirectory.message

/-- A client with state `σ`. Times are those of the common clock. What a script asks for may fail,
and may change the client in any case. -/
class Client (σ : Type) where
  live : σ → (now : Nat) → LiveValue → Option Value
  /-- The seconds of round-time still to wait out. -/
  roundtime : σ → (now : Nat) → Nat
  send : σ → (text : String) → Except String Unit × σ
  run : σ → (name : String) → (arguments : List String) → Except Fault Unit × σ
  sound : σ → (path : String) → SoundOutcome × σ

end Questline
