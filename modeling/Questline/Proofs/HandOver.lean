import Questline.Console
import Questline.Proofs.LineBreaks

/-! How a script hands over to another one. `put` ends the script that sends a text with the prefix
of scripts, and the console asks for the script that the words behind the prefix name. Each looks
for the prefix on its own. They agree on every text but the bare prefix, which ends the sender and
names no successor. -/
namespace Questline

namespace Text

theorem afterStart_eq_some {start cs rest : List Char} :
    afterStart? start cs = some rest ↔ cs = start ++ rest := by
  induction start generalizing cs with
  | nil => simp [afterStart?]
  | cons s start ih =>
    cases cs with
    | nil => simp [afterStart?]
    | cons c cs =>
      by_cases same : s = c
      · simp [afterStart?, same, ih]
      · simp [afterStart?, same, Ne.symm same]

theorem wordsChars_eq_nil {cs : List Char} : wordsChars cs = [] ↔ ∀ c ∈ cs, isBlank c = true := by
  induction cs with
  | nil => simp [wordsChars]
  | cons c rest ih =>
    by_cases blank : isBlank c = true
    · simp [wordsChars, blank, ih]
    · have begun : wordsChars (c :: rest) ≠ [] := by
        unfold wordsChars
        rw [if_neg blank]
        split
        · split <;> simp
        · simp
      simp [begun, blank]

/-- What is left of a trimmed text behind a beginning of it holds a word, unless nothing is left. -/
theorem words_of_trimmed {cs start rest : List Char} (trimmed : trimChars cs = start ++ rest) :
    wordsChars rest = [] ↔ rest = [] := by
  rw [wordsChars_eq_nil]
  refine ⟨fun blanks => ?_, fun none => by simp [none]⟩
  have again : trimEndChars (trimChars cs) = trimChars cs :=
    List.rdropWhile_idempotent isBlank (cs.dropWhile isBlank)
  rw [trimmed, trimEndChars_append, if_pos (trimEndChars_blanks blanks)] at again
  have shorter : trimEndChars start <+: start := List.rdropWhile_prefix isBlank start
  have lengths := congrArg List.length again
  have bound := shorter.length_le
  rw [List.length_append] at lengths
  exact List.eq_nil_of_length_eq_zero (by omega)

end Text

open Text

namespace Console

variable (c : Console)

def isSummons (scriptPrefix text : String) : Bool :=
  !scriptPrefix.isEmpty && startsWith text scriptPrefix

theorem isSummons_self {text : String} (filled : text ≠ "") : isSummons text text = true := by
  have itself : afterStart? text.toList text.toList = some [] := afterStart_eq_some.mpr (by simp)
  simp [isSummons, startsWith, itself, filled]

/-- A trimmed text that begins with the prefix asks for a script, unless it is the prefix alone. -/
theorem request_isSome (arguments : String) :
    (c.request? (trim arguments)).isSome ↔
      isSummons c.scriptPrefix (trim arguments) ∧ trim arguments ≠ c.scriptPrefix := by
  unfold request? isSummons
  by_cases none : c.scriptPrefix.isEmpty
  · simp [none]
  · simp only [none, startsWith, strip?, Option.map_map]
    cases after : afterStart? c.scriptPrefix.toList (trim arguments).toList with
    | none => simp
    | some rest =>
      have whole := afterStart_eq_some.mp after
      have trimmed : trimChars arguments.toList = c.scriptPrefix.toList ++ rest := by
        rw [← whole, trim, String.toList_ofList]
      have same : trim arguments = c.scriptPrefix ↔ rest = [] := by
        rw [← String.toList_inj, whole]
        simp
      have left := words_of_trimmed trimmed
      simp only [Option.map_some, Function.comp_apply, words, String.toList_ofList, ne_eq, same,
        ← left]
      cases wordsChars rest <;> simp

/-- A console that works and is listened to queues what a text asks for. -/
theorem send_requests (working : c.isBroken = false) (heard : c.isClosed = false) (text : String) :
    (c.send text).1 = .ok () ∧
      (c.send text).2.requests = c.requests ++ (c.request? text).toList := by
  have same : (c.setLive .lastCommand (.text text)).request? text = c.request? text := rfl
  unfold send
  simp only [working, Bool.false_eq_true, if_false, same]
  cases c.request? text with
  | none => simp [setLive]
  | some request => simp [run, setLive, heard, Except.mapError]

end Console

namespace Commands

section

variable {r : Run Console} {arguments : String}

theorem put_of_ok (sent : (r.world.client.send (trim arguments)).1 = .ok ()) :
    (put r arguments).2 = .done ∧
      (put r arguments).1.script.state =
        (if Console.isSummons r.script.scriptPrefix (trim arguments) then .stopped
          else r.script.state) ∧
      (put r arguments).1.world.client = (r.world.client.send (trim arguments)).2 := by
  obtain ⟨client, answer⟩ :
      ∃ client, Client.send r.world.client (trim arguments) = (.ok (), client) :=
    ⟨_, Prod.ext sent rfl⟩
  have after : (r.world.client.send (trim arguments)).2 = client := congrArg Prod.snd answer
  let noted : Run Console :=
    { r.note (.send (trim arguments)) with world := { r.world with client } }
  have form : put r arguments =
      (if Console.isSummons r.script.scriptPrefix (trim arguments) then noted.stop else noted,
        .done) := by
    simp only [put, send, answer]
    rfl
  rw [form, after]
  cases Console.isSummons r.script.scriptPrefix (trim arguments) <;> exact ⟨rfl, rfl, rfl⟩

theorem put_of_error {reason : String}
    (failed : (r.world.client.send (trim arguments)).1 = .error reason) :
    (put r arguments).2 = .fault (Fault.ofCause (.sendFailed (trim arguments) reason)) ∧
      (put r arguments).1.script.state = r.script.state := by
  obtain ⟨client, answer⟩ :
      ∃ client, Client.send r.world.client (trim arguments) = (.error reason, client) :=
    ⟨_, Prod.ext failed rfl⟩
  simp only [put, send, answer, and_self]

theorem put_stops_iff (active : r.script.isActive = true)
    (sent : (r.world.client.send (trim arguments)).1 = .ok ()) :
    (put r arguments).1.script.state = .stopped ↔
      Console.isSummons r.script.scriptPrefix (trim arguments) = true := by
  have running : r.script.state ≠ .stopped := by
    intro stopped
    simp [Script.isActive, stopped] at active
  rw [(put_of_ok sent).2.1]
  split
  · next summons => simp [summons]
  · next other => simp [running, other]

theorem put_asks_iff (shared : r.world.client.scriptPrefix = r.script.scriptPrefix)
    (working : r.world.client.isBroken = false) (heard : r.world.client.isClosed = false) :
    (∃ request, (put r arguments).1.world.client.requests = r.world.client.requests ++ [request]) ↔
      Console.isSummons r.script.scriptPrefix (trim arguments) = true ∧
        trim arguments ≠ r.script.scriptPrefix := by
  obtain ⟨sent, requests⟩ := r.world.client.send_requests working heard (trim arguments)
  rw [(put_of_ok sent).2.2, requests, ← shared, ← Console.request_isSome]
  cases r.world.client.request? (trim arguments) <;> simp

end

/-- `put` and the console agree on every text but the bare prefix. In a session that has the same
prefix for both, on a console that works and is listened to, `put` stops an active script if and
only if its text makes the console ask for another script. The bare prefix stops the script as well,
and nothing is asked for. Where sending fails, `put` warns and the script is not stopped. -/
theorem put_hands_over_unless_bare (r : Run Console) (arguments : String)
    (active : r.script.isActive = true) :
    let q := (put r arguments).1
    (r.world.client.scriptPrefix = r.script.scriptPrefix → r.world.client.isBroken = false →
      r.world.client.isClosed = false →
      (put r arguments).2 = .done ∧
      (trim arguments ≠ r.script.scriptPrefix ∨ r.script.scriptPrefix = "" →
        (q.script.state = .stopped ↔
          ∃ request, q.world.client.requests = r.world.client.requests ++ [request])) ∧
      (trim arguments = r.script.scriptPrefix → r.script.scriptPrefix ≠ "" →
        q.script.state = .stopped ∧ q.world.client.requests = r.world.client.requests)) ∧
    ∀ reason, (r.world.client.send (trim arguments)).1 = .error reason →
      (put r arguments).2 = .fault (Fault.ofCause (.sendFailed (trim arguments) reason)) ∧
        q.script.state = r.script.state := by
  refine ⟨fun shared working heard => ?_, fun reason failed => put_of_error failed⟩
  obtain ⟨sent, requests⟩ := r.world.client.send_requests working heard (trim arguments)
  have stops := put_stops_iff active sent
  refine ⟨(put_of_ok sent).1, fun usual => ?_, fun bare filled => ?_⟩
  · rw [stops, put_asks_iff shared working heard]
    rcases usual with other | none
    · simp [other]
    · simp [Console.isSummons, none]
  · have silent : r.world.client.request? (trim arguments) = none := by
      rw [← Option.not_isSome_iff_eq_none, Console.request_isSome, shared]
      exact fun both => both.2 bare
    rw [stops, (put_of_ok sent).2.2, requests, silent, bare]
    exact ⟨Console.isSummons_self filled, List.append_nil _⟩

/-- A script in a session whose prefix of scripts is given, on a console that may be broken. -/
def envoy (scriptPrefix : String) (isBroken : Bool) : Run Console :=
  ⟨Script.create { scriptPrefix } "envoy" (.parse "put !  hunt north") [],
    { client := { scriptPrefix, isBroken } }⟩

theorem put_hands_over_unless_bare_envoy :
    ((put (envoy "!" false) " !  hunt north").1.script.state = .stopped ∧
      ∃ request, (put (envoy "!" false) " !  hunt north").1.world.client.requests = [request]) ∧
    (put (envoy "!" false) "look !").1.script.state ≠ .stopped ∧
    (put (envoy "!" true) "!hunt").1.script.state = .running := by
  have agree := fun arguments =>
    (put_hands_over_unless_bare (envoy "!" false) arguments rfl).1 rfl rfl rfl
  have quiet : (put (envoy "!" false) "look !").1.world.client.requests = [] := by decide +kernel
  have stopped : (put (envoy "!" false) " !  hunt north").1.script.state = .stopped := by
    decide +kernel
  refine ⟨⟨stopped, ((agree " !  hunt north").2.1 (.inl (by decide))).mp stopped⟩, ?_, ?_⟩
  · rw [ne_eq, (agree "look !").2.1 (.inl (by decide)), quiet]
    rintro ⟨request, asked⟩
    cases asked
  · exact ((put_hands_over_unless_bare (envoy "!" true) "!hunt" rfl).2 "closed" rfl).2

theorem bare_prefix_stops_for_nothing :
    ¬ ∀ (r : Run Console) (arguments : String), r.script.isActive = true →
      r.world.client.scriptPrefix = r.script.scriptPrefix → r.world.client.isBroken = false →
      r.world.client.isClosed = false →
      ((put r arguments).1.script.state = .stopped ↔ ∃ request,
        (put r arguments).1.world.client.requests = r.world.client.requests ++ [request]) := by
  intro agree
  obtain ⟨request, asked⟩ :=
    (agree (envoy "." false) "." rfl rfl rfl rfl).mp (by decide +kernel)
  have none : (put (envoy "." false) ".").1.world.client.requests = [] := by decide +kernel
  rw [none] at asked
  cases asked

end Commands

end Questline
