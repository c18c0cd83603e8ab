import Questline.Proofs.Homes
import Questline.Proofs.RoundTrip

/-! Global variables outlive the session. A file that was written is found again by the path under
which it was written, whatever that path looks like. A store writes its file at every change, so the
file always holds what the store does, and whoever opens it later gets just that. -/
namespace Questline

namespace Disk

theorem entry_set_other (d : Disk) (entry : Entry) {names other : List String}
    (different : other ≠ names) : Disk.entry? (d.set names entry) other = d.entry? other := by
  have skipped : ∀ es : List (List String × Entry),
      (es.filter (fun e => e.1 ≠ names) ++ [(names, entry)]).find? (fun e => e.1 = other) =
        es.find? fun e => e.1 = other := by
    intro es
    induction es with
    | nil => simp [Ne.symm different]
    | cons e rest ih =>
      by_cases same : e.1 = names
      · simp [same, Ne.symm different] at ih ⊢
        exact ih
      · by_cases here : e.1 = other <;> simp_all
  simp only [set, entry?, skipped]

theorem entry_set_self {d : Disk} {names : List String} (entry : Entry)
    (free : d.entry? names ≠ some .directory) :
    Disk.entry? (d.set names entry) names = some entry := by
  have outside : names.isPrefixOf d.home = false := by
    cases inside : names.isPrefixOf d.home with
    | false => rfl
    | true => simp [inside, entry?] at free
  have gone : (d.entries.filter fun e => e.1 ≠ names).find? (fun e => e.1 = names) = none := by
    simp
  simp only [set, entry?, outside, List.find?_append, gone]
  simp

structure Keeps (d d' : Disk) : Prop where
  home : d'.home = d.home
  directories : ∀ names, d.entry? names = some .directory → d'.entry? names = some .directory

theorem Keeps.refl (d : Disk) : Keeps d d := ⟨rfl, fun _ here => here⟩

theorem Keeps.trans {d d' d'' : Disk} (first : Keeps d d') (second : Keeps d' d'') :
    Keeps d d'' :=
  ⟨second.home.trans first.home, fun names here =>
    second.directories names (first.directories names here)⟩

theorem keeps_set {d : Disk} {names : List String} (entry : Entry)
    (free : d.entry? names ≠ some .directory) : Keeps d (d.set names entry) := by
  refine ⟨rfl, fun other here => ?_⟩
  have different : other ≠ names := by
    intro same
    exact free (same ▸ here)
  rw [entry_set_other d entry different, here]

/-- The directories on a way that was made lead to its end. -/
theorem makeWay_leads {d d' : Disk} {place place' : List String} {parts : List PathPart}
    (made : d.makeWay place parts = .ok (d', place')) (here : d.entry? place = some .directory) :
    Keeps d d' ∧ d'.entry? place' = some .directory ∧
      ∀ d'' rest, Keeps d' d'' → d''.walk place (parts ++ rest) = d''.walk place' rest := by
  induction parts generalizing d place with
  | nil =>
    cases made
    exact ⟨.refl _, here, fun _ _ _ => rfl⟩
  | cons part parts ih =>
    have next : ∀ {d₁ : Disk}, Keeps d d₁ →
        d₁.makeWay (follow place part) parts = .ok (d', place') →
        d₁.entry? (follow place part) = some .directory →
        Keeps d d' ∧ d'.entry? place' = some .directory ∧ ∀ d'' rest, Keeps d' d'' →
          d''.walk place (part :: parts ++ rest) = d''.walk place' rest := by
      intro d₁ kept further there
      obtain ⟨later, arrived, leads⟩ := ih further there
      refine ⟨kept.trans later, arrived, fun d'' rest keeps => ?_⟩
      have start := (kept.trans (later.trans keeps)).directories place here
      rw [List.cons_append, walk, start]
      exact leads d'' rest keeps
    simp only [makeWay] at made
    split at made
    · next there => exact next (.refl d) made there
    · cases made
    · next missing =>
      have free : d.entry? (follow place part) ≠ some .directory := by rw [missing]; simp
      exact next (keeps_set _ free) made (entry_set_self _ free)

theorem parts_of_fileName {p : Path} {name : String} (named : p.fileName? = some name) :
    p.parts = p.parts.dropLast ++ [PathPart.normal name] := by
  unfold Path.fileName? at named
  split at named
  · next last =>
    cases named
    obtain ⟨front, whole⟩ := List.getLast?_eq_some_iff.mp last
    rw [whole, List.dropLast_concat]
  · cases named

theorem text_of_fileName {p : Path} {name : String} (named : p.fileName? = some name) :
    p.text.isEmpty = false := by
  obtain ⟨text⟩ := p
  cases empty : text.isEmpty with
  | false => rfl
  | true =>
    have nothing : Path.fileName? ⟨""⟩ = none := by decide +kernel
    rw [String.isEmpty_iff.mp empty, nothing] at named
    cases named

theorem entry_home (d : Disk) : d.entry? d.home = some .directory := by
  unfold entry?
  simp

theorem writeAt_ok {d d' : Disk} {names : List String} {content : List UInt8}
    (written : d.writeAt names content = .ok d') :
    d.entry? names ≠ some .directory ∧ d' = d.set names (.file content) := by
  unfold writeAt at written
  split at written
  · cases written
  · next free =>
    cases written
    exact ⟨free, rfl⟩

theorem lookup_write {d d' : Disk} {p : Path} {content : List UInt8}
    (written : d.write p content = .ok d') : d'.lookup p = .ok (.file content) := by
  unfold write at written
  split at written
  · cases written
  next name named =>
  split at written
  · cases written
  next file =>
  cases made : d.makeWay d.home p.parts.dropLast with
  | error e => rw [made] at written; cases written
  | ok pair =>
    obtain ⟨d₁, place⟩ := pair
    rw [made] at written
    have last : d₁.writeAt (place ++ [name]) content = .ok d' := written
    obtain ⟨free, rfl⟩ := writeAt_ok last
    obtain ⟨kept, arrived, leads⟩ := makeWay_leads made (entry_home d)
    have keeps := keeps_set (.file content) free
    have steps : steps p = p.parts.dropLast ++ [PathPart.normal name] := by
      rw [Disk.steps, if_neg file, List.append_nil]
      exact parts_of_fileName named
    rw [lookup, text_of_fileName named, steps, keeps.home, kept.home]
    simp only [Bool.false_eq_true, if_false]
    rw [leads _ _ keeps, walk, keeps.directories place arrived]
    simp [walk, follow, entry_set_self _ free]

end Disk

namespace GlobalsFile

theorem load_of_lookup {d : Disk} {p : Path} {values : Dict String}
    (ascends : Dict.Ascends values.entries)
    (stored : d.lookup p = .ok (.file (Text.Utf8.encode (render values)))) :
    load d p = .ok values := by
  have present : d.exists? p = true := by rw [Disk.exists?, stored]; rfl
  have text : d.readText p = .ok (render values) := by
    rw [Disk.readText, Disk.read, stored]
    simp [Text.Utf8.decode_encode]
  simp [load, present, text, parse_render ascends]

theorem ascends_of_parse {text version : String} {values : Dict String}
    (parsed : parse? text = some (version, values)) : Dict.Ascends values.entries := by
  simp only [parse?, Option.bind_eq_bind, Option.bind_eq_some_iff] at parsed
  obtain ⟨_, _, _, _, made⟩ := parsed
  split at made
  · simp only [Option.bind_eq_some_iff] at made
    obtain ⟨_, _, entries, _, same⟩ := made
    cases same
    exact Dict.ascends_ofList entries
  · cases made

theorem ascends_of_load {d : Disk} {p : Path} {values : Dict String}
    (loaded : load d p = .ok values) : Dict.Ascends values.entries := by
  unfold load at loaded
  split at loaded
  · cases loaded
    exact List.Pairwise.nil
  split at loaded
  · cases loaded
  split at loaded
  · cases loaded
  next parsed =>
  split at loaded
  · cases loaded
    exact ascends_of_parse parsed
  · cases loaded

end GlobalsFile

namespace FileStore

inductive Change where
  | set (name value : String)
  | remove (name : String)

/-- A store together with the disk that holds its file, after a change. -/
def changed (state : FileStore × Disk) : Change → FileStore × Disk
  | .set name value => state.1.set state.2 name value
  | .remove name => state.1.remove state.2 name

def after (state : FileStore × Disk) (changes : List Change) : FileStore × Disk :=
  changes.foldl changed state

/-- Whether a change that is to be written can be written. -/
def written (state : FileStore × Disk) (change : Change) : Bool :=
  let globals := (changed state change).1.globals
  globals.revision = state.1.globals.revision ||
    (state.2.write state.1.path (Text.Utf8.encode (GlobalsFile.render globals.values))).isOk

/-- Whether all changes, one after the other, can be written. -/
def allWritten (state : FileStore × Disk) : List Change → Bool
  | [] => true
  | change :: rest => written state change && allWritten (changed state change) rest

/-- What names stand for after a change. -/
def Change.apply (meaning : String → Option String) : Change → String → Option String
  | set name value => fun other => if other = name then some value else meaning other
  | remove name => fun other => if other = name then none else meaning other

/-- The file holds what the store does. -/
structure Kept (state : FileStore × Disk) : Prop where
  ascends : Dict.Ascends state.1.globals.values.entries
  stored : GlobalsFile.load state.2 state.1.path = .ok state.1.globals.values

theorem kept_of_load {d : Disk} {path : Path} {s : FileStore} (opened : load d path = .ok s) :
    Kept (s, d) ∧ s.path = path := by
  simp only [load] at opened
  cases loaded : GlobalsFile.load d path with
  | error e => rw [loaded] at opened; cases opened
  | ok values =>
    rw [loaded] at opened
    cases opened
    exact ⟨⟨GlobalsFile.ascends_of_load loaded, loaded⟩, rfl⟩

theorem load_of_kept {state : FileStore × Disk} (kept : Kept state) :
    load state.2 state.1.path =
      .ok { path := state.1.path, globals := { values := state.1.globals.values } } := by
  rw [load, kept.stored]
  rfl

theorem kept_update {s : FileStore} {d : Disk} (kept : Kept (s, d)) {globals : Globals}
    (ascends : Dict.Ascends globals.values.entries)
    (same : globals.revision = s.globals.revision → globals = s.globals)
    (succeeds : globals.revision = s.globals.revision ∨
      (d.write s.path (Text.Utf8.encode (GlobalsFile.render globals.values))).isOk = true) :
    Kept (s.update d globals) := by
  by_cases silent : globals.revision = s.globals.revision
  · have unchanged : s.update d globals = (s, d) := by
      rw [update, if_pos silent, same silent]
    rw [unchanged]
    exact kept
  · have wrote := succeeds.resolve_left silent
    refine ⟨ascends, ?_⟩
    simp only [update, if_neg silent, GlobalsFile.save]
    cases result : d.write s.path (Text.Utf8.encode (GlobalsFile.render globals.values)) with
    | error e => rw [result] at wrote; cases wrote
    | ok d' => exact GlobalsFile.load_of_lookup ascends (Disk.lookup_write result)

theorem kept_changed {state : FileStore × Disk} (kept : Kept state) {change : Change}
    (succeeds : written state change = true) : Kept (changed state change) := by
  obtain ⟨s, d⟩ := state
  simp only [written, Bool.or_eq_true, decide_eq_true_eq] at succeeds
  cases change with
  | set name value =>
    refine kept_update kept (Dict.ascends_place kept.ascends name value) ?_ succeeds
    intro same
    simp [Globals.set] at same
  | remove name =>
    refine kept_update kept ?_ ?_ succeeds
    · unfold Globals.remove
      split
      · exact kept.ascends.filter _
      · exact kept.ascends
    · unfold Globals.remove
      split
      · intro same
        simp at same
      · exact fun _ => rfl

theorem path_changed (state : FileStore × Disk) (change : Change) :
    (changed state change).1.path = state.1.path := by
  cases change <;> rfl

theorem get_changed (state : FileStore × Disk) (change : Change) :
    (changed state change).1.get? = change.apply state.1.get? := by
  funext other
  cases change with
  | set name value => exact Globals.get?_set _ _ _ _
  | remove name => exact Globals.get?_remove _ _ _

theorem after_kept {state : FileStore × Disk} (kept : Kept state) {changes : List Change}
    (succeed : allWritten state changes = true) :
    Kept (after state changes) ∧ (after state changes).1.path = state.1.path ∧
      (after state changes).1.get? = changes.foldl Change.apply state.1.get? := by
  induction changes generalizing state with
  | nil => exact ⟨kept, rfl, rfl⟩
  | cons change rest ih =>
    simp only [allWritten, Bool.and_eq_true] at succeed
    obtain ⟨last, path, meaning⟩ := ih (kept_changed kept succeed.1) succeed.2
    rw [path_changed] at path
    rw [get_changed] at meaning
    exact ⟨last, path, meaning⟩

/-- Whatever is set and removed, as long as the file can be written, a store that is opened anew on
it holds exactly the variables that the old one does, and these are what the changes made of those
that were there. -/
theorem globals_survive_restart {d : Disk} {path : Path} {s : FileStore}
    (opened : load d path = .ok s) (changes : List Change)
    (succeed : allWritten (s, d) changes = true) :
    ∃ s', load (after (s, d) changes).2 path = .ok s' ∧
      s'.globals.values = (after (s, d) changes).1.globals.values ∧
      s'.get? = changes.foldl Change.apply s.get? := by
  obtain ⟨kept, rfl⟩ := kept_of_load opened
  obtain ⟨last, path, meaning⟩ := after_kept kept succeed
  have again := load_of_kept last
  rw [path] at again
  exact ⟨_, again, rfl, meaning⟩

def archive : Disk :=
  .ofFiles [("kept/g.json", Text.Utf8.encode (GlobalsFile.render (.ofList [("weapon", "sword")])))]

def rewording : List Change :=
  [.set "say \"hi\"" "\\ \x00\x1f\t\x7f", .set "" "", .set "🗡" "𝔘\u0085", .remove "absent",
    .remove "weapon"]

theorem globals_survive_restart_archive :
    ∃ s s', load archive ⟨"kept/../kept/g.json"⟩ = .ok s ∧ s.get? "weapon" = some "sword" ∧
      allWritten (s, archive) rewording = true ∧
      load (after (s, archive) rewording).2 ⟨"kept/../kept/g.json"⟩ = .ok s' ∧
      s'.get? "say \"hi\"" = some "\\ \x00\x1f\t\x7f" ∧ s'.get? "" = some "" ∧
      s'.get? "🗡" = some "𝔘\u0085" ∧ s'.get? "weapon" = none := by
  have facts : (load archive ⟨"kept/../kept/g.json"⟩).toOption.map (fun s =>
      (s.get? "weapon", allWritten (s, archive) rewording)) = some (some "sword", true) := by
    decide +kernel
  cases opened : load archive ⟨"kept/../kept/g.json"⟩ with
  | error f => rw [opened] at facts; cases facts
  | ok s =>
    rw [opened] at facts
    obtain ⟨weapon, succeed⟩ := Prod.mk.inj (Option.some.inj facts)
    obtain ⟨s', again, _, meaning⟩ := globals_survive_restart opened rewording succeed
    refine ⟨s, s', rfl, weapon, succeed, again, ?_⟩
    simp [meaning, rewording, Change.apply]

end FileStore

end Questline
