import Mathlib.Data.List.Nodup
import Mathlib.Data.List.Perm.Subperm
import Questline.Proofs.Homes

/-! How `shift` walks through the arguments of a script. Each time the texts move on by one
position, an empty one follows at the end, and `0` becomes what is left. The positions among the
locals and those among the special variables are shifted by the same loop, which only sees how
positions are looked up and set. -/
namespace Questline

/-! ### Dictionaries -/

namespace Dict

variable {α : Type}

theorem find_isSome_iff {name : String} {entries : List (String × α)} :
    (find name entries).isSome ↔ name ∈ entries.map Prod.fst := by
  induction entries with
  | nil => simp [find]
  | cons e rest ih =>
    by_cases same : e.1 = name
    · simp [find, same]
    · simpa [find, same, Ne.symm same] using ih

theorem length_le_size {d : Dict α} {names : List String} (distinct : names.Nodup)
    (found : ∀ name ∈ names, (d.get? name).isSome) : names.length ≤ d.size := by
  have among : names ⊆ d.entries.map Prod.fst :=
    fun name member => find_isSome_iff.mp (found name member)
  simpa [size] using (distinct.subperm among).length_le

def setTexts (wrap : Value → α) (d : Dict α) (texts : List (String × String)) : Dict α :=
  texts.foldl (fun d text => d.insert text.1 (wrap (.text text.2))) d

theorem get?_setTexts {wrap : Value → α} {texts : List (String × String)} {name value : String}
    (agreed : ∀ text ∈ texts, text.1 = name → text.2 = value) (d : Dict α) :
    (d.setTexts wrap texts).get? name =
      if name ∈ texts.map Prod.fst then some (wrap (.text value)) else d.get? name := by
  induction texts generalizing d with
  | nil => rfl
  | cons text rest ih =>
    obtain ⟨first, others⟩ := List.forall_mem_cons.mp agreed
    have later : (d.setTexts wrap (text :: rest)).get? name = _ := ih others _
    rw [later, get?_insert]
    grind

end Dict

theorem Globals.contains_remove {g : Globals} {name other : String}
    (absent : g.contains other = false) : (g.remove name).contains other = false := by
  rw [contains, Bool.or_eq_false_iff] at absent ⊢
  constructor
  · change ((g.remove name).get? other).isSome = false
    rw [get?_remove]
    split
    · rfl
    · exact absent.1
  · unfold remove
    split <;> exact absent.2

/-! ### The loop -/

theorem toString_inj {m n : Nat} : toString m = toString n ↔ m = n := by
  refine ⟨fun same => ?_, fun same => by rw [same]⟩
  have digits : Nat.toDigits 10 m = Nat.toDigits 10 n := String.ofList_injective same
  rw [← Nat.ofDigitChars_ten_toDigits (n := m), digits, Nat.ofDigitChars_ten_toDigits]

namespace Commands

variable {σ : Type}

/-- The texts that are not empty, with blanks between them. -/
def remaining (texts : List String) : String := Text.spaced (texts.filter fun text => !text.isEmpty)

namespace Positions

/-- Positions that live in a dictionary: what is set there is found there. -/
structure Backed {α : Type} (p : Positions σ) (view : Run σ → Dict α) (wrap : Value → α) :
    Prop where
  set (r : Run σ) (name text : String) :
    view (p.set r name text) = (view r).insert name (wrap (.text text))
  found {r : Run σ} {name : String} {value : Value}
    (here : (view r).get? name = some (wrap value)) :
    p.has r name = true ∧ p.get? r name = some value
  missing {r : Run σ} {name other : String} (absent : p.has r other = false)
    (different : other ≠ name) (text : String) : p.has (p.set r name text) other = false
  size (r : Run σ) : (view r).size ≤ nameCount r

def shift (p : Positions σ) (r : Run σ) : Run σ × Outcome := shiftFrom p (nameCount r + 1) 1 [] r

def setAll (p : Positions σ) (r : Run σ) (texts : List (String × String)) : Run σ :=
  texts.foldl (fun r text => p.set r text.1 text.2) r

/-- What a shift sets from a position on that has `count` others behind it, where `texts i` stands
behind the position `i`. -/
def shifts (texts : Nat → String) (position count : Nat) (moved : List String) :
    List (String × String) :=
  (List.range' position count).map (fun i => (toString i, texts i)) ++
    [("0", remaining (moved ++ (List.range' position count).map texts)),
      (toString (position + count), "")]

theorem names_shifts {texts : Nat → String} {count : Nat} {name : String} :
    name ∈ (shifts texts 1 count []).map Prod.fst ↔ ∃ i ≤ count + 1, name = toString i := by
  have zero : "0" = toString 0 := rfl
  simp only [shifts, zero, List.map_append, List.map_map, List.mem_append, List.mem_map,
    List.mem_range'_1, Function.comp_apply, List.map_cons, List.map_nil, List.mem_cons,
    List.not_mem_nil, or_false]
  constructor
  · rintro (⟨i, inside, rfl⟩ | rfl | rfl)
    · exact ⟨i, by omega, rfl⟩
    · exact ⟨0, by omega, rfl⟩
    · exact ⟨1 + count, by omega, rfl⟩
  · rintro ⟨i, inside, rfl⟩
    by_cases first : i = 0
    · exact .inr (.inl (by rw [first]))
    · by_cases last : i = 1 + count
      · exact .inr (.inr (by rw [last]))
      · exact .inl ⟨i, by omega, rfl⟩

theorem text_of_shifts {texts : Nat → String} {count i : Nat} (blank : texts (count + 1) = "") :
    ∀ text ∈ shifts texts 1 count [], text.1 = toString i →
      text.2 = if i = 0 then remaining ((List.range' 1 count).map texts) else texts i := by
  have zero : "0" = toString 0 := rfl
  intro text member same
  simp only [shifts, zero, List.mem_append, List.mem_map, List.mem_range'_1, List.mem_cons,
    List.not_mem_nil, or_false, List.nil_append] at member
  rcases member with ⟨j, inside, rfl⟩ | rfl | rfl
  · obtain rfl := toString_inj.mp same
    rw [if_neg (by omega)]
  · obtain rfl := toString_inj.mp same
    rw [if_pos rfl]
  · obtain rfl := toString_inj.mp same
    rw [if_neg (by omega), Nat.add_comm, blank]

/-- The first `count` positions hold the texts, and there is none behind them. -/
structure Hold {α : Type} (p : Positions σ) (view : Run σ → Dict α) (wrap : Value → α) (r : Run σ)
    (count : Nat) (texts : Nat → String) : Prop where
  here (i : Nat) (inside : i < count) :
    (view r).get? (toString (i + 1)) = some (wrap (.text (texts i)))
  ends : p.has r (toString (count + 1)) = false

section

variable {α : Type} {p : Positions σ} {view : Run σ → Dict α} {wrap : Value → α}
  (backed : p.Backed view wrap) {r : Run σ}
include backed

theorem Backed.setAll (texts : List (String × String)) :
    view (p.setAll r texts) = (view r).setTexts wrap texts := by
  induction texts generalizing r with
  | nil => rfl
  | cons text rest ih =>
    have later : view (p.setAll r (text :: rest)) = _ := ih
    rw [later, backed.set]
    rfl

theorem Backed.missing_setAll {other : String} {texts : List (String × String)}
    (absent : p.has r other = false) (different : other ∉ texts.map Prod.fst) :
    p.has (p.setAll r texts) other = false := by
  induction texts generalizing r with
  | nil => exact absent
  | cons text rest ih =>
    rw [List.map_cons, List.mem_cons, not_or] at different
    exact ih (backed.missing absent different.1 text.2) different.2

/-- The loop reads each position before it sets the one in front of it, so what it sets is known
from the start. -/
theorem shiftFrom_eq {texts : Nat → String} {fuel position count : Nat} {moved : List String}
    (enough : count < fuel)
    (here : ∀ i, position ≤ i → i < position + count →
      (view r).get? (toString (i + 1)) = some (wrap (.text (texts i))))
    (ends : p.has r (toString (position + count + 1)) = false) :
    shiftFrom p fuel position moved r =
      (p.setAll r (shifts texts position count moved), .done) := by
  induction count generalizing fuel position moved r with
  | zero =>
    obtain ⟨fuel, rfl⟩ := Nat.exists_eq_add_of_lt enough
    rw [Nat.add_zero] at ends
    rw [shiftFrom]
    simp only [ends, Bool.false_eq_true, if_false]
    simp [Positions.setAll, shifts, remaining]
  | succ count ih =>
    obtain ⟨fuel, rfl⟩ : ∃ n, fuel = n + 1 := ⟨fuel - 1, by omega⟩
    obtain ⟨present, value⟩ := backed.found (here position le_rfl (by omega))
    -- the position just set is not the missing one, which still ends the loop
    have next : p.has (p.set r (toString position) (texts position))
        (toString (position + 1 + count + 1)) = false := by
      apply backed.missing
      · rw [← ends]
        congr 2
        omega
      · rw [ne_eq, toString_inj]
        omega
    rw [shiftFrom]
    simp only [present, value, if_true, Value.display]
    rw [ih (by omega) ?_ next]
    · simp [Positions.setAll, shifts, List.range'_succ, Nat.add_comm 1 count, Nat.add_assoc]
    · intro i behind inside
      have different : toString (i + 1) ≠ toString position := by
        rw [ne_eq, toString_inj]
        omega
      rw [backed.set, Dict.get?_insert, if_neg different]
      exact here i (by omega) (by omega)

theorem Hold.count_le {count : Nat} {texts : Nat → String} (hold : p.Hold view wrap r count texts) :
    count ≤ nameCount r := by
  -- each position is an entry of the dictionary, and their names differ
  let names := (List.range count).map fun i => toString (i + 1)
  have distinct : names.Nodup := by
    refine List.Nodup.map (fun m n same => ?_) List.nodup_range
    exact Nat.succ_injective (toString_inj.mp same)
  have found : ∀ name ∈ names, ((view r).get? name).isSome := by
    intro name member
    obtain ⟨i, inside, rfl⟩ := List.mem_map.mp member
    rw [hold.here i (List.mem_range.mp inside)]
    rfl
  have enough := Dict.length_le_size distinct found
  rw [List.length_map, List.length_range] at enough
  exact Nat.le_trans enough (backed.size r)

theorem Hold.shifted {count : Nat} {texts : Nat → String}
    (hold : p.Hold view wrap r (count + 1) texts) (blank : texts (count + 1) = "") :
    ∃ q, p.shift r = (q, .done) ∧
      p.Hold view wrap q (count + 1) (fun i => texts (i + 1)) ∧
      (view q).get? "0" = some (wrap (.text (remaining ((List.range' 1 count).map texts)))) ∧
      ∀ name, (∀ i ≤ count + 1, name ≠ toString i) → (view q).get? name = (view r).get? name := by
  have bound := hold.count_le backed
  have done : p.shift r = (p.setAll r (shifts texts 1 count []), .done) :=
    shiftFrom_eq backed (by omega) (fun i _ inside => hold.here i (by omega))
      (by rw [Nat.add_comm 1 count]; exact hold.ends)
  let left := remaining ((List.range' 1 count).map texts)
  have reads : ∀ i ≤ count + 1, (view (p.setAll r (shifts texts 1 count []))).get? (toString i) =
      some (wrap (.text (if i = 0 then left else texts i))) := by
    intro i inside
    rw [backed.setAll, Dict.get?_setTexts (text_of_shifts blank),
      if_pos (names_shifts.mpr ⟨i, inside, rfl⟩)]
  refine ⟨_, done, ⟨fun i inside => ?_, ?_⟩, reads 0 (by omega), fun name other => ?_⟩
  · exact reads (i + 1) (by omega)
  · apply backed.missing_setAll hold.ends
    rintro member
    obtain ⟨i, inside, same⟩ := names_shifts.mp member
    have := toString_inj.mp same
    omega
  · have unnamed : name ∉ (shifts texts 1 count []).map Prod.fst := by
      rintro member
      obtain ⟨i, inside, same⟩ := names_shifts.mp member
      exact other i inside same
    have silent : ∀ text ∈ shifts texts 1 count [], text.1 = name → text.2 = "" :=
      fun text member same => absurd (same ▸ List.mem_map_of_mem member) unnamed
    rw [backed.setAll, Dict.get?_setTexts silent, if_neg unnamed]

end

end Positions

/-! ### Shifting again and again -/

/-- Performs a command a number of times, as long as it is done each time. -/
def repeated (command : Run σ → Run σ × Outcome) : Nat → Run σ → Run σ × Outcome
  | 0, r => (r, .done)
  | k + 1, r =>
    match repeated command k r with
    | (q, .done) => command q
    | other => other

theorem repeated_keeps {parts : List Part} {command : Run σ → Run σ × Outcome}
    (kept : ∀ r, Run.Keeps parts r (command r).1) (k : Nat) (r : Run σ) :
    Run.Keeps parts r (repeated command k r).1 := by
  induction k with
  | zero => exact .refl _ r
  | succ k ih =>
    unfold repeated
    split
    · next q done =>
      rw [done] at ih
      exact (ih.trans (kept q)).mono (by simp)
    · exact ih

theorem repeated_shift_keeps {parts : List Part} {p : Positions σ}
    (kept : ∀ (r : Run σ) name text, Run.Keeps parts r (p.set r name text)) (k : Nat) (r : Run σ) :
    Run.Keeps parts r (repeated p.shift k r).1 :=
  repeated_keeps (fun r => shiftFrom_keeps p kept (nameCount r + 1) 1 [] r) k r

theorem filter_range_getD {texts : List String} {count : Nat} (enough : texts.length ≤ count) :
    ((List.range count).map fun i => texts.getD i "").filter (fun text => !text.isEmpty) =
      texts.filter fun text => !text.isEmpty := by
  induction texts generalizing count with
  | nil => simp
  | cons text rest ih =>
    obtain ⟨count, rfl⟩ : ∃ n, count = n + 1 := ⟨count - 1, by simp at enough; omega⟩
    have later := @ih count (by simpa using enough)
    simp only [List.range_succ_eq_map, List.map_cons, List.map_map, Function.comp_def,
      List.getD_cons_zero, List.getD_cons_succ, List.filter_cons, later]

theorem remaining_drop {arguments : List String} {count k : Nat}
    (enough : arguments.length ≤ count + 1 + k) :
    remaining ((List.range' 1 count).map fun i => arguments.getD (i + k) "") =
      remaining (arguments.drop (k + 1)) := by
  have texts : (List.range' 1 count).map (fun i => arguments.getD (i + k) "") =
      (List.range count).map fun i => (arguments.drop (k + 1)).getD i "" := by
    simp [List.range'_eq_map_range, List.getD_eq_getElem?_getD, Nat.add_comm, Nat.add_left_comm]
  rw [remaining, texts, filter_range_getD (by simp; omega), remaining]

def positionCount (arguments : List String) : Nat := max Script.leastPositions arguments.length

/-- What `k` shifts make of the positions of a script: each holds the argument `k` places further
on, or nothing where there is none, and `0` holds the arguments from there on that are not empty. -/
structure Walked {α : Type} (wrap : Value → α) (arguments : List String) (k : Nat)
    (before after : Dict α) : Prop where
  positions (i : Nat) (inside : i < positionCount arguments) :
    after.get? (toString (i + 1)) = some (wrap (.text (arguments.getD (i + k) "")))
  zero : after.get? "0" = some (wrap (.text (remaining (arguments.drop k))))
  others (name : String) (other : ∀ i ≤ positionCount arguments, name ≠ toString i) :
    after.get? name = before.get? name

section

variable {α : Type} {p : Positions σ} {view : Run σ → Dict α} {wrap : Value → α}
  (backed : p.Backed view wrap) {r : Run σ} {arguments : List String}
  (hold : p.Hold view wrap r (positionCount arguments) fun i => arguments.getD i "")
include backed hold

theorem hold_repeated (k : Nat) :
    ∃ q, repeated p.shift k r = (q, .done) ∧
      p.Hold view wrap q (positionCount arguments) (fun i => arguments.getD (i + k) "") ∧
      (1 ≤ k → (view q).get? "0" = some (wrap (.text (remaining (arguments.drop k))))) ∧
      ∀ name, (∀ i ≤ positionCount arguments, name ≠ toString i) →
        (view q).get? name = (view r).get? name := by
  obtain ⟨count, least⟩ : ∃ count, positionCount arguments = count + 1 :=
    ⟨positionCount arguments - 1, by unfold positionCount Script.leastPositions; omega⟩
  have enough : arguments.length ≤ count + 1 := by
    rw [← least]
    exact le_max_right _ _
  rw [least] at hold ⊢
  induction k with
  | zero => exact ⟨r, rfl, hold, nofun, fun _ _ => rfl⟩
  | succ k ih =>
    obtain ⟨q, done, hold, _, others⟩ := ih
    have blank : arguments.getD (count + 1 + k) "" = "" := by
      rw [List.getD_eq_getElem?_getD, List.getElem?_eq_none (by omega), Option.getD_none]
    obtain ⟨q', next, hold, zero, same⟩ := hold.shifted backed blank
    refine ⟨q', by simp only [repeated, done, next], ?_, fun _ => ?_, fun name other => ?_⟩
    · simpa [Nat.add_assoc, Nat.add_comm 1 k] using hold
    · rw [zero, remaining_drop (by omega)]
    · rw [same name other, others name other]

theorem walked_of_hold {k : Nat} (positive : 1 ≤ k) :
    ∃ q, repeated p.shift k r = (q, .done) ∧
      Walked wrap arguments k (view r) (view q) := by
  obtain ⟨q, done, hold, zero, others⟩ := hold_repeated backed hold k
  exact ⟨q, done, hold.here, zero positive, others⟩

end

/-! ### Locals and special variables -/

theorem localPositions_backed :
    (localPositions : Positions σ).Backed (fun r => r.script.vars.locals) id where
  set _ _ _ := rfl
  found {r name value} here := by
    simp only [id] at here
    simp [localPositions, Dict.contains, here]
  missing {r name other} absent different text := by
    simp only [localPositions, Dict.contains] at absent ⊢
    simpa [Run.setLocal, Run.setVars, Variables.setLocal, different] using absent
  size r := by
    unfold nameCount
    omega

theorem sharedPositions_backed [Client σ] :
    (sharedPositions : Positions σ).Backed (fun r => r.script.vars.specials) .value where
  set _ _ _ := rfl
  found {r name value} here := by
    simp [sharedPositions, Variables.exists?, Variables.get?, Dict.contains, here,
      Variables.readSpecial]
  missing {r name other} absent different text := by
    simp only [sharedPositions, Variables.exists?, Bool.or_eq_false_iff] at absent ⊢
    refine ⟨?_, ?_⟩
    · simpa [Run.setSpecial, Run.setVars, Variables.setSpecial, Dict.contains, different]
        using absent.1
    · change (r.removeGlobal name).world.globals.contains other = false
      rw [Run.removeGlobal_globals]
      exact Globals.contains_remove absent.2
  size r := by
    unfold nameCount
    omega

end Commands

/-! ### The start of a script -/

namespace Script

theorem bindArguments_eq (v : Variables) (arguments : List String) :
    (bindArguments v arguments).locals = v.locals.setTexts id (argumentBindings arguments) ∧
      (bindArguments v arguments).specials =
        v.specials.setTexts .value (argumentBindings arguments) := by
  unfold bindArguments
  generalize argumentBindings arguments = bindings
  induction bindings generalizing v with
  | nil => exact ⟨rfl, rfl⟩
  | cons b rest ih => exact ih _

section

variable {arguments : List String}

theorem names_argumentBindings {name : String} :
    name ∈ (argumentBindings arguments).map Prod.fst ↔
      ∃ i ≤ Commands.positionCount arguments, name = toString i := by
  have zero : "0" = toString 0 := rfl
  simp only [argumentBindings, zero, List.map_cons, List.map_map, List.mem_cons, List.mem_map,
    List.mem_range, Function.comp_apply]
  constructor
  · rintro (rfl | ⟨i, inside, rfl⟩)
    · exact ⟨0, by omega, rfl⟩
    · exact ⟨i + 1, inside, rfl⟩
  · rintro ⟨i, inside, rfl⟩
    cases i with
    | zero => exact .inl rfl
    | succ i => exact .inr ⟨i, inside, rfl⟩

theorem text_of_argumentBindings {i : Nat} :
    ∀ text ∈ argumentBindings arguments, text.1 = toString (i + 1) →
      text.2 = arguments.getD i "" := by
  intro text member same
  rcases List.mem_cons.mp member with rfl | member
  · have := toString_inj.mp (show toString 0 = toString (i + 1) from same)
    omega
  · obtain ⟨j, _, rfl⟩ := List.mem_map.mp member
    obtain rfl := Nat.succ_injective (toString_inj.mp same)
    rfl

theorem get?_argumentBindings {α : Type} {wrap : Value → α} {d : Dict α} {i : Nat}
    (inside : i < Commands.positionCount arguments) :
    (d.setTexts wrap (argumentBindings arguments)).get? (toString (i + 1)) =
      some (wrap (.text (arguments.getD i ""))) := by
  rw [Dict.get?_setTexts text_of_argumentBindings,
    if_pos (names_argumentBindings.mpr ⟨i + 1, inside, rfl⟩)]

theorem get?_beyond_argumentBindings {α : Type} {wrap : Value → α} {d : Dict α} :
    (d.setTexts wrap (argumentBindings arguments)).get?
      (toString (Commands.positionCount arguments + 1)) =
      d.get? (toString (Commands.positionCount arguments + 1)) := by
  rw [Dict.get?_setTexts text_of_argumentBindings, if_neg]
  rintro member
  obtain ⟨i, inside, same⟩ := names_argumentBindings.mp member
  have := toString_inj.mp same
  omega

theorem get?_initial_toString (n : Nat) : Variables.initial.specials.get? (toString n) = none := by
  rw [← Option.not_isSome_iff_eq_none]
  intro known
  obtain ⟨special, found⟩ := Option.isSome_iff_exists.mp known
  obtain ⟨key, _, same⟩ := List.mem_map.mp (Dict.mem_of_get_ofList found)
  exact isOwnName_toString n key (Prod.mk.inj same).1

end

end Script

namespace Commands

variable {σ : Type}

section

variable {r : Run σ} {config : Config} {name : String} {program : Program}
  {arguments : List String}
  (started : r.script.vars = (Script.create config name program arguments).vars)
include started

theorem localPositions_hold :
    localPositions.Hold (fun r => r.script.vars.locals) id r (positionCount arguments)
      fun i => arguments.getD i "" := by
  have bound : r.script.vars.locals = _ :=
    (congrArg Variables.locals started).trans (Script.bindArguments_eq .initial arguments).1
  refine ⟨fun i inside => ?_, ?_⟩
  · rw [bound, Script.get?_argumentBindings inside]
  · simp only [localPositions, Dict.contains, bound, Script.get?_beyond_argumentBindings]
    rfl

theorem sharedPositions_hold [Client σ]
    (free : r.world.globals.contains (toString (positionCount arguments + 1)) = false) :
    sharedPositions.Hold (fun r => r.script.vars.specials) .value r (positionCount arguments)
      fun i => arguments.getD i "" := by
  have bound : r.script.vars.specials = _ :=
    (congrArg Variables.specials started).trans (Script.bindArguments_eq .initial arguments).2
  refine ⟨fun i inside => ?_, ?_⟩
  · rw [bound, Script.get?_argumentBindings inside]
  · simp only [sharedPositions, Variables.exists?, Dict.contains, bound, free,
      Script.get?_beyond_argumentBindings, Script.get?_initial_toString]
    rfl

end

theorem shift_local [Client σ] {text : String}
    (scope : Text.lowerPlain (Text.firstWord text) = "local") :
    (shift · text) = (localPositions : Positions σ).shift := by
  funext r
  rw [shift, if_pos scope]
  rfl

theorem shift_shared [Client σ] {text : String}
    (scope : Text.lowerPlain (Text.firstWord text) ≠ "local") :
    (shift · text) = (sharedPositions : Positions σ).shift := by
  funext r
  rw [shift, if_neg scope]
  rfl

/-- Repeated shifts walk through the arguments of a script that has just been started. Those of the
locals change nothing but the locals `0`, `1`, `2` and so on up to the last position; all others
change the special variables of these names alone, if there is no global that would pass for one
more position. -/
theorem shift_walks_through_arguments [Client σ] {r : Run σ} {config : Config} {name : String}
    {program : Program} {arguments : List String}
    (started : r.script.vars = (Script.create config name program arguments).vars) {k : Nat}
    (positive : 1 ≤ k) (text : String) :
    (Text.lowerPlain (Text.firstWord text) = "local" →
      ∃ q, repeated (shift · text) k r = (q, .done) ∧
        Walked id arguments k r.script.vars.locals q.script.vars.locals ∧
        q.script.vars.specials = r.script.vars.specials) ∧
    (Text.lowerPlain (Text.firstWord text) ≠ "local" →
      r.world.globals.contains (toString (positionCount arguments + 1)) = false →
      ∃ q, repeated (shift · text) k r = (q, .done) ∧
        Walked .value arguments k r.script.vars.specials q.script.vars.specials ∧
        q.script.vars.locals = r.script.vars.locals) := by
  refine ⟨fun scope => ?_, fun scope free => ?_⟩
  · rw [shift_local scope]
    obtain ⟨q, done, walked⟩ :=
      walked_of_hold localPositions_backed (localPositions_hold started) positive
    have kept := repeated_shift_keeps (p := localPositions)
      (fun r name _ => Run.setLocal_keeps r name _) k r
    rw [done] at kept
    exact ⟨q, done, walked, kept .specials (by decide)⟩
  · rw [shift_shared scope]
    obtain ⟨q, done, walked⟩ :=
      walked_of_hold sharedPositions_backed (sharedPositions_hold started free) positive
    have kept := repeated_shift_keeps (p := sharedPositions)
      (fun r name _ => Run.setSpecial_keeps r name _) k r
    rw [done] at kept
    exact ⟨q, done, walked, kept .locals (by decide)⟩

/-- More arguments than there are positions in any case, one of them empty. -/
def train : List String :=
  ["ox", "", "ass", "camel", "cart", "mule", "goat", "dog", "cook", "guide", "guard"]

def caravan : Run MemoryClient :=
  ⟨Script.create {} "caravan" (.parse "shift local") train, { client := {} }⟩

theorem shift_walks_through_arguments_caravan :
    (∃ q, repeated (shift · "LOCAL now") 2 caravan = (q, .done) ∧
      q.script.vars.locals.get? "1" = some (.text "ass") ∧
      q.script.vars.locals.get? "9" = some (.text "guard") ∧
      q.script.vars.locals.get? "10" = some (.text "") ∧
      q.script.vars.locals.get? "0" =
        some (.text "ass camel cart mule goat dog cook guide guard")) ∧
    ∃ q, repeated (shift · "") 10 caravan = (q, .done) ∧
      q.script.vars.specials.get? "1" = some (.value (.text "guard")) ∧
      q.script.vars.specials.get? "2" = some (.value (.text "")) ∧
      q.script.vars.locals = caravan.script.vars.locals := by
  have started : caravan.script.vars =
      (Script.create {} "caravan" (.parse "shift local") train).vars := rfl
  constructor
  · obtain ⟨q, done, walked, _⟩ :=
      (shift_walks_through_arguments started (k := 2) (by decide) "LOCAL now").1 (by decide)
    exact ⟨q, done, walked.positions 0 (by decide), walked.positions 8 (by decide),
      walked.positions 9 (by decide), walked.zero⟩
  · obtain ⟨q, done, walked, same⟩ :=
      (shift_walks_through_arguments started (k := 10) (by decide) "").2 (by decide)
        (by decide +kernel)
    exact ⟨q, done, walked.positions 0 (by decide), walked.positions 1 (by decide), same⟩

end Commands

end Questline
