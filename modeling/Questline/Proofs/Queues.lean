import Questline.Stream

/-! The queues of a stream: which of them are open, and what is in each. -/
namespace Questline

namespace Stream

variable {s s' s'' : Stream} {id other : Nat}

def ids (s : Stream) : List Nat := s.queues.map (·.1)

@[simp] theorem ids_empty : empty.ids = [] := rfl

@[simp] theorem ids_subscribe (s : Stream) : s.subscribe.2.ids = s.ids ++ [s.nextId] := by
  simp [ids, subscribe]

@[simp] theorem ids_unsubscribe (s : Stream) (id : Nat) :
    (s.unsubscribe id).ids = s.ids.filter (· != id) := by
  simp [ids, unsubscribe, List.filter_map, Function.comp_def]

@[simp] theorem ids_publish (s : Stream) (event : GameEvent) : (s.publish event).ids = s.ids := by
  simp [ids, publish, Function.comp_def]

@[simp] theorem ids_setQueue (s : Stream) (id : Nat) (events : List GameEvent) :
    (s.setQueue id events).ids = s.ids := by
  simp only [ids, setQueue, List.map_map]
  refine List.map_congr_left fun q _ => ?_
  simp only [Function.comp_apply]
  split <;> rfl

theorem exists_queue (opened : id ∈ s.ids) :
    ∃ q, s.queues.find? (fun q => q.1 == id) = some q ∧ q.1 = id := by
  obtain ⟨q, member, rfl⟩ := List.mem_map.mp opened
  cases found : s.queues.find? (fun p => p.1 == q.1) with
  | none => exact absurd (List.find?_eq_none.mp found q member) (by simp)
  | some p => exact ⟨p, rfl, by simpa using List.find?_some found⟩

theorem queued_closed (closed : id ∉ s.ids) : s.queued id = [] := by
  have absent : s.queues.find? (fun q => q.1 == id) = none :=
    List.find?_eq_none.mpr fun q member here =>
      closed (List.mem_map.mpr ⟨q, member, by simpa using here⟩)
  simp only [queued, absent, Option.map_none, Option.getD_none]

@[simp] theorem queued_subscribe (s : Stream) (id : Nat) :
    s.subscribe.2.queued id = s.queued id := by
  simp only [queued, subscribe, List.find?_append]
  cases s.queues.find? (fun q => q.1 == id) with
  | some q => rfl
  | none =>
    rw [Option.none_or, List.find?_singleton]
    split <;> rfl

theorem queued_unsubscribe (different : other ≠ id) :
    (s.unsubscribe id).queued other = s.queued other := by
  have same : (fun q : Nat × List GameEvent => decide ((q.1 != id) = true ∧ (q.1 == other) = true)) =
      fun q => q.1 == other := by
    funext q
    by_cases here : q.1 = other <;> simp_all
  simp only [queued, unsubscribe, List.find?_filter]
  rw [same]

theorem queued_publish (opened : id ∈ s.ids) (event : GameEvent) :
    (s.publish event).queued id = s.queued id ++ [event] := by
  obtain ⟨q, found, _⟩ := exists_queue opened
  simp only [queued, publish, List.find?_map, Function.comp_def, found, Option.map_some,
    Option.getD_some]

theorem find_setQueue (s : Stream) (id other : Nat) (events : List GameEvent) :
    (s.setQueue id events).queues.find? (fun q => q.1 == other) =
      (s.queues.find? fun q => q.1 == other).map fun q =>
        if q.1 == id then (q.1, events) else q := by
  have same : ((fun q : Nat × List GameEvent => q.1 == other) ∘
      fun q => if q.1 == id then (q.1, events) else q) = fun q => q.1 == other := by
    funext q
    simp only [Function.comp_apply]
    split <;> rfl
  rw [setQueue, List.find?_map, same]

theorem queued_setQueue (different : other ≠ id) (events : List GameEvent) :
    (s.setQueue id events).queued other = s.queued other := by
  simp only [queued, find_setQueue]
  cases found : s.queues.find? (fun q => q.1 == other) with
  | none => rfl
  | some q =>
    have here : q.1 = other := by simpa using List.find?_some found
    simp [here, different]

theorem queued_setQueue_self (opened : id ∈ s.ids) (events : List GameEvent) :
    (s.setQueue id events).queued id = events := by
  obtain ⟨q, found, here⟩ := exists_queue opened
  simp [queued, find_setQueue, found, here]

theorem take_some {event : GameEvent} (taken : s.take? id = some (event, s')) :
    ∃ rest, s.queued id = event :: rest ∧ s' = s.setQueue id rest := by
  unfold take? at taken
  split at taken
  · cases taken
  · next rest queue =>
    cases taken
    exact ⟨rest, queue, rfl⟩

theorem take_none (taken : s.take? id = none) : s.queued id = [] := by
  unfold take? at taken
  split at taken
  · next queue => exact queue
  · cases taken

def publishAll (s : Stream) (events : List GameEvent) : Stream := events.foldl publish s

theorem publishAll_append (s : Stream) (first second : List GameEvent) :
    s.publishAll (first ++ second) = (s.publishAll first).publishAll second := List.foldl_append

/-! ### Subscriptions that are accounted for -/

/-- The open subscriptions are the given ones, each of them once. -/
structure Holds (s : Stream) (ids : List Nat) : Prop where
  exact : s.ids.Perm ids
  distinct : ids.Nodup
  past : ∀ id ∈ ids, id < s.nextId

namespace Holds

variable {ids ids' : List Nat}

theorem empty : Stream.empty.Holds [] := ⟨.nil, .nil, by simp⟩

theorem perm (held : s.Holds ids) (same : ids.Perm ids') : s.Holds ids' where
  exact := held.exact.trans same
  distinct := same.nodup held.distinct
  past id member := held.past id (same.mem_iff.mpr member)

theorem subscribe (held : s.Holds ids) : s.subscribe.2.Holds (s.nextId :: ids) where
  exact := by
    rw [ids_subscribe]
    exact (held.exact.append_right _).trans List.perm_append_comm
  distinct := List.nodup_cons.mpr ⟨fun member => Nat.lt_irrefl _ (held.past _ member), held.distinct⟩
  past id member := by
    rcases List.mem_cons.mp member with rfl | member
    · exact Nat.lt_succ_self _
    · exact Nat.lt_succ_of_lt (held.past id member)

theorem queued_new (held : s.Holds ids) : s.subscribe.2.queued s.nextId = [] := by
  rw [queued_subscribe]
  refine queued_closed fun opened => ?_
  exact Nat.lt_irrefl _ (held.past _ (held.exact.mem_iff.mp opened))

theorem unsubscribe (held : s.Holds (id :: ids)) : (s.unsubscribe id).Holds ids where
  exact := by
    rw [ids_unsubscribe]
    refine (held.exact.filter _).trans ?_
    have absent := (List.nodup_cons.mp held.distinct).1
    have others : ids.filter (· != id) = ids := by
      refine List.filter_eq_self.mpr fun other member => ?_
      exact bne_iff_ne.mpr fun same => absent (same ▸ member)
    simp [others]
  distinct := (List.nodup_cons.mp held.distinct).2
  past other member := held.past other (List.mem_cons_of_mem _ member)

theorem publish (held : s.Holds ids) (event : GameEvent) : (s.publish event).Holds ids where
  exact := by
    rw [ids_publish]
    exact held.exact
  distinct := held.distinct
  past := held.past

theorem publishAll (held : s.Holds ids) (events : List GameEvent) :
    (s.publishAll events).Holds ids := by
  induction events generalizing s with
  | nil => exact held
  | cons event rest ih => exact ih (held.publish event)

theorem setQueue (held : s.Holds ids) (id : Nat) (events : List GameEvent) :
    (s.setQueue id events).Holds ids where
  exact := by
    rw [ids_setQueue]
    exact held.exact
  distinct := held.distinct
  past := held.past

end Holds

/-! ### Queues that fill -/

/-- One stream comes from another in which nothing was taken from any queue, except perhaps from a
busy one: no subscription was opened again, and the news is queued for every one that is still
open. -/
structure Follows (busy : Option Nat) (news : List GameEvent) (s s' : Stream) : Prop where
  later : s.nextId ≤ s'.nextId
  kept : ∀ id, id < s.nextId → id ∈ s'.ids →
    id ∈ s.ids ∧ (busy ≠ some id → s'.queued id = s.queued id ++ news)

namespace Follows

variable {busy : Option Nat} {news more : List GameEvent}

theorem refl (busy : Option Nat) (s : Stream) : Follows busy [] s s :=
  ⟨Nat.le_refl _, fun _ _ opened => ⟨opened, fun _ => (List.append_nil _).symm⟩⟩

theorem of_eq (same : s' = s) : Follows busy [] s s' := same ▸ .refl busy s

theorem trans (first : Follows busy news s s') (second : Follows busy more s' s'') :
    Follows busy (news ++ more) s s'' where
  later := Nat.le_trans first.later second.later
  kept id past opened := by
    obtain ⟨between, after⟩ := second.kept id (Nat.lt_of_lt_of_le past first.later) opened
    obtain ⟨before, meanwhile⟩ := first.kept id past between
    refine ⟨before, fun idle => ?_⟩
    rw [after idle, meanwhile idle, List.append_assoc]

theorem subscribe (busy : Option Nat) (s : Stream) : Follows busy [] s s.subscribe.2 where
  later := Nat.le_succ _
  kept id past opened := by
    rw [ids_subscribe, List.mem_append, List.mem_singleton] at opened
    refine ⟨opened.resolve_right (Nat.ne_of_lt past), fun _ => ?_⟩
    rw [queued_subscribe, List.append_nil]

theorem unsubscribe (busy : Option Nat) (s : Stream) (id : Nat) :
    Follows busy [] s (s.unsubscribe id) where
  later := Nat.le_refl _
  kept other _ opened := by
    rw [ids_unsubscribe, List.mem_filter, bne_iff_ne] at opened
    refine ⟨opened.1, fun _ => ?_⟩
    rw [queued_unsubscribe opened.2, List.append_nil]

theorem publish (busy : Option Nat) (s : Stream) (event : GameEvent) :
    Follows busy [event] s (s.publish event) where
  later := Nat.le_refl _
  kept id _ opened := by
    rw [ids_publish] at opened
    exact ⟨opened, fun _ => queued_publish opened event⟩

theorem publishAll (busy : Option Nat) (s : Stream) (events : List GameEvent) :
    Follows busy events s (s.publishAll events) := by
  induction events generalizing s with
  | nil => exact .refl busy s
  | cons event rest ih => exact (publish busy s event).trans (ih _)

theorem setQueue (s : Stream) (id : Nat) (events : List GameEvent) :
    Follows (some id) [] s (s.setQueue id events) where
  later := Nat.le_refl _
  kept other _ opened := by
    rw [ids_setQueue] at opened
    refine ⟨opened, fun idle => ?_⟩
    rw [queued_setQueue (fun same => idle (congrArg some same.symm)), List.append_nil]

end Follows

end Stream

end Questline
