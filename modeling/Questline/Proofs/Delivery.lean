import Mathlib.Data.Set.Card
import Questline.Proofs.Queues

/-! Delivery. Whatever is done to a stream, each subscription that has not been dropped gets every
event that was published since it was opened, once and in order: some of them have been taken, the
others are still queued. -/
namespace Questline.Stream

inductive Operation where
  | subscribe
  | drop (id : Nat)
  | publish (event : GameEvent)
  | drain (id : Nat)
  | take (id : Nat)
deriving DecidableEq

def Operation.event? : Operation → Option GameEvent
  | publish event => some event
  | _ => none

def perform (s : Stream) : Operation → Stream
  | .subscribe => s.subscribe.2
  | .drop id => s.unsubscribe id
  | .publish event => s.publish event
  | .drain id => (s.drain id).2
  | .take id => (s.take? id).elim s (·.2)

def performAll (s : Stream) (operations : List Operation) : Stream := operations.foldl perform s

/-- What an operation hands over to the holder of a subscription. -/
def yields (s : Stream) (id : Nat) : Operation → List GameEvent
  | .drain other => if other = id then (s.drain id).1 else []
  | .take other => if other = id then ((s.take? id).map (·.1)).toList else []
  | _ => []

/-- All that the holder of a subscription has taken in the course of some operations. -/
def received (id : Nat) (s : Stream) : List Operation → List GameEvent
  | [] => []
  | operation :: rest => s.yields id operation ++ received id (s.perform operation) rest

/-- In the course of some operations on a new stream the subscription was opened, and it has not
been dropped since. -/
def IsLive (operations : List Operation) (id : Nat) : Prop :=
  ∃ before after : List Operation, operations = before ++ .subscribe :: after ∧
    (empty.performAll before).subscribe.1 = id ∧ .drop id ∉ after

theorem performAll_append (s : Stream) (first second : List Operation) :
    s.performAll (first ++ second) = (s.performAll first).performAll second := List.foldl_append

/-! ### What is queued -/

variable {s : Stream} {id : Nat}

theorem drain_balance (opened : id ∈ s.ids) (other : Nat) :
    s.yields id (.drain other) ++ (s.perform (.drain other)).queued id = s.queued id := by
  simp only [yields, perform, drain]
  by_cases own : other = id
  · subst own
    rw [if_pos rfl, queued_setQueue_self opened, List.append_nil]
  · rw [if_neg own, queued_setQueue (Ne.symm own), List.nil_append]

theorem take_balance (opened : id ∈ s.ids) (other : Nat) :
    s.yields id (.take other) ++ (s.perform (.take other)).queued id = s.queued id := by
  simp only [yields, perform]
  cases taken : s.take? other with
  | none =>
    by_cases own : other = id
    · subst own
      simp [taken]
    · simp [own]
  | some pair =>
    obtain ⟨event, s'⟩ := pair
    obtain ⟨rest, queue, rfl⟩ := take_some taken
    by_cases own : other = id
    · subst own
      simp [taken, queue, queued_setQueue_self opened]
    · simp [own, queued_setQueue (Ne.symm own)]

theorem perform_take (s : Stream) (other : Nat) :
    ∃ rest, s.perform (.take other) = s ∨ s.perform (.take other) = s.setQueue other rest := by
  simp only [perform]
  cases taken : s.take? other with
  | none => exact ⟨[], .inl rfl⟩
  | some pair =>
    obtain ⟨event, s'⟩ := pair
    obtain ⟨rest, _, rfl⟩ := take_some taken
    exact ⟨rest, .inr rfl⟩

/-- One operation: what it hands over and what it leaves is what was there and what is new. -/
theorem perform_balance (opened : id ∈ s.ids) {operation : Operation}
    (held : operation ≠ .drop id) :
    s.yields id operation ++ (s.perform operation).queued id =
        s.queued id ++ operation.event?.toList ∧
      id ∈ (s.perform operation).ids := by
  cases operation with
  | subscribe => simp [yields, perform, Operation.event?, opened]
  | drop other =>
    have different : id ≠ other := fun same => held (same ▸ rfl)
    simp [yields, perform, Operation.event?, queued_unsubscribe different, opened, different]
  | publish event => simp [yields, perform, Operation.event?, queued_publish opened, opened]
  | drain other =>
    constructor
    · simpa [Operation.event?] using drain_balance opened other
    · simpa [perform, drain] using opened
  | take other =>
    constructor
    · simpa [Operation.event?] using take_balance opened other
    · obtain ⟨rest, same | same⟩ := perform_take s other
      · rw [same]
        exact opened
      · rw [same, ids_setQueue]
        exact opened

theorem performAll_balance (opened : id ∈ s.ids) {operations : List Operation}
    (held : .drop id ∉ operations) :
    received id s operations ++ (s.performAll operations).queued id =
      s.queued id ++ operations.filterMap Operation.event? := by
  induction operations generalizing s with
  | nil => simp [received, performAll]
  | cons operation rest ih =>
    rw [List.mem_cons, not_or] at held
    obtain ⟨balance, still⟩ := perform_balance opened (Ne.symm held.1)
    have later := ih still held.2
    have news : (operation :: rest).filterMap Operation.event? =
        operation.event?.toList ++ rest.filterMap Operation.event? := by
      cases event : operation.event? <;> simp [event]
    calc received id s (operation :: rest) ++ (s.performAll (operation :: rest)).queued id
        = s.yields id operation ++ (received id (s.perform operation) rest ++
            ((s.perform operation).performAll rest).queued id) := List.append_assoc _ _ _
      _ = s.yields id operation ++ (s.perform operation).queued id ++
            rest.filterMap Operation.event? := by rw [later, List.append_assoc]
      _ = s.queued id ++ (operation :: rest).filterMap Operation.event? := by
        rw [balance, news, List.append_assoc]

/-! ### What is open -/

theorem isLive_snoc {operations : List Operation} {operation : Operation} :
    IsLive (operations ++ [operation]) id ↔
      IsLive operations id ∧ operation ≠ .drop id ∨
        operation = .subscribe ∧ (empty.performAll operations).nextId = id := by
  constructor
  · rintro ⟨before, after, whole, number, held⟩
    rcases List.eq_nil_or_concat' after with rfl | ⟨middle, last, rfl⟩
    · obtain ⟨rfl, same⟩ := List.append_inj' whole rfl
      exact .inr ⟨List.singleton_inj.mp same, number⟩
    · rw [← List.cons_append, ← List.append_assoc] at whole
      obtain ⟨rfl, same⟩ := List.append_inj' whole rfl
      cases same
      refine .inl ⟨⟨before, middle, rfl, number, ?_⟩, ?_⟩
      · exact fun dropped => held (List.mem_append_left _ dropped)
      · rintro rfl
        exact held (List.mem_append_right _ List.mem_cons_self)
  · rintro (⟨⟨before, after, rfl, number, held⟩, other⟩ | ⟨rfl, number⟩)
    · refine ⟨before, after ++ [operation], by simp, number, ?_⟩
      simp [held, Ne.symm other]
    · exact ⟨operations, [], rfl, number, by simp⟩

/-- The open subscriptions are the live ones, each of them once and numbered below the next one. -/
theorem performAll_ids (operations : List Operation) :
    (∀ id, id ∈ (empty.performAll operations).ids ↔ IsLive operations id) ∧
      (empty.performAll operations).ids.Nodup ∧
      ∀ id ∈ (empty.performAll operations).ids, id < (empty.performAll operations).nextId := by
  induction operations using List.reverseRecOn with
  | nil =>
    refine ⟨fun id => ?_, List.nodup_nil, by simp [performAll]⟩
    simp [performAll, IsLive]
  | append_singleton operations operation ih =>
    obtain ⟨live, distinct, past⟩ := ih
    have last : empty.performAll (operations ++ [operation]) =
        (empty.performAll operations).perform operation := performAll_append _ _ _
    rw [last]
    simp only [isLive_snoc, ← live]
    generalize empty.performAll operations = s at distinct past
    cases operation with
    | subscribe =>
      have fresh : s.nextId ∉ s.ids := fun member => Nat.lt_irrefl _ (past _ member)
      refine ⟨fun id => by simp [perform, eq_comm], ?_, ?_⟩
      · rw [perform, ids_subscribe, List.nodup_append]
        refine ⟨distinct, List.nodup_singleton _, ?_⟩
        rintro a member b here rfl
        exact fresh (List.mem_singleton.mp here ▸ member)
      · intro id member
        rw [perform, ids_subscribe, List.mem_append, List.mem_singleton] at member
        show id < s.nextId + 1
        rcases member with earlier | rfl
        · have := past id earlier
          omega
        · omega
    | drop other =>
      refine ⟨fun id => ?_, ?_, ?_⟩
      · have renamed : other ≠ id ↔ id ≠ other := ne_comm
        simp [perform, renamed]
      · rw [perform, ids_unsubscribe]
        exact distinct.filter _
      · intro id member
        rw [perform, ids_unsubscribe] at member
        exact past id (List.mem_of_mem_filter member)
    | publish event =>
      rw [perform, ids_publish]
      exact ⟨fun id => by simp, distinct, past⟩
    | drain other =>
      rw [perform, drain, ids_setQueue]
      exact ⟨fun id => by simp, distinct, past⟩
    | take other =>
      obtain ⟨rest, same | same⟩ := perform_take s other
      · rw [same]
        exact ⟨fun id => by simp, distinct, past⟩
      · rw [same, ids_setQueue]
        exact ⟨fun id => by simp, distinct, past⟩

theorem subscriberCount_performAll (operations : List Operation) :
    (empty.performAll operations).subscriberCount = Set.ncard {id | IsLive operations id} := by
  obtain ⟨live, distinct, _⟩ := performAll_ids operations
  have same : {id | IsLive operations id} =
      ((empty.performAll operations).ids.toFinset : Set Nat) := by
    ext id
    rw [Finset.mem_coe, List.mem_toFinset]
    exact (live id).symm
  rw [same, Set.ncard_coe_finset, List.toFinset_card_of_nodup distinct]
  exact (List.length_map _).symm

/-- Every event reaches every live subscription exactly once and in order: what its holder has taken
since it was opened and what is still queued for it make up what was published since, whatever was
done to the other subscriptions. There are as many subscribers as live subscriptions. -/
theorem delivers_exactly_once (operations : List Operation) :
    (∀ before after id, operations = before ++ .subscribe :: after →
      (empty.performAll before).subscribe.1 = id → .drop id ∉ after →
        received id (empty.performAll before).subscribe.2 after ++
          (empty.performAll operations).queued id = after.filterMap Operation.event?) ∧
    (empty.performAll operations).subscriberCount = Set.ncard {id | IsLive operations id} := by
  refine ⟨?_, subscriberCount_performAll operations⟩
  rintro before after id rfl rfl held
  have closed : (empty.performAll before).nextId ∉ (empty.performAll before).ids :=
    fun member => Nat.lt_irrefl _ ((performAll_ids before).2.2 _ member)
  have opened : (empty.performAll before).nextId ∈ (empty.performAll before).subscribe.2.ids := by
    simp
  have balance := performAll_balance opened held
  rw [queued_subscribe, queued_closed closed, List.nil_append] at balance
  rw [performAll_append]
  exact balance

/-- Two subscribers, one of whom leaves early, while the other one is behind. -/
def crowd : List Operation :=
  [.subscribe, .publish (.line "early"), .subscribe, .publish .prompt, .drain 0, .take 1,
    .publish .roomChange, .publish (.line "late"), .drop 0]

theorem delivers_exactly_once_crowd :
    received 1 (empty.performAll [.subscribe, .publish (.line "early")]).subscribe.2
        [.publish .prompt, .drain 0, .take 1, .publish .roomChange, .publish (.line "late"),
          .drop 0] ++
      (empty.performAll crowd).queued 1 = [.prompt, .roomChange, .line "late"] :=
  (delivers_exactly_once crowd).1 [.subscribe, .publish (.line "early")]
    [.publish .prompt, .drain 0, .take 1, .publish .roomChange, .publish (.line "late"), .drop 0] 1
    rfl rfl (by decide)

end Questline.Stream
