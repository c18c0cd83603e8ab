import Mathlib.Algebra.GroupWithZero.Nat
import Mathlib.Data.List.DropRight
import Questline.Timer

/-! What a timer reads. A timer remembers when it was started and a sum, and nothing else of what
has been done to it. Yet what it reads is the total length of the stretches of time in which it has
been running since it was last cleared. -/
namespace Questline.Timer

inductive Press where
  | start
  | stop
  | clear
deriving DecidableEq

/-- What has been done to a timer and when, in the order in which it was done. -/
abbrev History := List (Nat × Press)

def press (t : Timer) (now : Nat) : Press → Timer
  | .start => t.start now
  | .stop => t.stop now
  | .clear => t.clear

def after (t : Timer) (history : History) : Timer :=
  history.foldl (fun t deed => t.press deed.1 deed.2) t

/-- Everything was done between two times, and the clock never went back. -/
def Between (first : Nat) (history : History) (last : Nat) : Prop :=
  (first :: history.map Prod.fst ++ [last]).IsChain (· ≤ ·)

instance (first : Nat) (history : History) (last : Nat) : Decidable (Between first history last) :=
  inferInstanceAs (Decidable (List.IsChain _ _))

def sinceClear (history : History) : History := history.rtakeWhile fun deed => deed.2 ≠ .clear

/-- The stretches of time, each with its begin and its end, in which a timer runs up to `now`. One
begins when the timer is started while it does not run, and ends when it is stopped next. `since` is
given where the timer has been running from the outset. -/
def stretches (now : Nat) : (since : Option Nat) → History → List (Nat × Nat)
  | none, [] => []
  | some since, [] => [(since, now)]
  | none, (time, .start) :: rest => stretches now (some time) rest
  | some since, (time, .stop) :: rest => (since, time) :: stretches now none rest
  | since, _ :: rest => stretches now since rest

def total (stretches : List (Nat × Nat)) : Nat := (stretches.map fun s => s.2 - s.1).sum

/-- Whether a timer runs at a moment: it was started by then, and nothing has been done since. -/
def runsAt (history : History) (moment : Nat) : Bool :=
  (history.filter fun deed => deed.1 ≤ moment).getLast?.any fun deed => deed.2 = .start

/-! ### The sum -/

theorem after_append (t : Timer) (history more : History) :
    t.after (history ++ more) = (t.after history).after more := List.foldl_append

/-- Whatever was done before, a timer that is cleared is a fresh one. -/
theorem after_sinceClear (history : History) :
    fresh.after history = fresh.after (sinceClear history) := by
  induction history using List.reverseRecOn with
  | nil => rfl
  | append_singleton history deed ih =>
    by_cases cleared : deed.2 = .clear
    · rw [sinceClear, List.rtakeWhile_concat_neg _ _ _ (by simp [cleared]), after_append]
      simp [after, press, clear, cleared]
    · rw [sinceClear, List.rtakeWhile_concat_pos _ _ _ (by simp [cleared]), after_append,
        after_append, ih, sinceClear]

/-- What was summed up before, and each stretch since with its length. -/
theorem elapsed_after (t : Timer) {history : History}
    (uncleared : ∀ deed ∈ history, deed.2 ≠ .clear) (now : Nat) :
    (t.after history).elapsed now = t.accumulated + total (stretches now t.startedAt history) := by
  induction history generalizing t with
  | nil => cases running : t.startedAt <;> simp [after, elapsed, running, stretches, total]
  | cons deed rest ih =>
    obtain ⟨time, p⟩ := deed
    obtain ⟨first, others⟩ := List.forall_mem_cons.mp uncleared
    -- what the first thing does to the timer is what it does to the sum or to the open stretch
    have later : (t.after ((time, p) :: rest)).elapsed now = _ := ih (t.press time p) others
    rw [later]
    cases p with
    | clear => exact absurd rfl first
    | start =>
      cases running : t.startedAt <;> simp [press, start, running, stretches]
    | stop =>
      cases running : t.startedAt with
      | none => simp [press, stop, elapsed, running, stretches]
      | some since => simp [press, stop, elapsed, running, stretches, total, Nat.add_assoc]

/-! ### The stretches -/

theorem between_cons {first last time : Nat} {p : Press} {rest : History} :
    Between first ((time, p) :: rest) last ↔ first ≤ time ∧ Between time rest last :=
  List.isChain_cons_cons

theorem Between.le {first last : Nat} {history : History} (ordered : Between first history last) :
    first ≤ last ∧ ∀ deed ∈ history, first ≤ deed.1 := by
  induction history generalizing first with
  | nil => simpa [Between] using ordered
  | cons deed rest ih =>
    obtain ⟨here, later⟩ := between_cons.mp ordered
    obtain ⟨ends, others⟩ := ih later
    refine ⟨by omega, ?_⟩
    simp only [List.forall_mem_cons, here, true_and]
    intro other member
    exact Nat.le_trans here (others other member)

theorem Between.sublist {first last : Nat} {history part : History}
    (ordered : Between first history last) (among : part.Sublist history) :
    Between first part last := by
  rw [Between, List.isChain_iff_pairwise] at ordered ⊢
  exact ordered.sublist (((among.map Prod.fst).cons_cons first).append_right [last])

/-- The last thing done by a moment decides whether a timer runs then; where there is none, it runs
if it has been running from the outset. -/
def RunsFrom (since : Option Nat) (history : History) (moment : Nat) : Prop :=
  match (history.filter fun deed => deed.1 ≤ moment).getLast? with
  | some deed => deed.2 = .start
  | none => ∃ time ∈ since, time ≤ moment

theorem runsAt_iff (history : History) (moment : Nat) :
    runsAt history moment ↔ RunsFrom none history moment := by
  unfold runsAt RunsFrom
  split <;> simp [*]

theorem runsFrom_cons_past {since : Option Nat} {rest : History} {time moment : Nat} {p : Press}
    (past : time ≤ moment) :
    RunsFrom since ((time, p) :: rest) moment ↔
      RunsFrom (if p = .start then some time else none) rest moment := by
  unfold RunsFrom
  rw [List.filter_cons_of_pos (by simpa using past), List.getLast?_cons]
  cases (rest.filter fun deed => deed.1 ≤ moment).getLast? with
  | none => by_cases started : p = .start <;> simp [started, past]
  | some deed => simp

theorem runsFrom_future {since : Option Nat} {history : History} {moment : Nat}
    (future : ∀ deed ∈ history, moment < deed.1) :
    RunsFrom since history moment ↔ ∃ time ∈ since, time ≤ moment := by
  have none : (history.filter fun deed => deed.1 ≤ moment) = [] := by
    simpa [List.filter_eq_nil_iff] using future
  simp [RunsFrom, none]

section

variable {rest : History} {time moment : Nat} (later : ∀ deed ∈ rest, time ≤ deed.1)
include later

theorem runsFrom_ahead {since : Option Nat} (p : Press) (ahead : moment < time) :
    (RunsFrom since ((time, p) :: rest) moment ↔ ∃ begun ∈ since, begun ≤ moment) ∧
      (RunsFrom since rest moment ↔ ∃ begun ∈ since, begun ≤ moment) := by
  have future : ∀ deed ∈ rest, moment < deed.1 :=
    fun deed member => Nat.lt_of_lt_of_le ahead (later deed member)
  exact ⟨runsFrom_future (List.forall_mem_cons.mpr ⟨ahead, future⟩), runsFrom_future future⟩

theorem runsFrom_start :
    RunsFrom none ((time, .start) :: rest) moment ↔ RunsFrom (some time) rest moment := by
  by_cases past : time ≤ moment
  · rw [runsFrom_cons_past past, if_pos rfl]
  · have ahead : moment < time := by omega
    rw [(runsFrom_ahead later .start ahead).1, (runsFrom_ahead later .start ahead).2]
    simp [ahead]

theorem runsFrom_start_again {since : Nat} (early : since ≤ time) :
    RunsFrom (some since) ((time, .start) :: rest) moment ↔
      RunsFrom (some since) rest moment := by
  by_cases past : time ≤ moment
  · have begun : since ≤ moment := by omega
    rw [runsFrom_cons_past past, if_pos rfl]
    simp [RunsFrom, past, begun]
  · have ahead : moment < time := by omega
    rw [(runsFrom_ahead later .start ahead).1, (runsFrom_ahead later .start ahead).2]

theorem runsFrom_stop {since : Nat} :
    RunsFrom (some since) ((time, .stop) :: rest) moment ↔
      (since ≤ moment ∧ moment < time) ∨ RunsFrom none rest moment := by
  by_cases past : time ≤ moment
  · have beyond : ¬ moment < time := by omega
    rw [runsFrom_cons_past past, if_neg (by decide)]
    simp [beyond]
  · have ahead : moment < time := by omega
    rw [(runsFrom_ahead later .stop ahead).1, (runsFrom_ahead later .stop ahead).2]
    simp [ahead]

theorem runsFrom_stop_again :
    RunsFrom none ((time, .stop) :: rest) moment ↔ RunsFrom none rest moment := by
  by_cases past : time ≤ moment
  · rw [runsFrom_cons_past past, if_neg (by decide)]
  · have ahead : moment < time := by omega
    rw [(runsFrom_ahead later .stop ahead).1, (runsFrom_ahead later .stop ahead).2]

end

theorem within_stretches {first now moment : Nat} {since : Option Nat} {history : History}
    (started : ∀ time ∈ since, time ≤ first) (ordered : Between first history now)
    (uncleared : ∀ deed ∈ history, deed.2 ≠ .clear) (past : moment < now) :
    (∃ s ∈ stretches now since history, s.1 ≤ moment ∧ moment < s.2) ↔
      RunsFrom since history moment := by
  induction history generalizing first since with
  | nil => cases since <;> simp [stretches, RunsFrom, past]
  | cons deed rest ih =>
    obtain ⟨time, p⟩ := deed
    obtain ⟨known, others⟩ := List.forall_mem_cons.mp uncleared
    obtain ⟨here, later⟩ := between_cons.mp ordered
    have stopped := @ih time none (by simp) later others
    have running := fun since (early : since ≤ time) =>
      @ih time (some since) (by simpa using early) later others
    cases p with
    | clear => exact absurd rfl known
    | start =>
      cases since with
      | none =>
        rw [runsFrom_start later.le.2]
        exact running time le_rfl
      | some since =>
        have early : since ≤ time := Nat.le_trans (started since rfl) here
        rw [runsFrom_start_again later.le.2 early]
        exact running since early
    | stop =>
      cases since with
      | none =>
        rw [runsFrom_stop_again later.le.2]
        exact stopped
      | some since =>
        rw [runsFrom_stop later.le.2, ← stopped]
        simp [stretches]

theorem stretches_begin {first now : Nat} {since : Option Nat} {history : History}
    (ordered : Between first history now) :
    ∀ s ∈ stretches now since history, s.1 ∈ since ∨ first ≤ s.1 := by
  fun_induction stretches now since history generalizing first with
  | case1 => simp
  | case2 => simp
  | case3 time rest ih =>
    obtain ⟨here, later⟩ := between_cons.mp ordered
    intro s member
    rcases ih later s member with same | after
    · rw [← Option.some.inj same]
      exact .inr here
    · exact .inr (Nat.le_trans here after)
  | case4 since time rest ih =>
    obtain ⟨here, later⟩ := between_cons.mp ordered
    refine List.forall_mem_cons.mpr ⟨.inl rfl, fun s member => ?_⟩
    have after := (ih later s member).resolve_left (by simp)
    exact .inr (Nat.le_trans here after)
  | case5 since deed rest _ _ ih =>
    obtain ⟨here, later⟩ := between_cons.mp ordered
    intro s member
    exact (ih later s member).imp_right (Nat.le_trans here)

theorem stretches_pairwise {first now : Nat} {since : Option Nat} {history : History}
    (ordered : Between first history now) :
    (stretches now since history).Pairwise fun earlier later => earlier.2 ≤ later.1 := by
  fun_induction stretches now since history generalizing first with
  | case1 => exact .nil
  | case2 => simp
  | case3 time rest ih => exact ih (between_cons.mp ordered).2
  | case4 since time rest ih =>
    obtain ⟨_, later⟩ := between_cons.mp ordered
    refine .cons (fun s member => ?_) (ih later)
    exact (stretches_begin later s member).resolve_left (by simp)
  | case5 since deed rest _ _ ih => exact ih (between_cons.mp ordered).2

/-! ### Readings -/

theorem elapsed_press (t : Timer) (now : Nat) {p : Press} (uncleared : p ≠ .clear) :
    (t.press now p).elapsed now = t.elapsed now := by
  cases p with
  | start => cases running : t.startedAt <;> simp [press, start, elapsed, running]
  | stop => rfl
  | clear => exact absurd rfl uncleared

theorem elapsed_mono (t : Timer) {now later : Nat} (past : now ≤ later) :
    t.elapsed now ≤ t.elapsed later := by
  unfold elapsed
  split
  · omega
  · exact le_rfl

theorem elapsed_le_after (t : Timer) {now later : Nat} {more : History}
    (ordered : Between now more later) (uncleared : ∀ deed ∈ more, deed.2 ≠ .clear) :
    t.elapsed now ≤ (t.after more).elapsed later := by
  induction more generalizing t now with
  | nil => exact t.elapsed_mono ordered.le.1
  | cons deed rest ih =>
    obtain ⟨time, p⟩ := deed
    obtain ⟨first, others⟩ := List.forall_mem_cons.mp uncleared
    obtain ⟨past, ordered⟩ := between_cons.mp ordered
    calc t.elapsed now ≤ t.elapsed time := t.elapsed_mono past
      _ = (t.press time p).elapsed time := (t.elapsed_press time first).symm
      _ ≤ ((t.press time p).after rest).elapsed later := ih _ ordered others

theorem after_of_stopped {t : Timer} (stopped : t.isRunning = false) {more : History}
    (idle : ∀ deed ∈ more, deed.2 = .stop) : t.after more = t := by
  have none : t.startedAt = none := by simpa [isRunning] using stopped
  induction more with
  | nil => rfl
  | cons deed rest ih =>
    obtain ⟨time, p⟩ := deed
    obtain ⟨rfl, others⟩ := List.forall_mem_cons.mp idle
    have same : t.press time .stop = t := by
      obtain ⟨startedAt, accumulated⟩ := t
      subst none
      rfl
    change (t.press time .stop).after rest = t
    rw [same, ih others]

/-- A timer reads its running time since it was last cleared, whatever is done to it while the clock
does not go back. It reads the total length of the stretches in which it was running, and in seconds
that total rounded down. The stretches do not overlap, and a moment lies in one of them if what was
done to the timer last by then was to start it. Unless it is cleared the timer never reads less
later, and while it is stopped it always reads the same. -/
theorem reads_running_time {history : History} {now : Nat} (ordered : Between 0 history now) :
    let t := fresh.after history
    let running := stretches now none (sinceClear history)
    (t.elapsed now = total running ∧ t.seconds now = total running / 1000) ∧
    (running.Pairwise (fun earlier later => earlier.2 ≤ later.1) ∧
      ∀ moment < now, (∃ s ∈ running, s.1 ≤ moment ∧ moment < s.2) ↔
        runsAt (sinceClear history) moment) ∧
    (∀ more later, Between now more later → (∀ deed ∈ more, deed.2 ≠ .clear) →
      t.elapsed now ≤ (t.after more).elapsed later ∧
        t.seconds now ≤ (t.after more).seconds later) ∧
    (∀ more later, t.isRunning = false → (∀ deed ∈ more, deed.2 = .stop) →
      (t.after more).elapsed later = t.elapsed now ∧
        (t.after more).seconds later = t.seconds now) := by
  intro t running
  have uncleared : ∀ deed ∈ sinceClear history, deed.2 ≠ .clear := by
    intro deed member
    simpa using List.mem_rtakeWhile_imp member
  have recent : Between 0 (sinceClear history) now :=
    ordered.sublist (List.rtakeWhile_suffix _ history).sublist
  have reads : t.elapsed now = total running := by
    have sum := elapsed_after fresh uncleared now
    rw [← after_sinceClear] at sum
    exact sum.trans (Nat.zero_add _)
  refine ⟨⟨reads, by rw [seconds, reads]⟩, ⟨stretches_pairwise recent, fun moment past => ?_⟩,
    fun more later ordered uncleared => ?_, fun more later stopped idle => ?_⟩
  · rw [runsAt_iff]
    exact within_stretches (by simp) recent uncleared past
  · have grows := t.elapsed_le_after ordered uncleared
    exact ⟨grows, Nat.div_le_div_right grows⟩
  · have frozen : t.elapsed later = t.elapsed now := by
      have none : t.startedAt = none := by simpa [isRunning] using stopped
      simp [elapsed, none]
    rw [after_of_stopped stopped idle, seconds, seconds, frozen]
    exact ⟨rfl, rfl⟩

/-- Starts and stops that change nothing, and a stretch that was cleared away. -/
def errands : History :=
  [(500, .start), (900, .clear), (1000, .start), (1700, .start), (3400, .stop), (3600, .stop),
    (3600, .start)]

theorem reads_running_time_errands :
    Between 0 errands 4900 ∧
    stretches 4900 none (sinceClear errands) = [(1000, 3400), (3600, 4900)] ∧
    (fresh.after errands).elapsed 4900 = 3700 ∧ (fresh.after errands).seconds 4900 = 3 ∧
    runsAt (sinceClear errands) 1700 ∧
    3 ≤ ((fresh.after errands).after [(5000, .stop), (5000, .start)]).seconds 6000 := by
  obtain ⟨⟨total, seconds⟩, ⟨_, covers⟩, grows, _⟩ :=
    @reads_running_time errands 4900 (by decide)
  have runs : stretches 4900 none (sinceClear errands) = [(1000, 3400), (3600, 4900)] := by decide
  rw [runs] at total seconds covers
  have whole := (grows [(5000, .stop), (5000, .start)] 6000 (by decide) (by decide)).2
  rw [seconds] at whole
  exact ⟨by decide, runs, total, seconds, (covers 1700 (by decide)).mp (by decide), whole⟩

end Questline.Timer
