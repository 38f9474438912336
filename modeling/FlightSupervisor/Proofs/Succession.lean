import FlightSupervisor.Proofs.Turns
/-!
One program after another.  Control is a single flag, so a program that is asleep while control is
dropped and taken again holds the new owner's control for its own.  A later start is therefore safe
from earlier programs in all futures exactly if none of them is live when it takes place
(`succession_iff`).
-/

set_option autoImplicit false

namespace FlightSupervisor

namespace Run

-- Told to stop, the program has nothing ahead but the way down, and it cannot break down on it.
def Stopping (r : Run) : Prop :=
  match r.activity with
  | .boundary => r.stopRequested = true
  | .carrying todo => r.stopRequested = true ∧ ∃ rest, todo = .recheck :: rest
  | .descending _ _ | .ended _ => True
  | .collapsed => False

theorem told_stopping (r : Run) (running : r.isOver = false) (waits : r.Waits) :
    (r.told true).Stopping := by
  unfold Stopping told
  rw [Waits] at waits
  cases activity : r.activity <;> simp_all [isOver]

theorem stopping_carrying (r : Run) (action : Action) (todo : List Action) (stopping : r.Stopping)
    (next : r.activity = .carrying (action :: todo)) :
    r.stopRequested = true ∧ action = .recheck := by
  simpa [Stopping, next] using stopping

theorem moves_stopping (rules : Rules) (id : Nat) (c : Cockpit) (r : Run) (next : Cockpit × Run)
    (stopping : r.Stopping) (moves : Moves rules id c r next) :
    next.2.Stopping ∧ (next.2.isOver = true → next.1.flight.autonomous = false) := by
  have recheck := stopping_carrying r
  cases moves with
  | complete | revoke | cut | land => exact ⟨trivial, fun _ => rfl⟩
  | trip | sendFails => exact ⟨trivial, nofun⟩
  | abandon => exact ⟨trivial, nofun⟩
  | lower trip throttle lower down control => exact ⟨by simp [Stopping], by simp [isOver]⟩
  | begin actions later between ahead clear =>
      have stopped : r.stopRequested = true := by simpa [Stopping, between] using stopping
      rw [guard_stop rules false c r stopped] at clear
      cases clear
  | advance carried => simp [Stopping, carried] at stopping
  | unfold action todo more next unfolds =>
      obtain ⟨stopped, same⟩ := recheck action todo stopping next
      subst same
      cases unfolds with
      | recheck unstopped control =>
          rw [stopped] at unstopped
          cases unstopped
  | publish phase todo next => cases (recheck _ todo stopping next).2
  | send frame todo next => cases (recheck _ todo stopping next).2
  | collapse todo next => cases (recheck _ todo stopping next).2
  | hold millis todo next => cases (recheck _ todo stopping next).2
  | mark armed todo next => cases (recheck _ todo stopping next).2

theorem wake_stopping (rules : Rules) (id : Nat) (c : Cockpit) (r : Run) (stopping : r.Stopping)
    (running : r.isOver = false) :
    (r.wake rules id c).2.Stopping ∧
      ((r.wake rules id c).2.isOver = true → (r.wake rules id c).1.flight.autonomous = false) := by
  refine wake_keeps rules id (fun later next => next.Stopping ∧
    (next.isOver = true → later.flight.autonomous = false)) ?_ c r ⟨stopping, ?_⟩
  · intro c later next _ _ kept moves
    exact moves_stopping rules id c later next kept.1 moves
  · intro finished
    have ended : r.isOver = true := finished
    rw [running] at ended
    cases ended

end Run

namespace Supervisor

theorem stopping_releases (effort : Nat) (s : Supervisor) (id : Nat) (run : Run) (orderly : s.Orderly)
    (found : s.runs[id]? = some run) (running : run.isOver = false) (stopping : run.Stopping)
    (control : s.flight.autonomous = true) (bound : run.effort ≤ effort) :
    ∃ (future : List Happening) (h : Happening), (s.after future).woken? h = some id ∧
      (s.after future).flight.autonomous = true ∧
      ((s.after future).meet h).flight.autonomous = false := by
  induction effort using Nat.strongRecOn generalizing s run with
  | ind effort ih =>
      obtain ⟨millis, h, next⟩ := live_next_turn s id run orderly found running
      obtain ⟨alarms, woken⟩ := next.woken
      let waited := s.meet (.pass millis)
      obtain ⟨still, released⟩ := run.wake_stopping s.rules id waited.cockpit stopping running
      cases finished : (run.wake s.rules id waited.cockpit).2.isOver with
      | true =>
          refine ⟨[.pass millis], h, next.turn, control, ?_⟩
          show (waited.meet h).cockpit.flight.autonomous = false
          rw [woken.flight]
          exact released finished
      | false =>
          have kept : (waited.meet h).flight.autonomous = true := by
            rw [flight, woken.flight]
            rcases run.wake_control s.rules id waited.cockpit with same | ⟨_, ended⟩
            · exact same.trans control
            · rw [finished] at ended
              cases ended
          obtain ⟨future, last, later⟩ := ih _ (Nat.lt_of_lt_of_le next.less bound) (waited.meet h) _
            next.orderly next.place finished still kept (Nat.le_refl _)
          exact ⟨.pass millis :: h :: future, last, later⟩

theorem live_releases (s : Supervisor) (id : Nat) (orderly : s.Orderly) (live : s.isLive id = true)
    (control : s.flight.autonomous = true) :
    ∃ (future : List Happening) (h : Happening), (s.after future).woken? h = some id ∧
      (s.after future).flight.autonomous = true ∧
      ((s.after future).meet h).flight.autonomous = false := by
  obtain ⟨run, found, running⟩ := (live_iff s id).mp live
  have told := request_stop_told s id
  have place : (s.requestStop id).runs[id]? = some (run.told true) := by
    rw [told.runs, found]
    simp
  have kept : (s.requestStop id).flight.autonomous = true := by
    rw [flight, told.cockpit]
    exact control
  obtain ⟨future, h, later⟩ := stopping_releases _ (s.requestStop id) id (run.told true)
    (told_orderly s _ id told orderly) place running
    (run.told_stopping running (orderly.waits id run found)) kept (Nat.le_refl _)
  exact ⟨.stop id :: future, h, later⟩

-- An earlier program does not drive, and control does not change when it has its turn.
structure Superseded (s t : Supervisor) (id : Nat) : Prop where
  undriven : ∀ entry ∈ t.cockpit.since s.cockpit,
    entry.event.program? = some id → entry.event.isDrive = false
  control : ∀ h, t.woken? h = some id → (t.meet h).flight.autonomous = t.flight.autonomous

theorem over_superseded (s : Supervisor) (future : List Happening) (id : Nat) (outcome : Option Outcome)
    (finished : s.Over id outcome) : Superseded s (s.after future) id := by
  obtain ⟨still, silent⟩ := after_over s future id outcome finished
  constructor
  · intro entry member about
    exact absurd about (Cockpit.extends_since _ _ _ silent entry member)
  · intro h turn
    rw [over_flight _ h id outcome still turn]

/-- A program that is started succeeds all earlier ones, which neither drive nor change control any more, just if none
of them was live when it was started. -/
theorem succession_iff (s t : Supervisor) (past : List Happening) (program : Program) (id : Nat)
    (fresh : s.Fresh) (started : (s.after past).start? program = some (id, t)) :
    (∀ i, (s.after past).isLive i = false) ↔
      ∀ future, ∀ i < id, Superseded t (t.after future) i := by
  have orderly : (s.after past).Orderly := after_orderly s past (fresh_orderly s fresh)
  have start := start_started _ t program id started
  generalize s.after past = before at orderly start started ⊢
  constructor
  · intro ended future i earlier
    obtain ⟨run, place⟩ : ∃ run, before.runs[i]? = some run := by
      rw [start.next] at earlier
      exact ⟨_, List.getElem?_eq_getElem earlier⟩
    have finished : run.isOver = true := by simpa [isLive, place] using ended i
    have kept : t.runs[i]? = some run := by
      rw [started_runs before t program id start, if_neg (Nat.ne_of_lt earlier)]
      exact place
    exact over_superseded t future i run.outcome? ⟨run, kept, finished, rfl⟩
  · intro superseded i
    cases live : before.isLive i with
    | false => rfl
    | true =>
        obtain ⟨run, place, _⟩ := (live_iff before i).mp live
        obtain ⟨inside, _⟩ := List.getElem?_eq_some_iff.mp place
        have earlier : i < id := by
          rw [start.next]
          exact inside
        have still : t.isLive i = true := by
          rw [started_live before t program id start, live, Bool.or_true]
        obtain ⟨future, h, turn, held, lost⟩ := live_releases t i
          (started_orderly before t program id start orderly) still start.control
        have same := (superseded future i earlier).control h turn
        rw [lost, held] at same
        cases same

-- A program waits, loses control and is asleep still when the next one starts; it wakes and steers,
-- and its end takes control from the other.
theorem sleeper_steers_for_successor :
    let s := charged.after [.start [.wait 2, .hover 0], .rouse ⟨0, .run 0⟩, .pass 1000,
      .deed .forceDisarm]
    let t := s.meet (.start [.wait 5])
    let u := t.after [.rouse ⟨1000, .run 1⟩, .pass 1000, .rouse ⟨2000, .run 0⟩]
    (s.start? [.wait 5]).isSome = true ∧ t.isLive 1 = true ∧ t.flight.autonomous = true ∧
      (u.cockpit.since t.cockpit).map Entry.event =
        [.phase 0 .completed, .write (.program 0 .command) (.control (.level 1400)) true] ∧
      u.isLive 1 = true ∧ u.flight.autonomous = false := by
  decide +kernel

theorem successor_of_ended :
    ∃ id t, (charged.after [.start [.hover 0], .rouse ⟨0, .run 0⟩]).start? [.wait 5] = some (id, t) ∧
      ∀ future, ∀ i < id, Superseded t (t.after future) i := by
  have free : ((charged.after [.start [.hover 0], .rouse ⟨0, .run 0⟩]).start? [.wait 5]).isSome =
      true := by decide +kernel
  have length : (charged.after [.start [.hover 0], .rouse ⟨0, .run 0⟩]).runs.length = 1 := by
    decide +kernel
  obtain ⟨⟨id, t⟩, started⟩ := Option.isSome_iff_exists.mp free
  refine ⟨id, t, started, (succession_iff charged t _ _ id charged_fresh started).mp ?_⟩
  intro i
  cases i with
  | zero => decide +kernel
  | succ i => rw [isLive, List.getElem?_eq_none (by omega)]; rfl

end Supervisor

end FlightSupervisor
