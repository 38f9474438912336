import FlightSupervisor.Proofs.ArmHandshake
import FlightSupervisor.Proofs.Unwatched
/-!
Time passes alike with and without the watchdog (`elapse_until_unaware`).  Its alarms stand beside the others and do
not change their order; when one of them goes off, the view stays as it is, and an instant that time reaches for its
sake alone only cuts a wait in two.
-/

set_option autoImplicit false

namespace FlightSupervisor

namespace Supervisor

theorem first_due_filter (keep : Alarm → Bool) (alarms : List Alarm) (chosen : Alarm) (kept : keep chosen = true)
    (first : FirstDue alarms chosen) : FirstDue (alarms.filter keep) chosen := by
  obtain ⟨before, after, rfl, earlier, later⟩ := first
  refine ⟨before.filter keep, after.filter keep, by simp [kept], ?_, ?_⟩
  · exact fun alarm member => earlier alarm (List.mem_of_mem_filter member)
  · exact fun alarm member => later alarm (List.mem_of_mem_filter member)

section View

variable (s : Supervisor)

theorem unwatched_alarm (alarm : Alarm) (member : alarm ∈ s.unwatched.alarms) : alarm ∈ s.alarms :=
  List.mem_of_mem_filter member

theorem unwatched_due (alarm : Alarm) (other : alarm.isWatchdog = false) (due : s.dueAlarm? = some alarm) :
    s.unwatched.dueAlarm? = some alarm := by
  obtain ⟨next, past⟩ := Option.filter_eq_some_iff.mp due
  have first := first_due_filter (fun alarm => !alarm.isWatchdog) _ _ (by simp [other]) (soonest_first_due _ _ next)
  exact Option.filter_eq_some_iff.mpr ⟨first_due_soonest _ _ first, past⟩

theorem unwatched_quiet (quiet : s.dueAlarm? = none) : s.unwatched.dueAlarm? = none :=
  (no_alarm_due _).mpr fun alarm member => s.no_alarm_due.mp quiet alarm (s.unwatched_alarm alarm member)

theorem unwatched_later (limit : Nat) : s.nextInstant limit ≤ s.unwatched.nextInstant limit := by
  have first (due : Nat) (next : s.unwatched.nextDue? = some due) :
      ∃ least, s.nextDue? = some least ∧ least ≤ due := by
    rcases s.unwatched.next_due_found due next with ⟨alarm, found, rfl⟩ | ⟨h, member, isOpen, rfl⟩
    · exact s.next_due_least alarm (s.unwatched_alarm alarm (next_alarm_member s.unwatched alarm found))
    · exact s.next_due_open h member isOpen
  rw [nextInstant, nextInstant]
  cases viewed : s.unwatched.nextDue? with
  | none => exact Nat.le_trans (Nat.min_le_left _ _) (by simp)
  | some due =>
      obtain ⟨least, next, early⟩ := first due viewed
      simp only [next, Option.getD_some]
      omega

theorem unwatched_load (limit : Nat) : s.unwatched.load limit ≤ s.load limit := by
  have fewer : ((s.unwatched.alarms).map (Alarm.weight limit s.clock)).sum ≤
      (s.alarms.map (Alarm.weight limit s.clock)).sum :=
    List.Sublist.sum_le_sum (List.filter_sublist.map _) fun _ _ => Nat.zero_le _
  exact Nat.add_le_add_right (Nat.add_le_add_right (Nat.add_le_add_right fewer _) _) _

theorem unwatched_wake_lowers (limit : Nat) (alarm : Alarm) (due : s.unwatched.dueAlarm? = some alarm) :
    (s.unwatched.wakeAlarm alarm).stepsLeft limit < s.stepsLeft limit := by
  have less := s.unwatched.load_wake_alarm limit alarm due
  have most := s.unwatched_load limit
  have once : (if (s.unwatched.wakeAlarm alarm).isPressed limit then 0 else 1) ≤ 1 := by split <;> omega
  simp only [stepsLeft]
  omega

theorem wake_watchdog (alarm : Alarm) (watchdog : alarm.isWatchdog = true) :
    (s.wakeAlarm alarm).unwatched = s.unwatched := by
  obtain ⟨due, sleeper⟩ := alarm
  cases sleeper with
  | watchdog timing =>
      let own : Alarm := ⟨due, .watchdog timing⟩
      have seen := FlightState.watch_silent s.clock timing.timeout s.flight
      have erased : (s.alarms.erase own).filter (fun alarm => !alarm.isWatchdog) =
          s.alarms.filter fun alarm => !alarm.isWatchdog := by
        rw [← List.erase_filter]
        exact List.erase_of_not_mem fun member => by simpa [own, Alarm.isWatchdog] using (List.mem_filter.mp member).2
      refine unwatched_same _ _ ?_ ?_ rfl
      · exact congrArg (fun flight => { s.cockpit.offline with flight := flight }) seen
      · simp only [unwatched, wakeAlarm, rouse, putOff, List.filter_append]
        exact (List.append_nil _).trans erased
  | run | reply | deed => cases watchdog

theorem unwatched_conclude (outcome : ArmOutcome) :
    s.unwatched.concludeHandshakes outcome = (s.concludeHandshakes outcome).unwatched := by
  cases outcome <;> rfl

end View

-- A goal that is told without the clock and without what the view leaves out.
structure Timeless (goal : Supervisor → Bool) : Prop where
  viewed : ∀ s : Supervisor, goal s.unwatched = goal s
  passed : ∀ (s : Supervisor) (instant : Nat), goal (s.passTo instant) = goal s

section Passage

variable (limit : Nat) (goal : Supervisor → Bool)

theorem elapse_busy (s t : Supervisor) (busy : ∀ limit, s.step? limit = some t) :
    s.elapseUntil limit goal = t.elapseUntil limit goal := by
  have unsettled : s.isSettled = false := by
    rw [isSettled, busy]
    rfl
  rw [elapse_until_unfold, unsettled, Bool.and_false, busy]
  rfl

section Quiet

variable (s : Supervisor) (prompt : s.anyLate = false) (quiet : s.dueAlarm? = none)
  (unanswered : s.pendingOutcome? = none)

include prompt quiet unanswered

theorem elapse_reached (reached : goal s = true) : s.elapseUntil limit goal = s := by
  have rests := s.turn_step s.clock none (.rest prompt quiet unanswered (Nat.min_le_left _ _))
  have settled : s.isSettled = true := by
    rw [isSettled, rests]
    rfl
  rw [elapse_until_unfold, reached, settled]
  rfl

theorem elapse_pass (waiting : goal s = false) (ahead : s.clock < s.nextInstant limit) :
    s.elapseUntil limit goal = (s.passTo (s.nextInstant limit)).elapseUntil limit goal := by
  have passes := s.turn_step limit _ (.pass prompt quiet unanswered ahead)
  rw [elapse_until_unfold, waiting, Bool.false_and, passes]
  rfl

theorem elapse_halfway (timeless : Timeless goal) (waiting : goal s = false) (instant : Nat)
    (ahead : s.clock < instant) (within : instant ≤ s.nextInstant limit) :
    s.elapseUntil limit goal = (s.passTo instant).elapseUntil limit goal := by
  rw [elapse_pass limit goal s prompt quiet unanswered waiting (Nat.lt_of_lt_of_le ahead within)]
  rcases Nat.eq_or_lt_of_le within with here | before
  · rw [here]
  · have early (due : Nat) (next : s.nextDue? = some due) : instant < due := by
      rw [nextInstant, next] at before
      exact Nat.lt_of_lt_of_le before (Nat.min_le_right _ _)
    obtain ⟨still, silent⟩ := s.passed_quiet instant early
    have same : (s.passTo instant).nextInstant limit = s.nextInstant limit := rfl
    have later := elapse_pass limit goal (s.passTo instant) still silent unanswered
      ((timeless.passed s instant).trans waiting) (same.symm ▸ before)
    rw [later, same]
    rfl

end Quiet

def PassesAlike (s : Supervisor) : Prop :=
  (s.unwatched.elapseUntil limit goal).unwatched = (s.elapseUntil limit goal).unwatched

theorem rouse_alike (s : Supervisor) (alarm : Alarm) (prompt : s.anyLate = false) (due : s.dueAlarm? = some alarm)
    (later : ∀ t : Supervisor, t.stepsLeft limit < s.stepsLeft limit → PassesAlike limit goal t) :
    PassesAlike limit goal s := by
  have goes := s.turn_step limit _ (.rouse alarm prompt due)
  have here := later (s.wakeAlarm alarm) (step_lowers limit s _ goes)
  rw [PassesAlike, elapse_busy limit goal s _ fun limit => s.turn_step limit _ (.rouse alarm prompt due)]
  cases watchdog : alarm.isWatchdog with
  | true =>
      rw [PassesAlike, s.wake_watchdog alarm watchdog] at here
      exact here
  | false =>
      have viewed := s.unwatched_due alarm watchdog due
      have there := later (s.unwatched.wakeAlarm alarm) (s.unwatched_wake_lowers limit alarm viewed)
      calc (s.unwatched.elapseUntil limit goal).unwatched
          = ((s.unwatched.wakeAlarm alarm).elapseUntil limit goal).unwatched := by
            rw [elapse_busy limit goal s.unwatched _ fun limit =>
              s.unwatched.turn_step limit _ (.rouse alarm prompt viewed)]
        _ = ((s.unwatched.wakeAlarm alarm).unwatched.elapseUntil limit goal).unwatched := there.symm
        _ = ((s.wakeAlarm alarm).unwatched.elapseUntil limit goal).unwatched := by rw [wake_alarm_unaware alarm s]
        _ = ((s.wakeAlarm alarm).elapseUntil limit goal).unwatched := here

theorem pass_alike (s : Supervisor) (timeless : Timeless goal) (prompt : s.anyLate = false)
    (quiet : s.dueAlarm? = none) (unanswered : s.pendingOutcome? = none) (ahead : s.clock < s.nextInstant limit)
    (later : PassesAlike limit goal (s.passTo (s.nextInstant limit))) : PassesAlike limit goal s := by
  have viewed := s.unwatched_quiet quiet
  rw [PassesAlike]
  cases reached : goal s with
  | true =>
      have viewed_reached := (timeless.viewed s).trans reached
      rw [elapse_reached limit goal s prompt quiet unanswered reached,
        elapse_reached limit goal s.unwatched prompt viewed unanswered viewed_reached]
      exact s.unwatched_unwatched
  | false =>
      have viewed_waiting := (timeless.viewed s).trans reached
      rw [elapse_pass limit goal s prompt quiet unanswered reached ahead,
        elapse_halfway limit goal s.unwatched prompt viewed unanswered timeless viewed_waiting _ ahead
          (s.unwatched_later limit)]
      exact later

theorem rest_alike (s : Supervisor) (prompt : s.anyLate = false) (quiet : s.dueAlarm? = none)
    (unanswered : s.pendingOutcome? = none) (still : s.nextInstant limit ≤ s.clock) : PassesAlike limit goal s := by
  have ended : limit ≤ s.clock := by
    by_contra early
    have later := s.next_instant_ahead limit prompt quiet (by omega)
    omega
  have rests := s.turn_step limit none (.rest prompt quiet unanswered still)
  have viewed := s.unwatched.turn_step limit none
    (.rest prompt (s.unwatched_quiet quiet) unanswered (Nat.le_trans (Nat.min_le_left _ _) ended))
  rw [PassesAlike, elapseUntil, elapseUntil, steps_until_rest limit goal _ s rests,
    steps_until_rest limit goal _ _ viewed]
  exact s.unwatched_unwatched

-- The induction is on what is left to do with the watchdog; without it there is no more.
theorem elapse_until_unaware (timeless : Timeless goal) : Unaware (elapseUntil limit goal) := by
  intro s
  show PassesAlike limit goal s
  generalize bound : s.stepsLeft limit = left
  induction left using Nat.strongRecOn generalizing s with
  | ind left ih =>
      subst bound
      have lowers := step_lowers limit s
      have turn := s.step_turn limit
      generalize s.step? limit = next at turn lowers
      cases turn with
      | expire late =>
          rw [PassesAlike, elapse_busy limit goal s _ fun limit => s.turn_step limit _ (.expire late),
            elapse_busy limit goal s.unwatched _ fun limit => s.unwatched.turn_step limit _ (.expire late)]
          exact ih _ (lowers _ rfl) s.expireHandshakes rfl
      | rouse alarm prompt due => exact rouse_alike limit goal s alarm prompt due fun t less => ih _ less t rfl
      | conclude outcome prompt quiet pending =>
          have viewed := s.unwatched_quiet quiet
          rw [PassesAlike,
            elapse_busy limit goal s _ fun limit => s.turn_step limit _ (.conclude outcome prompt quiet pending),
            elapse_busy limit goal s.unwatched _ fun limit =>
              s.unwatched.turn_step limit _ (.conclude outcome prompt viewed pending), unwatched_conclude]
          exact ih _ (lowers _ rfl) (s.concludeHandshakes outcome) rfl
      | pass prompt quiet unanswered ahead =>
          have later := ih _ (lowers _ rfl) (s.passTo (s.nextInstant limit)) rfl
          exact pass_alike limit goal s timeless prompt quiet unanswered ahead later
      | rest prompt quiet unanswered still => exact rest_alike limit goal s prompt quiet unanswered still

end Passage

end Supervisor

end FlightSupervisor
