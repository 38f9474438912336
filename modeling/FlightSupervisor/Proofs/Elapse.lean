import Mathlib.Algebra.BigOperators.Group.List.Basic
import Mathlib.Algebra.Order.BigOperators.Group.List
import Mathlib.Tactic.Ring
import FlightSupervisor.Proofs.Alarms
import FlightSupervisor.Proofs.ArmRequests
/-!
Time passes to its limit.  What is done next is one of five things (`step_turn`).  Each of them lowers what is
left to do until the limit (`step_lowers`), so the bound on the number of steps never cuts the passage of time
short: it goes on exactly until its goal is reached or nothing is left to do (`elapse_until_unfold`).
-/

set_option autoImplicit false

namespace FlightSupervisor

theorem sum_set_add (values : List Nat) (i old new : Nat) (found : values[i]? = some old) :
    (values.set i new).sum + old = values.sum + new := by
  induction values generalizing i with
  | nil => cases found
  | cons first rest ih =>
      cases i with
      | zero =>
          cases found
          simp only [List.set_cons_zero, List.sum_cons]
          omega
      | succ i =>
          have later := ih i found
          simp only [List.set_cons_succ, List.sum_cons]
          omega

namespace Cockpit

theorem write_replies (c : Cockpit) (issuer : Issuer) (frame : Frame) :
    (c.write issuer frame).2.replies = c.replies := by
  rw [write]
  cases c.link.fails <;> rfl

theorem write_answers (c : Cockpit) (issuer : Issuer) (frame : Frame) :
    (c.write issuer frame).2.answers.length ≤ c.answers.length + c.replies.length := by
  rw [write]
  cases c.link.fails with
  | true => exact Nat.le_add_right _ _
  | false =>
      have few := List.length_filter_le (fun reply : Reply => decide (reply.line = frame.text)) c.replies
      simp only [Bool.false_eq_true, if_false, List.length_append]
      exact Nat.add_le_add_left few _

end Cockpit

namespace Run

theorem moves_answers (rules : Rules) (id : Nat) (c : Cockpit) (r : Run) (next : Cockpit × Run)
    (moves : Moves rules id c r next) :
    next.1.replies = c.replies ∧ next.1.answers.length ≤ c.answers.length + c.replies.length := by
  cases moves with
  | send frame | sendFails frame => exact ⟨c.write_replies _ frame, c.write_answers _ frame⟩
  | cut | land => exact ⟨c.write_replies _ .disarm, c.write_answers _ .disarm⟩
  | lower trip throttle =>
      exact ⟨c.write_replies _ (.control (.level throttle)), c.write_answers _ (.control (.level throttle))⟩
  | complete | begin | advance | revoke | trip | publish | collapse | hold | unfold | mark | abandon =>
      exact ⟨rfl, Nat.le_add_right _ _⟩

theorem wake_answers (rules : Rules) (id : Nat) (c : Cockpit) (r : Run) :
    (r.wake rules id c).1.replies = c.replies ∧
      (r.wake rules id c).1.answers.length + c.replies.length * (r.wake rules id c).2.effort ≤
        c.answers.length + c.replies.length * r.effort := by
  refine wake_keeps rules id (fun later next => later.replies = c.replies ∧
    later.answers.length + c.replies.length * next.effort ≤ c.answers.length + c.replies.length * r.effort)
    ?_ c r ⟨rfl, Nat.le_refl _⟩
  intro later run next _ _ ⟨replies, paid⟩ moves
  obtain ⟨same, few⟩ := moves_answers rules id later run next moves
  have less := moves_effort rules id later run next moves
  have price : c.replies.length * next.2.effort + c.replies.length ≤ c.replies.length * run.effort :=
    Nat.mul_le_mul_left c.replies.length less
  refine ⟨same.trans replies, ?_⟩
  rw [replies] at few
  omega

end Run

def Alarm.weight (limit now : Nat) (alarm : Alarm) : Nat :=
  match alarm.sleeper with
  | .watchdog timing =>
      if alarm.due ≤ max limit now then (limit - max alarm.due now) / timing.pace + 1 else 0
  | _ => 1

def Alarm.mostWeight (limit now : Nat) (alarm : Alarm) : Nat :=
  match alarm.sleeper with
  | .watchdog timing => (limit - now) / timing.pace + 1
  | _ => 1

theorem Alarm.weight_le_most (limit now : Nat) (alarm : Alarm) :
    alarm.weight limit now ≤ alarm.mostWeight limit now := by
  rw [weight, mostWeight]
  cases alarm.sleeper with
  | watchdog timing =>
      simp only
      split
      · exact Nat.add_le_add_right (Nat.div_le_div_right (by omega)) 1
      · exact Nat.zero_le _
  | _ => exact Nat.le_refl _

namespace Supervisor

variable (limit : Nat)

section Turn

variable (s : Supervisor)

def anyLate (s : Supervisor) : Bool := s.handshakes.any (Handshake.isLate s.clock)

def dueAlarm? (s : Supervisor) : Option Alarm := s.nextAlarm?.filter fun alarm => decide (alarm.due ≤ s.clock)

def nextInstant (s : Supervisor) : Nat := min limit (s.nextDue?.getD limit)

def passTo (instant : Nat) (s : Supervisor) : Supervisor := s.changeCockpit fun c => { c with clock := instant }

theorem no_alarm_due : s.dueAlarm? = none ↔ ∀ alarm ∈ s.alarms, s.clock < alarm.due := by
  constructor
  · intro quiet alarm member
    obtain ⟨chosen, next, least⟩ := soonest_least s.alarms alarm member
    by_contra past
    have due : s.dueAlarm? = some chosen := Option.filter_eq_some_iff.mpr ⟨next, decide_eq_true (by omega)⟩
    rw [quiet] at due
    cases due
  · intro early
    refine Option.eq_none_iff_forall_ne_some.mpr fun alarm goes => ?_
    obtain ⟨first, past⟩ := Option.filter_eq_some_iff.mp goes
    have later := early alarm (next_alarm_member s alarm first)
    have reached : alarm.due ≤ s.clock := of_decide_eq_true past
    omega

inductive Turn : Option Supervisor → Prop where
  | expire (late : s.anyLate = true) : Turn (some s.expireHandshakes)
  | rouse (alarm : Alarm) (prompt : s.anyLate = false) (due : s.dueAlarm? = some alarm) :
      Turn (some (s.wakeAlarm alarm))
  | conclude (outcome : ArmOutcome) (prompt : s.anyLate = false) (quiet : s.dueAlarm? = none)
      (pending : s.pendingOutcome? = some outcome) : Turn (some (s.concludeHandshakes outcome))
  | pass (prompt : s.anyLate = false) (quiet : s.dueAlarm? = none) (unanswered : s.pendingOutcome? = none)
      (ahead : s.clock < s.nextInstant limit) : Turn (some (s.passTo (s.nextInstant limit)))
  | rest (prompt : s.anyLate = false) (quiet : s.dueAlarm? = none) (unanswered : s.pendingOutcome? = none)
      (still : s.nextInstant limit ≤ s.clock) : Turn none

theorem step_turn : s.Turn limit (s.step? limit) := by
  unfold step?
  split
  · rename_i late
    exact .expire late
  rename_i timely
  have prompt : s.anyLate = false := Bool.not_eq_true _ ▸ timely
  split
  · rename_i alarm due
    exact .rouse alarm prompt due
  rename_i quiet
  split
  · rename_i outcome pending
    exact .conclude outcome prompt quiet pending
  rename_i unanswered
  dsimp only
  split
  · rename_i ahead
    exact .pass prompt quiet unanswered ahead
  · rename_i still
    exact .rest prompt quiet unanswered (Nat.le_of_not_lt still)

theorem turn_step (next : Option Supervisor) (turn : s.Turn limit next) : s.step? limit = next := by
  have on_time (prompt : s.anyLate = false) : ¬ s.handshakes.any (Handshake.isLate s.clock) = true :=
    Bool.not_eq_true _ ▸ prompt
  unfold step?
  cases turn with
  | expire late => exact if_pos late
  | rouse alarm prompt due =>
      unfold dueAlarm? at due
      simp only [if_neg (on_time prompt), due]
      rfl
  | conclude outcome prompt quiet pending =>
      unfold dueAlarm? at quiet
      simp only [if_neg (on_time prompt), quiet, pending]
  | pass prompt quiet unanswered ahead =>
      unfold dueAlarm? at quiet
      simp only [if_neg (on_time prompt), quiet, unanswered]
      exact if_pos ahead
  | rest prompt quiet unanswered still =>
      unfold dueAlarm? at quiet
      simp only [if_neg (on_time prompt), quiet, unanswered]
      exact if_neg (Nat.not_lt_of_le still)

end Turn

def load (s : Supervisor) : Nat :=
  (s.alarms.map (Alarm.weight limit s.clock)).sum + s.cockpit.answers.length +
    (s.runs.map Run.effort).sum * (s.cockpit.replies.length + 1) + s.handshakes.countP Handshake.isOpen

def isPressed (s : Supervisor) : Bool := s.anyLate || s.dueAlarm?.isSome || decide (limit ≤ s.clock)

def stepsLeft (s : Supervisor) : Nat := 2 * s.load limit + if s.isPressed limit then 0 else 1

section Load

variable (s : Supervisor)

theorem load_put_off (due : Nat) (sleeper : Sleeper) :
    (s.putOff due sleeper).load limit = s.load limit + Alarm.weight limit s.clock ⟨due, sleeper⟩ := by
  have clock : (s.putOff due sleeper).clock = s.clock := rfl
  simp only [load, clock]
  simp only [putOff, List.map_append, List.sum_append, List.map_cons, List.map_nil, List.sum_singleton]
  omega

theorem load_dispatch : s.dispatchReplies.load limit = s.load limit := by
  have clock : s.dispatchReplies.clock = s.clock := rfl
  have weights : ((s.cockpit.answers.map fun reply : Reply =>
      (⟨wakeTime s.clock reply.after, .reply reply.data⟩ : Alarm)).map (Alarm.weight limit s.clock)).sum =
      s.cockpit.answers.length := by
    simp [Function.comp_def, Alarm.weight]
  simp only [load, clock]
  simp only [dispatchReplies, List.map_append, List.sum_append, weights, List.length_nil]
  omega

theorem load_erase (alarm : Alarm) (member : alarm ∈ s.alarms) :
    { s with alarms := s.alarms.erase alarm }.load limit + Alarm.weight limit s.clock alarm = s.load limit := by
  have weights := List.sum_map_erase (Alarm.weight limit s.clock) member
  have clock : { s with alarms := s.alarms.erase alarm }.clock = s.clock := rfl
  simp only [load, clock]
  omega

theorem load_woken (id : Nat) (run : Run) (found : s.runs[id]? = some run) :
    let woken := run.wake s.rules id s.cockpit
    { s with cockpit := woken.1, runs := s.runs.set id woken.2 }.load limit +
      (if woken.2.asleepUntil.isSome then 1 else 0) ≤ s.load limit := by
  intro woken
  have total := sum_set_add (s.runs.map Run.effort) id run.effort woken.2.effort (by rw [List.getElem?_map, found]; rfl)
  rw [← List.map_set] at total
  obtain ⟨replies, paid⟩ := run.wake_answers s.rules id s.cockpit
  have clock : ({ s with cockpit := woken.1, runs := s.runs.set id woken.2 } : Supervisor).clock = s.clock :=
    run.wake_clock s.rules id s.cockpit
  simp only [load, clock]
  change woken.1.replies = _ at replies
  change woken.1.answers.length + s.cockpit.replies.length * woken.2.effort ≤ _ at paid
  rw [replies]
  generalize ((s.runs.set id woken.2).map Run.effort).sum = left at total ⊢
  generalize (s.runs.map Run.effort).sum = work at total ⊢
  generalize s.cockpit.replies.length = habits at paid ⊢
  cases finished : run.isOver with
  | true =>
      have ended : woken = _ := run.wake_over s.rules id s.cockpit finished
      have same : woken.2.effort = run.effort := by rw [ended]; rfl
      have asleep : woken.2.asleepUntil = none := by rw [ended]
      have equal : left = work := by omega
      rw [asleep, equal]
      rw [same] at paid
      simp only [Option.isSome_none, Bool.false_eq_true, if_false]
      omega
  | false =>
      obtain ⟨spent, more⟩ := Nat.exists_eq_add_of_lt (run.wake_effort_lt s.rules id s.cockpit finished)
      change run.effort = woken.2.effort + spent + 1 at more
      have fewer : work = left + (spent + 1) := by omega
      rw [more] at paid
      subst fewer
      have price : (left + (spent + 1)) * (habits + 1) =
          left * (habits + 1) + (habits * spent + habits + spent + 1) := by ring
      have share : habits * (woken.2.effort + spent + 1) =
          habits * woken.2.effort + habits * spent + habits := by ring
      have once : (if woken.2.asleepUntil.isSome then 1 else 0) ≤ 1 := by split <;> omega
      omega

theorem load_wake_run (id : Nat) : (s.wakeRun id).load limit ≤ s.load limit := by
  rw [wakeRun]
  split
  · exact Nat.le_refl _
  rename_i run found
  have woken := s.load_woken limit id run found
  dsimp only
  rw [load_dispatch]
  cases asleep : (run.wake s.rules id s.cockpit).2.asleepUntil with
  | none =>
      simp only [asleep] at woken
      exact woken
  | some due =>
      simp only [asleep] at woken
      simp only
      rw [load_put_off]
      exact woken

-- The watchdog goes off once more than it will after it has set its alarm anew.
theorem weight_watchdog (now due : Nat) (timing : WatchdogTiming) (past : due ≤ now) :
    Alarm.weight limit now ⟨now + timing.pace, .watchdog timing⟩ + 1 =
      Alarm.weight limit now ⟨due, .watchdog timing⟩ := by
  have pace : 0 < timing.pace := by
    rw [WatchdogTiming.pace]
    omega
  have now_due : due ≤ max limit now := Nat.le_trans past (Nat.le_max_right _ _)
  simp only [Alarm.weight, Nat.max_eq_right past, if_pos now_due]
  by_cases again : now + timing.pace ≤ max limit now
  · have once : (limit - now) / timing.pace = (limit - (now + timing.pace)) / timing.pace + 1 := by
      rw [Nat.div_eq_sub_div pace (by omega), Nat.sub_sub]
    rw [if_pos again, Nat.max_eq_left (by omega), once]
  · rw [if_neg again, Nat.div_eq_of_lt (by omega)]

theorem load_rouse (alarm : Alarm) (past : alarm.due ≤ s.clock) :
    (s.rouse alarm.sleeper).load limit + 1 ≤ s.load limit + Alarm.weight limit s.clock alarm := by
  obtain ⟨due, sleeper⟩ := alarm
  cases sleeper with
  | run id => exact Nat.add_le_add_right (s.load_wake_run limit id) 1
  | reply data => exact Nat.le_refl _
  | deed deed => cases deed <;> exact Nat.le_refl _
  | watchdog timing =>
      have anew := weight_watchdog limit s.clock due timing past
      show (putOff _ _ _).load limit + 1 ≤ _
      rw [load_put_off, ← anew]
      exact Nat.le_refl _

theorem load_wake_alarm (alarm : Alarm) (due : s.dueAlarm? = some alarm) :
    (s.wakeAlarm alarm).load limit + 1 ≤ s.load limit := by
  obtain ⟨next, past⟩ := Option.filter_eq_some_iff.mp due
  have erased := s.load_erase limit alarm (next_alarm_member s alarm next)
  have ready : alarm.due ≤ s.clock := of_decide_eq_true past
  have roused := load_rouse limit { s with alarms := s.alarms.erase alarm } alarm ready
  exact Nat.le_trans roused (Nat.le_of_eq erased)

theorem open_fewer (handshakes : List Handshake) (change : Handshake → Handshake)
    (opens : ∀ h, (change h).isOpen = true → h.isOpen = true)
    (ends : ∃ h ∈ handshakes, h.isOpen = true ∧ (change h).isOpen = false) :
    (handshakes.map change).countP Handshake.isOpen < handshakes.countP Handshake.isOpen := by
  obtain ⟨h, member, isOpen, ended⟩ := ends
  obtain ⟨before, later, rfl⟩ := List.append_of_mem member
  have fewer (some : List Handshake) :
      (some.map change).countP Handshake.isOpen ≤ some.countP Handshake.isOpen := by
    rw [List.countP_map]
    exact List.countP_mono_left fun other _ => opens other
  have first := fewer before
  have last := fewer later
  simp only [List.map_append, List.map_cons, List.countP_append, List.countP_cons, isOpen, ended, if_true,
    Bool.false_eq_true, if_false]
  omega

theorem finish_closed (outcome : ArmOutcome) (h : Handshake) : (h.finish outcome).isOpen = false := by
  rw [Handshake.finish]
  cases isOpen : h.isOpen with
  | true => rfl
  | false => simpa using isOpen

theorem load_expire (late : s.anyLate = true) : s.expireHandshakes.load limit < s.load limit := by
  obtain ⟨h, member, past⟩ := List.any_eq_true.mp late
  have fewer := open_fewer s.handshakes (fun h => if h.isLate s.clock then h.finish .timedOut else h)
    (by
      intro other
      split
      · rw [finish_closed]
        intro never
        cases never
      · exact id)
    ⟨h, member, (Bool.and_eq_true_iff.mp past).1, by rw [if_pos past, finish_closed]⟩
  exact Nat.add_lt_add_left fewer _

theorem load_conclude (outcome : ArmOutcome) (pending : s.pendingOutcome? = some outcome) :
    (s.concludeHandshakes outcome).load limit < s.load limit := by
  obtain ⟨h, member, isOpen⟩ := List.any_eq_true.mp (pending_answering s outcome pending)
  have fewer := open_fewer s.handshakes (Handshake.finish outcome) (by simp [finish_closed])
    ⟨h, member, isOpen, finish_closed outcome h⟩
  rw [conclude_marks]
  exact Nat.add_lt_add_left fewer _

theorem load_pass (instant : Nat) (later : s.clock ≤ instant) (within : instant ≤ limit) :
    (s.passTo instant).load limit ≤ s.load limit := by
  have weights : ((s.passTo instant).alarms.map (Alarm.weight limit instant)).sum ≤
      (s.alarms.map (Alarm.weight limit s.clock)).sum := by
    refine List.sum_le_sum ?_
    intro alarm _
    rw [Alarm.weight, Alarm.weight]
    cases alarm.sleeper with
    | watchdog timing =>
        simp only
        rw [Nat.max_eq_left within, Nat.max_eq_left (Nat.le_trans later within)]
        split
        · exact Nat.add_le_add_right (Nat.div_le_div_right (by omega)) 1
        · exact Nat.le_refl _
    | _ => exact Nat.le_refl _
  have clock : (s.passTo instant).clock = instant := rfl
  simp only [load, clock]
  exact Nat.add_le_add_right (Nat.add_le_add_right (Nat.add_le_add_right weights _) _) _

theorem next_due_found (due : Nat) (next : s.nextDue? = some due) :
    (∃ alarm, s.nextAlarm? = some alarm ∧ alarm.due = due) ∨
      ∃ h ∈ s.handshakes, h.isOpen = true ∧ h.due = due := by
  have waiting (instant : Nat)
      (least : ((s.handshakes.filter Handshake.isOpen).map Handshake.due).min? = some instant) :
      ∃ h ∈ s.handshakes, h.isOpen = true ∧ h.due = instant := by
    obtain ⟨h, member, same⟩ := List.mem_map.mp (List.min?_mem least)
    obtain ⟨among, isOpen⟩ := List.mem_filter.mp member
    exact ⟨h, among, isOpen, same⟩
  simp only [nextDue?] at next
  cases alarmed : s.nextAlarm? with
  | none =>
      simp only [alarmed, Option.map_none] at next
      exact .inr (waiting due next)
  | some alarm =>
      simp only [alarmed, Option.map_some] at next
      split at next
      · rename_i first second one other
        cases one
        rcases Nat.le_total alarm.due second with sooner | later
        · rw [Nat.min_eq_left sooner] at next
          exact .inl ⟨alarm, rfl, Option.some.inj next⟩
        · rw [Nat.min_eq_right later] at next
          exact .inr (Option.some.inj next ▸ waiting second other)
      · rename_i first one other
        cases one
        exact .inl ⟨alarm, rfl, Option.some.inj next⟩
      · rename_i one
        cases one

theorem next_due_later (due : Nat) (prompt : s.anyLate = false) (quiet : s.dueAlarm? = none)
    (next : s.nextDue? = some due) : s.clock < due := by
  by_contra past
  rcases s.next_due_found due next with ⟨alarm, first, same⟩ | ⟨h, member, isOpen, same⟩
  · have later := (s.no_alarm_due).mp quiet alarm (next_alarm_member s alarm first)
    omega
  · have late : s.anyLate = true := by
      refine List.any_eq_true.mpr ⟨h, member, ?_⟩
      rw [Handshake.isLate, isOpen, Bool.true_and]
      exact decide_eq_true (by omega)
    rw [prompt] at late
    cases late

theorem next_instant_ahead (prompt : s.anyLate = false) (quiet : s.dueAlarm? = none) (early : s.clock < limit) :
    s.clock < s.nextInstant limit := by
  rw [nextInstant]
  cases next : s.nextDue? with
  | none => simpa using early
  | some due =>
      have later := s.next_due_later due prompt quiet next
      simp only [Option.getD_some]
      omega

theorem pressed_next : (s.passTo (s.nextInstant limit)).isPressed limit = true := by
  by_contra idle
  simp only [isPressed, Bool.or_eq_true, Option.isSome_iff_ne_none, decide_eq_true_eq, not_or, not_not,
    Bool.not_eq_true] at idle
  obtain ⟨⟨prompt, quiet⟩, early⟩ := idle
  change ¬ limit ≤ s.nextInstant limit at early
  rw [nextInstant] at early
  cases next : s.nextDue? with
  | none => simp [next] at early
  | some due =>
      have later : s.nextInstant limit < due := next_due_later _ due prompt quiet next
      rw [nextInstant] at later
      simp only [next, Option.getD_some] at early later
      omega

end Load

theorem step_lowers (s t : Supervisor) (step : s.step? limit = some t) : t.stepsLeft limit < s.stepsLeft limit := by
  have turn := s.step_turn limit
  rw [step] at turn
  have pressed (u : Supervisor) : (if u.isPressed limit then 0 else 1) ≤ 1 := by split <;> omega
  have later := pressed t
  simp only [stepsLeft]
  cases turn with
  | expire late =>
      have less := s.load_expire limit late
      omega
  | rouse alarm prompt due =>
      have less := s.load_wake_alarm limit alarm due
      omega
  | conclude outcome prompt quiet pending =>
      have less := s.load_conclude limit outcome pending
      omega
  | pass prompt quiet unanswered ahead =>
      have most := s.load_pass limit _ (Nat.le_of_lt ahead) (Nat.min_le_left _ _)
      have idle : s.isPressed limit = false := by
        have early : s.clock < limit := Nat.lt_of_lt_of_le ahead (Nat.min_le_left _ _)
        simp [isPressed, prompt, quiet, early]
      rw [s.pressed_next limit, idle]
      simp only [if_true, Bool.false_eq_true, if_false]
      omega

theorem step_none (s : Supervisor) (done : s.stepsLeft limit = 0) : s.step? limit = none := by
  cases next : s.step? limit with
  | none => rfl
  | some t =>
      have less := step_lowers limit s t next
      omega

theorem passage_induction (holds : Supervisor → Prop)
    (step : ∀ s, (∀ t, s.step? limit = some t → holds t) → holds s) (s : Supervisor) : holds s := by
  generalize bound : s.stepsLeft limit = left
  induction left using Nat.strongRecOn generalizing s with
  | ind left ih =>
      refine step s fun t next => ?_
      exact ih _ (bound ▸ step_lowers limit s t next) t rfl

theorem steps_left_bounded (s : Supervisor) : s.stepsLeft limit ≤ s.stepBound limit := by
  have weights : (s.alarms.map (Alarm.weight limit s.clock)).sum ≤
      (s.alarms.map (Alarm.mostWeight limit s.clock)).sum :=
    List.sum_le_sum fun alarm _ => alarm.weight_le_most limit s.clock
  have fewer : s.handshakes.countP Handshake.isOpen ≤ s.handshakes.length := List.countP_le_length
  let work := (s.runs.map Run.effort).sum
  let answers := s.cockpit.answers.length
  let habits := s.cockpit.replies.length
  have price : (work + answers) * (habits + 1) = work * (habits + 1) + (answers * habits + answers) := by ring
  have once : (if s.isPressed limit then 0 else 1) ≤ 1 := by split <;> omega
  show 2 * ((s.alarms.map (Alarm.weight limit s.clock)).sum + answers + work * (habits + 1) +
      s.handshakes.countP Handshake.isOpen) + (if s.isPressed limit then 0 else 1) ≤
    3 * (work + (s.alarms.map (Alarm.mostWeight limit s.clock)).sum + (work + answers) * (habits + 1) +
      s.handshakes.length) + 3
  omega

section Until

variable (goal : Supervisor → Bool)

theorem steps_until_rest (fuel : Nat) (s : Supervisor) (rests : s.step? limit = none) :
    stepsUntil limit goal fuel s = s := by
  cases fuel with
  | zero => rfl
  | succ fuel =>
      rw [stepsUntil, rests]
      split <;> rfl

theorem steps_until_enough (fuel more : Nat) (s : Supervisor) (enough : s.stepsLeft limit ≤ fuel)
    (also : s.stepsLeft limit ≤ more) : stepsUntil limit goal fuel s = stepsUntil limit goal more s := by
  induction fuel generalizing s more with
  | zero =>
      have rests := step_none limit s (by omega)
      rw [steps_until_rest limit goal 0 s rests, steps_until_rest limit goal more s rests]
  | succ fuel ih =>
      cases more with
      | zero =>
          have rests := step_none limit s (by omega)
          rw [steps_until_rest limit goal _ s rests, steps_until_rest limit goal 0 s rests]
      | succ more =>
          rw [stepsUntil, stepsUntil]
          split
          · rfl
          · cases next : s.step? limit with
            | none => rfl
            | some t =>
                have less := step_lowers limit s t next
                exact ih more t (by omega) (by omega)

theorem elapse_until_unfold (s : Supervisor) :
    s.elapseUntil limit goal =
      if goal s && s.isSettled then s
      else match s.step? limit with
        | some t => t.elapseUntil limit goal
        | none => s := by
  have enough := steps_left_bounded limit s
  rw [elapseUntil, steps_until_enough limit goal _ (s.stepBound limit + 1) s enough (by omega), stepsUntil]
  cases next : s.step? limit with
  | none => rfl
  | some t =>
      have less := step_lowers limit s t next
      have same : stepsUntil limit goal (s.stepBound limit) t = t.elapseUntil limit goal :=
        steps_until_enough limit goal _ _ t (by omega) (steps_left_bounded limit t)
      simp only [same]

end Until

section Elapse

variable (s : Supervisor)

theorem elapse_step (t : Supervisor) (next : s.step? limit = some t) : s.elapse limit = t.elapse limit := by
  have unfolded := elapse_until_unfold limit (fun _ => false) s
  rw [next] at unfolded
  exact unfolded

theorem elapse_done (done : s.step? limit = none) : s.elapse limit = s := by
  have unfolded := elapse_until_unfold limit (fun _ => false) s
  rw [done] at unfolded
  exact unfolded

theorem elapse_keeps (holds : Supervisor → Prop)
    (step : ∀ t u, t.step? limit = some u → holds t → holds u) (start : holds s) : holds (s.elapse limit) := by
  induction s using passage_induction limit with
  | step s ih =>
      cases next : s.step? limit with
      | none =>
          rw [elapse_done limit s next]
          exact start
      | some t =>
          rw [elapse_step limit s t next]
          exact ih t next (step s t next start)

theorem elapse_over : (s.elapse limit).step? limit = none := by
  induction s using passage_induction limit with
  | step s ih =>
      cases next : s.step? limit with
      | none =>
          rw [elapse_done limit s next]
          exact next
      | some t =>
          rw [elapse_step limit s t next]
          exact ih t next

theorem wake_alarm_clock (alarm : Alarm) (due : s.dueAlarm? = some alarm) :
    (s.wakeAlarm alarm).clock = s.clock := by
  obtain ⟨next, past⟩ := Option.filter_eq_some_iff.mp due
  have timing := (meet_timing s (.rouse alarm)).2
  rw [meet, if_pos ⟨next_alarm_member s alarm next, of_decide_eq_true past⟩] at timing
  exact timing

theorem conclude_clock (outcome : ArmOutcome) : (s.concludeHandshakes outcome).clock = s.clock := by
  rw [conclude_marks]
  rfl

theorem step_clock (t : Supervisor) (next : s.step? limit = some t) :
    s.clock ≤ t.clock ∧ t.clock ≤ max s.clock limit := by
  have turn := s.step_turn limit
  rw [next] at turn
  have still (same : t.clock = s.clock) : s.clock ≤ t.clock ∧ t.clock ≤ max s.clock limit := by
    rw [same]
    exact ⟨Nat.le_refl _, Nat.le_max_left _ _⟩
  cases turn with
  | expire late => exact still rfl
  | rouse alarm prompt due => exact still (s.wake_alarm_clock alarm due)
  | conclude outcome => exact still (s.conclude_clock outcome)
  | pass prompt quiet unanswered ahead =>
      have within : s.nextInstant limit ≤ limit := Nat.min_le_left _ _
      exact ⟨Nat.le_of_lt ahead, Nat.le_trans within (Nat.le_max_right _ _)⟩

theorem elapse_clock (ahead : s.clock ≤ limit) :
    s.clock ≤ (s.elapse limit).clock ∧ (s.elapse limit).clock ≤ limit := by
  refine elapse_keeps limit s (fun t => s.clock ≤ t.clock ∧ t.clock ≤ limit) ?_ ⟨Nat.le_refl _, ahead⟩
  intro t u next ⟨after, within⟩
  obtain ⟨later, most⟩ := step_clock limit t u next
  omega

theorem elapse_reaches (ahead : s.clock ≤ limit) : (s.elapse limit).clock = limit := by
  have turn := (s.elapse limit).step_turn limit
  rw [elapse_over] at turn
  refine Nat.le_antisymm (elapse_clock limit s ahead).2 (Nat.le_of_not_lt fun early => ?_)
  cases turn with
  | rest prompt quiet unanswered still =>
      have goes := (s.elapse limit).next_instant_ahead limit prompt quiet early
      omega

theorem settle_settled : s.settle.isSettled = true := by
  have clock : s.settle.clock = s.clock := by
    have bounds := elapse_clock s.clock s (Nat.le_refl _)
    exact Nat.le_antisymm bounds.2 bounds.1
  rw [isSettled, clock]
  exact Option.isNone_iff_eq_none.mpr (elapse_over s.clock s)

end Elapse

end Supervisor

end FlightSupervisor
