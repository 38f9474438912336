import FlightSupervisor.Proofs.Elapse
/-!
The outcome of an arm request.  It is told from what would happen if nobody waited for the answer: the request
ends at the first instant before its time is up at which an answer stands, after all that is done at that
instant, and else when its time is up (`arm_handshake_outcome`).  An answer of the very last instant is too late
(`answer_too_late`).
-/

set_option autoImplicit false

namespace FlightSupervisor

theorem FlightState.marked_twice (outcome : ArmOutcome) (f : FlightState) :
    (f.marked outcome).marked outcome = f.marked outcome := by
  simp only [marked]
  split <;> rfl

theorem FlightState.marked_answer (outcome : ArmOutcome) (f : FlightState) :
    (f.marked outcome).armAnswer = f.armAnswer := by
  rw [marked]
  split <;> rfl

namespace Supervisor

-- The answer that stands at an instant, after all that is done at it.
def answerAt (s : Supervisor) (instant : Nat) : ArmAnswer := (s.elapse instant).flight.armAnswer

def withRequest (h : Handshake) (s : Supervisor) : Supervisor := { s with handshakes := s.handshakes ++ [h] }

-- The system once `ARM` has been sent, if nobody waited for its answer.
def asked (timeout : Nat) (s : Supervisor) : Supervisor :=
  { (s.beginArm timeout).2 with handshakes := s.handshakes }

section Request

variable (s : Supervisor) (h : Handshake)

theorem conclude_flight (outcome : ArmOutcome) : (s.concludeHandshakes outcome).flight = s.flight.marked outcome := by
  rw [conclude_marks]
  rfl

theorem conclude_request (outcome : ArmOutcome) :
    (s.withRequest h).concludeHandshakes outcome = (s.concludeHandshakes outcome).withRequest (h.finish outcome) := by
  rw [conclude_marks, conclude_marks, withRequest, List.map_append]
  rfl

theorem expire_request :
    (s.withRequest h).expireHandshakes =
      s.expireHandshakes.withRequest (if h.isLate s.clock then h.finish .timedOut else h) := by
  rw [expireHandshakes, withRequest, List.map_append]
  rfl

theorem any_late_request : (s.withRequest h).anyLate = (s.anyLate || h.isLate s.clock) := by
  simp [anyLate, withRequest, clock]

theorem rouse_request (sleeper : Sleeper) : (s.withRequest h).rouse sleeper = (s.rouse sleeper).withRequest h := by
  cases sleeper with
  | run id =>
      simp only [rouse, wakeRun, withRequest]
      cases s.runs[id]? with
      | none => rfl
      | some run =>
          dsimp only
          split <;> rfl
  | deed deed => cases deed <;> rfl
  | _ => rfl

theorem wake_alarm_request (alarm : Alarm) :
    (s.withRequest h).wakeAlarm alarm = (s.wakeAlarm alarm).withRequest h :=
  rouse_request { s with alarms := s.alarms.erase alarm } h alarm.sleeper

theorem pending_closed (closed : h.isOpen = false) : (s.withRequest h).pendingOutcome? = s.pendingOutcome? := by
  simp [pendingOutcome?, withRequest, closed, flight]

theorem next_due_closed (closed : h.isOpen = false) : (s.withRequest h).nextDue? = s.nextDue? := by
  simp [nextDue?, withRequest, closed, nextAlarm?]

theorem finish_over (outcome : ArmOutcome) (closed : h.isOpen = false) : h.finish outcome = h := by
  simp [Handshake.finish, closed]

theorem step_closed (limit : Nat) (closed : h.isOpen = false) :
    (s.withRequest h).step? limit = (s.step? limit).map (withRequest h) := by
  have late : h.isLate s.clock = false := by simp [Handshake.isLate, closed]
  have prompts : (s.withRequest h).anyLate = s.anyLate := by simp [any_late_request, late]
  have instant : (s.withRequest h).nextInstant limit = s.nextInstant limit := by
    simp only [nextInstant, next_due_closed s h closed]
  have turn := s.step_turn limit
  generalize s.step? limit = next at turn
  apply turn_step
  cases turn with
  | expire any =>
      have turn : (s.withRequest h).Turn limit _ := .expire (prompts.trans any)
      rw [expire_request, late] at turn
      exact turn
  | rouse alarm prompt due =>
      have turn : (s.withRequest h).Turn limit _ := .rouse alarm (prompts.trans prompt) due
      rw [wake_alarm_request] at turn
      exact turn
  | conclude outcome prompt quiet pending =>
      have turn : (s.withRequest h).Turn limit _ :=
        .conclude outcome (prompts.trans prompt) quiet ((pending_closed s h closed).trans pending)
      rw [conclude_request, finish_over h outcome closed] at turn
      exact turn
  | pass prompt quiet unanswered ahead =>
      have turn : (s.withRequest h).Turn limit _ :=
        .pass (prompts.trans prompt) quiet ((pending_closed s h closed).trans unanswered) (instant.symm ▸ ahead)
      rw [instant] at turn
      exact turn
  | rest prompt quiet unanswered still =>
      exact .rest (prompts.trans prompt) quiet ((pending_closed s h closed).trans unanswered) (instant.symm ▸ still)

theorem elapse_closed (limit : Nat) (closed : h.isOpen = false) :
    (s.withRequest h).elapse limit = (s.elapse limit).withRequest h := by
  induction s using passage_induction limit with
  | step s ih =>
      have same := step_closed s h limit closed
      cases next : s.step? limit with
      | none =>
          rw [next] at same
          rw [elapse_done limit s next, elapse_done limit _ same]
      | some t =>
          rw [next] at same
          rw [elapse_step limit s t next, elapse_step limit _ _ same]
          exact ih t next

end Request

-- How an arm request that waits beside `s` ends, and what it leaves behind.
inductive Ends (s : Supervisor) (due : Nat) : ArmOutcome → Supervisor → Prop where
  | answered (instant : Nat) (outcome : ArmOutcome) (later : Supervisor) (begun : s.clock ≤ instant)
      (inTime : instant < due) (answer : outcomeOf? (s.answerAt instant) = some outcome)
      (first : ∀ earlier, s.clock ≤ earlier → earlier < instant → s.answerAt earlier = .none)
      (clock : later.clock = instant)
      (flight : later.flight = (s.elapse instant).flight.marked outcome) : Ends s due outcome later
  | silent (later : Supervisor) (none : ∀ earlier, s.clock ≤ earlier → earlier < due → s.answerAt earlier = .none)
      (clock : later.clock = due) (flight : later.flight = (s.elapse due).flight) : Ends s due .timedOut later

-- From `s` to `t` no answer stands at the end of an instant, and what comes later is the same from both.
structure Lull (s : Supervisor) (due : Nat) (t : Supervisor) : Prop where
  passed : s.clock ≤ t.clock
  within : t.clock ≤ due
  silent : ∀ instant, s.clock ≤ instant → instant < t.clock → s.answerAt instant = .none
  same : ∀ instant, t.clock ≤ instant → instant ≤ due → s.elapse instant = t.elapse instant

theorem lull_silence (s t : Supervisor) (due bound : Nat) (lull : s.Lull due t) (most : bound ≤ due)
    (none : ∀ earlier, t.clock ≤ earlier → earlier < bound → t.answerAt earlier = .none) (earlier : Nat)
    (begun : s.clock ≤ earlier) (early : earlier < bound) : s.answerAt earlier = .none := by
  by_cases before : earlier < t.clock
  · exact lull.silent earlier begun before
  · rw [answerAt, lull.same earlier (by omega) (by omega)]
    exact none earlier (by omega) early

theorem ends_after_lull (s t : Supervisor) (due : Nat) (outcome : ArmOutcome) (later : Supervisor)
    (lull : s.Lull due t) (ends : t.Ends due outcome later) : s.Ends due outcome later := by
  have passed := lull.passed
  cases ends with
  | answered instant outcome later begun inTime answer first clock flight =>
      have equal := lull.same instant begun (by omega)
      refine .answered instant outcome later (by omega) inTime ?_ ?_ clock ?_
      · rw [answerAt, equal]
        exact answer
      · exact lull_silence s t due instant lull (by omega) first
      · rw [equal]
        exact flight
  | silent later none clock flight =>
      refine .silent later (lull_silence s t due due lull (Nat.le_refl _) none) clock ?_
      rw [lull.same due lull.within (Nat.le_refl _)]
      exact flight

theorem conclude_settled (s : Supervisor) (outcome : ArmOutcome) (quiet : s.dueAlarm? = none) :
    (s.concludeHandshakes outcome).step? s.clock = none := by
  have closed : (s.concludeHandshakes outcome).isAnswering = false := conclude_answering s outcome
  have alarms : (s.concludeHandshakes outcome).dueAlarm? = s.dueAlarm? := by
    rw [conclude_marks]
    rfl
  apply turn_step
  refine .rest ?_ (alarms.trans quiet) ?_ ?_
  · refine List.any_eq_false.mpr fun h member late => ?_
    exact List.any_eq_false.mp closed h member (Bool.and_eq_true_iff.mp late).1
  · rw [pendingOutcome?]
    exact if_neg (by rw [isAnswering] at closed; simp [closed])
  · rw [conclude_clock]
    exact Nat.min_le_left _ _

theorem elapse_answered (s : Supervisor) (outcome : ArmOutcome) (prompt : s.anyLate = false)
    (quiet : s.dueAlarm? = none) (answer : outcomeOf? s.flight.armAnswer = some outcome) :
    s.answerAt s.clock = s.flight.armAnswer ∧ (s.elapse s.clock).flight.marked outcome = s.flight.marked outcome := by
  cases pending : s.pendingOutcome? with
  | none =>
      have rests := s.turn_step s.clock none (.rest prompt quiet pending (Nat.min_le_left _ _))
      rw [answerAt, elapse_done s.clock s rests]
      exact ⟨rfl, rfl⟩
  | some other =>
      have waiting : s.handshakes.any Handshake.isOpen = true := pending_answering s other pending
      have same : s.pendingOutcome? = some outcome := by
        rw [pendingOutcome?, if_pos waiting]
        exact answer
      cases pending.symm.trans same
      have ends := s.turn_step s.clock _ (.conclude outcome prompt quiet pending)
      rw [answerAt, elapse_step s.clock s _ ends, elapse_done s.clock _ (conclude_settled s outcome quiet),
        conclude_flight, FlightState.marked_answer, FlightState.marked_twice]
      exact ⟨rfl, rfl⟩

theorem next_due_open (s : Supervisor) (h : Handshake) (member : h ∈ s.handshakes) (isOpen : h.isOpen = true) :
    ∃ due, s.nextDue? = some due ∧ due ≤ h.due := by
  have waits : h.due ∈ (s.handshakes.filter Handshake.isOpen).map Handshake.due :=
    List.mem_map.mpr ⟨h, List.mem_filter.mpr ⟨member, isOpen⟩, rfl⟩
  obtain ⟨least, found⟩ := Option.isSome_iff_exists.mp (List.isSome_min?_of_mem waits)
  have first := (List.min?_eq_some_iff.mp found).2 h.due waits
  simp only [nextDue?, found]
  cases s.nextAlarm? with
  | none => exact ⟨least, rfl, first⟩
  | some alarm => exact ⟨min alarm.due least, rfl, Nat.le_trans (Nat.min_le_right _ _) first⟩

theorem unanswered_pending (s : Supervisor) (unanswered : s.flight.armAnswer = .none) :
    s.pendingOutcome? = none := by
  simp [pendingOutcome?, unanswered, outcomeOf?]

theorem passed_quiet (s : Supervisor) (instant : Nat) (early : ∀ due, s.nextDue? = some due → instant < due) :
    (s.passTo instant).anyLate = false ∧ (s.passTo instant).dueAlarm? = none := by
  constructor
  · refine List.any_eq_false.mpr fun h member late => ?_
    obtain ⟨isOpen, past⟩ := Bool.and_eq_true_iff.mp late
    obtain ⟨due, next, first⟩ := s.next_due_open h member isOpen
    have later := early due next
    have reached : h.due ≤ instant := of_decide_eq_true past
    omega
  · refine (no_alarm_due _).mpr fun alarm member => ?_
    obtain ⟨due, next, least⟩ := s.next_due_least alarm member
    exact Nat.lt_of_lt_of_le (early due next) least

theorem passed_rests (s : Supervisor) (instant : Nat) (unanswered : s.flight.armAnswer = .none)
    (early : ∀ due, s.nextDue? = some due → instant < due) : (s.passTo instant).step? instant = none := by
  obtain ⟨prompt, quiet⟩ := s.passed_quiet instant early
  apply turn_step
  exact .rest prompt quiet (unanswered_pending _ unanswered) (Nat.min_le_left _ _)

theorem elapse_quiet (s : Supervisor) (instant : Nat) (prompt : s.anyLate = false) (quiet : s.dueAlarm? = none)
    (unanswered : s.flight.armAnswer = .none) (begun : s.clock ≤ instant)
    (early : ∀ due, s.nextDue? = some due → instant < due) : s.elapse instant = s.passTo instant := by
  have rests := s.passed_rests instant unanswered early
  rcases Nat.eq_or_lt_of_le begun with now | later
  · subst now
    exact elapse_done s.clock s rests
  · have instants : s.nextInstant instant = instant := by
      rw [nextInstant]
      cases next : s.nextDue? with
      | none => exact Nat.min_self _
      | some due => exact Nat.min_eq_left (Nat.le_of_lt (early due next))
    have passes : s.step? instant = some (s.passTo instant) := by
      have turn : s.Turn instant _ := .pass prompt quiet (s.unanswered_pending unanswered) (instants.symm ▸ later)
      rw [instants] at turn
      exact s.turn_step instant _ turn
    rw [elapse_step instant s _ passes, elapse_done instant _ rests]

theorem min_concat (dues : List Nat) (due : Nat) : (dues ++ [due]).min? = some (min (dues.min?.getD due) due) := by
  cases dues with
  | nil => simp
  | cons first rest =>
      rw [List.cons_append, List.min?_cons', List.min?_cons', List.foldl_append]
      rfl

theorem next_due_request (s : Supervisor) (due : Nat) :
    (s.withRequest ⟨due, none⟩).nextDue? = some (min (s.nextDue?.getD due) due) := by
  have waiting : (((s.withRequest ⟨due, none⟩).handshakes.filter Handshake.isOpen).map Handshake.due).min? =
      some (min (((s.handshakes.filter Handshake.isOpen).map Handshake.due).min?.getD due) due) := by
    rw [← min_concat, withRequest, List.filter_append, List.map_append]
    rfl
  have alarms : (s.withRequest ⟨due, none⟩).nextAlarm? = s.nextAlarm? := rfl
  simp only [nextDue?, waiting, alarms]
  cases s.nextAlarm? with
  | none =>
      cases ((s.handshakes.filter Handshake.isOpen).map Handshake.due).min? <;> rfl
  | some alarm =>
      cases ((s.handshakes.filter Handshake.isOpen).map Handshake.due).min? with
      | none => simp
      | some least => simp [Nat.min_assoc]

theorem pending_request (s : Supervisor) (due : Nat) :
    (s.withRequest ⟨due, none⟩).pendingOutcome? = outcomeOf? s.flight.armAnswer := by
  have waiting : (s.withRequest ⟨due, none⟩).handshakes.any Handshake.isOpen = true := by
    simp [withRequest, Handshake.isOpen]
  rw [pendingOutcome?, if_pos waiting]
  rfl

theorem unanswered_none (answer : ArmAnswer) (unanswered : outcomeOf? answer = none) : answer = .none := by
  cases answer with
  | none => rfl
  | success | failure => cases unanswered

theorem next_instant_within (s : Supervisor) (limit instant : Nat) (reached : s.nextInstant limit ≤ instant)
    (within : instant ≤ limit) : s.nextInstant instant = s.nextInstant limit := by
  simp only [nextInstant] at reached ⊢
  cases next : s.nextDue? with
  | none =>
      simp only [next, Option.getD_none] at reached ⊢
      omega
  | some due =>
      simp only [next, Option.getD_some] at reached ⊢
      omega

theorem elapse_until_limit (goal : Supervisor → Bool) (s : Supervisor) :
    s.elapseUntil s.clock goal = s.elapse s.clock := by
  generalize now : s.clock = limit
  induction s using passage_induction limit with
  | step s ih =>
      rw [elapse_until_unfold]
      cases next : s.step? limit with
      | none =>
          rw [elapse_done limit s next]
          split <;> rfl
      | some t =>
          have unsettled : s.isSettled = false := by
            rw [isSettled, now, next]
            rfl
          obtain ⟨after, within⟩ := step_clock limit s t next
          have still : t.clock = limit := by omega
          rw [elapse_step limit s t next, unsettled, Bool.and_false]
          exact ih t next still

theorem step_places (s t : Supervisor) (limit : Nat) (next : s.step? limit = some t) :
    t.handshakes.length = s.handshakes.length := by
  have turn := s.step_turn limit
  rw [next] at turn
  cases turn with
  | expire late => exact List.length_map _
  | rouse alarm prompt due =>
      exact congrArg List.length (rouse_handshakes { s with alarms := s.alarms.erase alarm } alarm.sleeper)
  | conclude outcome prompt quiet pending =>
      rw [conclude_marks]
      exact List.length_map _
  | pass prompt quiet unanswered ahead => rfl

theorem elapse_places (s : Supervisor) (limit : Nat) : (s.elapse limit).handshakes.length = s.handshakes.length := by
  refine elapse_keeps limit s (fun t => t.handshakes.length = s.handshakes.length) ?_ rfl
  intro t u next same
  exact (step_places t u limit next).trans same

def isAnswered (ticket : Nat) (s : Supervisor) : Bool := (s.handshakeOutcome? ticket).isSome

theorem request_outcome (s : Supervisor) (h : Handshake) (ticket : Nat) (place : s.handshakes.length = ticket) :
    (s.withRequest h).handshakeOutcome? ticket = h.outcome := by
  subst place
  simp [handshakeOutcome?, withRequest]

theorem expire_prompt (s : Supervisor) (prompt : s.anyLate = false) : s.expireHandshakes = s := by
  have same : s.handshakes.map (fun h => if h.isLate s.clock then h.finish .timedOut else h) = s.handshakes := by
    refine (List.map_congr_left fun h member => ?_).trans (List.map_id _)
    exact if_neg (List.any_eq_false.mp prompt h member)
  rw [expireHandshakes, same]

theorem elapse_expire (s : Supervisor) (limit : Nat) : s.expireHandshakes.elapse limit = s.elapse limit := by
  cases late : s.anyLate with
  | true => exact (elapse_step limit s _ (s.turn_step limit _ (.expire late))).symm
  | false => rw [expire_prompt s late]

theorem lull_still (s t : Supervisor) (due : Nat) (ahead : s.clock ≤ due) (clock : t.clock = s.clock)
    (same : ∀ instant, s.elapse instant = t.elapse instant) : s.Lull due t where
  passed := Nat.le_of_eq clock.symm
  within := clock.symm ▸ ahead
  silent := fun _ begun early => absurd begun (Nat.not_le_of_lt (clock ▸ early))
  same := fun instant _ _ => same instant

theorem lull_pass (s : Supervisor) (due : Nat) (prompt : s.anyLate = false) (quiet : s.dueAlarm? = none)
    (unanswered : s.flight.armAnswer = .none) (ahead : s.clock < s.nextInstant due) :
    s.Lull due (s.passTo (s.nextInstant due)) where
  passed := Nat.le_of_lt ahead
  within := Nat.min_le_left _ _
  silent := by
    intro instant begun early
    have still := s.elapse_quiet instant prompt quiet unanswered begun ?_
    · rw [answerAt, still]
      exact unanswered
    · intro later next
      have bound : s.nextInstant due ≤ later := by
        rw [nextInstant, next]
        exact Nat.min_le_right _ _
      exact Nat.lt_of_lt_of_le early bound
  same := by
    intro instant reached within
    have aligned := s.next_instant_within due instant reached within
    have turn : s.Turn instant _ :=
      .pass prompt quiet (s.unanswered_pending unanswered) (aligned.symm ▸ ahead)
    rw [aligned] at turn
    exact elapse_step instant s _ (s.turn_step instant _ turn)

-- What is done next with a request that still has time: an answer ends it, or it goes on waiting.
inductive Waits (s : Supervisor) (due : Nat) : Prop where
  | answer (outcome : ArmOutcome) (prompt : s.anyLate = false) (quiet : s.dueAlarm? = none)
      (answer : outcomeOf? s.flight.armAnswer = some outcome)
      (ends : (s.withRequest ⟨due, none⟩).step? due =
        some ((s.withRequest ⟨due, none⟩).concludeHandshakes outcome)) : Waits s due
  | lull (t : Supervisor) (lull : s.Lull due t)
      (next : (s.withRequest ⟨due, none⟩).step? due = some (t.withRequest ⟨due, none⟩)) : Waits s due

theorem request_step (s : Supervisor) (due : Nat) (inTime : s.clock < due) : s.Waits due := by
  have ahead := Nat.le_of_lt inTime
  have early : Handshake.isLate s.clock ⟨due, none⟩ = false := by
    simp [Handshake.isLate, inTime]
  have prompts : (s.withRequest ⟨due, none⟩).anyLate = s.anyLate := by
    rw [any_late_request, early, Bool.or_false]
  have instants : (s.withRequest ⟨due, none⟩).nextInstant due = s.nextInstant due := by
    rw [nextInstant, next_due_request, nextInstant, Option.getD_some]
    omega
  have turn := (s.withRequest ⟨due, none⟩).step_turn due
  generalize step : (s.withRequest ⟨due, none⟩).step? due = next at turn
  cases turn with
  | expire late =>
      rw [expire_request, early] at step
      have same (instant : Nat) := (elapse_expire s instant).symm
      exact .lull s.expireHandshakes (lull_still s _ due ahead rfl same) step
  | rouse alarm prompt goes =>
      rw [wake_alarm_request] at step
      have same (instant : Nat) : s.elapse instant = (s.wakeAlarm alarm).elapse instant :=
        elapse_step instant s _ (s.turn_step instant _ (.rouse alarm (prompts.symm.trans prompt) goes))
      exact .lull (s.wakeAlarm alarm) (lull_still s _ due ahead (s.wake_alarm_clock alarm goes) same) step
  | conclude outcome prompt quiet pending =>
      exact .answer outcome (prompts.symm.trans prompt) quiet ((pending_request s due).symm.trans pending) step
  | pass prompt quiet unanswered ahead =>
      rw [instants] at step ahead
      have none := unanswered_none _ ((pending_request s due).symm.trans unanswered)
      exact .lull (s.passTo _) (s.lull_pass due (prompts.symm.trans prompt) quiet none ahead) step
  | rest prompt quiet unanswered still =>
      have later := s.next_instant_ahead due (prompts.symm.trans prompt) quiet inTime
      rw [← instants] at later
      exact absurd later (Nat.not_lt_of_le still)

section Await

variable (due ticket : Nat) (s : Supervisor) (place : s.handshakes.length = ticket)

include place

theorem await_step (t : Supervisor) (next : (s.withRequest ⟨due, none⟩).step? due = some t) :
    (s.withRequest ⟨due, none⟩).elapseUntil due (isAnswered ticket) = t.elapseUntil due (isAnswered ticket) := by
  have waits : isAnswered ticket (s.withRequest ⟨due, none⟩) = false := by
    rw [isAnswered, request_outcome s _ ticket place]
    rfl
  rw [elapse_until_unfold, waits, next]
  rfl

theorem await_late (up : s.clock = due) :
    let later := (s.withRequest ⟨due, none⟩).elapseUntil due (isAnswered ticket)
    later.handshakeOutcome? ticket = some .timedOut ∧ s.Ends due .timedOut later := by
  intro later
  let ended : Handshake := ⟨due, some .timedOut⟩
  have late : Handshake.isLate s.clock ⟨due, none⟩ = true := by simp [Handshake.isLate, Handshake.isOpen, up]
  have any : (s.withRequest ⟨due, none⟩).anyLate = true := by rw [any_late_request, late, Bool.or_true]
  have expires := (s.withRequest ⟨due, none⟩).turn_step due _ (.expire any)
  rw [expire_request, if_pos late] at expires
  have still : (s.expireHandshakes.withRequest ended).clock = due := up
  have result : later = (s.elapse due).withRequest ended := by
    calc later = (s.expireHandshakes.withRequest ended).elapseUntil due (isAnswered ticket) :=
          await_step due ticket s place _ expires
      _ = (s.expireHandshakes.withRequest ended).elapse due := still ▸ elapse_until_limit _ _
      _ = (s.expireHandshakes.elapse due).withRequest ended := elapse_closed _ ended due rfl
      _ = (s.elapse due).withRequest ended := by rw [elapse_expire]
  rw [result]
  refine ⟨request_outcome _ ended ticket ((elapse_places s due).trans place), .silent _ ?_ ?_ rfl⟩
  · intro earlier begun early
    omega
  · exact elapse_reaches due s (Nat.le_of_eq up)

theorem await_answer (outcome : ArmOutcome) (prompt : s.anyLate = false) (quiet : s.dueAlarm? = none)
    (inTime : s.clock < due) (answer : outcomeOf? s.flight.armAnswer = some outcome)
    (ends : (s.withRequest ⟨due, none⟩).step? due = some ((s.withRequest ⟨due, none⟩).concludeHandshakes outcome)) :
    let later := (s.withRequest ⟨due, none⟩).elapseUntil due (isAnswered ticket)
    later.handshakeOutcome? ticket = some outcome ∧ s.Ends due outcome later := by
  intro later
  let ended := (s.withRequest ⟨due, none⟩).concludeHandshakes outcome
  have found : ended.handshakeOutcome? ticket = some outcome := by
    have same : ended = _ := conclude_request s ⟨due, none⟩ outcome
    rw [same]
    refine request_outcome _ _ ticket ?_
    rw [conclude_marks, List.length_map, place]
  have settled : ended.isSettled = true := by
    have rests := conclude_settled (s.withRequest ⟨due, none⟩) outcome quiet
    rw [isSettled, conclude_clock]
    exact Option.isNone_iff_eq_none.mpr rests
  have result : later = ended := by
    have stops : ended.elapseUntil due (isAnswered ticket) = ended := by
      rw [elapse_until_unfold, isAnswered, found, settled]
      rfl
    exact (await_step due ticket s place ended ends).trans stops
  obtain ⟨stands, marked⟩ := elapse_answered s outcome prompt quiet answer
  rw [result]
  refine ⟨found, .answered s.clock outcome ended (Nat.le_refl _) inTime (stands.symm ▸ answer) ?_ ?_ ?_⟩
  · intro earlier begun early
    omega
  · exact conclude_clock _ outcome
  · exact (conclude_flight _ outcome).trans marked.symm

end Await

theorem await_ends (due ticket : Nat) (s : Supervisor) (place : s.handshakes.length = ticket)
    (ahead : s.clock ≤ due) :
    let later := (s.withRequest ⟨due, none⟩).elapseUntil due (isAnswered ticket)
    ∃ outcome, later.handshakeOutcome? ticket = some outcome ∧ s.Ends due outcome later := by
  generalize waiting : s.withRequest ⟨due, none⟩ = w
  induction w using passage_induction due generalizing s with
  | step w ih =>
      subst waiting
      rcases Nat.eq_or_lt_of_le ahead with up | inTime
      · exact ⟨.timedOut, await_late due ticket s place up⟩
      cases s.request_step due inTime with
      | answer outcome prompt quiet answer ends =>
          exact ⟨outcome, await_answer due ticket s place outcome prompt quiet inTime answer ends⟩
      | lull t lull next =>
          have places : t.handshakes.length = ticket := by
            have kept := step_places _ _ due next
            simp only [withRequest, List.length_append, List.length_cons, List.length_nil] at kept
            omega
          obtain ⟨outcome, found, ends⟩ := ih _ next t places lull.within rfl
          rw [await_step due ticket s place _ next]
          exact ⟨outcome, found, ends_after_lull s t due outcome _ lull ends⟩

theorem await_request (s : Supervisor) (due ticket : Nat) (place : s.handshakes.length = ticket)
    (outcome : ArmOutcome) (found : ((s.withRequest ⟨due, none⟩).elapseUntil due
      (isAnswered ticket)).handshakeOutcome? ticket = some outcome) :
    (s.withRequest ⟨due, none⟩).awaitArm ticket =
      (outcome, (s.withRequest ⟨due, none⟩).elapseUntil due (isAnswered ticket)) := by
  have limit : ((s.withRequest ⟨due, none⟩).handshakes[ticket]?.map Handshake.due).getD
      (s.withRequest ⟨due, none⟩).clock = due := by
    subst place
    simp [withRequest]
  unfold isAnswered at found ⊢
  rw [awaitArm, limit]
  simp only [found, Option.getD_some]

section Ask

variable (s : Supervisor) (timeout : Nat)

def slateClean (s : Supervisor) : Cockpit := (s.changeFlight (FlightState.answerArm .none)).cockpit

theorem ask_refused (control : s.flight.autonomous = true) :
    s.beginArm timeout = (.error .autonomousMode, { s with cockpit := s.slateClean }.dispatchReplies) := by
  have held : s.slateClean.flight.autonomous = true := control
  have sent := s.slateClean.send_refused .operator .arm .manual (by simp [Gate.admits, held])
  change s.slateClean.send .manual .operator .arm = (.error .autonomousMode, s.slateClean) at sent
  unfold slateClean at sent ⊢
  simp only [beginArm, sent]
  rfl

variable (released : s.flight.autonomous = false)

include released

theorem ask_fails (fails : s.cockpit.link.fails = true) :
    s.beginArm timeout =
      (.error (.io Link.fault), { s with cockpit := (s.slateClean.write .operator .arm).2 }.dispatchReplies) := by
  have free : s.slateClean.flight.autonomous = false := released
  have sent := (s.slateClean.send_admitted .operator .arm .manual (by simp [Gate.admits, free])).trans
    (s.slateClean.write_fails .operator .arm fails)
  unfold slateClean at sent ⊢
  simp only [beginArm, sent]
  rfl

theorem ask_works (works : s.cockpit.link.fails = false) :
    s.beginArm timeout = (.ok s.handshakes.length, (s.asked timeout).withRequest ⟨s.clock + timeout, none⟩) ∧
      s.asked timeout = { s with cockpit := (s.slateClean.write .operator .arm).2 }.dispatchReplies := by
  have free : s.slateClean.flight.autonomous = false := released
  have sent := (s.slateClean.send_admitted .operator .arm .manual (by simp [Gate.admits, free])).trans
    (s.slateClean.write_works .operator .arm works)
  unfold slateClean at sent ⊢
  simp only [asked, beginArm, sent]
  exact ⟨rfl, rfl⟩

theorem asked_sent (works : s.cockpit.link.fails = false) :
    (s.asked timeout).clock = s.clock ∧ (s.asked timeout).flight = s.flight.answerArm .none ∧
      (s.asked timeout).cockpit.journal =
        ⟨s.clock, s.flight.answerArm .none, .write .operator .arm true⟩ :: s.cockpit.journal := by
  obtain ⟨_, sent⟩ := s.ask_works timeout released works
  have unbroken : s.slateClean.link.fails = false := works
  have journal := s.slateClean.write_journal .operator .arm
  rw [unbroken] at journal
  rw [sent]
  refine ⟨s.slateClean.write_clock .operator .arm, ?_, journal⟩
  exact (s.slateClean.write_flight .operator .arm).trans (if_neg (Bool.not_eq_true _ ▸ works))

theorem handshake_waits (works : s.cockpit.link.fails = false) :
    ∃ outcome, (s.handshake timeout).1 = .ok outcome ∧
      (s.asked timeout).Ends (s.clock + timeout) outcome (s.handshake timeout).2 := by
  obtain ⟨begun, _⟩ := s.ask_works timeout released works
  obtain ⟨clock, _⟩ := s.asked_sent timeout released works
  obtain ⟨outcome, found, ends⟩ :=
    await_ends (s.clock + timeout) s.handshakes.length (s.asked timeout) rfl (by omega)
  have waited := await_request (s.asked timeout) (s.clock + timeout) s.handshakes.length rfl outcome found
  refine ⟨outcome, ?_⟩
  simp only [handshake, begun, waited]
  exact ⟨trivial, ends⟩

end Ask

/-- A request for the flight controller to arm: what is sent, when it ends, how, and what it does to the flight state.
-/
theorem arm_handshake_outcome (s : Supervisor) (timeout : Nat) :
    let result := (s.handshake timeout).1
    let later := (s.handshake timeout).2
    let asked := s.asked timeout
    let cleared := s.flight.answerArm .none
    (∀ stale, (s.changeFlight (FlightState.answerArm stale)).handshake timeout = s.handshake timeout) ∧
      (s.flight.autonomous = true → result = .error .autonomousMode ∧ later.clock = s.clock ∧
        later.flight = cleared ∧ later.cockpit.journal = s.cockpit.journal) ∧
      (s.flight.autonomous = false → s.cockpit.link.fails = true →
        result = .error (.io Link.fault) ∧ later.clock = s.clock ∧ later.flight = cleared.setConnection .error) ∧
      (s.flight.autonomous = false → s.cockpit.link.fails = false →
        asked.clock = s.clock ∧ asked.flight = cleared ∧
          asked.cockpit.journal = ⟨s.clock, cleared, .write .operator .arm true⟩ :: s.cockpit.journal ∧
          ∃ outcome, result = .ok outcome ∧ asked.Ends (s.clock + timeout) outcome later) := by
  intro result later asked cleared
  refine ⟨fun stale => rfl, ?_, ?_, ?_⟩
  · intro control
    have done : s.handshake timeout = (.error .autonomousMode, { s with cockpit := s.slateClean }.dispatchReplies) := by
      rw [handshake, s.ask_refused timeout control]
    simp only [result, later, done]
    exact ⟨trivial, rfl, rfl, rfl⟩
  · intro released fails
    have done : s.handshake timeout =
        (.error (.io Link.fault), { s with cockpit := (s.slateClean.write .operator .arm).2 }.dispatchReplies) := by
      rw [handshake, s.ask_fails timeout released fails]
    simp only [result, later, done]
    refine ⟨trivial, s.slateClean.write_clock .operator .arm, ?_⟩
    exact (s.slateClean.write_flight .operator .arm).trans (if_pos fails)
  · intro released works
    obtain ⟨clock, flight, journal⟩ := s.asked_sent timeout released works
    exact ⟨clock, flight, journal, s.handshake_waits timeout released works⟩

-- The flight controller agrees in time, to a request that finds the refusal of an earlier one.
theorem armed_in_time :
    let flight : FlightState := { armAnswer := .failure }
    let s : Supervisor := { cockpit := { flight := flight, replies := [⟨"ARM", 100, Utf8.encode "ARM_OK\n"⟩] } }
    (s.handshake 3000).1 = .ok .armed ∧ (s.asked 3000).Ends 3000 .armed (s.handshake 3000).2 ∧
      (s.handshake 3000).2.clock = 100 ∧ (s.handshake 3000).2.flight.telemetry.armed = true := by
  intro flight s
  have armed : (s.handshake 3000).1 = .ok .armed := by decide
  obtain ⟨_, _, _, outcome, result, ends⟩ := (arm_handshake_outcome s 3000).2.2.2 rfl rfl
  cases armed.symm.trans result
  exact ⟨armed, ends, by decide, by decide⟩

-- An answer of the instant at which time is up comes too late.
theorem answer_too_late :
    let s : Supervisor := { cockpit := { replies := [⟨"ARM", 3000, Utf8.encode "ARM_OK\n"⟩] } }
    (s.asked 3000).answerAt 3000 = .success ∧ (s.handshake 3000).1 = .ok .timedOut ∧
      (s.handshake 3000).2.clock = 3000 ∧ (s.handshake 3000).2.flight.armed = false := by
  decide

end Supervisor

end FlightSupervisor
