import FlightSupervisor.Proofs.Turns
/-!
What becomes of a program from which control is taken.  When it is woken it stops where it is,
silently, unless it has been told to stop by then: that is looked at first, and the program goes
through the emergency landing without control, down to its `DISARM` (`told_wake`).  So the end is the
silent one exactly as long as nobody tells the program to stop (`revocation_silent_iff`).
-/

set_option autoImplicit false

namespace FlightSupervisor

namespace Run

def isDone (r : Run) : Bool :=
  match r.activity with
  | .boundary => r.plan.isEmpty
  | _ => false

def awake (r : Run) : Run := { r with asleepUntil := none }

theorem proceed_over (rules : Rules) (id fuel : Nat) (c : Cockpit) (r : Run) (finished : r.isOver = true) :
    r.proceed rules id fuel c = (c, r) := by
  cases fuel with
  | zero => rfl
  | succ fuel => rw [proceed, if_pos (by simp [isResting, finished])]

theorem proceed_awake (rules : Rules) (id fuel : Nat) (c : Cockpit) (r : Run)
    (awake : r.asleepUntil = none) (running : r.isOver = false) :
    r.proceed rules id (fuel + 1) c =
      (r.step rules id c).2.proceed rules id fuel (r.step rules id c).1 := by
  rw [proceed, if_neg (by simp [isResting, awake, running])]

theorem underway_running (r : Run) (underway : r.isUnderway = true) : r.isOver = false := by
  rw [isUnderway] at underway
  rw [isOver]
  cases activity : r.activity <;> simp_all

theorem finish_over (id : Nat) (phase : Phase) (reason : Option Trip) (c : Cockpit) (r : Run) :
    (r.finish id phase reason c).2.isOver = true := rfl

-- What a run that is underway comes upon first when control has been taken from it.
def hearing (r : Run) : Trip := if r.stopRequested then .stop else .controlRevoked

theorem revoked_step (rules : Rules) (id : Nat) (c : Cockpit) (r : Run) (underway : r.isUnderway = true)
    (waits : r.Waits) (ahead : r.isDone = false) (revoked : c.flight.autonomous = false) :
    r.step rules id c = r.fail id r.hearing c := by
  cases activity : r.activity with
  | boundary =>
      obtain ⟨actions, later, same⟩ : ∃ actions later, r.plan = actions :: later := by
        cases plan : r.plan with
        | nil => simp [isDone, activity, plan] at ahead
        | cons actions later => exact ⟨actions, later, rfl⟩
      have found : r.guard? rules false c = some r.hearing := by
        unfold guard? hearing
        cases r.stopRequested <;> simp [revoked]
      simp only [step, activity, same, found]
  | carrying todo =>
      obtain ⟨rest, same⟩ : ∃ rest, todo = .recheck :: rest := by
        simpa [Waits, activity] using waits
      simp only [step, activity, same, perform, hearing, revoked]
      cases r.stopRequested <;> simp
  | _ => simp [isUnderway, activity] at underway

theorem descent_revoked (rules : Rules) (id fuel : Nat) (c : Cockpit) (r : Run) (trip : Trip)
    (throttles : List Single) (down : r.activity = .descending trip throttles)
    (awake : r.asleepUntil = none) (revoked : c.flight.autonomous = false) :
    r.proceed rules id (fuel + 2) c =
      r.finish id .aborted (some trip)
        ((c.write (.program id .landing) .disarm).2.changeFlight (FlightState.setArmed false)) := by
  have landed (r : Run) (fuel : Nat) (awake : r.asleepUntil = none)
      (down : r.activity = .descending trip []) :
      r.proceed rules id (fuel + 1) c =
        r.finish id .aborted (some trip)
          ((c.write (.program id .landing) .disarm).2.changeFlight (FlightState.setArmed false)) := by
    rw [proceed_awake rules id fuel c r awake (by simp [isOver, down])]
    simp only [step, down, Cockpit.send_admitted c _ _ .all rfl]
    exact proceed_over rules id fuel _ _ rfl
  cases throttles with
  | nil => exact landed r (fuel + 1) awake down
  | cons throttle lower =>
      rw [proceed_awake rules id (fuel + 1) c r awake (by simp [isOver, down])]
      simp only [step, down, Cockpit.send_refused c _ _ .autonomous (by simp [Gate.admits, revoked])]
      exact landed { r with activity := .descending trip [] } fuel awake rfl

theorem wake_underway (rules : Rules) (id : Nat) (c : Cockpit) (r : Run)
    (underway : r.isUnderway = true) :
    ∃ fuel, r.wake rules id c =
      (r.awake.step rules id c).2.proceed rules id (fuel + 6) (r.awake.step rules id c).1 := by
  have enough : 7 ≤ r.awake.effort := effort_underway r.awake underway
  obtain ⟨fuel, same⟩ := Nat.exists_eq_add_of_le' enough
  refine ⟨fuel, ?_⟩
  show r.awake.proceed rules id r.awake.effort c = _
  rw [same]
  exact proceed_awake rules id (fuel + 6) c r.awake rfl (underway_running r.awake underway)

theorem awake_waits (r : Run) (waits : r.Waits) : r.awake.Waits := by
  unfold Waits awake at *
  cases activity : r.activity <;> simp_all

theorem done_wake (rules : Rules) (id : Nat) (c : Cockpit) (r : Run) (done : r.isDone = true) :
    r.wake rules id c = r.awake.finish id .completed none c := by
  obtain ⟨between, empty⟩ : r.activity = .boundary ∧ r.plan = [] := by
    rw [isDone] at done
    cases activity : r.activity <;> simp_all
  obtain ⟨fuel, woken⟩ := wake_underway rules id c r (by simp [isUnderway, between])
  rw [woken]
  simp only [step, awake, between, empty]
  exact proceed_over rules id _ _ _ rfl

theorem revoked_wake (rules : Rules) (id : Nat) (c : Cockpit) (r : Run) (underway : r.isUnderway = true)
    (waits : r.Waits) (ahead : r.isDone = false) (revoked : c.flight.autonomous = false)
    (untold : r.stopRequested = false) :
    r.wake rules id c = r.awake.finish id .aborted (some .controlRevoked) c := by
  obtain ⟨fuel, woken⟩ := wake_underway rules id c r underway
  have step := revoked_step rules id c r.awake underway (awake_waits r waits) ahead revoked
  have hearing : r.awake.hearing = .controlRevoked := by simp [Run.hearing, awake, untold]
  rw [woken, step, hearing, fail_revoked]
  exact proceed_over rules id _ _ _ rfl

theorem told_wake (rules : Rules) (id : Nat) (c : Cockpit) (r : Run) (underway : r.isUnderway = true)
    (waits : r.Waits) (ahead : r.isDone = false) (revoked : c.flight.autonomous = false)
    (told : r.stopRequested = true) :
    r.wake rules id c =
      r.awake.finish id .aborted (some .stop)
        (((c.publish id .emergencyLanding).write (.program id .landing) .disarm).2.changeFlight
          (FlightState.setArmed false)) := by
  obtain ⟨fuel, woken⟩ := wake_underway rules id c r underway
  have step := revoked_step rules id c r.awake underway (awake_waits r waits) ahead revoked
  have hearing : r.awake.hearing = .stop := by simp [Run.hearing, awake, told]
  rw [woken, step, hearing, fail_other r.awake id .stop c (by simp)]
  exact descent_revoked rules id (fuel + 4) _ _ .stop _ rfl rfl revoked

theorem revoked_wake_over (rules : Rules) (id : Nat) (c : Cockpit) (r : Run)
    (underway : r.isUnderway = true) (waits : r.Waits) (revoked : c.flight.autonomous = false) :
    (r.wake rules id c).2.isOver = true := by
  cases ahead : r.isDone with
  | true => rw [done_wake rules id c r ahead, finish_over]
  | false =>
      cases told : r.stopRequested with
      | true => rw [told_wake rules id c r underway waits ahead revoked told, finish_over]
      | false => rw [revoked_wake rules id c r underway waits ahead revoked told, finish_over]

end Run

namespace Supervisor

def Silent (id : Nat) (entry : Entry) : Prop :=
  entry.event.program? = some id → entry.event = .phase id .aborted

def revokedEnd (executed : Nat) : Outcome := ⟨.aborted, executed, some .controlRevoked⟩

-- How a program leaves from which control was taken at `s`, seen at a later `t`: it still waits for
-- its next turn, or it is over.
structure Relinquished (s : Supervisor) (id executed : Nat) (t : Supervisor) : Prop where
  silent : s.cockpit.Extends (Silent id) t.cockpit
  waits : t.isLive id = true → t.Alarmed id
  finished : t.isLive id = false → t.Over id (some (revokedEnd executed))
  turn : ∀ millis h, (t.meet (.pass millis)).woken? h = some id →
    ((t.meet (.pass millis)).meet h).Over id (some (revokedEnd executed)) ∧
      ((t.meet (.pass millis)).meet h).flight.armed = t.flight.armed

def isTold (s : Supervisor) (id : Nat) : Bool :=
  s.runs[id]?.any fun run => run.isUnderway && run.stopRequested

theorem revoked_turn (s : Supervisor) (h : Happening) (id : Nat) (run : Run) (orderly : s.Orderly)
    (found : s.runs[id]? = some run) (underway : run.isUnderway = true) (ahead : run.isDone = false)
    (revoked : s.flight.autonomous = false) (untold : run.stopRequested = false)
    (turn : s.woken? h = some id) :
    (s.meet h).Over id (some (revokedEnd run.executed)) ∧
      (s.meet h).flight.armed = s.flight.armed ∧ s.cockpit.Extends (Silent id) (s.meet h).cockpit := by
  obtain ⟨alarms, woken⟩ := turn_woken s h id run found turn
  have same := run.revoked_wake s.rules id s.cockpit underway (orderly.waits id run found) ahead
    revoked untold
  have finished := turn_over s h id run found turn
  rw [same] at finished
  refine ⟨finished rfl, ?_, ?_⟩
  · rw [flight, woken.flight, same]
    rfl
  · have published := Cockpit.publish_extends (Silent id) (s.cockpit.changeFlight
      FlightState.leaveAutonomous) id .aborted fun _ => rfl
    obtain ⟨fresh, journal, silent⟩ := published
    refine ⟨fresh, ?_, silent⟩
    rw [woken.journal, same]
    exact journal

theorem told_turn (s : Supervisor) (h : Happening) (id : Nat) (run : Run) (orderly : s.Orderly)
    (found : s.runs[id]? = some run) (underway : run.isUnderway = true) (ahead : run.isDone = false)
    (revoked : s.flight.autonomous = false) (told : run.stopRequested = true)
    (turn : s.woken? h = some id) :
    (s.meet h).Over id (some ⟨.aborted, run.executed, some .stop⟩) ∧
      (s.meet h).flight.armed = false ∧
      ((s.meet h).cockpit.since s.cockpit).map Entry.event =
        [.phase id .aborted, .write (.program id .landing) .disarm (!s.cockpit.link.fails),
          .phase id .emergencyLanding] := by
  obtain ⟨alarms, woken⟩ := turn_woken s h id run found turn
  have same := run.told_wake s.rules id s.cockpit underway (orderly.waits id run found) ahead
    revoked told
  have finished := turn_over s h id run found turn
  rw [same] at finished
  refine ⟨finished rfl, ?_, ?_⟩
  · rw [flight, woken.flight, same]
    rfl
  · have journal := woken.journal
    simp only [same, Run.finish, Cockpit.publish, Cockpit.record, Cockpit.changeFlight,
      Cockpit.write_journal] at journal
    rw [Cockpit.since_append s.cockpit _ [_, _, _] journal]
    rfl

theorem done_turn (s : Supervisor) (h : Happening) (id : Nat) (run : Run)
    (found : s.runs[id]? = some run) (done : run.isDone = true) (turn : s.woken? h = some id) :
    (s.meet h).Over id (some ⟨.completed, run.executed, none⟩) := by
  have finished := turn_over s h id run found turn
  rw [run.done_wake s.rules id s.cockpit done] at finished
  exact finished rfl

theorem after_underway (s : Supervisor) (history : List Happening) (id : Nat) (run : Run)
    (orderly : s.Orderly) (found : s.runs[id]? = some run) (underway : run.isUnderway = true)
    (released : ∀ n, (s.after (history.take n)).isLive id = true →
      (s.after (history.take n)).flight.autonomous = false) :
    (∃ stop, (s.after history).runs[id]? = some (run.told stop)) ∨
      ∃ outcome, (s.after history).Over id outcome := by
  induction history generalizing s run with
  | nil => exact .inl ⟨false, by rw [Run.told_false]; exact found⟩
  | cons h later ih =>
      have live : s.isLive id = true := (live_iff s id).mpr ⟨run, found, run.underway_running underway⟩
      have revoked : s.flight.autonomous = false := released 0 live
      rcases meet_found s h id run found with ⟨_, stop, place⟩ | ⟨turn, _⟩
      · rcases ih (s.meet h) (run.told stop) (meet_orderly s h orderly) place underway
          (fun n => released (n + 1)) with ⟨again, same⟩ | finished
        · refine .inl ⟨stop || again, ?_⟩
          rw [← Run.told_told, ← same]
          rfl
        · exact .inr finished
      · have finished := turn_over s h id run found turn (run.revoked_wake_over s.rules id s.cockpit
          underway (orderly.waits id run found) revoked)
        exact .inr ⟨_, (after_over (s.meet h) later id _ finished).1⟩

theorem told_live (s : Supervisor) (id : Nat) (run : Run) (found : s.runs[id]? = some run)
    (underway : run.isUnderway = true) : s.isTold id = run.stopRequested := by
  simp [isTold, found, underway]

theorem relinquished_over (s t : Supervisor) (id executed : Nat)
    (silent : s.cockpit.Extends (Silent id) t.cockpit)
    (finished : t.Over id (some (revokedEnd executed))) : Relinquished s id executed t where
  silent := silent
  waits := by
    intro live
    rw [over_not_live t id _ finished] at live
    cases live
  finished := fun _ => finished
  turn := by
    intro millis h turn
    have later := meet_over t (.pass millis) id _ finished
    refine ⟨meet_over _ h id _ later, ?_⟩
    rw [over_flight _ h id _ later turn]
    rfl

theorem untold_relinquished (s : Supervisor) (history : List Happening) (id : Nat) (run : Run)
    (orderly : s.Orderly) (found : s.runs[id]? = some run) (underway : run.isUnderway = true)
    (ahead : run.isDone = false)
    (released : ∀ n, (s.after (history.take n)).isLive id = true →
      (s.after (history.take n)).flight.autonomous = false)
    (untold : ∀ n, (s.after (history.take n)).isTold id = false) :
    Relinquished s id run.executed (s.after history) := by
  induction history generalizing s run with
  | nil =>
      have live : s.isLive id = true := (live_iff s id).mpr ⟨run, found, run.underway_running underway⟩
      have quiet : run.stopRequested = false := told_live s id run found underway ▸ untold 0
      refine ⟨Cockpit.extends_same _ _ _ rfl, orderly.alarmed id, ?_, ?_⟩
      · intro finished
        have alive : s.isLive id = false := finished
        rw [live] at alive
        cases alive
      · intro millis h turn
        have last := revoked_turn (s.meet (.pass millis)) h id run (meet_orderly s _ orderly) found
          underway ahead (released 0 live) quiet turn
        exact ⟨last.1, last.2.1⟩
  | cons h later ih =>
      have live : s.isLive id = true := (live_iff s id).mpr ⟨run, found, run.underway_running underway⟩
      have quiet : run.stopRequested = false := told_live s id run found underway ▸ untold 0
      have silence (c t : Cockpit)
          (about : c.Extends (fun entry => entry.event.program? ≠ some id) t) :
          c.Extends (Silent id) t :=
        Cockpit.extends_weaken _ _ _ _ (fun _ other same => absurd same other) about
      obtain ⟨inside, _⟩ := List.getElem?_eq_some_iff.mp found
      rcases meet_found s h id run found with ⟨unwoken, stop, place⟩ | ⟨turn, _⟩
      · have rest := ih (s.meet h) (run.told stop) (meet_orderly s h orderly) place underway ahead
          (fun n => released (n + 1)) (fun n => untold (n + 1))
        refine ⟨?_, rest.waits, rest.finished, rest.turn⟩
        exact Cockpit.extends_trans _ _ _ _ (silence _ _ (meet_about s h id inside unwoken)) rest.silent
      · obtain ⟨finished, _, silent⟩ := revoked_turn s h id run orderly found underway ahead
          (released 0 live) quiet turn
        obtain ⟨still, about⟩ := after_over (s.meet h) later id _ finished
        exact relinquished_over s _ id run.executed
          (Cockpit.extends_trans _ _ _ _ silent (silence _ _ about)) still

theorem relinquished_untold (s : Supervisor) (history : List Happening) (id : Nat) (run : Run)
    (orderly : s.Orderly) (found : s.runs[id]? = some run) (underway : run.isUnderway = true)
    (ahead : run.isDone = false)
    (released : ∀ n, (s.after (history.take n)).isLive id = true →
      (s.after (history.take n)).flight.autonomous = false)
    (left : Relinquished s id run.executed (s.after history)) : (s.after history).isTold id = false := by
  have whole : s.after (history.take history.length) = s.after history := by rw [List.take_length]
  rcases after_underway s history id run orderly found underway released with
    ⟨stop, place⟩ | ⟨outcome, finished⟩
  · cases told : (s.after history).isTold id with
    | false => rfl
    | true =>
        have live : (s.after history).isLive id = true :=
          (live_iff _ id).mpr ⟨run.told stop, place, run.underway_running underway⟩
        obtain ⟨millis, h, turn⟩ := alarmed_turn _ id (left.waits live)
        have stopped : (run.told stop).stopRequested = true :=
          told_live _ id (run.told stop) place underway ▸ told
        have landed := told_turn ((s.after history).meet (.pass millis)) h id (run.told stop)
          (meet_orderly _ _ (after_orderly s history orderly)) place underway ahead
          (whole ▸ released history.length (whole ▸ live)) stopped turn
        have same := over_unique _ id _ _ landed.1 (left.turn millis h turn).1
        simp [revokedEnd] at same
  · obtain ⟨last, place, ended, _⟩ := finished
    cases activity : last.activity <;> simp_all [isTold, Run.isUnderway, Run.isOver]

/-- A program that loses control leaves silently, with neither frame nor state of flight but that it is aborted, just
if it has something left to do and is not told to stop in the meantime. -/
theorem revocation_silent_iff (s : Supervisor) (past later : List Happening) (id : Nat) (run : Run)
    (fresh : s.Fresh) (found : (s.after past).runs[id]? = some run) (underway : run.isUnderway = true)
    (released : ∀ n, ((s.after past).after (later.take n)).isLive id = true →
      ((s.after past).after (later.take n)).flight.autonomous = false) :
    (∀ n, Relinquished (s.after past) id run.executed ((s.after past).after (later.take n))) ↔
      run.isDone = false ∧ ∀ n, ((s.after past).after (later.take n)).isTold id = false := by
  have orderly : (s.after past).Orderly := after_orderly s past (fresh_orderly s fresh)
  have prefixes (n m : Nat) : (later.take n).take m = later.take (min m n) := List.take_take
  have upTo (n : Nat) : ∀ m, ((s.after past).after ((later.take n).take m)).isLive id = true →
      ((s.after past).after ((later.take n).take m)).flight.autonomous = false := by
    intro m
    rw [prefixes]
    exact released (min m n)
  constructor
  · intro left
    have ahead : run.isDone = false := by
      cases done : run.isDone with
      | false => rfl
      | true =>
          have live : (s.after past).isLive id = true :=
            (live_iff _ id).mpr ⟨run, found, run.underway_running underway⟩
          obtain ⟨millis, h, turn⟩ := alarmed_turn _ id ((left 0).waits live)
          have same := over_unique _ id _ _
            (done_turn ((s.after past).meet (.pass millis)) h id run found done turn)
            ((left 0).turn millis h turn).1
          simp [revokedEnd] at same
    exact ⟨ahead, fun n => relinquished_untold _ _ id run orderly found underway ahead (upTo n) (left n)⟩
  · intro ⟨ahead, untold⟩ n
    refine untold_relinquished _ _ id run orderly found underway ahead (upTo n) ?_
    intro m
    rw [prefixes]
    exact untold (min m n)

-- A program waits for five seconds; after one of them the operator disarms and arms by hand.
def handedBack : List Happening :=
  [.start [.wait 5], .rouse ⟨0, .run 0⟩, .pass 1000, .deed .forceDisarm, .deed (.setArmed true)]

theorem revocation_noticed_silently :
    (charged.after handedBack).isLive 0 = true ∧
      ∀ n, Relinquished (charged.after handedBack) 0 0
        ((charged.after handedBack).after ([.pass 4000, .rouse ⟨5000, .run 0⟩].take n)) := by
  have released (n : Nat) : ((charged.after handedBack).after
      ([.pass 4000, .rouse ⟨5000, .run 0⟩].take n)).flight.autonomous = false := by
    rcases n with _ | _ | n <;> simp only [List.take, List.take_nil] <;> decide +kernel
  have untold (n : Nat) : ((charged.after handedBack).after
      ([.pass 4000, .rouse ⟨5000, .run 0⟩].take n)).isTold 0 = false := by
    rcases n with _ | _ | n <;> simp only [List.take, List.take_nil] <;> decide +kernel
  refine ⟨by decide +kernel, ?_⟩
  exact (revocation_silent_iff charged handedBack _ 0
    { began := 0, plan := [], activity := .carrying [.recheck], asleepUntil := some 5000 }
    charged_fresh (by decide +kernel) rfl (fun n _ => released n)).mpr ⟨rfl, untold⟩

-- A stop request in the same wait has the motors of the operator disarmed.
theorem stop_after_revocation_disarms :
    let s := charged.after handedBack
    let t := s.after [.stop 0, .rouse ⟨1000, .run 0⟩]
    s.isLive 0 = true ∧ s.flight.autonomous = false ∧ s.flight.armed = true ∧
      (s.after [.stop 0]).flight.autonomous = false ∧
      (t.cockpit.since s.cockpit).map Entry.event =
        [.phase 0 .aborted, .write (.program 0 .landing) .disarm true, .phase 0 .emergencyLanding] ∧
      t.flight.armed = false ∧
      t.runs[0]?.bind Run.outcome? = some ⟨.aborted, 0, some .stop⟩ := by
  decide +kernel

end Supervisor

end FlightSupervisor
