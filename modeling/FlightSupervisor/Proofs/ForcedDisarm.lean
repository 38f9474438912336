import FlightSupervisor.Proofs.ArmRequests
import FlightSupervisor.Proofs.LinkOwnership
import FlightSupervisor.Proofs.MotorsDisarmed
import FlightSupervisor.Proofs.Revocation
/-!
Forced disarms.  An alert of the flight controller and a disarm of the operator clear the armed flag and
take control away.  A program marks the motors armed right after it has seen that it has control, and so
only if it has sent `ARM` since (`Careful`); an arm request marks them without such a look.  So the motors
count as armed after a forced disarm without a new `ARM` exactly if an arm request comes to a good end and
nobody has sent `ARM` since; that takes a forced disarm while it is open (`forced_disarm_sticks_iff`).
-/

set_option autoImplicit false

namespace FlightSupervisor

def Inbound.isAlert : Inbound → Bool
  | .alert _ => true
  | _ => false

def Happening.armsByHand : Happening → Bool
  | .deed work | .rouse ⟨_, .deed work⟩ => decide (work = .setArmed true)
  | _ => false

def Sleeper.deed? : Sleeper → Option Deed
  | .reply data => some (.feed data)
  | .deed work => some work
  | _ => none

theorem tamed_armed (f g : FlightState) (tamed : Tamed f g) (armed : g.armed = true) : f.armed = true := by
  rcases tamed with ⟨same, _⟩ | ⟨disarmed, _⟩
  · exact same ▸ armed
  · exact absurd (disarmed.symm.trans armed) (by simp)

theorem tamed_grounded (f g : FlightState) (tamed : Tamed f g) (disarmed : f.armed = false)
    (released : f.autonomous = false) : g.armed = false ∧ g.autonomous = false := by
  rcases tamed with ⟨armed, control⟩ | gone
  · exact ⟨armed.trans disarmed, control.trans released⟩
  · exact gone

namespace Cockpit

structure Licensed (c earlier : Cockpit) : Prop where
  grown : earlier.Extends (fun _ => True) c
  asked : c.flight.armed = true → c.AskedSince earlier

theorem licensed_grown (kind : Entry → Prop) (earlier c later : Cockpit) (licensed : c.Licensed earlier)
    (ext : c.Extends kind later) (armed : later.flight.armed = true → c.flight.armed = true) :
    later.Licensed earlier where
  grown := extends_trans _ _ _ _ licensed.grown (extends_any kind c later ext)
  asked := fun still => asked_grown kind earlier c later licensed.grown ext (licensed.asked (armed still))

end Cockpit

namespace Run

structure Careful (earlier c : Cockpit) (r : Run) : Prop where
  unmarked : ∀ actions ∈ r.plan, .markArmed true ∉ actions
  arming : Arming c.flight.autonomous r.todo
  asked : c.flight.autonomous = true → .markArmed true ∈ r.todo → r.todo.head? ≠ some (.send .arm) →
    c.AskedSince earlier

section Careful

variable (earlier c later : Cockpit) (r : Run)

theorem idle_careful (unmarked : ∀ actions ∈ r.plan, .markArmed true ∉ actions) (none : r.todo = []) :
    Careful earlier c r where
  unmarked := unmarked
  arming := none ▸ .none [] (by simp)
  asked := by simp [none]

theorem careful_same (flight : later.flight = c.flight) (journal : later.journal = c.journal)
    (careful : Careful earlier c r) : Careful earlier later r := by
  refine ⟨careful.unmarked, ?_, ?_⟩
  · rw [flight]
    exact careful.arming
  · rw [flight, Cockpit.asked_same earlier c later journal]
    exact careful.asked

theorem rest_careful (millis : Nat) (careful : Careful earlier later r) :
    Careful earlier later (r.rest millis c) := by
  obtain ⟨unmarked, arming, asked⟩ := careful
  refine ⟨?_, ?_, ?_⟩
  · simpa using unmarked
  · simpa [todo] using arming
  · simpa [todo] using asked

theorem unfolds_marks (rules : Rules) (action : Action) (todo more : List Action)
    (unfolds : Unfolds rules c r action more) (marks : .markArmed true ∈ more ++ todo)
    (begun : (more ++ todo).head? ≠ some (.send .arm)) :
    .markArmed true ∈ todo ∧ action ≠ .send .arm := by
  cases unfolds with
  | arm settle disarmed => exact absurd rfl begun
  | _ => simp_all

theorem moves_armed (rules : Rules) (id : Nat) (next : Cockpit × Run) (moves : Moves rules id c r next)
    (armed : next.1.flight.armed = true) :
    c.flight.armed = true ∨ ∃ todo, r.activity = .carrying (.markArmed true :: todo) := by
  cases moves with
  | mark marked todo next =>
      have same : marked = true := armed
      exact .inr ⟨todo, same ▸ next⟩
  | cut | land => cases armed
  | send frame | sendFails frame => exact .inl ((written_armed c _ frame).symm.trans armed)
  | lower trip throttle => exact .inl ((written_armed c _ (.control (.level throttle))).symm.trans armed)
  | complete | begin | advance | revoke | trip | publish | collapse | hold | unfold | abandon =>
      exact .inl armed

theorem careful_marks (todo : List Action) (careful : Careful earlier c r)
    (next : r.activity = .carrying (.markArmed true :: todo)) : c.AskedSince earlier := by
  have same : r.todo = .markArmed true :: todo := by simp [Run.todo, next]
  have arming := careful.arming
  rw [same] at arming
  have held : c.flight.autonomous = true := by
    cases arming with
    | none _ unmarked => exact absurd List.mem_cons_self unmarked
    | mark _ _ held => exact held
  exact careful.asked held (same ▸ List.mem_cons_self) (by simp [same])

theorem moves_licensed (rules : Rules) (id : Nat) (next : Cockpit × Run)
    (licensed : c.Licensed earlier) (careful : Careful earlier c r)
    (moves : Moves rules id c r next) : next.1.Licensed earlier := by
  have written := moves_entries rules id c r next moves
  refine ⟨Cockpit.extends_trans _ _ _ _ licensed.grown (Cockpit.extends_any _ c next.1 written), ?_⟩
  intro armed
  apply Cockpit.asked_grown _ earlier c next.1 licensed.grown written
  rcases moves_armed c r rules id next moves armed with before | ⟨todo, marked⟩
  · exact licensed.asked before
  · exact careful_marks earlier c r todo careful marked

theorem moves_careful (rules : Rules) (id : Nat) (next : Cockpit × Run)
    (licensed : c.Licensed earlier) (careful : Careful earlier c r)
    (moves : Moves rules id c r next) : Careful earlier next.1 next.2 := by
  have unmarked := careful.unmarked
  have written := moves_entries rules id c r next moves
  have keeps := Cockpit.asked_grown _ earlier c next.1 licensed.grown written
  have carried (todo : List Action) (next : r.activity = .carrying todo) : r.todo = todo := by
    simp [Run.todo, next]
  -- Past an action that is not the program's `ARM`.
  have carries (action : Action) (todo : List Action)
      (next : r.activity = .carrying (action :: todo)) (other : action ≠ .send .arm)
      (control : c.flight.autonomous = true) (marks : .markArmed true ∈ todo) :
      c.AskedSince earlier := by
    refine careful.asked control ?_ ?_
    · exact carried _ next ▸ List.mem_cons_of_mem _ marks
    · simpa [carried _ next] using other
  cases moves with
  | complete | revoke | cut | land | advance | trip | sendFails | collapse | abandon =>
      exact idle_careful earlier _ _ unmarked rfl
  | begin actions later between ahead clear =>
      rw [ahead] at unmarked
      refine ⟨fun other member => unmarked other (List.mem_cons_of_mem _ member),
        .none actions (unmarked actions List.mem_cons_self), ?_⟩
      intro _ marks
      exact absurd marks (unmarked actions List.mem_cons_self)
  | lower trip throttle lower down control =>
      apply rest_careful earlier
      exact idle_careful earlier _ _ unmarked rfl
  | publish phase todo next =>
      have arming := arming_tail _ _ todo (carried _ next ▸ careful.arming) (by simp) (by simp)
      refine ⟨unmarked, arming, ?_⟩
      intro control marks _
      exact keeps (carries _ todo next (by simp) control marks)
  | send frame todo next control works =>
      have arming := arming_tail _ _ todo (carried _ next ▸ careful.arming) (by simp) (by simp)
      rw [← Cockpit.write_autonomous c (.program id .command) frame] at arming
      refine ⟨unmarked, arming, ?_⟩
      intro _ marks _
      by_cases arms : frame = .arm
      · subst arms
        exact Cockpit.asked_written earlier c _ licensed.grown works
      · exact keeps (carries _ todo next (by simpa using arms) control marks)
  | hold millis todo next unstopped =>
      apply rest_careful earlier
      refine ⟨unmarked, arming_hold _ _ todo (carried _ next ▸ careful.arming), ?_⟩
      intro control marks _
      have left : .markArmed true ∈ todo := by simpa [Run.todo, goOn] using marks
      exact keeps (carries _ todo next (by simp) control left)
  | unfold action todo more next unfolds =>
      refine ⟨unmarked,
        arming_unfolds rules c r action todo more (carried _ next ▸ careful.arming) unfolds, ?_⟩
      intro control marks begun
      obtain ⟨left, other⟩ := unfolds_marks c r rules action todo more unfolds marks begun
      exact carries action todo next other control left
  | mark armed todo next =>
      have arming := arming_tail _ _ todo (carried _ next ▸ careful.arming) (by simp) (by simp)
      refine ⟨unmarked, arming, ?_⟩
      intro control marks _
      exact keeps (carries _ todo next (by simp) control marks)

theorem proceed_careful (rules : Rules) (id steps : Nat) (licensed : c.Licensed earlier)
    (careful : Careful earlier c r) :
    (r.proceed rules id steps c).1.Licensed earlier ∧
      Careful earlier (r.proceed rules id steps c).1 (r.proceed rules id steps c).2 := by
  refine proceed_keeps rules id (fun c r => c.Licensed earlier ∧ Careful earlier c r) ?_
    steps c r ⟨licensed, careful⟩
  intro c r next _ _ kept moves
  exact ⟨moves_licensed earlier c r rules id next kept.1 kept.2 moves,
    moves_careful earlier c r rules id next kept.1 kept.2 moves⟩

theorem careful_told (since : Cockpit) (stop : Bool) (waits : r.Waits) (careful : Careful earlier c r)
    (kept : later.flight.autonomous = true → c.flight.autonomous = true ∧
      (c.AskedSince earlier → later.AskedSince since)) :
    Careful since later (r.told stop) where
  unmarked := careful.unmarked
  arming := arming_waits r _ _ waits careful.arming
  asked := by
    intro control marks begun
    obtain ⟨before, still⟩ := kept control
    exact still (careful.asked before marks begun)

end Careful

end Run

namespace Supervisor

-- Deeds that disarm by force: a disarm from outside, or data with an alert in it.
def forcedBy (s : Supervisor) : Deed → Bool
  | .forceDisarm => true
  | .feed data => (s.decoder.completed data).any Inbound.isAlert
  | _ => false

def forces (s : Supervisor) : Happening → Bool
  | .request .disarm => true
  | .deed work => s.forcedBy work
  | .rouse alarm => decide (alarm ∈ s.alarms ∧ alarm.due ≤ s.clock) && alarm.sleeper.deed?.any s.forcedBy
  | _ => false

-- The cockpit as the latest forced disarm of a history has left it, or else an earlier one.
def cleared (s : Supervisor) (earlier : Cockpit) : List Happening → Cockpit
  | [] => earlier
  | h :: later => (s.meet h).cleared (if s.forces h then (s.meet h).cockpit else earlier) later

-- What can be seen of the cockpit: how it is at rest, and amid the work of a program that is woken next.
inductive Sees (s : Supervisor) (next : Option Happening) : Cockpit → Prop where
  | still : Sees s next s.cockpit
  | amid (h : Happening) (id : Nat) (run : Run) (steps : Nat) (comes : next = some h)
      (turn : s.woken? h = some id) (found : s.runs[id]? = some run) :
      Sees s next (run.awake.proceed s.rules id steps s.cockpit).1

-- Whenever the motors count as armed, `ARM` has been delivered since the latest forced disarm.
def DisarmSticks (s : Supervisor) (history : List Happening) : Prop :=
  ∀ (n : Nat) c, (s.after (history.take n)).Sees history[n]? c → c.flight.armed = true →
    c.AskedSince (s.cleared s.cockpit (history.take n))

structure Guarded (s : Supervisor) (earlier : Cockpit) : Prop where
  licensed : s.cockpit.Licensed earlier
  careful : ∀ (id : Nat) (run : Run), s.runs[id]? = some run → run.isOver = false →
    run.Careful earlier s.cockpit

theorem forced_grounds (s : Supervisor) (deed : Deed) (forced : s.forcedBy deed = true) :
    (s.act deed).flight.armed = false ∧ (s.act deed).flight.autonomous = false := by
  cases deed with
  | forceDisarm => exact ⟨rfl, rfl⟩
  | feed data =>
      obtain ⟨line, member, alert⟩ := List.any_eq_true.mp forced
      obtain ⟨earlier, rest, same⟩ := List.append_of_mem member
      show ((s.decoder.completed data).foldl FlightState.hear s.flight).armed = false ∧
        ((s.decoder.completed data).foldl FlightState.hear s.flight).autonomous = false
      rw [same, List.foldl_append, List.foldl_cons]
      cases line with
      | alert text => exact tamed_grounded _ _ (mild_hear_all Tamed mild_tamed rest _) rfl rfl
      | _ => cases alert
  | _ => cases forced

theorem disarm_grounds (s : Supervisor) :
    s.disarm.2.flight.armed = false ∧ s.disarm.2.flight.autonomous = false := by
  let disarmed := s.changeFlight FlightState.forceDisarm
  have sent := Cockpit.send_mild disarmed.cockpit .operator .disarm Tamed mild_tamed .all
  exact tamed_grounded _ _ sent rfl rfl

theorem rouse_deed (s : Supervisor) (sleeper : Sleeper) (deed : Deed) (does : sleeper.deed? = some deed) :
    s.rouse sleeper = s.act deed := by
  cases sleeper with
  | reply data | deed work =>
      cases does
      rfl
  | _ => cases does

theorem forces_grounds (s : Supervisor) (h : Happening) (forces : s.forces h = true) :
    (s.meet h).flight.armed = false ∧ (s.meet h).flight.autonomous = false := by
  cases h with
  | request request =>
      cases request with
      | disarm => exact disarm_grounds s
      | _ => cases forces
  | deed deed => exact forced_grounds s deed forces
  | rouse alarm =>
      simp only [Supervisor.forces, Bool.and_eq_true, decide_eq_true_eq] at forces
      obtain ⟨ready, deeds⟩ := forces
      obtain ⟨deed, does, forced⟩ := (Option.any_eq_true _ _).mp deeds
      rw [meet, if_pos ready, wakeAlarm, rouse_deed _ _ deed does]
      exact forced_grounds _ deed forced
  | _ => cases forces

theorem act_armed (s : Supervisor) (deed : Deed) (own : deed ≠ .setArmed true)
    (armed : (s.act deed).flight.armed = true) : s.flight.armed = true := by
  cases ambient : deed.isAmbient with
  | true => exact tamed_armed _ _ (beside_act Tamed mild_tamed s deed (.inl ambient)).flight armed
  | false =>
      cases deed with
      | setArmed flag =>
          have set : flag = true := armed
          exact absurd (congrArg Deed.setArmed set) own
      | enterAutonomous =>
          have same : (s.act .enterAutonomous).flight.armed = s.flight.armed := by
            show (s.flight.enterAutonomous?.getD s.flight).armed = s.flight.armed
            rw [FlightState.enterAutonomous?]
            split <;> rfl
          exact same ▸ armed
      | leaveAutonomous => exact armed
      | _ => cases ambient

theorem meet_armed (s : Supervisor) (h : Happening) (operator : h.isOperator = true)
    (own : h.armsByHand = false) (quiet : s.woken? h = none)
    (unanswered : h = .conclude → s.pendingOutcome? ≠ some .armed)
    (armed : (s.meet h).flight.armed = true) : s.flight.armed = true := by
  cases calm : s.isCalm h with
  | true =>
      have sequel := meet_sequel Tamed mild_tamed s h (.inl calm)
      generalize s.meet h = t at sequel armed
      cases sequel with
      | beside _ _ _ beside => exact tamed_armed _ _ beside.flight armed
      | wake due id member past =>
          rw [woken_run s due id member past] at quiet
          cases quiet
      | start _ program id t slot _ _ _ started => exact start_armed s t program id started ▸ armed
      | tell _ id =>
          rw [flight, (request_stop_told s id).cockpit] at armed
          exact armed
  | false =>
      cases h with
      | rouse alarm =>
          obtain ⟨due, sleeper⟩ := alarm
          rw [meet] at armed
          split at armed
          · cases sleeper with
            | deed work =>
                exact act_armed { s with alarms := s.alarms.erase ⟨due, .deed work⟩ } work
                  (of_decide_eq_false own) armed
            | _ => cases calm
          · exact armed
      | deed work => exact act_armed s work (of_decide_eq_false own) armed
      | putOff due work => exact armed
      | conclude => exact absurd (by simpa [isCalm] using calm) (unanswered rfl)
      | start | vacate => cases operator
      | _ => cases calm

theorem quiet_careful (s : Supervisor) (h : Happening) (earlier since : Cockpit) (locked : s.Locked)
    (orderly : s.Orderly) (operator : h.isOperator = true) (guarded : s.Guarded earlier)
    (quiet : s.woken? h = none)
    (kept : (s.meet h).flight.autonomous = true → s.cockpit.AskedSince earlier →
      (s.meet h).cockpit.AskedSince since)
    (id : Nat) (run : Run) (found : (s.meet h).runs[id]? = some run) (running : run.isOver = false) :
    run.Careful since (s.meet h).cockpit := by
  -- A program that was there before.
  have old (run : Run) (stop : Bool) (place : s.runs[id]? = some run) (going : run.isOver = false)
      (control : (s.meet h).flight.autonomous = true → s.flight.autonomous = true) :
      (run.told stop).Careful since (s.meet h).cockpit :=
    run.careful_told earlier s.cockpit _ since stop (orderly.waits id run place)
      (guarded.careful id run place going) fun now => ⟨control now, kept now⟩
  cases seizes : h.seizes with
  | true =>
      rw [seizing_missing s h locked operator seizes] at found old ⊢
      exact run.told_false ▸ old run false found running fun control => control
  | false =>
      have course := meet_course s h
      generalize s.meet h = t at course found old ⊢
      cases course with
      | spare _ _ _ spares yields =>
          rw [spares.runs] at found
          exact run.told_false ▸ old run false found running (yields seizes).control
      | wake due id member past =>
          rw [woken_run s due id member past] at quiet
          cases quiet
      | submit code other t free started =>
          have place : t.runs[id]? = some run := found
          rw [started_runs s t _ other (start_started s t _ other started)] at place
          split at place
          · cases place
            apply Run.idle_careful
            · intro actions member
              obtain ⟨command, _, same⟩ := List.mem_map.mp member
              exact same ▸ actions_unmarked s.rules.timing command
            · rfl
          · have live : s.isLive id = true := (live_iff s id).mpr ⟨run, place, running⟩
            simp [locked.slot id live, live] at free
      | tell _ other _ =>
          have told := request_stop_told s other
          rw [told.runs] at found
          obtain ⟨before, place, same⟩ := Option.map_eq_some_iff.mp found
          subst same
          refine old before _ place running ?_
          rw [flight, told.cockpit]
          exact fun control => control
      | start | vacate => cases operator

theorem wake_guarded (s : Supervisor) (alarms : List Alarm) (id : Nat) (earlier : Cockpit)
    (locked : s.Locked) (guarded : s.Guarded earlier) :
    ({ s with alarms := alarms }.wakeRun id).Guarded earlier := by
  cases found : s.runs[id]? with
  | none =>
      rw [wake_run_missing s alarms id found]
      exact ⟨guarded.licensed, guarded.careful⟩
  | some run =>
      have woken := wake_run_woken s alarms id run found
      have places := woken_runs s _ alarms id run found woken
      generalize { s with alarms := alarms }.wakeRun id = t at woken places
      -- The woken program, as it is now, and the programs beside it.
      have whole (licensed : (run.wake s.rules id s.cockpit).1.Licensed earlier)
          (own : (run.wake s.rules id s.cockpit).2.isOver = false →
            (run.wake s.rules id s.cockpit).2.Careful earlier (run.wake s.rules id s.cockpit).1)
          (others : ∀ (i : Nat) (other : Run), i ≠ id → s.runs[i]? = some other →
            other.isOver = false → other.Careful earlier (run.wake s.rules id s.cockpit).1) :
          t.Guarded earlier := by
        constructor
        · exact Cockpit.licensed_grown (fun _ => True) earlier _ _ licensed
            (Cockpit.extends_same _ _ _ woken.journal) (by rw [woken.flight]; exact fun armed => armed)
        · intro i other place going
          rw [places] at place
          apply other.careful_same earlier _ _ woken.flight woken.journal
          split at place
          · cases place
            exact own going
          · rename_i different
            exact others i other different place going
      cases finished : run.isOver with
      | true =>
          rw [run.wake_over s.rules id s.cockpit finished] at whole
          refine whole guarded.licensed ?_ fun i other _ place going => guarded.careful i other place going
          intro going
          exact absurd (finished.symm.trans going) (by simp)
      | false =>
          have careful := guarded.careful id run found finished
          obtain ⟨licensed, own⟩ := run.awake.proceed_careful earlier s.cockpit s.rules id
            run.awake.effort guarded.licensed ⟨careful.unmarked, careful.arming, careful.asked⟩
          refine whole licensed (fun _ => own) ?_
          intro i other different place going
          have here := locked.slot id ((live_iff s id).mpr ⟨run, found, finished⟩)
          have there := locked.slot i ((live_iff s i).mpr ⟨other, place, going⟩)
          exact absurd (Option.some.inj (there.symm.trans here)) different

theorem forces_quiet (s : Supervisor) (h : Happening) (forces : s.forces h = true) : s.woken? h = none := by
  cases h with
  | rouse alarm =>
      obtain ⟨due, sleeper⟩ := alarm
      cases sleeper with
      | run id => simp [Supervisor.forces, Sleeper.deed?] at forces
      | _ => rfl
  | _ => rfl

theorem meet_guarded (s : Supervisor) (h : Happening) (earlier : Cockpit) (locked : s.Locked)
    (orderly : s.Orderly) (operator : h.isOperator = true) (own : h.armsByHand = false)
    (asked : h = .conclude → s.pendingOutcome? = some .armed → s.cockpit.AskedSince earlier)
    (guarded : s.Guarded earlier) :
    (s.meet h).Guarded (if s.forces h then (s.meet h).cockpit else earlier) := by
  have grows := meet_admitted s h
  have keeps := Cockpit.asked_grown _ earlier _ _ guarded.licensed.grown grows
  cases forced : s.forces h with
  | true =>
      obtain ⟨disarmed, released⟩ := forces_grounds s h forced
      refine ⟨⟨Cockpit.extends_same _ _ _ rfl, ?_⟩, ?_⟩
      · intro armed
        exact absurd (disarmed.symm.trans armed) (by simp)
      · refine quiet_careful s h earlier _ locked orderly operator guarded (forces_quiet s h forced) ?_
        intro control
        exact absurd (released.symm.trans control) (by simp)
  | false =>
      cases turn : s.woken? h with
      | some id =>
          have course := meet_course s h
          generalize s.meet h = t at course ⊢
          cases course with
          | wake due other member past => exact wake_guarded s _ other earlier locked guarded
          | spare _ _ quiet | tell _ _ quiet =>
              rw [turn] at quiet
              cases quiet
          | submit => cases turn
          | start | vacate => cases operator
      | none =>
          constructor
          · refine ⟨Cockpit.extends_trans _ _ _ _ guarded.licensed.grown
              (Cockpit.extends_any _ _ _ grows), ?_⟩
            intro armed
            apply keeps
            by_cases ends : h = .conclude ∧ s.pendingOutcome? = some .armed
            · exact asked ends.1 ends.2
            · exact guarded.licensed.asked (meet_armed s h operator own turn
                (fun same pending => ends ⟨same, pending⟩) armed)
          · exact quiet_careful s h earlier earlier locked orderly operator guarded turn fun _ => keeps

theorem after_guarded (s : Supervisor) (history : List Happening) (earlier : Cockpit) (n : Nat)
    (locked : s.Locked) (orderly : s.Orderly) (operator : ∀ h ∈ history, h.isOperator = true)
    (own : ∀ h ∈ history, h.armsByHand = false)
    (asked : ∀ m : Nat, history[m]? = some .conclude →
      (s.after (history.take m)).pendingOutcome? = some .armed →
        (s.after (history.take m)).cockpit.AskedSince (s.cleared earlier (history.take m)))
    (guarded : s.Guarded earlier) :
    (s.after (history.take n)).Guarded (s.cleared earlier (history.take n)) := by
  induction history generalizing s earlier n with
  | nil => rw [List.take_nil]; exact guarded
  | cons h later ih =>
      cases n with
      | zero => exact guarded
      | succ n =>
          have now : h = .conclude → s.pendingOutcome? = some .armed → s.cockpit.AskedSince earlier :=
            fun same pending => asked 0 (congrArg some same) pending
          exact ih (s.meet h) _ n (meet_locked s h (operator h List.mem_cons_self) locked)
            (meet_orderly s h orderly) (fun other member => operator other (List.mem_cons_of_mem _ member))
            (fun other member => own other (List.mem_cons_of_mem _ member))
            (fun m found pending => asked (m + 1) found pending)
            (meet_guarded s h earlier locked orderly (operator h List.mem_cons_self)
              (own h List.mem_cons_self) now guarded)

theorem sees_licensed (s : Supervisor) (next : Option Happening) (earlier c : Cockpit)
    (guarded : s.Guarded earlier) (sees : s.Sees next c) : c.Licensed earlier := by
  cases sees with
  | still => exact guarded.licensed
  | amid h id run steps comes turn found =>
      cases finished : run.isOver with
      | true =>
          rw [Run.proceed_over s.rules id steps s.cockpit run.awake finished]
          exact guarded.licensed
      | false =>
          have careful := guarded.careful id run found finished
          exact (run.awake.proceed_careful earlier s.cockpit s.rules id steps guarded.licensed
            ⟨careful.unmarked, careful.arming, careful.asked⟩).1

theorem cleared_append (s : Supervisor) (earlier : Cockpit) (history : List Happening) (h : Happening)
    (plain : (s.after history).forces h = false) :
    s.cleared earlier (history ++ [h]) = s.cleared earlier history := by
  induction history generalizing s earlier with
  | nil =>
      have now : s.forces h = false := plain
      simp [cleared, now]
  | cons first later ih => exact ih (s.meet first) _ plain

theorem conclude_armed (s : Supervisor) (pending : s.pendingOutcome? = some .armed) :
    (s.meet .conclude).flight.armed = true ∧ (s.meet .conclude).cockpit.journal = s.cockpit.journal := by
  simp only [meet, pending, Option.map_some, Option.getD_some]
  exact ⟨rfl, rfl⟩

theorem forces_answering (s : Supervisor) (h : Happening) (forces : s.forces h = true) :
    (s.meet h).isAnswering = s.isAnswering := by
  have same : (s.meet h).handshakes = s.handshakes := by
    cases h with
    | request request =>
        cases request with
        | disarm => rfl
        | _ => cases forces
    | deed deed => exact act_handshakes s deed
    | rouse alarm =>
        rw [meet]
        split
        · exact rouse_handshakes _ alarm.sleeper
        · rfl
    | _ => cases forces
  rw [isAnswering, same, isAnswering]

theorem after_answering (s : Supervisor) (history : List Happening) (earlier : Cockpit) (n : Nat)
    (grown : earlier.Extends (fun _ => True) s.cockpit)
    (asked : s.isAnswering = true → s.cockpit.AskedSince earlier)
    (apart : ∀ (m : Nat) h, history[m]? = some h → (s.after (history.take m)).forces h = true →
      (s.after (history.take m)).isAnswering = false)
    (answering : (s.after (history.take n)).isAnswering = true) :
    (s.after (history.take n)).cockpit.AskedSince (s.cleared earlier (history.take n)) := by
  induction history generalizing s earlier n with
  | nil =>
      rw [List.take_nil] at answering ⊢
      exact asked answering
  | cons h later ih =>
      cases n with
      | zero => exact asked answering
      | succ n =>
          have grows := meet_admitted s h
          refine ih (s.meet h) _ n ?_ ?_ (fun m other found => apart (m + 1) other found) answering
          · split
            · exact Cockpit.extends_same _ _ _ rfl
            · exact Cockpit.extends_trans _ _ _ _ grown (Cockpit.extends_any _ _ _ grows)
          · intro opened
            cases forced : s.forces h with
            | true =>
                have closed : s.isAnswering = false := apart 0 h rfl forced
                rw [forces_answering s h forced, closed] at opened
                cases opened
            | false =>
                rcases meet_answering s h earlier grown opened with before | new
                · exact Cockpit.asked_grown _ earlier _ _ grown grows (asked before)
                · exact new

theorem fresh_guarded (s : Supervisor) (fresh : s.Fresh) (disarmed : s.flight.armed = false) :
    s.Guarded s.cockpit := by
  refine ⟨⟨Cockpit.extends_same _ _ _ rfl, ?_⟩, by simp [fresh.runs]⟩
  intro armed
  exact absurd (disarmed.symm.trans armed) (by simp)

section Sticks

variable (s : Supervisor) (history : List Happening) (fresh : s.Fresh) (disarmed : s.flight.armed = false)
variable (operator : ∀ h ∈ history, h.isOperator = true) (own : ∀ h ∈ history, h.armsByHand = false)

include fresh disarmed operator own

theorem sticks_iff_asked : s.DisarmSticks history ↔
    ∀ n : Nat, history[n]? = some .conclude → (s.after (history.take n)).pendingOutcome? = some .armed →
      (s.after (history.take n)).cockpit.AskedSince (s.cleared s.cockpit (history.take n)) := by
  constructor
  · intro sticks n found pending
    obtain ⟨armed, journal⟩ := conclude_armed _ pending
    have next : history.take (n + 1) = history.take n ++ [.conclude] := by
      rw [List.take_add_one, found]
      rfl
    have seen := sticks (n + 1) _ .still
    rw [next, after_append, cleared_append s s.cockpit _ .conclude rfl] at seen
    exact (Cockpit.asked_same _ _ _ journal).mp (seen armed)
  · intro asked n c sees armed
    have guarded := after_guarded s history s.cockpit n (fresh_locked s fresh) (fresh_orderly s fresh)
      operator own asked (fresh_guarded s fresh disarmed)
    exact (sees_licensed _ _ _ c guarded sees).asked armed

/-- A forced disarm lasts until `ARM` is sent again just if no arm request succeeds that was sent before it, as is so if
no answer waits to be taken whenever a disarm is forced. -/
theorem forced_disarm_sticks_iff :
    (s.DisarmSticks history ↔ ∀ n : Nat, history[n]? = some .conclude →
        (s.after (history.take n)).pendingOutcome? = some .armed →
          (s.after (history.take n)).cockpit.AskedSince (s.cleared s.cockpit (history.take n))) ∧
      (s.isAnswering = false →
        (∀ (n : Nat) h, history[n]? = some h → (s.after (history.take n)).forces h = true →
          (s.after (history.take n)).isAnswering = false) → s.DisarmSticks history) := by
  have exactly := sticks_iff_asked s history fresh disarmed operator own
  refine ⟨exactly, ?_⟩
  intro idle apart
  apply exactly.mpr
  intro n _ pending
  apply after_answering s history s.cockpit n (Cockpit.extends_same _ _ _ rfl) ?_ apart
  · exact pending_answering _ _ pending
  · intro answering
    exact absurd (idle.symm.trans answering) (by simp)

end Sticks

-- The flight controller agrees to arm and gives an alert in the same breath.
theorem alert_undone_by_answer :
    let history := [.request .arm, .deed (.feed (Utf8.encode "ARM_OK\nALERT low battery\n")), .conclude]
    charged.flight.armed = false ∧
      (∀ h ∈ history, h.isOperator = true ∧ h.armsByHand = false) ∧
      (charged.after (history.take 2)).flight.armed = false ∧
      (charged.after history).flight.armed = true ∧ ¬ charged.DisarmSticks history := by
  intro history
  refine ⟨rfl, ?_, by decide +kernel, by decide +kernel, ?_⟩
  · simp [history, Happening.isOperator, Happening.armsByHand]
  · intro sticks
    have asked := sticks 3 _ .still (by decide +kernel)
    revert asked
    decide +kernel

theorem armed_anew_sticks :
    let history := [.request .disarm, .request .arm, .deed (.feed (Utf8.encode "ARM_OK\n")), .conclude]
    (charged.after history).flight.armed = true ∧ charged.DisarmSticks history := by
  intro history
  refine ⟨by decide +kernel, ?_⟩
  apply (forced_disarm_sticks_iff charged history charged_fresh rfl ?_ ?_).1.mpr
  · intro n ends pending
    rcases n with _ | _ | _ | _ | n
    · cases ends
    · cases ends
    · cases ends
    · decide +kernel
    · cases ends
  · simp [history, Happening.isOperator]
  · simp [history, Happening.armsByHand]

end Supervisor

end FlightSupervisor
