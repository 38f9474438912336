import FlightSupervisor.Proofs.SoundPrograms
import FlightSupervisor.Proofs.TimelineKept
/-!
The record of a program: the states that it publishes and the commands that it counts.  Its counter, its trip and its
states are kept apart and changed at different places; `Books` says how they hang together wherever a program is
(`step_booked`), and `run_recorded` what they come to when it is over.
-/

set_option autoImplicit false

namespace FlightSupervisor

def Event.publishedBy? (id : Nat) : Event → Option Phase
  | .phase run shown => if run = id then some shown else none
  | .write .. => none

namespace Cockpit

def phases (c : Cockpit) (id : Nat) : List Phase :=
  c.journal.reverse.filterMap fun entry => entry.event.publishedBy? id

section Phases

variable (c later : Cockpit) (id : Nat)

theorem phases_published (phase : Phase) : (c.publish id phase).phases id = c.phases id ++ [phase] := by
  simp [phases, publish, record, Event.publishedBy?]

theorem phases_written (issuer : Issuer) (frame : Frame) : (c.write issuer frame).2.phases id = c.phases id := by
  simp [phases, write_journal, Event.publishedBy?]

theorem phases_same (same : later.journal = c.journal) : later.phases id = c.phases id := by
  rw [phases, same, phases]

theorem phases_silent (silent : c.Extends (fun entry => entry.event.program? ≠ some id) later) :
    later.phases id = c.phases id := by
  obtain ⟨fresh, same, others⟩ := silent
  have none : (fresh.reverse.filterMap fun entry => entry.event.publishedBy? id) = [] := by
    apply List.filterMap_eq_nil_iff.mpr
    intro entry member
    have other := others entry (List.mem_reverse.mp member)
    obtain ⟨time, flight, event⟩ := entry
    cases event with
    | write => rfl
    | phase run phase =>
        have different : run ≠ id := fun same => other (congrArg some same)
        simp [Event.publishedBy?, different]
  simp [phases, same, none]

end Phases

end Cockpit

def Action.phase? : Action → Option Phase
  | .publish phase => some phase
  | _ => none

def announced (todo : List Action) : List Phase := todo.filterMap Action.phase?

-- Running, so many takeoffs gone through, perhaps one that has not, perhaps a landing in emergency, and the end.
def path (takeoffs : Nat) (climbing landing : Bool) (last : Option Phase) : List Phase :=
  [.running] ++ (List.replicate takeoffs [.takeoff, .running]).flatten ++ (if climbing then [.takeoff] else []) ++
    (if landing then [.emergencyLanding] else []) ++ last.toList

-- What has been published while a command is carried out that has so much still to publish.
inductive Climb (phases : List Phase) : List Phase → Prop where
  | level (takeoffs : Nat) (states : phases = path takeoffs false false none) : Climb phases []
  | ahead (takeoffs : Nat) (states : phases = path takeoffs false false none) : Climb phases [.takeoff, .running]
  | amid (takeoffs : Nat) (states : phases = path takeoffs true false none) : Climb phases [.running]

theorem climb_path (phases ahead : List Phase) (climb : Climb phases ahead) :
    ∃ takeoffs climbing, phases = path takeoffs climbing false none := by
  cases climb with
  | level takeoffs states | ahead takeoffs states => exact ⟨takeoffs, false, states⟩
  | amid takeoffs states => exact ⟨takeoffs, true, states⟩

theorem climb_published (phases ahead : List Phase) (phase : Phase) (climb : Climb phases (phase :: ahead)) :
    Climb (phases ++ [phase]) ahead := by
  cases climb with
  | ahead takeoffs states => exact .amid takeoffs (by simp [states, path])
  | amid takeoffs states =>
      refine .level (takeoffs + 1) ?_
      simp [states, path, List.replicate_succ']

namespace Command

theorem ramp_announces (ramp : Ramp) (pace : Nat) : announced (ramp.actions pace) = [] := by
  simp [announced, Ramp.actions, List.filterMap_flatMap, Action.phase?]

theorem actions_announce (timing : Timing) (command : Command) :
    announced (command.actions timing) = [] ∨ announced (command.actions timing) = [.takeoff, .running] := by
  have ramp (ramp : Ramp) (pace : Nat) : (ramp.actions pace).filterMap Action.phase? = [] := ramp_announces ramp pace
  cases command with
  | takeoff delay => simp [announced, Command.actions, List.filterMap_cons, ramp, Action.phase?]
  | land delay => simp [announced, Command.actions, ramp, Action.phase?]
  | hover | move | wait | emergency | led => exact .inl rfl

theorem actions_cut (timing : Timing) (command : Command) :
    .cut ∈ command.actions timing ↔ command = .emergency := by
  cases command <;> simp [Command.actions, Ramp.actions]

theorem actions_endless (timing : Timing) (command : Command) (endless : .hold none ∈ command.actions timing) :
    holdMillis? command.stay = none := by
  cases command <;> simp_all [Command.actions, Ramp.actions, Command.stay]

end Command

namespace Run

structure Doing (command : Command) (phases : List Phase) (todo : List Action) : Prop where
  last : command = .emergency → todo = [.cut]
  cut : .cut ∈ todo → command = .emergency
  endless : .hold none ∈ todo → holdMillis? command.stay = none
  climb : Climb phases (announced todo)

inductive Verdict (program : Program) : List Phase → Outcome → Prop where
  | completed (takeoffs : Nat) (calm : .emergency ∉ program) :
      Verdict program (path takeoffs false false (some .completed)) ⟨.completed, program.length, none⟩
  | cut (takeoffs executed : Nat) (climbing : Bool) (last : program[executed]? = some .emergency)
      (before : .emergency ∉ program.take executed) :
      Verdict program (path takeoffs climbing false (some .aborted)) ⟨.aborted, executed + 1, none⟩
  | tripped (takeoffs executed : Nat) (climbing : Bool) (trip : Trip) (room : executed < program.length)
      (before : .emergency ∉ program.take executed) :
      Verdict program (path takeoffs climbing (decide (trip ≠ .controlRevoked)) (some .aborted))
        ⟨.aborted, executed, some trip⟩

-- The books of a program: what it has published and counted, wherever it is.
inductive Books (timing : Timing) (program : Program) (phases : List Phase) (r : Run) : Prop where
  | between (takeoffs : Nat) (here : r.activity = .boundary) (plan : r.plan = (program.plan timing).drop r.executed)
      (room : r.executed ≤ program.length) (before : .emergency ∉ program.take r.executed)
      (states : phases = path takeoffs false false none)
  | carrying (command : Command) (todo : List Action) (here : r.activity = .carrying todo)
      (plan : r.plan = (program.plan timing).drop (r.executed + 1)) (current : program[r.executed]? = some command)
      (before : .emergency ∉ program.take r.executed) (doing : Doing command phases todo)
  | descending (takeoffs : Nat) (climbing : Bool) (trip : Trip) (throttles : List Single)
      (here : r.activity = .descending trip throttles) (room : r.executed < program.length)
      (before : .emergency ∉ program.take r.executed) (other : trip ≠ .controlRevoked)
      (states : phases = path takeoffs climbing true none)
  | ended (outcome : Outcome) (here : r.activity = .ended outcome) (same : outcome.executed = r.executed)
      (verdict : Verdict program phases outcome)
  | collapsed (takeoffs : Nat) (climbing : Bool) (command : Command) (here : r.activity = .collapsed)
      (current : program[r.executed]? = some command) (endless : holdMillis? command.stay = none)
      (states : phases = path takeoffs climbing false none)

section Books

variable (timing : Timing) (program : Program)

theorem books_same (phases : List Phase) (r other : Run) (books : Books timing program phases r)
    (activity : other.activity = r.activity) (plan : other.plan = r.plan) (executed : other.executed = r.executed) :
    Books timing program phases other := by
  cases books with
  | between takeoffs here left room before states =>
      exact .between takeoffs (activity.trans here) (by rw [plan, executed, left]) (executed ▸ room)
        (executed ▸ before) states
  | carrying command todo here left current before doing =>
      exact .carrying command todo (activity.trans here) (by rw [plan, executed, left]) (executed ▸ current)
        (executed ▸ before) doing
  | descending takeoffs climbing trip throttles here room before other states =>
      exact .descending takeoffs climbing trip throttles (activity.trans here) (executed ▸ room) (executed ▸ before)
        other states
  | ended outcome here same verdict => exact .ended outcome (activity.trans here) (same.trans executed.symm) verdict
  | collapsed takeoffs climbing command here current endless states =>
      exact .collapsed takeoffs climbing command (activity.trans here) (executed ▸ current) endless states

theorem plan_next (executed : Nat) (actions : List Action) (later : List (List Action))
    (left : actions :: later = (program.plan timing).drop executed) :
    ∃ command, program[executed]? = some command ∧ actions = command.actions timing ∧
      later = (program.plan timing).drop (executed + 1) := by
  have tail := congrArg List.tail left
  rw [List.tail_drop] at tail
  have head := congrArg List.head? left
  rw [List.head?_drop, Program.plan, List.getElem?_map] at head
  obtain ⟨command, current, same⟩ := Option.map_eq_some_iff.mp head.symm
  exact ⟨command, current, same.symm, tail⟩

theorem doing_begun (command : Command) (takeoffs : Nat) (phases : List Phase)
    (states : phases = path takeoffs false false none) : Doing command phases (command.actions timing) where
  last := by
    rintro rfl
    rfl
  cut := (command.actions_cut timing).mp
  endless := command.actions_endless timing
  climb := by
    rcases command.actions_announce timing with none | both
    · rw [none]
      exact .level takeoffs states
    · rw [both]
      exact .ahead takeoffs states

theorem doing_unfolded (command : Command) (phases : List Phase) (action : Action) (more todo : List Action)
    (doing : Doing command phases (action :: todo)) (plain : action ≠ .cut ∧ action.phase? = none)
    (others : ∀ other ∈ more, other ≠ .cut ∧ other ≠ .hold none ∧ other.phase? = none) :
    Doing command phases (more ++ todo) where
  last := by
    intro emergency
    obtain ⟨same, _⟩ := List.cons.inj (doing.last emergency)
    exact absurd same plain.1
  cut := by
    intro member
    rcases List.mem_append.mp member with new | old
    · exact absurd rfl (others _ new).1
    · exact doing.cut (List.mem_cons_of_mem _ old)
  endless := by
    intro member
    rcases List.mem_append.mp member with new | old
    · exact absurd rfl (others _ new).2.1
    · exact doing.endless (List.mem_cons_of_mem _ old)
  climb := by
    have silent : more.filterMap Action.phase? = [] :=
      List.filterMap_eq_nil_iff.mpr fun other member => (others other member).2.2
    have climb := doing.climb
    simp only [announced, List.filterMap_append, List.filterMap_cons, silent, plain.2, List.nil_append] at climb ⊢
    exact climb

theorem doing_published (command : Command) (phases : List Phase) (phase : Phase) (todo : List Action)
    (doing : Doing command phases (.publish phase :: todo)) : Doing command (phases ++ [phase]) todo where
  last := by
    intro emergency
    cases doing.last emergency
  cut := fun member => doing.cut (List.mem_cons_of_mem _ member)
  endless := fun member => doing.endless (List.mem_cons_of_mem _ member)
  climb := climb_published phases (announced todo) phase doing.climb

theorem books_underway (phases : List Phase) (r : Run) (books : Books timing program phases r)
    (underway : r.isUnderway = true) (ahead : r.isDone = false) :
    (∃ takeoffs climbing, phases = path takeoffs climbing false none) ∧ r.executed < program.length ∧
      .emergency ∉ program.take r.executed := by
  cases books with
  | between takeoffs here plan room before states =>
      refine ⟨⟨takeoffs, false, states⟩, ?_, before⟩
      apply Nat.lt_of_not_le
      intro past
      have none : r.plan = [] := by
        rw [plan]
        exact List.drop_of_length_le (by simpa [Program.plan] using past)
      simp [isDone, here, none] at ahead
  | carrying command todo here plan current before doing =>
      exact ⟨climb_path phases _ doing.climb, (List.getElem?_eq_some_iff.mp current).1, before⟩
  | descending _ _ _ _ here | ended _ here | collapsed _ _ _ here => simp [isUnderway, here] at underway

theorem books_carrying (phases : List Phase) (r : Run) (todo : List Action) (books : Books timing program phases r)
    (next : r.activity = .carrying todo) :
    ∃ command, r.plan = (program.plan timing).drop (r.executed + 1) ∧ program[r.executed]? = some command ∧
      .emergency ∉ program.take r.executed ∧ Doing command phases todo := by
  cases books with
  | carrying command others here plan current before doing =>
      cases here.symm.trans next
      exact ⟨command, plan, current, before, doing⟩
  | between _ here | descending _ _ _ _ here | ended _ here | collapsed _ _ _ here => cases here.symm.trans next

theorem books_descending (phases : List Phase) (r : Run) (trip : Trip) (throttles : List Single)
    (books : Books timing program phases r) (down : r.activity = .descending trip throttles) :
    ∃ takeoffs climbing, phases = path takeoffs climbing true none ∧ r.executed < program.length ∧
      .emergency ∉ program.take r.executed ∧ trip ≠ .controlRevoked := by
  cases books with
  | descending takeoffs climbing _ _ here room before other states =>
      cases here.symm.trans down
      exact ⟨takeoffs, climbing, states, room, before, other⟩
  | between _ here | carrying _ _ here | ended _ here | collapsed _ _ _ here => cases here.symm.trans down

-- The books of a program in a cockpit, from where its record begins.
def Booked (earlier : List Phase) (id : Nat) (c : Cockpit) (r : Run) : Prop :=
  ∃ phases, c.phases id = earlier ++ phases ∧ Books timing program phases r

section Booked

variable (rules : Rules) (earlier : List Phase) (id : Nat) (c : Cockpit) (r : Run)

theorem finish_booked (c : Cockpit) (r : Run) (phases : List Phase) (phase : Phase) (reason : Option Trip)
    (record : c.phases id = earlier ++ phases)
    (verdict : Verdict program (phases ++ [phase]) ⟨phase, r.executed, reason⟩) :
    Booked timing program earlier id (r.finish id phase reason c).1 (r.finish id phase reason c).2 := by
  refine ⟨phases ++ [phase], ?_, .ended _ rfl rfl verdict⟩
  rw [← List.append_assoc, ← record]
  exact Cockpit.phases_published _ id phase

section Moves

variable (booked : Booked timing program earlier id c r)

include booked

theorem begin_booked (actions : List Action) (later : List (List Action)) (between : r.activity = .boundary)
    (left : r.plan = actions :: later) :
    Booked timing program earlier id c { r with plan := later, activity := .carrying actions } := by
  obtain ⟨phases, record, books⟩ := booked
  cases books with
  | between takeoffs here plan room before states =>
      obtain ⟨command, current, same, rest⟩ := plan_next timing program r.executed actions later (left.symm.trans plan)
      subst same
      exact ⟨phases, record, .carrying command _ rfl rest current before
        (doing_begun timing command takeoffs phases states)⟩
  | carrying _ _ here | descending _ _ _ _ here | ended _ here | collapsed _ _ _ here => cases here.symm.trans between

-- A command that nothing is left of is no emergency, and the program is level again.
theorem advance_booked (carried : r.activity = .carrying []) :
    Booked timing program earlier id c { r with executed := r.executed + 1, activity := .boundary } := by
  obtain ⟨phases, record, books⟩ := booked
  obtain ⟨command, plan, current, before, doing⟩ := books_carrying timing program phases r [] books carried
  obtain ⟨room, same⟩ := List.getElem?_eq_some_iff.mp current
  have level := doing.climb
  generalize silent : announced [] = none at level
  cases level with
  | ahead | amid => cases silent
  | level takeoffs states =>
      refine ⟨phases, record, .between takeoffs rfl plan room ?_ states⟩
      show .emergency ∉ program.take (r.executed + 1)
      rw [List.take_add_one, current]
      intro member
      rcases List.mem_append.mp member with old | new
      · exact before old
      · have emergency : .emergency = command := by simpa using new
        cases doing.last emergency.symm

theorem revoke_booked (underway : r.isUnderway = true) (ahead : r.isDone = false) :
    Booked timing program earlier id (r.finish id .aborted (some .controlRevoked) c).1
      (r.finish id .aborted (some .controlRevoked) c).2 := by
  obtain ⟨phases, record, books⟩ := booked
  obtain ⟨⟨takeoffs, climbing, states⟩, room, before⟩ := books_underway timing program phases r books underway ahead
  apply finish_booked timing program earlier id c r phases _ _ record
  have verdict : Verdict program _ _ := .tripped takeoffs r.executed climbing .controlRevoked room before
  simpa [states, path] using verdict

theorem trip_booked (trip : Trip) (later : Cockpit) (same : later.phases id = c.phases id)
    (underway : r.isUnderway = true) (ahead : r.isDone = false) (other : trip ≠ .controlRevoked) :
    Booked timing program earlier id (later.publish id .emergencyLanding) (r.descend trip) := by
  obtain ⟨phases, record, books⟩ := booked
  obtain ⟨⟨takeoffs, climbing, states⟩, room, before⟩ := books_underway timing program phases r books underway ahead
  refine ⟨path takeoffs climbing true none, ?_, .descending takeoffs climbing trip _ rfl room before other rfl⟩
  rw [Cockpit.phases_published, same, record, states]
  simp [path]

-- What an action publishes belongs to what is still to do of its command.
theorem carries_on_booked (action : Action) (todo rest : List Action) (more : List Phase) (later : Cockpit)
    (next : r.activity = .carrying (action :: todo)) (record : later.phases id = c.phases id ++ more)
    (on : ∀ command phases, Doing command phases (action :: todo) → Doing command (phases ++ more) rest) :
    Booked timing program earlier id later (r.goOn rest) := by
  obtain ⟨phases, earlierRecord, books⟩ := booked
  obtain ⟨command, plan, current, before, doing⟩ := books_carrying timing program phases r _ books next
  refine ⟨phases ++ more, ?_, .carrying command rest rfl plan current before (on command phases doing)⟩
  rw [record, earlierRecord, List.append_assoc]

theorem unfolds_booked (action : Action) (todo more : List Action) (later : Cockpit)
    (next : r.activity = .carrying (action :: todo)) (record : later.phases id = c.phases id)
    (plain : action ≠ .cut ∧ action.phase? = none)
    (others : ∀ other ∈ more, other ≠ .cut ∧ other ≠ .hold none ∧ other.phase? = none) :
    Booked timing program earlier id later (r.goOn (more ++ todo)) := by
  apply carries_on_booked timing program earlier id c r booked action todo _ [] later next
  · rw [record, List.append_nil]
  · intro command phases doing
    rw [List.append_nil]
    exact doing_unfolded command phases action more todo doing plain others

theorem hold_booked (millis : Nat) (todo : List Action) (next : r.activity = .carrying (.hold (some millis) :: todo)) :
    Booked timing program earlier id c ((r.goOn (.recheck :: todo)).rest millis c) := by
  obtain ⟨phases, record, books⟩ := unfolds_booked timing program earlier id c r booked _ todo [.recheck] c next rfl
    ⟨by simp, rfl⟩ (by simp [Action.phase?])
  exact ⟨phases, record, books_same timing program phases _ _ books (by simp) (by simp) (by simp)⟩

theorem collapse_booked (todo : List Action) (next : r.activity = .carrying (.hold none :: todo)) :
    Booked timing program earlier id c { r with activity := .collapsed } := by
  obtain ⟨phases, record, books⟩ := booked
  obtain ⟨command, plan, current, before, doing⟩ := books_carrying timing program phases r _ books next
  obtain ⟨takeoffs, climbing, states⟩ := climb_path phases _ doing.climb
  exact ⟨phases, record, .collapsed takeoffs climbing command rfl current (doing.endless List.mem_cons_self) states⟩

theorem cut_booked (todo : List Action) (later : Cockpit) (next : r.activity = .carrying (.cut :: todo))
    (same : later.phases id = c.phases id) :
    Booked timing program earlier id ({ r with executed := r.executed + 1 }.finish id .aborted none later).1
      ({ r with executed := r.executed + 1 }.finish id .aborted none later).2 := by
  obtain ⟨phases, record, books⟩ := booked
  obtain ⟨command, plan, current, before, doing⟩ := books_carrying timing program phases r _ books next
  obtain ⟨takeoffs, climbing, states⟩ := climb_path phases _ doing.climb
  apply finish_booked timing program earlier id _ { r with executed := r.executed + 1 } phases _ _ (same.trans record)
  have verdict : Verdict program _ _ := .cut takeoffs r.executed climbing
    (doing.cut List.mem_cons_self ▸ current) before
  simpa [states, path] using verdict

theorem lower_booked (trip : Trip) (throttles lower : List Single) (later : Cockpit) (next : Run)
    (down : r.activity = .descending trip throttles) (same : later.phases id = c.phases id)
    (activity : next.activity = .descending trip lower) (executed : next.executed = r.executed) :
    Booked timing program earlier id later next := by
  obtain ⟨phases, record, books⟩ := booked
  obtain ⟨takeoffs, climbing, states, room, before, other⟩ :=
    books_descending timing program phases r trip throttles books down
  exact ⟨phases, same.trans record, .descending takeoffs climbing trip lower activity (executed ▸ room)
    (executed ▸ before) other states⟩

theorem land_booked (trip : Trip) (throttles : List Single) (later : Cockpit)
    (down : r.activity = .descending trip throttles) (same : later.phases id = c.phases id) :
    Booked timing program earlier id (r.finish id .aborted (some trip) later).1
      (r.finish id .aborted (some trip) later).2 := by
  obtain ⟨phases, record, books⟩ := booked
  obtain ⟨takeoffs, climbing, states, room, before, other⟩ :=
    books_descending timing program phases r trip throttles books down
  apply finish_booked timing program earlier id _ r phases _ _ (same.trans record)
  have verdict : Verdict program _ _ := .tripped takeoffs r.executed climbing trip room before
  simpa [states, path, other] using verdict

end Moves

theorem moves_booked (next : Cockpit × Run) (booked : Booked rules.timing program earlier id c r)
    (ahead : r.isDone = false) (moves : Moves rules id c r next) :
    Booked rules.timing program earlier id next.1 next.2 := by
  have written (issuer : Issuer) (frame : Frame) : (c.write issuer frame).2.phases id = c.phases id :=
    Cockpit.phases_written c id issuer frame
  have unfolds := unfolds_booked rules.timing program earlier id c r booked
  cases moves with
  | complete between done => simp [isDone, between, done] at ahead
  | begin actions later between left clear =>
      exact begin_booked rules.timing program earlier id c r booked actions later between left
  | advance carried => exact advance_booked rules.timing program earlier id c r booked carried
  | revoke underway revoked noticed => exact revoke_booked rules.timing program earlier id c r booked underway ahead
  | trip trip inMove underway found other =>
      exact trip_booked rules.timing program earlier id c r booked trip c rfl underway ahead other
  | publish phase todo next =>
      exact carries_on_booked rules.timing program earlier id c r booked _ todo todo [phase] _ next
        (Cockpit.phases_published c id phase) fun command phases => doing_published command phases phase todo
  | send frame todo next control works =>
      exact unfolds _ todo [] _ next (written _ _) ⟨by simp, rfl⟩ (by simp)
  | sendFails frame todo next control fails =>
      exact trip_booked rules.timing program earlier id c r booked _ _ (written _ _) (r.carrying_underway _ next) ahead
        (by simp)
  | collapse todo next => exact collapse_booked rules.timing program earlier id c r booked todo next
  | hold millis todo next unstopped => exact hold_booked rules.timing program earlier id c r booked millis todo next
  | unfold action todo more next turns =>
      apply unfolds action todo more c next rfl
      · cases turns <;> exact ⟨by simp, rfl⟩
      · cases turns <;> simp [Action.phase?]
  | mark armed todo next => exact unfolds _ todo [] _ next rfl ⟨by simp, rfl⟩ (by simp)
  | cut todo next => exact cut_booked rules.timing program earlier id c r booked todo _ next (written _ _)
  | lower trip throttle lower down control =>
      exact lower_booked rules.timing program earlier id c r booked trip _ lower _ _ down (written _ _) (by simp)
        (by simp)
  | abandon trip throttle lower down revoked =>
      exact lower_booked rules.timing program earlier id c r booked trip _ [] c _ down rfl rfl rfl
  | land trip down => exact land_booked rules.timing program earlier id c r booked trip [] _ down (written _ _)

theorem step_booked (booked : Booked rules.timing program earlier id c r) (running : r.isOver = false) :
    Booked rules.timing program earlier id (r.step rules id c).1 (r.step rules id c).2 := by
  cases ahead : r.isDone with
  | false => exact moves_booked program rules earlier id c r _ booked ahead (step_moves rules id c r running)
  | true =>
      obtain ⟨phases, record, books⟩ := booked
      cases books with
      | between takeoffs here plan room before states =>
          have none : r.plan = [] := by simpa [isDone, here] using ahead
          have whole : r.executed = program.length := by
            have past := congrArg List.length (plan.symm.trans none)
            simp only [Program.plan, List.length_drop, List.length_map, List.length_nil] at past
            omega
          have step : r.step rules id c = r.finish id .completed Option.none c := by simp only [Run.step, here, none]
          rw [step]
          apply finish_booked rules.timing program earlier id c r phases _ _ record
          rw [whole, List.take_length] at before
          have verdict : Verdict program _ _ := .completed takeoffs before
          rw [← whole] at verdict
          simpa [states, path] using verdict
      | carrying _ _ here | descending _ _ _ _ here | ended _ here | collapsed _ _ _ here =>
          simp [isDone, here] at ahead

theorem proceed_booked (fuel : Nat) (booked : Booked rules.timing program earlier id c r) :
    Booked rules.timing program earlier id (r.proceed rules id fuel c).1 (r.proceed rules id fuel c).2 :=
  proceed_follows rules id (Booked rules.timing program earlier id)
    (fun c r _ running booked => step_booked program rules earlier id c r booked running) fuel c r booked

theorem told_booked (stop : Bool) (booked : Booked rules.timing program earlier id c r) :
    Booked rules.timing program earlier id c (r.told stop) := by
  obtain ⟨phases, record, books⟩ := booked
  exact ⟨phases, record, books_same rules.timing program phases r (r.told stop) books rfl rfl rfl⟩

theorem awake_booked (booked : Booked rules.timing program earlier id c r) :
    Booked rules.timing program earlier id c r.awake := by
  obtain ⟨phases, record, books⟩ := booked
  exact ⟨phases, record, books_same rules.timing program phases r r.awake books rfl rfl rfl⟩

theorem wake_booked (booked : Booked rules.timing program earlier id c r) :
    Booked rules.timing program earlier id (r.wake rules id c).1 (r.wake rules id c).2 :=
  proceed_booked program rules earlier id c r.awake _ (awake_booked program rules earlier id c r booked)

def Finishes (plan : List (List Action)) (place : Nat) (r : Run) : Prop :=
  r.plan = plan.drop (place + 1) ∧ place < plan.length ∧ (r.activity = .carrying [] ∨ r.activity = .carrying [.cut])

theorem moves_executed (rules : Rules) (id : Nat) (c : Cockpit) (r : Run) (next : Cockpit × Run)
    (moves : Moves rules id c r next) :
    next.2.executed = r.executed ∨
      next.2.executed = r.executed + 1 ∧
        (r.activity = .carrying [] ∨ ∃ todo, r.activity = .carrying (.cut :: todo)) := by
  cases moves with
  | advance carried => exact .inr ⟨rfl, .inl carried⟩
  | cut todo next => exact .inr ⟨rfl, .inr ⟨todo, next⟩⟩
  | hold | lower => exact .inl (by simp [goOn])
  | complete | begin | revoke | trip | publish | send | sendFails | collapse | unfold | mark | abandon | land =>
      exact .inl rfl

theorem finishing_executed (rules : Rules) (id : Nat) (c : Cockpit) (r : Run)
    (finishing : r.activity = .carrying [] ∨ r.activity = .carrying [.cut]) :
    (r.step rules id c).2.executed = r.executed + 1 := by
  rcases finishing with here | here
  · simp [step, here]
  · simp [step, here, perform, finish]

theorem step_counted (place : Nat) (booked : Booked rules.timing program earlier id c r) (running : r.isOver = false) :
    place < (r.step rules id c).2.executed ↔ place < r.executed ∨ r.Finishes (program.plan rules.timing) place := by
  obtain ⟨phases, _, books⟩ := booked
  have moves := moves_executed rules id c r _ (step_moves rules id c r running)
  constructor
  · intro counted
    rcases moves with same | ⟨more, finishing⟩
    · exact .inl (same ▸ counted)
    by_cases old : place < r.executed
    · exact .inl old
    have here : place = r.executed := by omega
    subst here
    -- The motors are cut by a command that does nothing else.
    have finishing : r.activity = .carrying [] ∨ r.activity = .carrying [.cut] := by
      rcases finishing with done | ⟨todo, next⟩
      · exact .inl done
      · obtain ⟨command, _, _, _, doing⟩ := books_carrying rules.timing program phases r _ books next
        exact .inr (next.trans (congrArg Activity.carrying (doing.last (doing.cut List.mem_cons_self))))
    obtain ⟨todo, next⟩ : ∃ todo, r.activity = .carrying todo := finishing.elim (⟨_, ·⟩) (⟨_, ·⟩)
    obtain ⟨command, plan, current, _, _⟩ := books_carrying rules.timing program phases r todo books next
    have room : r.executed < (program.plan rules.timing).length := by
      simpa [Program.plan] using (List.getElem?_eq_some_iff.mp current).1
    exact .inr ⟨plan, room, finishing⟩
  · rintro (old | ⟨left, room, finishing⟩)
    · rcases moves with same | ⟨more, _⟩ <;> omega
    · obtain ⟨todo, next⟩ : ∃ todo, r.activity = .carrying todo := finishing.elim (⟨_, ·⟩) (⟨_, ·⟩)
      obtain ⟨command, plan, current, _, _⟩ := books_carrying rules.timing program phases r todo books next
      have inside : r.executed < (program.plan rules.timing).length := by
        simpa [Program.plan] using (List.getElem?_eq_some_iff.mp current).1
      have lengths := congrArg List.length (plan.symm.trans left)
      simp only [List.length_drop] at lengths
      rw [finishing_executed rules id c r finishing]
      omega

theorem proceed_executed (fuel : Nat) (c : Cockpit) (r : Run) :
    r.executed ≤ (r.proceed rules id fuel c).2.executed := by
  apply proceed_keeps rules id (fun _ later => r.executed ≤ later.executed) ?_ fuel c r (Nat.le_refl _)
  intro now later next _ _ least moves
  rcases moves_executed rules id now later next moves with same | ⟨more, _⟩ <;> omega

theorem wake_counted (place : Nat) (booked : Booked rules.timing program earlier id c r) :
    place < (r.wake rules id c).2.executed ↔
      place < r.executed ∨ ∃ amid, Passes rules id c r amid ∧ amid.2.Finishes (program.plan rules.timing) place := by
  have awake := awake_booked program rules earlier id c r booked
  constructor
  · let kept (now : Cockpit) (later : Run) : Prop :=
      Booked rules.timing program earlier id now later ∧ (place < later.executed →
        place < r.executed ∨ ∃ amid, Passes rules id c r amid ∧ amid.2.Finishes (program.plan rules.timing) place)
    have done : kept (r.wake rules id c).1 (r.wake rules id c).2 := by
      apply wake_passing rules id kept c r ?_ ⟨awake, .inl⟩
      intro amid passes ⟨now, counted⟩
      have ⟨_, _, going⟩ := passes
      obtain ⟨_, running⟩ := awake_of_not_resting amid.2 going
      refine ⟨step_booked program rules earlier id amid.1 amid.2 now running, ?_⟩
      intro more
      rcases (step_counted program rules earlier id amid.1 amid.2 place now running).mp more with old | finishes
      · exact counted old
      · exact .inr ⟨amid, passes, finishes⟩
    exact done.2
  · rintro (old | ⟨amid, ⟨steps, reached, going⟩, finishes⟩)
    · exact Nat.lt_of_lt_of_le old (proceed_executed rules id _ c r.awake)
    · obtain ⟨_, running⟩ := awake_of_not_resting amid.2 going
      have now : Booked rules.timing program earlier id amid.1 amid.2 := by
        rw [← reached]
        exact proceed_booked program rules earlier id c r.awake steps awake
      have counted := (step_counted program rules earlier id amid.1 amid.2 place now running).mpr (.inr finishes)
      obtain ⟨left, same⟩ := r.awake.proceed_amid rules id steps r.awake.effort c amid reached going (Nat.le_refl _)
      show place < (r.awake.proceed rules id r.awake.effort c).2.executed
      rw [same]
      exact Nat.lt_of_lt_of_le counted (proceed_executed rules id left _ _)

end Booked

end Books

def lands (r : Run) : Bool :=
  match r.activity with
  | .descending .. => true
  | .ended outcome => outcome.reason.any (decide <| · ≠ .controlRevoked)
  | _ => false

theorem books_path (timing : Timing) (program : Program) (phases : List Phase) (r : Run)
    (books : Books timing program phases r) :
    ∃ takeoffs climbing, phases = path takeoffs climbing r.lands (r.outcome?.map Outcome.phase) := by
  cases books with
  | between takeoffs here plan room before states => exact ⟨takeoffs, false, by simp [states, lands, outcome?, here]⟩
  | carrying command todo here plan current before doing =>
      obtain ⟨takeoffs, climbing, states⟩ := climb_path phases _ doing.climb
      exact ⟨takeoffs, climbing, by simp [states, lands, outcome?, here]⟩
  | descending takeoffs climbing trip throttles here room before other states =>
      exact ⟨takeoffs, climbing, by simp [states, lands, outcome?, here]⟩
  | collapsed takeoffs climbing command here current endless states =>
      exact ⟨takeoffs, climbing, by simp [states, lands, outcome?, here]⟩
  | ended outcome here same verdict =>
      cases verdict with
      | completed takeoffs calm => exact ⟨takeoffs, false, by simp [lands, outcome?, here]⟩
      | cut takeoffs executed climbing last before => exact ⟨takeoffs, climbing, by simp [lands, outcome?, here]⟩
      | tripped takeoffs executed climbing trip room before =>
          exact ⟨takeoffs, climbing, by simp [lands, outcome?, here]⟩

end Run

-- How an outcome accounts for a program, of whose commands some have been carried out.
structure Outcome.Accounts (program : Program) (did : Nat → Prop) (outcome : Outcome) : Prop where
  completes : outcome.phase = .completed ∧ outcome.reason = none ↔
    (∀ place < program.length, did place) ∧ .emergency ∉ program
  whole : outcome.phase = .completed → outcome.executed = program.length
  cuts : outcome.phase = .aborted ∧ outcome.reason = none ↔
    ∃ place, outcome.executed = place + 1 ∧ program[place]? = some .emergency
  trips : outcome.phase = .completed ∧ outcome.reason = none ∨ outcome.phase = .aborted ∧ outcome.reason = none ∨
    outcome.phase = .aborted ∧ outcome.reason.isSome = true ∧ outcome.executed < program.length
  counts : ∀ place, did place ↔ place < outcome.executed

theorem verdict_accounts (program : Program) (phases : List Phase) (outcome : Outcome) (did : Nat → Prop)
    (verdict : Run.Verdict program phases outcome) (counts : ∀ place, did place ↔ place < outcome.executed) :
    outcome.Accounts program did := by
  cases verdict with
  | completed takeoffs calm =>
      refine ⟨⟨fun _ => ⟨fun place => (counts place).mpr, calm⟩, fun _ => ⟨rfl, rfl⟩⟩, fun _ => rfl, ⟨nofun, ?_⟩,
        .inl ⟨rfl, rfl⟩, counts⟩
      rintro ⟨place, _, emergency⟩
      exact absurd (List.mem_of_getElem? emergency) calm
  | cut takeoffs executed climbing last before =>
      refine ⟨⟨nofun, ?_⟩, nofun, ⟨fun _ => ⟨executed, rfl, last⟩, fun _ => ⟨rfl, rfl⟩⟩, .inr (.inl ⟨rfl, rfl⟩), counts⟩
      rintro ⟨_, calm⟩
      exact absurd (List.mem_of_getElem? last) calm
  | tripped takeoffs executed climbing trip room before =>
      refine ⟨⟨nofun, ?_⟩, nofun, ⟨nofun, ?_⟩, .inr (.inr ⟨rfl, rfl, room⟩), counts⟩
      · rintro ⟨all, _⟩
        exact absurd ((counts executed).mp (all executed room)) (Nat.lt_irrefl _)
      · rintro ⟨place, same, emergency⟩
        have inside : (program.take executed)[place]? = some .emergency := by
          rw [List.getElem?_take_of_lt (by simp only at same; omega)]
          exact emergency
        exact absurd (List.mem_of_getElem? inside) before

namespace Supervisor

def Finishes (s : Supervisor) (id : Nat) (plan : List (List Action)) (place : Nat) (h : Happening) : Prop :=
  ∃ run amid, s.runs[id]? = some run ∧ s.woken? h = some id ∧ Run.Passes s.rules id s.cockpit run amid ∧
    amid.2.Finishes plan place

-- In the course of a history a program carries out a command to its end.
def CarriesOut (s : Supervisor) (id : Nat) (program : Program) (place : Nat) : List Happening → Prop
  | [] => False
  | h :: later => s.Finishes id (program.plan s.rules.timing) place h ∨ (s.meet h).CarriesOut id program place later

theorem meet_booked (s : Supervisor) (h : Happening) (program : Program) (earlier : List Phase) (id : Nat) (run : Run)
    (found : s.runs[id]? = some run) (booked : Run.Booked s.rules.timing program earlier id s.cockpit run) :
    ∃ later, (s.meet h).runs[id]? = some later ∧
      Run.Booked s.rules.timing program earlier id (s.meet h).cockpit later ∧
      ∀ place, place < later.executed ↔
        place < run.executed ∨ s.Finishes id (program.plan s.rules.timing) place h := by
  obtain ⟨inside, _⟩ := List.getElem?_eq_some_iff.mp found
  rcases meet_found s h id run found with ⟨unwoken, stop, place⟩ | ⟨turn, alarms, woken⟩
  · obtain ⟨phases, record, books⟩ := run.told_booked program s.rules earlier id s.cockpit stop booked
    have silent := Cockpit.phases_silent _ _ id (meet_about s h id inside unwoken)
    refine ⟨run.told stop, place, ⟨phases, silent.trans record, books⟩, ?_⟩
    intro place
    constructor
    · exact .inl
    · rintro (old | ⟨_, _, _, turn, _⟩)
      · exact old
      · exact absurd turn unwoken
  · obtain ⟨phases, record, books⟩ := run.wake_booked program s.rules earlier id s.cockpit booked
    have place : (s.meet h).runs[id]? = some (run.wake s.rules id s.cockpit).2 := by
      rw [woken_runs s _ alarms id run found woken, if_pos rfl]
    refine ⟨_, place, ⟨phases, (Cockpit.phases_same _ _ id woken.journal).trans record, books⟩, ?_⟩
    intro place
    rw [run.wake_counted program s.rules earlier id s.cockpit place booked]
    constructor
    · rintro (old | ⟨amid, passes, finishes⟩)
      · exact .inl old
      · exact .inr ⟨run, amid, found, turn, passes, finishes⟩
    · rintro (old | ⟨other, amid, there, _, passes, finishes⟩)
      · exact .inl old
      · cases found.symm.trans there
        exact .inr ⟨amid, passes, finishes⟩

theorem after_booked (s : Supervisor) (history : List Happening) (program : Program) (earlier : List Phase) (id : Nat)
    (run : Run) (found : s.runs[id]? = some run)
    (booked : Run.Booked s.rules.timing program earlier id s.cockpit run) :
    ∃ later, (s.after history).runs[id]? = some later ∧
      Run.Booked s.rules.timing program earlier id (s.after history).cockpit later ∧
      ∀ place, place < later.executed ↔ place < run.executed ∨ s.CarriesOut id program place history := by
  induction history generalizing s run with
  | nil => exact ⟨run, found, booked, fun place => (or_iff_left not_false).symm⟩
  | cons h rest ih =>
      obtain ⟨next, place, still, counted⟩ := meet_booked s h program earlier id run found booked
      have rules : (s.meet h).rules = s.rules := (meet_timing s h).1
      obtain ⟨later, there, last, all⟩ := ih (s.meet h) next place (by rw [rules]; exact still)
      rw [rules] at last
      refine ⟨later, there, last, ?_⟩
      intro place
      rw [all, counted, or_assoc]
      rfl

theorem starts_booked (s t : Supervisor) (program : Program) (id : Nat) (starts : s.Starts program id t) :
    ∃ run, t.runs[id]? = some run ∧ run.executed = 0 ∧ t.rules = s.rules ∧
      Run.Booked s.rules.timing program (s.cockpit.phases id) id t.cockpit run := by
  obtain ⟨u, slot, started, same⟩ := starts
  subst same
  have start := start_started s u program id started
  have record : u.cockpit.phases id = s.cockpit.phases id ++ [.running] := by
    rw [start?] at started
    obtain ⟨flight, _, same⟩ := Option.map_eq_some_iff.mp started
    cases same
    exact Cockpit.phases_published _ _ .running
  refine ⟨_, (started_runs s u program id start id).trans (if_pos rfl), rfl, (start_timing s u program id started).1,
    [.running], record, ?_⟩
  exact .between 0 rfl rfl (Nat.zero_le _) (by simp) rfl

theorem starts_lawful (s t : Supervisor) (program : Program) (id : Nat) (timed : s.Timed) (orderly : s.Orderly)
    (starts : s.Starts program id t) : t.Timed ∧ t.Orderly := by
  obtain ⟨u, slot, started, same⟩ := starts
  subst same
  have next := started_orderly s u program id (start_started s u program id started) orderly
  exact ⟨start_timed s u program id slot started timed, next.waits, next.alarmed⟩

/-- The states come in order and end with that of the outcome, and the outcome accounts for the commands. Sooner or
later a program is over; if there is no outcome then, its task has broken down at a command whose stay has no length.
-/
theorem run_recorded (s t : Supervisor) (past history : List Happening) (program : Program) (id : Nat) (fresh : s.Fresh)
    (starts : (s.after past).Starts program id t) :
    let u := t.after history
    ∃ run takeoffs climbing, u.runs[id]? = some run ∧
      u.cockpit.phases id =
        (s.after past).cockpit.phases id ++ path takeoffs climbing run.lands (run.outcome?.map Outcome.phase) ∧
      (∀ outcome, run.outcome? = some outcome →
        outcome.Accounts program (t.CarriesOut id program · history)) ∧
      (u.isLive id = false → run.outcome? = none →
        ∃ command, program[run.executed]? = some command ∧ holdMillis? command.stay = none) ∧
      ∃ more : List Happening, (∀ h ∈ more, h.isWait id = true) ∧ u.abides (isOnTime id) more = true ∧
        (u.after more).isLive id = false := by
  intro u
  obtain ⟨first, place, none, rules, booked⟩ := starts_booked (s.after past) t program id starts
  obtain ⟨run, found, ⟨phases, record, books⟩, counted⟩ := after_booked t history program _ id first place
    (by rw [rules]; exact booked)
  obtain ⟨takeoffs, climbing, states⟩ := Run.books_path _ program phases run books
  refine ⟨run, takeoffs, climbing, found, states ▸ record, ?_, ?_, ?_⟩
  · intro outcome ending
    cases books with
    | ended other here same verdict =>
        have this : other = outcome := by simpa [Run.outcome?, here] using ending
        subst this
        apply verdict_accounts program phases other _ verdict
        intro place
        rw [same, counted, none]
        simp
    | between _ here | carrying _ _ here | descending _ _ _ _ here | collapsed _ _ _ here =>
        simp [Run.outcome?, here] at ending
  · intro ended missing
    have finished : run.isOver = true := by
      rw [isLive, show u.runs[id]? = some run from found] at ended
      simpa using ended
    cases books with
    | collapsed _ _ command here current endless => exact ⟨command, current, endless⟩
    | ended other here => simp [Run.outcome?, here] at missing
    | between _ here | carrying _ _ here | descending _ _ _ _ here => simp [Run.isOver, here] at finished
  · obtain ⟨timed, orderly⟩ := starts_lawful (s.after past) t program id
      (after_timed s past (fresh_timed s fresh)) (after_orderly s past (fresh_orderly s fresh)) starts
    exact ends_on_time u id run (after_orderly t history orderly) (after_timed t history timed) found

-- A program is told to stop while the motors settle for its takeoff: the takeoff has not gone through.
theorem stopped_takeoff_recorded :
    let t := charged.meet (.start [.wait 1, .takeoff 3, .land 3])
    let history : List Happening := [.rouse ⟨0, .run 0⟩, .pass 1000, .rouse ⟨1000, .run 0⟩, .pass 500, .stop 0,
      .rouse ⟨1500, .run 0⟩, .pass 300, .rouse ⟨1800, .run 0⟩, .pass 300, .rouse ⟨2100, .run 0⟩, .pass 300,
      .rouse ⟨2400, .run 0⟩, .pass 300, .rouse ⟨2700, .run 0⟩]
    (t.after history).cockpit.phases 0 = [.running, .takeoff, .emergencyLanding, .aborted] ∧
      t.CarriesOut 0 [.wait 1, .takeoff 3, .land 3] 0 history ∧
      ¬ t.CarriesOut 0 [.wait 1, .takeoff 3, .land 3] 1 history := by
  intro t history
  obtain ⟨run, takeoffs, climbing, found, _, accounts, _⟩ := run_recorded charged t [] history
    [.wait 1, .takeoff 3, .land 3] 0 charged_fresh ⟨t, none, rfl, rfl⟩
  have ending : run.outcome? = some ⟨.aborted, 1, some .stop⟩ := by
    have whole : ((t.after history).runs[0]?.bind Run.outcome?) = some ⟨.aborted, 1, some .stop⟩ := by decide +kernel
    simpa [found] using whole
  have counts := (accounts _ ending).counts
  refine ⟨by decide +kernel, (counts 0).mpr (Nat.zero_lt_one), ?_⟩
  intro done
  exact absurd ((counts 1).mp done) (Nat.lt_irrefl 1)

-- A wait of infinite length breaks the task: the program is over, has published no end and cannot be stopped.
theorem endless_wait_unrecorded :
    let t := charged.meet (.start [.hover 1, .wait (.infinite false)])
    let u := t.after [.rouse ⟨0, .run 0⟩, .pass 1000, .rouse ⟨1000, .run 0⟩, .pass 1000, .stop 0, .pass 5000]
    u.isLive 0 = false ∧ u.cockpit.phases 0 = [.running] ∧ u.flight.autonomous = true := by
  decide +kernel

end Supervisor

end FlightSupervisor
