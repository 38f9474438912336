import FlightSupervisor.Proofs.Connection
import FlightSupervisor.Proofs.Journal
import FlightSupervisor.Supervisor.Operator
/-!
What happens beside the programs.  Data from the flight controller, the watchdog and the requests of
the operator leave every program as it is and write nothing on its behalf (`Spares`); they may take control
from it but do not take it over (`Yields`).
-/

set_option autoImplicit false

namespace FlightSupervisor

def Sleeper.isRun : Sleeper → Bool
  | .run _ => true
  | _ => false

-- Only a deed from outside takes control without starting a program.
def Sleeper.seizes : Sleeper → Bool
  | .deed .enterAutonomous => true
  | _ => false

def Entry.ByOperator (entry : Entry) : Prop := entry.event.program? = none ∧ entry.Rightful

namespace Supervisor

structure Spares (s t : Supervisor) : Prop where
  runs : t.runs = s.runs
  slot : t.slot = s.slot
  phase : t.cockpit.phase = s.cockpit.phase
  kept : ∀ alarm ∈ s.alarms, alarm.sleeper.isRun = true → alarm ∈ t.alarms
  entries : s.cockpit.Extends Entry.ByOperator t.cockpit

structure Yields (s t : Supervisor) : Prop extends Spares s t where
  control : t.flight.autonomous = true → s.flight.autonomous = true
  added : ∀ alarm ∈ t.alarms,
    alarm ∈ s.alarms ∨ (alarm.sleeper.isRun = false ∧ alarm.sleeper.seizes = false)

theorem spares_refl (s : Supervisor) : Spares s s where
  runs := rfl
  slot := rfl
  phase := rfl
  kept := fun _ member _ => member
  entries := Cockpit.extends_same _ _ _ rfl

theorem spares_trans (s t u : Supervisor) (first : Spares s t) (second : Spares t u) : Spares s u where
  runs := second.runs.trans first.runs
  slot := second.slot.trans first.slot
  phase := second.phase.trans first.phase
  kept := fun alarm member run => second.kept alarm (first.kept alarm member run) run
  entries := Cockpit.extends_trans _ _ _ _ first.entries second.entries

theorem yields_refl (s : Supervisor) : Yields s s where
  toSpares := spares_refl s
  control := id
  added := fun _ member => .inl member

theorem yields_trans (s t u : Supervisor) (first : Yields s t) (second : Yields t u) : Yields s u where
  toSpares := spares_trans s t u first.toSpares second.toSpares
  control := fun control => first.control (second.control control)
  added := by
    intro alarm member
    rcases second.added alarm member with before | idle
    · exact first.added alarm before
    · exact .inr idle

theorem yields_same (s t : Supervisor) (runs : t.runs = s.runs) (slot : t.slot = s.slot)
    (alarms : t.alarms = s.alarms) (cockpit : t.cockpit = s.cockpit) : Yields s t where
  runs := runs
  slot := slot
  phase := by rw [cockpit]
  control := by
    intro control
    simpa only [flight, cockpit] using control
  kept := fun alarm member _ => alarms ▸ member
  added := fun alarm member => .inl (alarms ▸ member)
  entries := Cockpit.extends_same _ _ _ (by rw [cockpit])

theorem yields_change_flight (s : Supervisor) (change : FlightState → FlightState)
    (drops : (change s.flight).autonomous = true → s.flight.autonomous = true) :
    Yields s (s.changeFlight change) where
  runs := rfl
  slot := rfl
  phase := rfl
  control := drops
  kept := fun _ member _ => member
  added := fun _ member => .inl member
  entries := Cockpit.extends_same _ _ _ rfl

theorem yields_put_off (s : Supervisor) (due : Nat) (sleeper : Sleeper)
    (waits : sleeper.isRun = false) (lawful : sleeper.seizes = false) : Yields s (s.putOff due sleeper) where
  runs := rfl
  slot := rfl
  phase := rfl
  control := id
  kept := fun _ member _ => List.mem_append_left _ member
  added := by
    intro alarm member
    rcases List.mem_append.mp member with before | new
    · exact .inl before
    · rw [List.mem_singleton.mp new]
      exact .inr ⟨waits, lawful⟩
  entries := Cockpit.extends_same _ _ _ rfl

theorem yields_dispatch (s : Supervisor) : Yields s s.dispatchReplies where
  runs := rfl
  slot := rfl
  phase := rfl
  control := id
  kept := fun _ member _ => List.mem_append_left _ member
  added := by
    intro alarm member
    rcases List.mem_append.mp member with before | new
    · exact .inl before
    · obtain ⟨reply, _, same⟩ := List.mem_map.mp new
      rw [← same]
      exact .inr ⟨rfl, rfl⟩
  entries := Cockpit.extends_same _ _ _ rfl

-- The operator has two ways to write: through the gate that closes while a program is in control,
-- and `DISARM` past all gates.
theorem yields_send (s : Supervisor) (gate : Gate) (frame : Frame)
    (allowed : gate = .manual ∨ frame = .disarm) :
    Yields s { s with cockpit := (s.cockpit.send gate .operator frame).2 } where
  runs := rfl
  slot := rfl
  phase := Cockpit.send_phase s.cockpit .operator frame gate
  control := by
    intro control
    have same := Cockpit.send_autonomous s.cockpit .operator frame gate
    simp only [flight] at control ⊢
    rw [← same]
    exact control
  kept := fun _ member _ => member
  added := fun _ member => .inl member
  entries := by
    refine Cockpit.send_extends s.cockpit .operator frame _ gate ?_
    intro admitted
    refine ⟨rfl, ?_⟩
    show frame = .disarm ∨ s.cockpit.flight.autonomous = false
    rcases allowed with manual | disarm
    · subst manual
      exact .inr (by simpa [Gate.admits] using admitted)
    · exact .inl disarm

theorem hear_control (flight : FlightState) (line : Inbound)
    (control : (flight.hear line).autonomous = true) : flight.autonomous = true := by
  cases line with
  | alert text => cases control
  | _ => exact control

theorem hear_all_control (lines : List Inbound) (flight : FlightState)
    (control : (lines.foldl FlightState.hear flight).autonomous = true) : flight.autonomous = true := by
  induction lines generalizing flight with
  | nil => exact control
  | cons line rest ih => exact hear_control flight line (ih (flight.hear line) control)

theorem yields_feed (s : Supervisor) (data : Bytes) : Yields s (s.feed data).2 := by
  let fed := s.decoder.feed s.flight data
  have heard : Yields s (s.changeFlight fun _ => fed.flight) :=
    yields_change_flight s _ (hear_all_control _ s.flight)
  exact yields_trans _ _ _ heard (yields_same _ _ rfl rfl rfl rfl)

theorem watch_autonomous (now timeout : Nat) (flight : FlightState) :
    (flight.watch now timeout).2.autonomous = flight.autonomous := by
  obtain ⟨connection, same⟩ := flight.watch_connection now timeout
  rw [same]
  rfl

theorem yields_act (s : Supervisor) (deed : Deed) (lawful : deed ≠ .enterAutonomous) :
    Yields s (s.act deed) := by
  cases deed with
  | feed data => exact yields_feed s data
  | set update connection =>
      refine yields_change_flight s _ ?_
      cases connection <;> exact id
  | setConnection connection => exact yields_change_flight s _ id
  | setArmed armed => exact yields_change_flight s _ id
  | enterAutonomous => exact absurd rfl lawful
  | leaveAutonomous => exact yields_change_flight s _ (by intro control; cases control)
  | forceDisarm => exact yields_change_flight s _ (by intro control; cases control)
  | touch => exact yields_change_flight s _ id
  | clearArm => exact yields_change_flight s _ id
  | answerArm answer => exact yields_change_flight s _ id
  | link down =>
      exact ⟨⟨rfl, rfl, rfl, fun _ member _ => member, Cockpit.extends_same _ _ _ rfl⟩, id,
        fun _ member => .inl member⟩
  | watch timeout ahead =>
      refine yields_change_flight s _ ?_
      rw [watch_autonomous]
      exact id

theorem yields_steer (s : Supervisor) (input : StickInput) : Yields s (s.steer input).2 := by
  rw [steer]
  split
  · exact yields_refl s
  split
  · exact yields_refl s
  let touched : Supervisor :=
    { s.changeFlight (FlightState.touchOperator s.clock) with sticks := s.sticks.merge input }
  have touch : Yields s touched :=
    yields_trans _ _ _ (yields_change_flight s _ id) (yields_same _ touched rfl rfl rfl rfl)
  have sent := yields_send touched .manual (.control (s.sticks.merge input).setpoint) (.inl rfl)
  have result := yields_trans _ _ _ touch (yields_trans _ _ _ sent (yields_dispatch _))
  dsimp only
  split <;> exact result

theorem yields_begin_arm (s : Supervisor) (timeout : Nat) : Yields s (s.beginArm timeout).2 := by
  let cleared := s.changeFlight (FlightState.answerArm .none)
  have sent := yields_trans _ _ _ (yields_change_flight s (FlightState.answerArm .none) id)
    (yields_send cleared .manual .arm (.inl rfl))
  rw [beginArm]
  dsimp only
  split
  · exact yields_trans _ _ _ sent (yields_dispatch _)
  · refine yields_trans _ _ _ sent (yields_trans _ _ _ ?_ (yields_dispatch _))
    exact yields_same _ _ rfl rfl rfl rfl

theorem yields_disarm (s : Supervisor) : Yields s s.disarm.2 := by
  let disarmed := s.changeFlight FlightState.forceDisarm
  have forced : Yields s disarmed :=
    yields_change_flight s FlightState.forceDisarm (by intro control; cases control)
  have sent := yields_send disarmed .all .disarm (.inr rfl)
  refine yields_trans _ _ _ forced (yields_trans _ _ _ sent
    (yields_trans _ _ _ ?_ (yields_dispatch _)))
  exact yields_same _ _ rfl rfl rfl rfl

theorem yields_status (s : Supervisor) : Yields s s.status.2 :=
  yields_trans _ _ _ (yields_send s .manual .status (.inl rfl)) (yields_dispatch _)

theorem yields_expire (s : Supervisor) : Yields s s.expireHandshakes :=
  yields_same _ _ rfl rfl rfl rfl

theorem yields_conclude (s : Supervisor) (outcome : ArmOutcome) :
    Yields s (s.concludeHandshakes outcome) := by
  let ended : Supervisor := { s with handshakes := s.handshakes.map (Handshake.finish outcome) }
  have finished : Yields s ended := yields_same s ended rfl rfl rfl rfl
  unfold concludeHandshakes
  dsimp only
  split
  · exact yields_trans _ _ _ finished (yields_change_flight ended _ id)
  · exact finished

theorem yields_rouse (s : Supervisor) (sleeper : Sleeper) (waits : sleeper.isRun = false)
    (lawful : sleeper.seizes = false) : Yields s (s.rouse sleeper) := by
  cases sleeper with
  | run id => cases waits
  | reply data => exact yields_feed s data
  | deed deed =>
      refine yields_act s deed ?_
      intro same
      subst same
      cases lawful
  | watchdog timing =>
      refine yields_trans _ _ _ (yields_change_flight s _ ?_) (yields_put_off _ _ _ rfl rfl)
      rw [watch_autonomous]
      exact id

theorem yields_erase (s : Supervisor) (alarm : Alarm) (waits : alarm.sleeper.isRun = false) :
    Yields s { s with alarms := s.alarms.erase alarm } where
  runs := rfl
  slot := rfl
  phase := rfl
  control := id
  kept := by
    intro other member run
    refine (List.mem_erase_of_ne ?_).mpr member
    intro same
    rw [same, waits] at run
    cases run
  added := fun _ member => .inl (List.mem_of_mem_erase member)
  entries := Cockpit.extends_same _ _ _ rfl

theorem spares_act (s : Supervisor) (deed : Deed) : Spares s (s.act deed) := by
  by_cases seizing : deed = .enterAutonomous
  · subst seizing
    exact ⟨rfl, rfl, rfl, fun _ member _ => member, Cockpit.extends_same _ _ _ rfl⟩
  · exact (yields_act s deed seizing).toSpares

theorem spares_put_off (s : Supervisor) (due : Nat) (sleeper : Sleeper) :
    Spares s (s.putOff due sleeper) where
  runs := rfl
  slot := rfl
  phase := rfl
  kept := fun _ member _ => List.mem_append_left _ member
  entries := Cockpit.extends_same _ _ _ rfl

theorem spares_rouse (s : Supervisor) (sleeper : Sleeper) (waits : sleeper.isRun = false) :
    Spares s (s.rouse sleeper) := by
  cases lawful : sleeper.seizes with
  | false => exact (yields_rouse s sleeper waits lawful).toSpares
  | true =>
      cases sleeper with
      | deed deed => exact spares_act s deed
      | _ => cases lawful

end Supervisor

end FlightSupervisor
