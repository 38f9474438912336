import FlightSupervisor.Proofs.ExactValue
import FlightSupervisor.Proofs.Moments
import FlightSupervisor.Proofs.Privileges
/-!
Readings of the aircraft.  Whatever text the flight controller sends, the numbers read from it are finite and
the percentages at most 100 (`classify_in_range`), so the readings that are kept are in range at every moment
of every history.  The guards then compare true numbers with their limits (`readings_in_range`).
-/

set_option autoImplicit false

namespace FlightSupervisor

structure Telemetry.InRange (t : Telemetry) : Prop where
  roll : t.roll.isFinite = true
  pitch : t.pitch.isFinite = true
  yawRate : t.yawRate.isFinite = true
  batteryVoltage : t.batteryVoltage.isFinite = true
  batteryPercent : t.batteryPercent ≤ 100

instance (t : Telemetry) : Decidable t.InRange :=
  decidable_of_iff (t.roll.isFinite = true ∧ t.pitch.isFinite = true ∧ t.yawRate.isFinite = true ∧
      t.batteryVoltage.isFinite = true ∧ t.batteryPercent ≤ 100)
    ⟨fun ⟨roll, pitch, yawRate, batteryVoltage, batteryPercent⟩ =>
        ⟨roll, pitch, yawRate, batteryVoltage, batteryPercent⟩,
      fun range => ⟨range.roll, range.pitch, range.yawRate, range.batteryVoltage, range.batteryPercent⟩⟩

structure TelemetryUpdate.InRange (u : TelemetryUpdate) : Prop where
  roll : ∀ v, u.roll = some v → v.isFinite = true
  pitch : ∀ v, u.pitch = some v → v.isFinite = true
  yawRate : ∀ v, u.yawRate = some v → v.isFinite = true
  batteryVoltage : ∀ v, u.batteryVoltage = some v → v.isFinite = true
  batteryPercent : ∀ p, u.batteryPercent = some p → p ≤ 100

theorem getD_holds {α : Type} (holds : α → Prop) (given : Option α) (kept : α)
    (fresh : ∀ v, given = some v → holds v) (old : holds kept) : holds (given.getD kept) := by
  cases given with
  | none => exact old
  | some v => exact fresh v rfl

theorem TelemetryUpdate.apply_in_range (u : TelemetryUpdate) (t : Telemetry) (fresh : u.InRange)
    (old : t.InRange) : (u.apply t).InRange where
  roll := getD_holds (·.isFinite = true) u.roll t.roll fresh.roll old.roll
  pitch := getD_holds (·.isFinite = true) u.pitch t.pitch fresh.pitch old.pitch
  yawRate := getD_holds (·.isFinite = true) u.yawRate t.yawRate fresh.yawRate old.yawRate
  batteryVoltage := getD_holds (·.isFinite = true) u.batteryVoltage t.batteryVoltage fresh.batteryVoltage
    old.batteryVoltage
  batteryPercent := getD_holds (· ≤ 100) u.batteryPercent t.batteryPercent fresh.batteryPercent old.batteryPercent

namespace Inbound

theorem number_field_finite (field : Option (List Char)) (v : Single) (read : numberField? field = some v) :
    v.isFinite = true := by
  unfold numberField? at read
  dsimp only at read
  split at read
  · exact (Option.filter_eq_some_iff.mp read).2
  · cases read

theorem percent_field_iff (field : Option (List Char)) (p : Nat) :
    percentField? field = some p ↔
      ∃ v x, numberField? field = some v ∧ v.rational? = some x ∧ 0 ≤ x ∧ x ≤ 100 ∧ p = ⌊x⌋₊ := by
  have full : (100 : Single).rational? = some 100 := mod_cast Binary.ofNat_rational 100 (by decide +kernel)
  have between (v : Single) (x : ℚ) (worth : v.rational? = some x) : 0 ≤ v ∧ v ≤ 100 ↔ 0 ≤ x ∧ x ≤ 100 :=
    and_congr (Binary.le_iff_rational 0 v 0 x Binary.zero_rational worth)
      (Binary.le_iff_rational v 100 x 100 worth full)
  have whole (v : Single) (x : ℚ) (worth : v.rational? = some x) (most : x ≤ 100) : v.toNat 255 = ⌊x⌋₊ :=
    v.toNat_rational 255 x worth (most.trans (by norm_num))
  rw [percentField?, Option.map_eq_some_iff]
  constructor
  · rintro ⟨v, kept, rfl⟩
    obtain ⟨sent, inside⟩ := Option.filter_eq_some_iff.mp kept
    obtain ⟨x, worth⟩ := v.rational_of_finite (number_field_finite field v sent)
    obtain ⟨low, high⟩ := (between v x worth).mp (of_decide_eq_true inside)
    exact ⟨v, x, sent, worth, low, high, whole v x worth high⟩
  · rintro ⟨v, x, sent, worth, low, high, rfl⟩
    refine ⟨v, Option.filter_eq_some_iff.mpr ⟨sent, ?_⟩, whole v x worth high⟩
    exact decide_eq_true ((between v x worth).mpr ⟨low, high⟩)

theorem percent_field_whole (field : Option (List Char)) (p : Nat) (read : percentField? field = some p) :
    ∃ x : ℚ, (numberField? field).bind Binary.rational? = some x ∧ 0 ≤ x ∧ x ≤ 100 ∧ p = ⌊x⌋₊ := by
  obtain ⟨v, x, sent, worth, bounds⟩ := (percent_field_iff field p).mp read
  exact ⟨x, by rw [sent]; exact worth, bounds⟩

theorem percent_field_bounded (field : Option (List Char)) (p : Nat) (read : percentField? field = some p) :
    p ≤ 100 := by
  obtain ⟨x, _, _, most, rfl⟩ := percent_field_whole field p read
  exact Nat.floor_le_of_le (by exact_mod_cast most)

def InRange : Inbound → Prop
  | .telemetry update | .status update => update.InRange
  | _ => True

theorem telemetry_fields_in_range (fields : List (List Char)) : (telemetryFields fields).InRange where
  roll := number_field_finite _
  pitch := number_field_finite _
  yawRate := number_field_finite _
  batteryVoltage := number_field_finite _
  batteryPercent := percent_field_bounded _

theorem status_fields_in_range (fields : List (List Char)) : (statusFields fields).InRange where
  roll := number_field_finite _
  pitch := number_field_finite _
  yawRate := by simp [statusFields]
  batteryVoltage := number_field_finite _
  batteryPercent := by simp [statusFields]

theorem classify_in_range (text : List Char) : (classify text).InRange := by
  rw [classify]
  split
  · exact telemetry_fields_in_range _
  split
  · exact status_fields_in_range _
  · repeat' split
    all_goals trivial

end Inbound

open Inbound

namespace FlightState

theorem in_range_sensors (f g : FlightState) (same : g.sensors = f.sensors) (range : f.telemetry.InRange) :
    g.telemetry.InRange := by
  simp only [sensors, Telemetry.mk.injEq] at same
  obtain ⟨roll, pitch, yawRate, batteryVoltage, batteryPercent, _⟩ := same
  exact ⟨roll ▸ range.roll, pitch ▸ range.pitch, yawRate ▸ range.yawRate, batteryVoltage ▸ range.batteryVoltage,
    batteryPercent ▸ range.batteryPercent⟩

theorem hear_in_range (f : FlightState) (line : Inbound) (fresh : line.InRange) (old : f.telemetry.InRange) :
    (f.hear line).telemetry.InRange := by
  cases line with
  | telemetry update =>
      exact in_range_sensors (f.absorb update) _ rfl (update.apply_in_range f.telemetry fresh old)
  | status update => exact update.apply_in_range f.telemetry fresh old
  | _ => exact in_range_sensors f _ rfl old

theorem hear_texts_in_range (f : FlightState) (texts : List (List Char)) (old : f.telemetry.InRange) :
    (f.hearTexts texts).telemetry.InRange := by
  induction texts generalizing f with
  | nil => exact old
  | cons text later ih => exact ih (f.hear (classify text)) (hear_in_range f _ (classify_in_range text) old)

theorem marked_sensors (f : FlightState) (outcome : ArmOutcome) : (f.marked outcome).sensors = f.sensors := by
  rw [marked]
  split <;> rfl

theorem watch_sensors (f : FlightState) (now timeout : Nat) : (f.watch now timeout).2.sensors = f.sensors := by
  obtain ⟨connection, same⟩ := f.watch_connection now timeout
  rw [same]
  rfl

end FlightState

namespace Cockpit

theorem write_sensors (c : Cockpit) (issuer : Issuer) (frame : Frame) :
    (c.write issuer frame).2.flight.sensors = c.flight.sensors := by
  rw [write_flight]
  split <;> rfl

theorem send_sensors (c : Cockpit) (issuer : Issuer) (frame : Frame) (gate : Gate) :
    (c.send gate issuer frame).2.flight.sensors = c.flight.sensors := by
  cases admitted : gate.admits c.flight.autonomous with
  | true => rw [send_admitted c issuer frame gate admitted, write_sensors]
  | false => rw [send_refused c issuer frame gate admitted]

end Cockpit

namespace Run

theorem moves_sensors (rules : Rules) (id : Nat) (c : Cockpit) (r : Run) (next : Cockpit × Run)
    (moves : Moves rules id c r next) : next.1.flight.sensors = c.flight.sensors := by
  cases moves with
  | send frame | sendFails frame => exact c.write_sensors _ frame
  | cut | land => exact c.write_sensors _ .disarm
  | lower trip throttle => exact c.write_sensors _ (.control (.level throttle))
  | complete | begin | advance | revoke | trip | publish | collapse | hold | unfold | mark | abandon => rfl

theorem proceed_sensors (rules : Rules) (id steps : Nat) (c : Cockpit) (r : Run) :
    (r.proceed rules id steps c).1.flight.sensors = c.flight.sensors := by
  refine proceed_keeps rules id (fun later _ => later.flight.sensors = c.flight.sensors) ?_ steps c r rfl
  intro later run next _ _ same moves
  exact (moves_sensors rules id later run next moves).trans same

end Run

-- Readings can also be set from outside, past the lines; in range they do no harm.
def Deed.InRange : Deed → Prop
  | .set update _ => update.InRange
  | _ => True

def Sleeper.InRange : Sleeper → Prop
  | .deed work => work.InRange
  | _ => True

def Happening.InRange : Happening → Prop
  | .deed work | .putOff _ work => work.InRange
  | _ => True

namespace Supervisor

structure InRange (s : Supervisor) : Prop where
  readings : s.flight.telemetry.InRange
  pending : ∀ alarm ∈ s.alarms, alarm.sleeper.InRange

structure Leaves (s t : Supervisor) : Prop where
  sensors : t.flight.sensors = s.flight.sensors
  added : ∀ alarm ∈ t.alarms, alarm ∈ s.alarms ∨ alarm.sleeper.InRange

section Leaves

variable (s t u : Supervisor)

theorem leaves_trans (first : Leaves s t) (second : Leaves t u) : Leaves s u where
  sensors := second.sensors.trans first.sensors
  added := by
    intro alarm member
    rcases second.added alarm member with before | harmless
    · exact first.added alarm before
    · exact .inr harmless

theorem leaves_in_range (leaves : Leaves s t) (range : s.InRange) : t.InRange where
  readings := FlightState.in_range_sensors _ _ leaves.sensors range.readings
  pending := by
    intro alarm member
    rcases leaves.added alarm member with before | harmless
    · exact range.pending alarm before
    · exact harmless

theorem leaves_alarms (sensors : t.flight.sensors = s.flight.sensors) (alarms : t.alarms = s.alarms) :
    Leaves s t :=
  ⟨sensors, fun _ member => .inl (alarms ▸ member)⟩

theorem leaves_refl : Leaves s s := leaves_alarms s s rfl rfl

theorem leaves_put_off (due : Nat) (sleeper : Sleeper) (harmless : sleeper.InRange) :
    Leaves s (s.putOff due sleeper) where
  sensors := rfl
  added := by
    intro alarm member
    rcases List.mem_append.mp member with before | new
    · exact .inl before
    · rw [List.mem_singleton.mp new]
      exact .inr harmless

theorem leaves_dispatch : Leaves s s.dispatchReplies where
  sensors := rfl
  added := by
    intro alarm member
    rcases List.mem_append.mp member with before | new
    · exact .inl before
    · obtain ⟨reply, _, rfl⟩ := List.mem_map.mp new
      exact .inr trivial

theorem leaves_send (gate : Gate) (issuer : Issuer) (frame : Frame) :
    Leaves s { s with cockpit := (s.cockpit.send gate issuer frame).2 } :=
  leaves_alarms s _ (s.cockpit.send_sensors issuer frame gate) rfl

theorem leaves_start (program : Program) (id : Nat) (started : s.start? program = some (id, t)) : Leaves s t := by
  rw [start?] at started
  obtain ⟨flight, entered, same⟩ := Option.map_eq_some_iff.mp started
  cases same
  rw [FlightState.enterAutonomous?] at entered
  split at entered
  · cases entered
  · cases entered
    refine leaves_trans _ _ _ ?_ (leaves_put_off _ _ (.run _) trivial)
    exact leaves_alarms s _ rfl rfl

theorem leaves_request_stop (id : Nat) : Leaves s (s.requestStop id) := by
  rw [requestStop]
  split
  · exact leaves_refl s
  dsimp only
  split
  · refine leaves_trans _ _ _ ?_ (leaves_put_off _ _ (.run id) trivial)
    exact ⟨rfl, fun alarm member => .inl (List.mem_filter.mp member).1⟩
  · exact leaves_alarms s _ rfl rfl

theorem leaves_submit (code : String) : Leaves s (s.submit code).2 := by
  rw [submit]
  dsimp only
  split
  · exact leaves_refl s
  split
  · exact leaves_refl s
  split
  · exact leaves_refl s
  · cases started : s.start? (Program.read s.rules.policy code) with
    | none => exact leaves_refl s
    | some pair =>
        have begun := leaves_start s pair.2 _ pair.1 started
        exact leaves_trans _ _ _ begun (leaves_alarms _ _ rfl rfl)

theorem leaves_steer (input : StickInput) : Leaves s (s.steer input).2 := by
  let touched : Supervisor :=
    { s.changeFlight (FlightState.touchOperator s.clock) with sticks := s.sticks.merge input }
  have sent : Leaves touched _ := leaves_send touched .manual .operator (.control (s.sticks.merge input).setpoint)
  have result := leaves_trans s touched _ (leaves_alarms s touched rfl rfl)
    (leaves_trans _ _ _ sent (leaves_dispatch _))
  rw [steer]
  split
  · exact leaves_refl s
  split
  · exact leaves_refl s
  dsimp only
  split <;> exact result

theorem leaves_begin_arm (timeout : Nat) : Leaves s (s.beginArm timeout).2 := by
  let cleared := s.changeFlight (FlightState.answerArm .none)
  have sent := leaves_trans s cleared _ (leaves_alarms s cleared rfl rfl) (leaves_send cleared .manual .operator .arm)
  rw [beginArm]
  dsimp only
  split
  · exact leaves_trans _ _ _ sent (leaves_dispatch _)
  · refine leaves_trans _ _ _ sent (leaves_trans _ _ _ ?_ (leaves_dispatch _))
    exact leaves_alarms _ _ rfl rfl

theorem leaves_disarm : Leaves s s.disarm.2 := by
  let disarmed := s.changeFlight FlightState.forceDisarm
  have sent := leaves_trans s disarmed _ (leaves_alarms s disarmed rfl rfl)
    (leaves_send disarmed .all .operator .disarm)
  refine leaves_trans _ _ _ sent (leaves_trans _ _ _ ?_ (leaves_dispatch _))
  exact leaves_alarms _ _ rfl rfl

theorem leaves_receive (request : Request) : Leaves s (s.receive request) := by
  cases request with
  | run code => exact leaves_submit s code
  | joystick input => exact leaves_steer s input
  | arm =>
      rw [receive]
      split
      · exact leaves_refl s
      · exact leaves_begin_arm s s.armTimeout
  | disarm => exact leaves_disarm s
  | telemetry => exact leaves_refl s
  | status => exact leaves_trans _ _ _ (leaves_send s .manual .operator .status) (leaves_dispatch _)
  | stop =>
      show Leaves s s.stop.2
      rw [stop]
      split
      · exact leaves_request_stop s _
      · exact leaves_refl s

theorem leaves_conclude (outcome : ArmOutcome) : Leaves s (s.concludeHandshakes outcome) := by
  rw [conclude_marks]
  exact leaves_alarms s _ (s.flight.marked_sensors outcome) rfl

theorem leaves_wake_run (id : Nat) : Leaves s (s.wakeRun id) := by
  rw [wakeRun]
  split
  · exact leaves_refl s
  rename_i run found
  have woken : Leaves s { s with
      cockpit := (run.wake s.rules id s.cockpit).1
      runs := s.runs.set id (run.wake s.rules id s.cockpit).2 } :=
    leaves_alarms s _ (Run.proceed_sensors s.rules id _ s.cockpit _) rfl
  dsimp only
  split
  · exact leaves_trans _ _ _ woken (leaves_trans _ _ _ (leaves_put_off _ _ (.run id) trivial) (leaves_dispatch _))
  · exact leaves_trans _ _ _ woken (leaves_dispatch _)

theorem leaves_watch (now timeout : Nat) :
    Leaves s (s.changeFlight fun flight => (flight.watch now timeout).2) :=
  leaves_alarms s _ (s.flight.watch_sensors now timeout) rfl

end Leaves

section Steps

variable (s : Supervisor)

theorem feed_in_range (data : Bytes) (range : s.InRange) : (s.feed data).2.InRange where
  readings := by
    show (s.decoder.feed s.flight data).flight.telemetry.InRange
    rw [Decoder.feed_texts]
    exact s.flight.hear_texts_in_range _ range.readings
  pending := range.pending

theorem act_in_range (deed : Deed) (fresh : deed.InRange) (range : s.InRange) : (s.act deed).InRange := by
  cases deed with
  | feed data => exact feed_in_range s data range
  | set update connection =>
      have absorbed := update.apply_in_range s.flight.telemetry fresh range.readings
      refine ⟨?_, range.pending⟩
      cases connection with
      | none => exact absorbed
      | some state => exact FlightState.in_range_sensors (s.flight.absorb update) _ rfl absorbed
  | enterAutonomous =>
      refine leaves_in_range s _ (leaves_alarms s _ ?_ rfl) range
      show (s.flight.enterAutonomous?.getD s.flight).sensors = s.flight.sensors
      rw [FlightState.enterAutonomous?]
      split <;> rfl
  | watch timeout ahead => exact leaves_in_range s _ (leaves_watch s _ timeout) range
  | _ => exact leaves_in_range s _ (leaves_alarms s _ rfl rfl) range

theorem rouse_in_range (sleeper : Sleeper) (fresh : sleeper.InRange) (range : s.InRange) :
    (s.rouse sleeper).InRange := by
  cases sleeper with
  | run id => exact leaves_in_range s _ (leaves_wake_run s id) range
  | reply data => exact feed_in_range s data range
  | deed work => exact act_in_range s work fresh range
  | watchdog timing =>
      exact leaves_in_range s _
        (leaves_trans _ _ _ (leaves_watch s s.clock timing.timeout) (leaves_put_off _ _ _ trivial)) range

theorem meet_in_range (h : Happening) (fresh : h.InRange) (range : s.InRange) : (s.meet h).InRange := by
  cases h with
  | pass | expire | vacate => exact leaves_in_range s _ (leaves_alarms s _ rfl rfl) range
  | rouse alarm =>
      rw [meet]
      split
      · rename_i ready
        refine rouse_in_range _ alarm.sleeper (range.pending alarm ready.1) ⟨range.readings, ?_⟩
        exact fun other member => range.pending other (List.mem_of_mem_erase member)
      · exact range
  | conclude =>
      simp only [meet]
      cases s.pendingOutcome? with
      | none => exact range
      | some outcome => exact leaves_in_range s _ (leaves_conclude s outcome) range
  | deed work => exact act_in_range s work fresh range
  | putOff due work => exact leaves_in_range s _ (leaves_put_off s due _ fresh) range
  | request request => exact leaves_in_range s _ (leaves_receive s request) range
  | beginArm timeout => exact leaves_in_range s _ (leaves_begin_arm s timeout) range
  | start program =>
      simp only [meet]
      cases started : s.start? program with
      | none => exact range
      | some pair => exact leaves_in_range s _ (leaves_start s pair.2 program pair.1 started) range
  | stop id => exact leaves_in_range s _ (leaves_request_stop s id) range

theorem after_in_range (history : List Happening) (fresh : ∀ h ∈ history, h.InRange) (range : s.InRange) :
    (s.after history).InRange := by
  induction history generalizing s with
  | nil => exact range
  | cons h later ih =>
      exact ih (s.meet h) (fun other member => fresh other (List.mem_cons_of_mem _ member))
        (meet_in_range s h (fresh h List.mem_cons_self) range)

theorem sees_in_range (next : Option Happening) (c : Cockpit) (range : s.InRange) (sees : s.Sees next c) :
    c.flight.telemetry.InRange := by
  cases sees with
  | still => exact range.readings
  | amid h id run steps comes turn found =>
      exact FlightState.in_range_sensors s.flight _ (Run.proceed_sensors s.rules id steps s.cockpit run.awake)
        range.readings

end Steps

end Supervisor

theorem tilted_iff (angle : Single) (x : ℚ) (worth : angle.rational? = some x) :
    maxLiveTilt < angle.abs ↔ 45 < |x| := by
  have limit : maxLiveTilt.rational? = some ((45 : Nat) : ℚ) := Binary.ofNat_rational 45 (by decide +kernel)
  have compared := Binary.lt_iff_rational maxLiveTilt angle.abs _ |x| limit (angle.abs_rational x worth)
  exact_mod_cast compared

namespace Supervisor

/-- At every instant, those within a turn included, the readings are finite and the battery level is a percentage, so
what the guards compare are true numbers. -/
theorem readings_in_range (s : Supervisor) (history : List Happening) (fresh : ∀ h ∈ history, h.InRange)
    (range : s.InRange) (n : Nat) (c : Cockpit) (sees : (s.after (history.take n)).Sees history[n]? c) :
    let t := c.flight.telemetry
    t.InRange ∧
      (∃ roll pitch : ℚ, t.roll.rational? = some roll ∧ t.pitch.rational? = some pitch ∧
        (maxLiveTilt < t.roll.abs ↔ 45 < |roll|) ∧ (maxLiveTilt < t.pitch.abs ↔ 45 < |pitch|) ∧
        ∀ rules (run : Run) inMove, run.guard? rules inMove c = none →
          20 ≤ t.batteryPercent ∧ (inMove = true → |roll| ≤ 45 ∧ |pitch| ≤ 45)) ∧
      ∀ field p, percentField? field = some p →
        ∃ x : ℚ, (numberField? field).bind Binary.rational? = some x ∧ 0 ≤ x ∧ x ≤ 100 ∧ p = ⌊x⌋₊ := by
  intro t
  have early : ∀ h ∈ history.take n, h.InRange := fun h member => fresh h (List.mem_of_mem_take member)
  have kept : t.InRange := sees_in_range _ _ c (after_in_range s _ early range) sees
  obtain ⟨roll, rolled⟩ := t.roll.rational_of_finite kept.roll
  obtain ⟨pitch, pitched⟩ := t.pitch.rational_of_finite kept.pitch
  have rollTilts := tilted_iff t.roll roll rolled
  have pitchTilts := tilted_iff t.pitch pitch pitched
  refine ⟨kept, ⟨roll, pitch, rolled, pitched, rollTilts, pitchTilts, ?_⟩, percent_field_whole⟩
  intro rules run inMove none
  have clear := (Run.guard_none_iff rules inMove c run).mp none
  refine ⟨clear.battery, fun moving => ?_⟩
  obtain ⟨rollLevel, pitchLevel⟩ := clear.level moving
  exact ⟨not_lt.mp fun tilted => rollLevel (rollTilts.mpr tilted),
    not_lt.mp fun tilted => pitchLevel (pitchTilts.mpr tilted)⟩

-- Noise on the line, then a reading in the midst of it.
theorem noise_in_range :
    let noise := Utf8.encode "TELEM,inf,NaN,1e9,0,9.9.9,101,1\nSTATUS,ARMED,1/0,-,+\n"
    let reading := Utf8.encode "TELEM,-50.5,3,0,0,11.1,79.9,1\n"
    let history : List Happening := [.deed (.feed noise), .deed (.feed reading), .pass 10]
    let s : Supervisor := {}
    let c := (s.after history).cockpit
    (∀ h ∈ history, h.InRange) ∧ s.InRange ∧
      (s.after (history.take 1)).flight.telemetry.batteryPercent = 0 ∧
      c.flight.telemetry.InRange ∧ c.flight.telemetry.batteryPercent = 79 ∧
      ∀ rules (run : Run), run.guard? rules true c ≠ none := by
  intro noise reading history s c
  have fresh : ∀ h ∈ history, h.InRange := by simp [history, Happening.InRange, Deed.InRange]
  have range : s.InRange := ⟨by decide +kernel, by simp [s]⟩
  obtain ⟨kept, ⟨roll, pitch, _, _, tilts, _, guards⟩, _⟩ := readings_in_range s history fresh range 3 c .still
  refine ⟨fresh, range, by decide +kernel, kept, by decide +kernel, ?_⟩
  intro rules run none
  have level := ((guards rules run true none).2 rfl).1
  have tilted : maxLiveTilt < c.flight.telemetry.roll.abs := by decide +kernel
  exact absurd (tilts.mp tilted) (not_lt.mpr level)

end Supervisor

end FlightSupervisor
