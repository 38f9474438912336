import FlightSupervisor.Proofs.Forecast
import FlightSupervisor.Proofs.SoundPrograms
/-!
Timelines.  Which frames a program that nothing disturbs writes, at what times, and how it ends can be told
from its commands (`Program.timeline`) and, at any point of its way, from the actions that are left of it
(`timelineOf`).  The two agree (`plan_timeline`), and the outcome is the one that the first emergency command
decides (`timeline_outcome`).
-/

set_option autoImplicit false

namespace FlightSupervisor

/-- Times are milliseconds since the program began.  A program without an outcome has its task break down, at
a hold that has no length. -/
structure Timeline where
  frames : List (Nat × Frame)
  ends : Nat
  outcome : Option Outcome
deriving DecidableEq

def Timeline.after (frames : List (Nat × Frame)) (t : Timeline) : Timeline :=
  { t with frames := frames ++ t.frames }

theorem after_nil (t : Timeline) : t.after [] = t := rfl

theorem after_after (first later : List (Nat × Frame)) (t : Timeline) :
    (t.after later).after first = t.after (first ++ later) := by
  simp [Timeline.after]

def paced (now pace count : Nat) (frame : Nat → Frame) : List (Nat × Frame) :=
  (List.range count).map fun step => (now + step * sleepOf pace, frame step)

theorem paced_succ (now pace count : Nat) (frame : Nat → Frame) :
    paced now pace (count + 1) frame =
      (now, frame 0) :: paced (now + sleepOf pace) pace count fun step => frame (step + 1) := by
  have later (step : Nat) : now + (step + 1) * sleepOf pace = now + sleepOf pace + step * sleepOf pace := by
    rw [Nat.succ_mul]
    omega
  simp [paced, List.range_succ_eq_map, Function.comp_def, later]

theorem paced_later (now pace count : Nat) (frame : Nat → Frame) :
    ∀ entry ∈ paced now pace count frame, now ≤ entry.1 := by
  intro entry member
  obtain ⟨step, _, same⟩ := List.mem_map.mp member
  rw [← same]
  exact Nat.le_add_right _ _

namespace Command

-- How many times a move writes its frame: the duration times the rate of ticks, at least once.
def copies (tick : Nat) (duration : Single) : Nat :=
  max 1 ((duration * (1 / inSeconds tick)).round.toNat (2 ^ (32 : Nat) - 1))

def framesFrom (timing : Timing) (now : Nat) (armed : Bool) : Command → List (Nat × Frame)
  | .takeoff _ =>
      let climb := if armed then now else now + sleepOf timing.armSettle
      (if armed then [] else [(now, .arm)]) ++
        paced climb timing.takeoffPace 7 fun step => .control (.level (Binary.ofNat (1100 + 50 * step)))
  | .land _ =>
      (paced now timing.landPace 9 fun step => .control (.level (Binary.ofNat (1400 - 50 * step)))) ++
        [(now + 9 * sleepOf timing.landPace, .disarm)]
  | .hover _ => [(now, .control (.level 1400))]
  | .move setpoint duration =>
      (paced now timing.tick (copies timing.tick duration) fun _ => .control setpoint) ++
        [(now + copies timing.tick duration * sleepOf timing.tick, .control (.level setpoint.throttle))]
  | .wait _ | .led .. => []
  | .emergency => [(now, .disarm)]

end Command

/-- The course of a program with so many commands before it; an emergency command ends it.  There are two exceptions to
commands that take as long as they say: one that is to stay for 2 ^ 64 seconds or more, for ever included, has no such
length, so the task breaks down once its frames are written; and one that is to stay longer than the longest sleep
(`longestSleep`, thirty years) goes on after that. -/
def Program.timeline (timing : Timing) (now : Nat) (armed : Bool) (executed : Nat) : Program → Timeline
  | [] => ⟨[], now, some ⟨.completed, executed, none⟩⟩
  | .emergency :: _ => ⟨[(now, .disarm)], now, some ⟨.aborted, executed + 1, none⟩⟩
  | command :: rest =>
      if (holdMillis? command.stay).isSome then
        (Program.timeline timing (now + command.span timing armed) (command.leavesArmed armed) (executed + 1)
          rest).after (command.framesFrom timing now armed)
      else ⟨command.framesFrom timing now armed, now + command.span timing armed, none⟩

def Action.framesFrom (now : Nat) (armed : Bool) : Action → List (Nat × Frame)
  | .send frame => [(now, frame)]
  | .armMotors _ => if armed then [] else [(now, .arm)]
  | .ticks setpoint left pace => paced now pace left fun _ => .control setpoint
  | _ => []

def timelineOf (now : Nat) (armed : Bool) (executed : Nat) : List Item → Timeline
  | [] => ⟨[], now, some ⟨.completed, executed, none⟩⟩
  | .look :: rest => timelineOf now armed executed rest
  | .count :: rest => timelineOf now armed (executed + 1) rest
  | .act .cut :: _ => ⟨[(now, .disarm)], now, some ⟨.aborted, executed + 1, none⟩⟩
  | .act (.hold none) :: _ => ⟨[], now, none⟩
  | .act action :: rest =>
      (timelineOf (now + action.span armed) (action.leavesArmed armed) executed rest).after
        (action.framesFrom now armed)

theorem timeline_act (now : Nat) (armed : Bool) (executed : Nat) (action : Action) (rest : List Item)
    (going : action ≠ .cut) (lasting : action ≠ .hold none) :
    timelineOf now armed executed (.act action :: rest) =
      (timelineOf (now + action.span armed) (action.leavesArmed armed) executed rest).after
        (action.framesFrom now armed) := by
  cases action with
  | cut => exact absurd rfl going
  | hold millis =>
      cases millis with
      | none => exact absurd rfl lasting
      | some millis => rfl
  | _ => rfl

theorem frames_later (now : Nat) (armed : Bool) (action : Action) :
    ∀ entry ∈ action.framesFrom now armed, now ≤ entry.1 := by
  intro entry member
  cases action with
  | send frame => simp_all [Action.framesFrom]
  | armMotors settle => cases armed <;> simp_all [Action.framesFrom]
  | ticks setpoint left pace => exact paced_later now pace left _ entry member
  | _ => cases member

theorem timeline_later (now : Nat) (armed : Bool) (executed : Nat) (script : List Item) :
    now ≤ (timelineOf now armed executed script).ends ∧
      ∀ entry ∈ (timelineOf now armed executed script).frames, now ≤ entry.1 := by
  induction script generalizing now armed executed with
  | nil => exact ⟨Nat.le_refl now, by simp [timelineOf]⟩
  | cons item rest ih =>
      cases item with
      | look => exact ih now armed executed
      | count => exact ih now armed (executed + 1)
      | act action =>
          by_cases cut : action = .cut
          · subst cut
            exact ⟨Nat.le_refl now, by simp [timelineOf]⟩
          by_cases broken : action = .hold none
          · subst broken
            exact ⟨Nat.le_refl now, by simp [timelineOf]⟩
          · rw [timeline_act now armed executed action rest cut broken]
            obtain ⟨ends, frames⟩ := ih (now + action.span armed) (action.leavesArmed armed) executed
            exact ⟨Nat.le_trans (Nat.le_add_right _ _) ends, List.forall_mem_append.mpr
              ⟨frames_later now armed action,
                fun entry member => Nat.le_trans (Nat.le_add_right _ _) (frames entry member)⟩⟩

theorem ramp_timeline (throttle : Nat → Single) (count pace now : Nat) (armed : Bool) (executed : Nat)
    (rest : List Item) :
    timelineOf now armed executed ((((List.range count).map throttle).flatMap fun throttle =>
        [Action.send (.control (.level throttle)), .hold (some pace)]).map .act ++ rest) =
      (timelineOf (now + count * sleepOf pace) armed executed rest).after
        (paced now pace count fun step => .control (.level (throttle step))) := by
  induction count generalizing throttle now with
  | zero => simp [paced, after_nil]
  | succ count ih =>
      have later := ih (fun step => throttle (step + 1)) (now + sleepOf pace)
      have length : now + sleepOf pace + count * sleepOf pace = now + (count + 1) * sleepOf pace := by
        rw [Nat.succ_mul]
        omega
      simp only [length] at later
      simp only [List.range_succ_eq_map, List.map_cons, List.map_map, List.flatMap_cons, List.cons_append,
        List.nil_append, Function.comp_def, Nat.succ_eq_add_one] at later ⊢
      simp only [timelineOf, Action.span, Action.leavesArmed, Action.framesFrom, Option.getD_some, Nat.add_zero,
        after_nil]
      rw [later, after_after, paced_succ]
      rfl

theorem tick_timeline (setpoint : Setpoint) (left pace now : Nat) (armed : Bool) (executed : Nat)
    (rest : List Item) :
    timelineOf now armed executed (.act (.ticks setpoint (left + 1) pace) :: rest) =
      timelineOf now armed executed (.act .guardMove :: .act (.send (.control setpoint)) ::
        .act (.hold (some pace)) :: .act (.ticks setpoint left pace) :: rest) := by
  have length : now + (left + 1) * sleepOf pace = now + sleepOf pace + left * sleepOf pace := by
    rw [Nat.succ_mul]
    omega
  simp only [timelineOf, Action.span, Action.framesFrom, Action.leavesArmed, after_after, Option.getD_some,
    Nat.add_zero, length, paced_succ, List.singleton_append, List.nil_append]

theorem ramp_throttles :
    takeoffRamp.throttles = ((List.range 7).map fun step => Binary.ofNat (1100 + 50 * step)) ∧
      landRamp.throttles = ((List.range 9).map fun step => Binary.ofNat (1400 - 50 * step)) := by
  decide +kernel

theorem tick_count_copies (tick : Nat) (duration : Single) :
    tickCount tick duration = Command.copies tick duration :=
  Nat.max_comm _ _

theorem hold_timeline (seconds : Single) (now : Nat) (armed : Bool) (executed : Nat) (rest : List Item) :
    timelineOf now armed executed (.act (.hold (holdMillis? seconds)) :: rest) =
      if (holdMillis? seconds).isSome then timelineOf (now + holdTime seconds) armed executed rest
      else ⟨[], now + holdTime seconds, none⟩ := by
  rw [holdTime]
  cases holdMillis? seconds with
  | none => rfl
  | some millis => rfl

theorem actions_timeline (timing : Timing) (command : Command) (now : Nat) (armed : Bool) (executed : Nat)
    (rest : List Item) (going : command ≠ .emergency) :
    timelineOf now armed executed ((command.actions timing).map .act ++ rest) =
      if (holdMillis? command.stay).isSome then
        (timelineOf (now + command.span timing armed) (command.leavesArmed armed) executed rest).after
          (command.framesFrom timing now armed)
      else ⟨command.framesFrom timing now armed, now + command.span timing armed, none⟩ := by
  cases command with
  | emergency => exact absurd rfl going
  | takeoff delay =>
      simp only [Command.actions, Ramp.actions, ramp_throttles.1, List.map_append, List.map_cons, List.map_nil,
        List.append_assoc, List.cons_append, List.nil_append, timelineOf, ramp_timeline, hold_timeline, Action.span,
        Action.leavesArmed, Action.framesFrom, after_nil, after_after]
      have count : takeoffRamp.throttles.length = 7 := by rw [ramp_throttles.1]; rfl
      cases armed <;> cases lasts : (holdMillis? delay).isSome <;>
        simp [lasts, count, Command.stay, Command.span, Command.leavesArmed, Command.framesFrom, Timeline.after,
          Nat.add_assoc]
  | land delay =>
      simp only [Command.actions, Ramp.actions, ramp_throttles.2, List.map_append, List.map_cons, List.map_nil,
        List.append_assoc, List.cons_append, List.nil_append, timelineOf, ramp_timeline, hold_timeline, Action.span,
        Action.leavesArmed, Action.framesFrom, after_nil, after_after]
      have count : landRamp.throttles.length = 9 := by rw [ramp_throttles.2]; rfl
      cases lasts : (holdMillis? delay).isSome <;>
        simp [lasts, count, Command.stay, Command.span, Command.leavesArmed, Command.framesFrom, Timeline.after,
          Nat.add_assoc]
  | hover delay =>
      simp only [Command.actions, List.map_cons, List.map_nil, List.cons_append, List.nil_append, timelineOf,
        hold_timeline, Action.span, Action.leavesArmed, Action.framesFrom]
      cases lasts : (holdMillis? delay).isSome <;>
        simp [lasts, Command.stay, Command.span, Command.leavesArmed, Command.framesFrom, Timeline.after,
          Command.cruiseThrottle]
  | wait seconds | led _ seconds =>
      simp only [Command.actions, List.map_cons, List.map_nil, List.cons_append, List.nil_append]
      exact hold_timeline seconds now armed executed rest
  | move setpoint duration =>
      obtain ⟨low, high⟩ := max_wait_limits.2.2.2.2.2 0 (by simp)
      have lasts : (holdMillis? 0).isSome = true := hold_has_length 0 low high
      simp only [Command.actions, List.map_cons, List.map_nil, List.cons_append, List.nil_append, timelineOf,
        Action.span, Action.leavesArmed, Action.framesFrom, after_after, tick_count_copies]
      simp [lasts, Command.stay, Command.span, Command.leavesArmed, Command.framesFrom, tick_count_copies]

theorem plan_timeline (timing : Timing) (program : Program) (now : Nat) (armed : Bool) (executed : Nat) :
    timelineOf now armed executed (scriptOf (program.plan timing)) =
      program.timeline timing now armed executed := by
  induction program generalizing now armed executed with
  | nil => rfl
  | cons command rest ih =>
      have script : scriptOf (Program.plan timing (command :: rest)) =
          .look :: ((command.actions timing).map .act ++ .count :: scriptOf (Program.plan timing rest)) := by
        simp [scriptOf, Program.plan]
      rw [script, timelineOf]
      by_cases emergency : command = .emergency
      · subst emergency
        rfl
      · rw [actions_timeline timing command now armed executed _ emergency, timelineOf, ih]
        cases command with
        | emergency => exact absurd rfl emergency
        | _ => rfl

def Program.beforeEmergency (program : Program) : Program := program.takeWhile fun command => command ≠ .emergency

theorem timeline_outcome (timing : Timing) (program : Program) (now : Nat) (armed : Bool) (executed : Nat)
    (lasting : ∀ command ∈ program.beforeEmergency, (holdMillis? command.stay).isSome = true) :
    (program.timeline timing now armed executed).outcome =
      some (if .emergency ∈ program then ⟨.aborted, executed + program.beforeEmergency.length + 1, none⟩
        else ⟨.completed, executed + program.length, none⟩) := by
  induction program generalizing now armed executed with
  | nil => rfl
  | cons command rest ih =>
      by_cases emergency : command = .emergency
      · subst emergency
        simp [Program.timeline, Program.beforeEmergency]
      · have before : Program.beforeEmergency (command :: rest) = command :: Program.beforeEmergency rest := by
          simp [Program.beforeEmergency, emergency]
        rw [before] at lasting
        obtain ⟨here, later⟩ := List.forall_mem_cons.mp lasting
        have goes : Program.timeline timing now armed executed (command :: rest) =
            (Program.timeline timing (now + command.span timing armed) (command.leavesArmed armed) (executed + 1)
              rest).after (command.framesFrom timing now armed) := by
          cases command with
          | emergency => exact absurd rfl emergency
          | _ => exact if_pos here
        have among : .emergency ∈ command :: rest ↔ .emergency ∈ rest := by simp [Ne.symm emergency]
        rw [goes, before]
        simp only [Timeline.after, ih _ _ _ later, among, List.length_cons]
        congr 3 <;> omega

end FlightSupervisor
