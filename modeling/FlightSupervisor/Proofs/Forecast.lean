import FlightSupervisor.Proofs.Alarms
/-!
Forecasts.  How a program flies that nothing disturbs is settled before it starts: when it looks at the
flight time, when it is over, and with what outcome (`Program.forecast`).  The same can be said of what
is left of a program at any point (`forecast`), and the two agree (`plan_forecast`).
-/

set_option autoImplicit false

namespace FlightSupervisor

-- Times are milliseconds since the program began. The looks are the moments at which it compares this
-- time to its limit.
structure Forecast where
  looks : List Nat
  ends : Nat
  outcome : Outcome

def Forecast.looked (looks : List Nat) (f : Forecast) : Forecast := { f with looks := looks ++ f.looks }

def holdTime (seconds : Single) : Nat := sleepOf ((holdMillis? seconds).getD 0)

namespace Command

-- How long a command takes. The motors settle only if they are not armed yet, a ramp takes one pace per
-- frame, and a move takes whole ticks.
def span (timing : Timing) (armed : Bool) : Command → Nat
  | .takeoff delay =>
      (if armed then 0 else sleepOf timing.armSettle)
        + takeoffRamp.throttles.length * sleepOf timing.takeoffPace + holdTime delay
  | .land delay => landRamp.throttles.length * sleepOf timing.landPace + holdTime delay
  | .hover delay | .wait delay | .led _ delay => holdTime delay
  | .move _ duration => tickCount timing.tick duration * sleepOf timing.tick
  | .emergency => 0

def leavesArmed (armed : Bool) : Command → Bool
  | .takeoff _ => true
  | .land _ => false
  | _ => armed

-- When a command that begins at a time looks at the flight time again: before each tick of a move.
def ticksFrom (timing : Timing) (now : Nat) : Command → List Nat
  | .move _ duration =>
      (List.range (tickCount timing.tick duration)).map fun tick => now + tick * sleepOf timing.tick
  | _ => []

end Command

-- The course of a program with so many commands before it; an emergency command ends it.
def Program.forecast (timing : Timing) (now : Nat) (armed : Bool) (executed : Nat) : Program → Forecast
  | [] => ⟨[], now, ⟨.completed, executed, none⟩⟩
  | .emergency :: _ => ⟨[now], now, ⟨.aborted, executed + 1, none⟩⟩
  | command :: rest =>
      (Program.forecast timing (now + command.span timing armed) (command.leavesArmed armed)
        (executed + 1) rest).looked (now :: command.ticksFrom timing now)

namespace Action

def span (armed : Bool) : Action → Nat
  | .hold millis => sleepOf (millis.getD 0)
  | .armMotors settle => if armed then 0 else sleepOf settle
  | .ticks _ left pace => left * sleepOf pace
  | _ => 0

def leavesArmed (before : Bool) : Action → Bool
  | .markArmed armed => armed
  | .armMotors _ => true
  | _ => before

def looksFrom (now : Nat) : Action → List Nat
  | .guardMove => [now]
  | .ticks _ left pace => (List.range left).map fun tick => now + tick * sleepOf pace
  | _ => []

end Action

inductive Item where
  | look
  | act (action : Action)
  | count

def scriptOf (plan : List (List Action)) : List Item :=
  plan.flatMap fun actions => .look :: actions.map .act ++ [.count]

def forecast (now : Nat) (armed : Bool) (executed : Nat) : List Item → Forecast
  | [] => ⟨[], now, ⟨.completed, executed, none⟩⟩
  | .look :: rest => (forecast now armed executed rest).looked [now]
  | .count :: rest => forecast now armed (executed + 1) rest
  | .act .cut :: _ => ⟨[], now, ⟨.aborted, executed + 1, none⟩⟩
  | .act action :: rest =>
      (forecast (now + action.span armed) (action.leavesArmed armed) executed rest).looked
        (action.looksFrom now)

theorem looked_nil (f : Forecast) : f.looked [] = f := rfl

theorem looked_looked (first later : List Nat) (f : Forecast) :
    (f.looked later).looked first = f.looked (first ++ later) := by
  simp [Forecast.looked]

theorem forecast_act (now : Nat) (armed : Bool) (executed : Nat) (action : Action) (rest : List Item)
    (going : action ≠ .cut) : forecast now armed executed (.act action :: rest) =
      (forecast (now + action.span armed) (action.leavesArmed armed) executed rest).looked
        (action.looksFrom now) := by
  cases action with
  | cut => exact absurd rfl going
  | _ => rfl

theorem ends_later (now : Nat) (armed : Bool) (executed : Nat) (script : List Item) :
    now ≤ (forecast now armed executed script).ends := by
  induction script generalizing now armed executed with
  | nil => exact Nat.le_refl now
  | cons item rest ih =>
      cases item with
      | look => exact ih now armed executed
      | count => exact ih now armed (executed + 1)
      | act action =>
          by_cases cut : action = .cut
          · subst cut
            exact Nat.le_refl now
          · rw [forecast_act now armed executed action rest cut]
            exact Nat.le_trans (Nat.le_add_right _ _) (ih _ _ executed)

theorem ramp_forecast (throttles : List Single) (pace now : Nat) (armed : Bool) (executed : Nat)
    (rest : List Item) :
    forecast now armed executed ((throttles.flatMap fun throttle =>
        [Action.send (.control (.level throttle)), .hold (some pace)]).map .act ++ rest) =
      forecast (now + throttles.length * sleepOf pace) armed executed rest := by
  induction throttles generalizing now with
  | nil => simp
  | cons throttle lower ih =>
      simp only [List.flatMap_cons, List.map_cons, List.cons_append, List.nil_append, forecast, Action.span,
        Action.leavesArmed, Action.looksFrom, looked_nil, Option.getD_some, Nat.add_zero, ih, List.length_cons,
        Nat.succ_mul]
      congr 1
      omega

theorem actions_forecast (timing : Timing) (command : Command) (now : Nat) (armed : Bool)
    (executed : Nat) (rest : List Item) (going : command ≠ .emergency) :
    forecast now armed executed ((command.actions timing).map .act ++ rest) =
      (forecast (now + command.span timing armed) (command.leavesArmed armed) executed rest).looked
        (command.ticksFrom timing now) := by
  cases command with
  | emergency => exact absurd rfl going
  | takeoff delay =>
      simp only [Command.actions, Ramp.actions, List.map_append, List.map_cons, List.map_nil,
        List.append_assoc, List.cons_append, List.nil_append, forecast, ramp_forecast, Action.span,
        Action.leavesArmed, Action.looksFrom, looked_nil, Command.span, Command.leavesArmed,
        Command.ticksFrom, holdTime, Nat.add_zero, Nat.add_assoc]
      rfl
  | land delay =>
      simp only [Command.actions, Ramp.actions, List.map_append, List.map_cons, List.map_nil,
        List.append_assoc, List.cons_append, List.nil_append, forecast, ramp_forecast, Action.span,
        Action.leavesArmed, Action.looksFrom, looked_nil, Command.span, Command.leavesArmed,
        Command.ticksFrom, holdTime, Nat.add_zero, Nat.add_assoc]
  | hover delay => rfl
  | wait duration => rfl
  | led payload delay => rfl
  | move setpoint duration => rfl

theorem plan_forecast (timing : Timing) (program : Program) (now : Nat) (armed : Bool) (executed : Nat) :
    forecast now armed executed (scriptOf (program.plan timing)) =
      program.forecast timing now armed executed := by
  induction program generalizing now armed executed with
  | nil => rfl
  | cons command rest ih =>
      have script : scriptOf (Program.plan timing (command :: rest)) =
          .look :: ((command.actions timing).map .act ++ .count :: scriptOf (Program.plan timing rest)) := by
        simp [scriptOf, Program.plan]
      rw [script, forecast]
      by_cases emergency : command = .emergency
      · subst emergency
        rfl
      · rw [actions_forecast timing command now armed executed _ emergency, forecast, ih, looked_looked]
        cases command with
        | emergency => exact absurd rfl emergency
        | _ => rfl

end FlightSupervisor
