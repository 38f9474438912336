import FlightSupervisor.Proofs.RunMoves
import FlightSupervisor.Proofs.StatementGrammar
import FlightSupervisor.Source
/-!
Programs that are read from a text.  No hold in them is negative or longer than the longest wait
(`read_stay_within`), so each of them has a length, and their tasks never break down (`plan_sound`).
-/

set_option autoImplicit false

namespace FlightSupervisor

def Phase.isActive : Phase → Bool
  | .takeoff | .running | .emergencyLanding => true
  | .idle | .completed | .aborted => false

-- Actions that do not break the task of a program, and announce nothing but that it is on its way.
def Action.isSound : Action → Bool
  | .publish phase => phase.isActive
  | .hold millis => millis.isSome
  | _ => true

def Command.stay : Command → Single
  | .takeoff delay | .land delay | .hover delay | .led _ delay => delay
  | .wait duration => duration
  | .emergency | .move .. => 0

theorem max_wait_limits :
    Command.maxWait.order = some (30 * 2 ^ (149 : Nat)) ∧ (0 : Single) < Command.maxWait ∧
      ¬ (Binary.infinite false : Single) ≤ Command.maxWait ∧ ¬ (0 : Single) ≤ Binary.infinite true ∧
      nanoseconds? 0 = some 0 ∧
      ∀ delay ∈ ([3, 1, 0.5, 0] : List Single), 0 ≤ delay ∧ delay ≤ Command.maxWait := by
  decide +kernel

theorem nanoseconds_within (seconds : Single) (low : 0 ≤ seconds) (high : seconds ≤ Command.maxWait) :
    ∃ nanos, nanoseconds? seconds = some nanos ∧ nanos ≤ 30 * 10 ^ (9 : Nat) := by
  obtain ⟨units, place⟩ := Binary.order_of_nonneg seconds low
  obtain ⟨order, _, endless, below, nothing, _⟩ := max_wait_limits
  have limit : (units : Int) ≤ 30 * 2 ^ (149 : Nat) := (Binary.le_iff_order _ _ _ _ place order).mp high
  have rounded := roundEven_mono (2 ^ (149 : Nat)) (units * 10 ^ (9 : Nat)) (30 * 2 ^ (149 : Nat) * 10 ^ (9 : Nat))
    (Nat.mul_le_mul_right _ (by omega))
  have most : roundEven (30 * 2 ^ (149 : Nat) * 10 ^ (9 : Nat)) (2 ^ (149 : Nat)) = 30 * 10 ^ (9 : Nat) := by
    decide
  rw [most] at rounded
  by_cases early : seconds ≤ 0
  · refine ⟨0, ?_, Nat.zero_le _⟩
    have same : nanoseconds? seconds = nanoseconds? 0 := by
      rw [nanoseconds?, nanoseconds?, Binary.max, Binary.max, if_pos (by simp [early]), ite_self]
    exact same.trans nothing
  · rw [nanoseconds?, Binary.max, if_neg (by simp [early, Binary.number_of_order seconds _ place])]
    cases seconds with
    | nan => cases place
    | infinite negative =>
        cases negative with
        | true => exact absurd low below
        | false => exact absurd high endless
    | finite negative others fits =>
        obtain ⟨rfl, _⟩ := Binary.signed_natural negative others units (Option.some.inj place)
        have room : 30 * 10 ^ (9 : Nat) < 2 ^ (64 : Nat) * 10 ^ (9 : Nat) := by decide
        exact ⟨_, if_pos (Nat.lt_of_le_of_lt rounded room), rounded⟩

theorem hold_has_length (seconds : Single) (low : 0 ≤ seconds) (high : seconds ≤ Command.maxWait) :
    (holdMillis? seconds).isSome = true := by
  obtain ⟨nanos, lasts, _⟩ := nanoseconds_within seconds low high
  rw [holdMillis?, lasts]
  rfl

namespace Command

theorem stands_stay (policy : Policy) (statement : List Char) (name : String) (arguments : List Char)
    (command : Command) (stands : Stands policy statement name arguments command) :
    0 ≤ command.stay ∧ command.stay ≤ maxWait := by
  obtain ⟨_, _, _, _, _, delays⟩ := max_wait_limits
  cases stands with
  | wait _ _ seconds _ amounts =>
      exact (Binary.min_bounded seconds maxWait amounts.finite amounts.low max_wait_limits.2.1).2
  | _ => exact delays _ (by simp [stay])

theorem ramp_sound (ramp : Ramp) (pace : Nat) : (ramp.actions pace).all Action.isSound = true := by
  simp [Ramp.actions, List.all_flatMap, Action.isSound]

theorem actions_sound (timing : Timing) (command : Command) (low : 0 ≤ command.stay)
    (high : command.stay ≤ maxWait) : (command.actions timing).all Action.isSound = true := by
  have holds : (holdMillis? command.stay).isSome = true := hold_has_length command.stay low high
  cases command with
  | takeoff delay | land delay =>
      simp only [Command.actions, List.all_append, ramp_sound, List.all_cons, List.all_nil,
        Action.isSound, Phase.isActive, Bool.and_true, Bool.true_and]
      exact holds
  | hover delay | wait duration | led payload delay =>
      simp only [Command.actions, List.all_cons, List.all_nil, Action.isSound, Bool.and_true]
      exact holds
  | emergency | move setpoint duration => rfl

end Command

theorem read_stay_within (policy : Policy) (text : String) (command : Command)
    (member : command ∈ Program.read policy text) : 0 ≤ command.stay ∧ command.stay ≤ Command.maxWait := by
  obtain ⟨statement, _, read⟩ := List.mem_filterMap.mp member
  obtain ⟨name, arguments, stands⟩ := statement_stands policy statement command read
  exact Command.stands_stay policy statement name _ command stands

theorem plan_sound (policy : Policy) (timing : Timing) (text : String) (actions : List Action)
    (member : actions ∈ (Program.read policy text).plan timing) :
    actions.all Action.isSound = true := by
  obtain ⟨command, read, same⟩ := List.mem_map.mp member
  obtain ⟨low, high⟩ := read_stay_within policy text command read
  rw [← same]
  exact command.actions_sound timing low high

end FlightSupervisor
