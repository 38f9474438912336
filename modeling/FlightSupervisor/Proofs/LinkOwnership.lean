import FlightSupervisor.Proofs.Orderly
/-!
Who owns the link.  Every frame in the journal was written by someone who might write it at that
moment, and from the moment control is revoked no program steers or arms until control is taken again
(`link_ownership`).
-/

set_option autoImplicit false

namespace FlightSupervisor

namespace Supervisor

def Admitted (control : Bool) (entry : Entry) : Prop :=
  entry.Rightful ∧ (entry.event.isDrive = true → control = true)

theorem operator_admitted (control : Bool) (entry : Entry) (written : entry.ByOperator) :
    Admitted control entry := by
  refine ⟨written.2, ?_⟩
  intro drive
  obtain ⟨time, flight, event⟩ := entry
  cases event with
  | phase run phase => cases drive
  | write issuer frame delivered =>
      cases issuer with
      | operator => cases drive
      | program run purpose => cases written.1

theorem program_admitted (id : Nat) (control : Bool) (entry : Entry)
    (written : entry.ByProgram id control) : Admitted control entry :=
  ⟨written.rightful, fun drive =>
    written.controlled (rightful_drive_controls entry written.rightful drive)⟩

theorem phase_admitted (control : Bool) (id : Nat) (phase : Phase) (entry : Entry)
    (published : entry.event = .phase id phase) : Admitted control entry := by
  obtain ⟨time, flight, event⟩ := entry
  cases published
  exact ⟨trivial, fun drive => by cases drive⟩

theorem meet_admitted (s : Supervisor) (h : Happening) :
    s.cockpit.Extends (Admitted s.flight.autonomous) (s.meet h).cockpit := by
  have course := meet_course s h
  generalize s.meet h = t at course ⊢
  cases course with
  | spare _ _ quiet spares yields =>
      exact Cockpit.extends_weaken _ _ _ _ (operator_admitted _) spares.entries
  | wake due id member past =>
      exact Cockpit.extends_weaken _ _ _ _ (program_admitted id _) (wake_run_entries s _ id)
  | submit code id t free started =>
      exact Cockpit.extends_weaken _ _ _ _ (phase_admitted _ id .running)
        (start_started s t _ id started).entries
  | start program id t started =>
      exact Cockpit.extends_weaken _ _ _ _ (phase_admitted _ id .running)
        (start_started s _ program id started).entries
  | tell _ id quiet =>
      rw [(request_stop_told s id).cockpit]
      exact Cockpit.extends_same _ _ _ rfl
  | vacate => exact Cockpit.extends_same _ _ _ rfl

theorem after_rightful (s : Supervisor) (history : List Happening) :
    s.cockpit.Extends Entry.Rightful (s.after history).cockpit := by
  induction history generalizing s with
  | nil => exact Cockpit.extends_same _ _ _ rfl
  | cons h later ih =>
      refine Cockpit.extends_trans _ _ _ _ ?_ (ih (s.meet h))
      exact Cockpit.extends_weaken _ _ _ _ (fun _ admitted => admitted.1) (meet_admitted s h)

theorem after_undriven (s : Supervisor) (history : List Happening)
    (released : ∀ n, (s.after (history.take n)).flight.autonomous = false) :
    s.cockpit.Extends (fun entry => entry.event.isDrive = false) (s.after history).cockpit := by
  induction history generalizing s with
  | nil => exact Cockpit.extends_same _ _ _ rfl
  | cons h later ih =>
      have now : s.flight.autonomous = false := released 0
      refine Cockpit.extends_trans _ _ _ _ ?_ (ih (s.meet h) fun n => released (n + 1))
      refine Cockpit.extends_weaken _ _ _ _ ?_ (meet_admitted s h)
      intro entry admitted
      cases drive : entry.event.isDrive with
      | false => rfl
      | true => exact absurd (admitted.2 drive) (by simp [now])

theorem disarm_revokes (s : Supervisor) : s.disarm.2.flight.autonomous = false := by
  let disarmed := s.changeFlight FlightState.forceDisarm
  show (disarmed.cockpit.send .all .operator .disarm).2.flight.autonomous = false
  rw [Cockpit.send_autonomous]
  rfl

theorem alert_revokes (s : Supervisor) (data : Bytes) (text : String)
    (alert : .alert text ∈ s.decoder.completed data) : (s.feed data).2.flight.autonomous = false := by
  show ((s.decoder.completed data).foldl FlightState.hear s.flight).autonomous = false
  obtain ⟨earlier, rest, same⟩ := List.append_of_mem alert
  rw [same, List.foldl_append, List.foldl_cons]
  cases control : (rest.foldl FlightState.hear
      ((earlier.foldl FlightState.hear s.flight).hear (.alert text))).autonomous with
  | false => rfl
  | true => cases hear_all_control rest _ control

-- The operator has disarmed, or data with an alert in it has been decoded.
inductive Revoked (s : Supervisor) : Supervisor → Prop where
  | disarm : Revoked s s.disarm.2
  | alert (data : Bytes) (text : String) (heard : .alert text ∈ s.decoder.completed data) :
      Revoked s (s.feed data).2

theorem revoked_released (s t : Supervisor) (revoked : Revoked s t) :
    t.flight.autonomous = false := by
  cases revoked with
  | disarm => exact disarm_revokes s
  | alert data text heard => exact alert_revokes s data text heard

/-- Whatever happens, each frame is written by whoever has the right to write it then. Once the operator has disarmed or
an alert has been decoded, no program steers or arms before control is taken again. -/
theorem link_ownership (s : Supervisor) (history : List Happening) :
    (∀ entry ∈ (s.after history).cockpit.since s.cockpit, entry.Rightful) ∧
      (∀ request, ∀ entry ∈ (s.handle request).2.cockpit.since s.cockpit, entry.Rightful) ∧
      ∀ t, Revoked (s.after history) t → t.flight.autonomous = false ∧
        ∀ later, (∀ n, 0 < n → (t.after (later.take n)).flight.autonomous = false) →
          ∀ entry ∈ (t.after later).cockpit.since t.cockpit, entry.event.isDrive = false := by
  refine ⟨Cockpit.extends_since _ _ _ (after_rightful s history), ?_, ?_⟩
  · intro request
    obtain ⟨whole, _, same⟩ := handle_after s request
    rw [same]
    exact Cockpit.extends_since _ _ _ (after_rightful s whole)
  · intro t revoked
    have now := revoked_released _ t revoked
    refine ⟨now, ?_⟩
    intro later released
    apply Cockpit.extends_since _ _ _ (after_undriven t later _)
    intro n
    cases n with
    | zero => exact now
    | succ n => exact released (n + 1) (Nat.succ_pos n)

-- The operator disarms while a program that is to steer afterwards waits.
theorem disarmed_program_undriven :
    let s := charged.after [.start [.wait 5, .hover 0], .rouse ⟨0, .run 0⟩]
    let t := s.disarm.2
    s.flight.autonomous = true ∧ t.isLive 0 = true ∧
      ∀ entry ∈ (t.after [.pass 5000, .rouse ⟨5000, .run 0⟩]).cockpit.since t.cockpit,
        entry.event.isDrive = false := by
  refine ⟨by decide +kernel, by decide +kernel, ?_⟩
  refine ((link_ownership charged _).2.2 _ .disarm).2 _ ?_
  intro n _
  rcases n with _ | _ | n <;> simp only [List.take, List.take_nil] <;> decide +kernel

end Supervisor

end FlightSupervisor
