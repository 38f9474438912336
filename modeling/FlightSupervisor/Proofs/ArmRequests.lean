import FlightSupervisor.Proofs.History
/-!
Arm requests.  A request that waits for its answer is open.  Nothing opens one but its beginning, which
has just delivered an `ARM` (`begin_arm_answering`); so while a request is open, the flight controller has
been told to arm since any moment at which none was (`meet_answering`).
-/

set_option autoImplicit false

namespace FlightSupervisor

def Event.isArm : Event → Bool
  | .write _ .arm true => true
  | _ => false

namespace Cockpit

-- The flight controller has been told to arm since an earlier cockpit.
def AskedSince (c earlier : Cockpit) : Prop := ∃ entry ∈ c.since earlier, entry.event.isArm = true

instance (earlier c : Cockpit) : Decidable (c.AskedSince earlier) :=
  inferInstanceAs (Decidable (∃ entry ∈ c.since earlier, entry.event.isArm = true))

theorem extends_any (kind : Entry → Prop) (c later : Cockpit) (ext : c.Extends kind later) :
    c.Extends (fun _ => True) later :=
  extends_weaken _ _ _ _ (fun _ _ => trivial) ext

theorem asked_grown (kind : Entry → Prop) (earlier c later : Cockpit)
    (grown : earlier.Extends (fun _ => True) c) (ext : c.Extends kind later)
    (asked : c.AskedSince earlier) : later.AskedSince earlier := by
  obtain ⟨fresh, same, _⟩ := grown
  obtain ⟨more, next, _⟩ := ext
  have whole : later.journal = (more ++ fresh) ++ earlier.journal := by
    rw [next, same, List.append_assoc]
  rw [AskedSince, since_append earlier later _ whole]
  rw [AskedSince, since_append earlier c fresh same] at asked
  obtain ⟨entry, member, arm⟩ := asked
  exact ⟨entry, List.mem_append_right _ member, arm⟩

theorem asked_written (earlier c : Cockpit) (issuer : Issuer) (grown : earlier.Extends (fun _ => True) c)
    (works : c.link.fails = false) : (c.write issuer .arm).2.AskedSince earlier := by
  obtain ⟨fresh, same, _⟩ := grown
  have whole : (c.write issuer .arm).2.journal =
      (⟨c.clock, c.flight, .write issuer .arm true⟩ :: fresh) ++ earlier.journal := by
    rw [write_journal, same, works]
    rfl
  rw [AskedSince, since_append earlier _ _ whole]
  exact ⟨_, List.mem_cons_self, rfl⟩

theorem sent_delivered (c later : Cockpit) (gate : Gate) (issuer : Issuer) (frame : Frame)
    (sent : c.send gate issuer frame = (.ok (), later)) :
    c.link.fails = false ∧ later = (c.write issuer frame).2 := by
  cases admitted : gate.admits c.flight.autonomous with
  | false =>
      rw [send_refused c issuer frame gate admitted] at sent
      cases sent
  | true =>
      rw [send_admitted c issuer frame gate admitted] at sent
      cases works : c.link.fails with
      | false => exact ⟨rfl, by rw [sent]⟩
      | true =>
          rw [write_fails c issuer frame works] at sent
          cases sent

theorem asked_same (earlier c later : Cockpit) (journal : later.journal = c.journal) :
    later.AskedSince earlier ↔ c.AskedSince earlier := by
  simp only [AskedSince, since, journal]

end Cockpit

def FlightState.marked (outcome : ArmOutcome) (f : FlightState) : FlightState :=
  if outcome = .armed then f.setArmed true else f

namespace Supervisor

theorem conclude_marks (s : Supervisor) (outcome : ArmOutcome) :
    s.concludeHandshakes outcome =
      { s with
        handshakes := s.handshakes.map (Handshake.finish outcome)
        cockpit := s.cockpit.changeFlight (FlightState.marked outcome) } := by
  unfold concludeHandshakes Cockpit.changeFlight FlightState.marked
  dsimp only
  split <;> rfl

def isAnswering (s : Supervisor) : Bool := s.handshakes.any Handshake.isOpen

theorem pending_answering (s : Supervisor) (outcome : ArmOutcome)
    (pending : s.pendingOutcome? = some outcome) : s.isAnswering = true := by
  rw [pendingOutcome?] at pending
  split at pending
  · assumption
  · cases pending

theorem act_handshakes (s : Supervisor) (deed : Deed) : (s.act deed).handshakes = s.handshakes := by
  cases deed <;> rfl

theorem wake_run_handshakes (s : Supervisor) (id : Nat) : (s.wakeRun id).handshakes = s.handshakes := by
  rw [wakeRun]
  split
  · rfl
  · dsimp only
    split <;> rfl

theorem rouse_handshakes (s : Supervisor) (sleeper : Sleeper) :
    (s.rouse sleeper).handshakes = s.handshakes := by
  cases sleeper with
  | run id => exact wake_run_handshakes s id
  | reply data => rfl
  | deed deed => exact act_handshakes s deed
  | watchdog timing => rfl

theorem request_stop_handshakes (s : Supervisor) (id : Nat) :
    (s.requestStop id).handshakes = s.handshakes := by
  rw [requestStop]
  split
  · rfl
  · dsimp only
    split <;> rfl

theorem start_handshakes (s t : Supervisor) (program : Program) (id : Nat)
    (started : s.start? program = some (id, t)) : t.handshakes = s.handshakes := by
  obtain ⟨flight, _, same⟩ := Option.map_eq_some_iff.mp started
  cases same
  rfl

theorem submit_handshakes (s : Supervisor) (code : String) :
    (s.submit code).2.handshakes = s.handshakes := by
  rw [submit]
  dsimp only
  split
  · rfl
  split
  · rfl
  split
  · rfl
  · cases started : s.start? (Program.read s.rules.policy code) with
    | none => rfl
    | some pair => exact start_handshakes s pair.2 _ pair.1 started

theorem steer_handshakes (s : Supervisor) (input : StickInput) :
    (s.steer input).2.handshakes = s.handshakes := by
  rw [steer]
  split
  · rfl
  split
  · rfl
  · dsimp only
    split <;> rfl

theorem receive_handshakes (s : Supervisor) (request : Request) (other : request ≠ .arm) :
    (s.receive request).handshakes = s.handshakes := by
  cases request with
  | run code => exact submit_handshakes s code
  | joystick input => exact steer_handshakes s input
  | arm => exact absurd rfl other
  | disarm | telemetry | status => rfl
  | stop =>
      show s.stop.2.handshakes = s.handshakes
      rw [stop]
      split
      · exact request_stop_handshakes s _
      · rfl

theorem expire_answering (s : Supervisor) (answering : s.expireHandshakes.isAnswering = true) :
    s.isAnswering = true := by
  obtain ⟨later, member, waits⟩ := List.any_eq_true.mp answering
  obtain ⟨h, before, same⟩ := List.mem_map.mp member
  refine List.any_eq_true.mpr ⟨h, before, ?_⟩
  subst same
  split at waits
  · rename_i late
    exact (Bool.and_eq_true_iff.mp late).1
  · exact waits

theorem conclude_answering (s : Supervisor) (outcome : ArmOutcome) :
    (s.concludeHandshakes outcome).isAnswering = false := by
  rw [isAnswering, conclude_marks, List.any_map, List.any_eq_false]
  intro h _
  simp only [Function.comp_apply, Handshake.finish]
  split
  · simp [Handshake.isOpen]
  · assumption

theorem begin_arm_answering (s : Supervisor) (timeout : Nat) (earlier : Cockpit)
    (grown : earlier.Extends (fun _ => True) s.cockpit)
    (answering : (s.beginArm timeout).2.isAnswering = true) :
    s.isAnswering = true ∨ (s.beginArm timeout).2.cockpit.AskedSince earlier := by
  let cleared := s.changeFlight (FlightState.answerArm .none)
  cases sent : cleared.cockpit.send .manual .operator .arm with
  | mk result cockpit =>
      rw [beginArm] at answering ⊢
      dsimp only at answering ⊢
      rw [sent] at answering ⊢
      cases result with
      | error cause => exact .inl answering
      | ok =>
          obtain ⟨works, same⟩ := Cockpit.sent_delivered cleared.cockpit cockpit .manual .operator .arm sent
          have asked := Cockpit.asked_written earlier cleared.cockpit .operator grown works
          rw [← same] at asked
          exact .inr asked

theorem meet_answering (s : Supervisor) (h : Happening) (earlier : Cockpit)
    (grown : earlier.Extends (fun _ => True) s.cockpit) (answering : (s.meet h).isAnswering = true) :
    s.isAnswering = true ∨ (s.meet h).cockpit.AskedSince earlier := by
  have kept (same : (s.meet h).handshakes = s.handshakes) : s.isAnswering = true := by
    rw [isAnswering, ← same]
    exact answering
  cases h with
  | pass | putOff | vacate => exact .inl (kept rfl)
  | rouse alarm =>
      refine .inl (kept ?_)
      rw [meet]
      split
      · exact rouse_handshakes _ alarm.sleeper
      · rfl
  | expire => exact .inl (expire_answering s answering)
  | conclude =>
      rw [meet] at answering
      cases pending : s.pendingOutcome? with
      | none =>
          rw [pending] at answering
          exact .inl answering
      | some outcome =>
          rw [pending] at answering
          exact absurd ((conclude_answering s outcome).symm.trans answering) (by simp)
  | deed deed => exact .inl (kept (act_handshakes s deed))
  | request request =>
      by_cases arms : request = .arm
      · subst arms
        rw [meet, receive] at answering ⊢
        split at answering
        · exact .inl answering
        · rename_i accepted
          rw [if_neg accepted]
          exact begin_arm_answering s s.armTimeout earlier grown answering
      · exact .inl (kept (receive_handshakes s request arms))
  | beginArm timeout => exact begin_arm_answering s timeout earlier grown answering
  | start program =>
      refine .inl (kept ?_)
      rw [meet]
      cases started : s.start? program with
      | none => rfl
      | some pair => exact start_handshakes s pair.2 program pair.1 started
  | stop id => exact .inl (kept (request_stop_handshakes s id))

end Supervisor

end FlightSupervisor
