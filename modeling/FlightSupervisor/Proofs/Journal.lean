import FlightSupervisor.Cockpit
/-!
The journal as a record of who wrote what while who was in control.  Nothing that happens to a
cockpit takes entries away; `Extends` says what kind of entries it adds.
-/

set_option autoImplicit false

namespace FlightSupervisor

def Event.program? : Event → Option Nat
  | .write (.program run _) _ _ => some run
  | .write .operator _ _ => none
  | .phase run _ => some run

-- Frames that steer or arm, as opposed to those that ask or cut the motors.
def Frame.drives : Frame → Bool
  | .control _ | .arm => true
  | .disarm | .status => false

def Event.isDrive : Event → Bool
  | .write (.program _ _) frame _ => frame.drives
  | _ => false

-- The one frame that may go out whoever is in control is `DISARM`: from the operator, from the
-- emergency command and at the end of an emergency landing. All else needs the right owner.
def Entry.Rightful (entry : Entry) : Prop :=
  match entry.event with
  | .write .operator frame _ => frame = .disarm ∨ entry.flight.autonomous = false
  | .write (.program _ .command) _ _ => entry.flight.autonomous = true
  | .write (.program _ .cut) frame _ => frame = .disarm
  | .write (.program _ .landing) frame _ => frame = .disarm ∨ entry.flight.autonomous = true
  | .phase _ _ => True

theorem rightful_drive_controls (entry : Entry) (rightful : entry.Rightful)
    (drive : entry.event.isDrive = true) : entry.flight.autonomous = true := by
  obtain ⟨time, flight, event⟩ := entry
  cases event with
  | phase run phase => cases drive
  | write issuer frame delivered =>
      cases issuer with
      | operator => cases drive
      | program run purpose =>
          cases purpose with
          | command => exact rightful
          | cut =>
              have cut : frame = .disarm := rightful
              subst cut
              cases drive
          | landing =>
              rcases rightful with cut | control
              · have cut : frame = .disarm := cut
                subst cut
                cases drive
              · exact control

namespace Cockpit

def Extends (kind : Entry → Prop) (c later : Cockpit) : Prop :=
  ∃ fresh, later.journal = fresh ++ c.journal ∧ ∀ entry ∈ fresh, kind entry

-- The entries that a cockpit has beyond those of an earlier one.
def since (later earlier : Cockpit) : List Entry :=
  later.journal.take (later.journal.length - earlier.journal.length)

theorem extends_same (kind : Entry → Prop) (c later : Cockpit) (same : later.journal = c.journal) :
    Extends kind c later :=
  ⟨[], same, by simp⟩

theorem extends_trans (kind : Entry → Prop) (a b c : Cockpit) (first : Extends kind a b)
    (second : Extends kind b c) : Extends kind a c := by
  obtain ⟨early, earlyEq, earlyKind⟩ := first
  obtain ⟨late, lateEq, lateKind⟩ := second
  refine ⟨late ++ early, by rw [lateEq, earlyEq, List.append_assoc], ?_⟩
  exact List.forall_mem_append.mpr ⟨lateKind, earlyKind⟩

theorem extends_weaken (kind wider : Entry → Prop) (c later : Cockpit)
    (covers : ∀ entry, kind entry → wider entry) (ext : Extends kind c later) :
    Extends wider c later := by
  obtain ⟨fresh, same, all⟩ := ext
  exact ⟨fresh, same, fun entry member => covers entry (all entry member)⟩

theorem since_append (c later : Cockpit) (fresh : List Entry)
    (same : later.journal = fresh ++ c.journal) : later.since c = fresh := by
  simp [since, same]

theorem extends_since (kind : Entry → Prop) (c later : Cockpit) (ext : Extends kind c later) :
    ∀ entry ∈ later.since c, kind entry := by
  obtain ⟨fresh, same, all⟩ := ext
  rw [since_append c later fresh same]
  exact all

theorem publish_extends (kind : Entry → Prop) (c : Cockpit) (run : Nat) (phase : Phase)
    (fits : kind ⟨c.clock, c.flight, .phase run phase⟩) : Extends kind c (c.publish run phase) :=
  ⟨[⟨c.clock, c.flight, .phase run phase⟩], rfl, by simpa using fits⟩

section Write

variable (c : Cockpit) (issuer : Issuer) (frame : Frame)

theorem write_works (works : c.link.fails = false) :
    c.write issuer frame = (.ok (), (c.write issuer frame).2) := by
  simp [write, works]

theorem write_fails (fails : c.link.fails = true) :
    c.write issuer frame = (.error (.io Link.fault), (c.write issuer frame).2) := by
  simp [write, fails]

theorem write_journal : (c.write issuer frame).2.journal =
    ⟨c.clock, c.flight, .write issuer frame (!c.link.fails)⟩ :: c.journal := by
  rw [write]
  cases c.link.fails <;> rfl

theorem write_extends (kind : Entry → Prop)
    (fits : kind ⟨c.clock, c.flight, .write issuer frame (!c.link.fails)⟩) :
    Extends kind c (c.write issuer frame).2 :=
  ⟨[⟨c.clock, c.flight, .write issuer frame (!c.link.fails)⟩], c.write_journal issuer frame,
    by simpa using fits⟩

@[simp] theorem write_autonomous :
    (c.write issuer frame).2.flight.autonomous = c.flight.autonomous := by
  rw [write]
  cases c.link.fails <;> rfl

@[simp] theorem write_phase : (c.write issuer frame).2.phase = c.phase := by
  rw [write]
  cases c.link.fails <;> rfl

theorem send_admitted (gate : Gate) (admitted : gate.admits c.flight.autonomous = true) :
    c.send gate issuer frame = c.write issuer frame := by
  simp [send, admitted]

theorem send_refused (gate : Gate) (refused : gate.admits c.flight.autonomous = false) :
    c.send gate issuer frame =
      (.error (if gate = .manual then .autonomousMode else .notAutonomous), c) := by
  cases gate <;> simp_all [send, Gate.admits]

theorem send_extends (kind : Entry → Prop) (gate : Gate)
    (fits : gate.admits c.flight.autonomous = true →
      kind ⟨c.clock, c.flight, .write issuer frame (!c.link.fails)⟩) :
    Extends kind c (c.send gate issuer frame).2 := by
  cases admitted : gate.admits c.flight.autonomous with
  | true =>
      rw [send_admitted c issuer frame gate admitted]
      exact write_extends c issuer frame kind (fits admitted)
  | false =>
      rw [send_refused c issuer frame gate admitted]
      exact extends_same kind c c rfl

@[simp] theorem send_autonomous (gate : Gate) :
    (c.send gate issuer frame).2.flight.autonomous = c.flight.autonomous := by
  cases admitted : gate.admits c.flight.autonomous with
  | true => rw [send_admitted c issuer frame gate admitted, write_autonomous]
  | false => rw [send_refused c issuer frame gate admitted]

@[simp] theorem send_phase (gate : Gate) : (c.send gate issuer frame).2.phase = c.phase := by
  cases admitted : gate.admits c.flight.autonomous with
  | true => rw [send_admitted c issuer frame gate admitted, write_phase]
  | false => rw [send_refused c issuer frame gate admitted]

end Write

end Cockpit

end FlightSupervisor
