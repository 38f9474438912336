import FlightSupervisor.Proofs.StatementGrammar
import FlightSupervisor.Proofs.Turns
import FlightSupervisor.Source
/-!
What programs write.  A program writes the frames of its commands, those of an emergency landing and
`DISARM`, whatever happens around it (`after_confined`).  So a program that is read from a text has a
handful of lines to say: no number in the text and no policy gets into any of them
(`macro_program_lines`).
-/

set_option autoImplicit false

namespace FlightSupervisor

def Action.frames : Action → List Frame
  | .send frame => [frame]
  | .armMotors _ => [.arm]
  | .ticks setpoint _ _ => [.control setpoint]
  | .cut => [.disarm]
  | _ => []

def Entry.Carries (allowed : Frame → Prop) (entry : Entry) : Prop :=
  match entry.event with
  | .write _ frame _ => allowed frame
  | .phase _ _ => True

structure Landable (allowed : Frame → Prop) : Prop where
  disarm : allowed .disarm
  descent : ∀ throttle ∈ emergencyRamp.throttles, allowed (.control (.level throttle))

namespace Run

structure Confined (allowed : Frame → Prop) (r : Run) : Prop where
  plan : ∀ actions ∈ r.plan, ∀ frame ∈ actions.flatMap Action.frames, allowed frame
  todo : ∀ todo, r.activity = .carrying todo → ∀ frame ∈ todo.flatMap Action.frames, allowed frame
  descent : ∀ trip throttles, r.activity = .descending trip throttles →
    ∀ throttle ∈ throttles, allowed (.control (.level throttle))

section Confined

variable (allowed : Frame → Prop)

theorem finish_confined (id : Nat) (phase : Phase) (reason : Option Trip) (c : Cockpit) (r : Run)
    (confined : r.Confined allowed) :
    (r.finish id phase reason c).2.Confined allowed ∧
      c.Extends (Entry.Carries allowed) (r.finish id phase reason c).1 :=
  ⟨⟨confined.plan, nofun, nofun⟩,
    Cockpit.publish_extends _ (c.changeFlight FlightState.leaveAutonomous) id phase trivial⟩

theorem last_confined (id : Nat) (purpose : Purpose) (phase : Phase) (reason : Option Trip)
    (c : Cockpit) (r : Run) (landable : Landable allowed) (confined : r.Confined allowed) :
    (r.finish id phase reason ((c.write (.program id purpose) .disarm).2.changeFlight
        (FlightState.setArmed false))).2.Confined allowed ∧
      c.Extends (Entry.Carries allowed)
        (r.finish id phase reason ((c.write (.program id purpose) .disarm).2.changeFlight
          (FlightState.setArmed false))).1 := by
  have written := Cockpit.write_extends c (.program id purpose) .disarm (Entry.Carries allowed)
    landable.disarm
  obtain ⟨last, ended⟩ := finish_confined allowed id phase reason
    ((c.write (.program id purpose) .disarm).2.changeFlight (FlightState.setArmed false)) r confined
  exact ⟨last, Cockpit.extends_trans _ _ _ _ written ended⟩

theorem carrying_confined (todo : List Action) (r : Run) (confined : r.Confined allowed)
    (frames : ∀ frame ∈ todo.flatMap Action.frames, allowed frame) : (r.goOn todo).Confined allowed where
  plan := confined.plan
  todo := by
    intro other same
    cases same
    exact frames
  descent := nofun

theorem unfolds_frames (rules : Rules) (c : Cockpit) (r : Run) (action : Action) (more : List Action)
    (unfolds : Unfolds rules c r action more) : more.flatMap Action.frames ⊆ action.frames := by
  cases unfolds <;> simp [Action.frames]

theorem descend_confined (trip : Trip) (r : Run) (landable : Landable allowed)
    (confined : r.Confined allowed) : (r.descend trip).Confined allowed where
  plan := confined.plan
  todo := nofun
  descent := by
    intro other throttles same
    cases same
    exact landable.descent

theorem rest_confined (millis : Nat) (c : Cockpit) (r : Run) (confined : r.Confined allowed) :
    (r.rest millis c).Confined allowed := by
  obtain ⟨plan, todo, descent⟩ := confined
  exact ⟨by simpa using plan, by simpa using todo, by simpa using descent⟩

theorem moves_confined (rules : Rules) (id : Nat) (c : Cockpit) (r : Run) (next : Cockpit × Run)
    (landable : Landable allowed) (confined : r.Confined allowed) (moves : Moves rules id c r next) :
    next.2.Confined allowed ∧ c.Extends (Entry.Carries allowed) next.1 := by
  -- What is left to do after the first action, and what that may write.
  have parts (action : Action) (todo : List Action) (next : r.activity = .carrying (action :: todo)) :
      (∀ frame ∈ action.frames, allowed frame) ∧ ∀ frame ∈ todo.flatMap Action.frames, allowed frame := by
    have whole := confined.todo _ next
    rw [List.flatMap_cons] at whole
    exact List.forall_mem_append.mp whole
  have same (c : Cockpit) : c.Extends (Entry.Carries allowed) c := Cockpit.extends_same _ _ _ rfl
  have published (c : Cockpit) (phase : Phase) :
      c.Extends (Entry.Carries allowed) (c.publish id phase) :=
    Cockpit.publish_extends _ c id phase trivial
  cases moves with
  | complete | revoke => exact finish_confined allowed id _ _ c r confined
  | begin actions later between ahead clear =>
      have plan := confined.plan
      rw [ahead] at plan
      refine ⟨⟨fun other member => plan other (List.mem_cons_of_mem _ member), ?_, nofun⟩, same c⟩
      intro todo started
      cases started
      exact plan actions List.mem_cons_self
  | advance carried => exact ⟨⟨confined.plan, nofun, nofun⟩, same c⟩
  | trip trip inMove underway found other =>
      exact ⟨descend_confined allowed trip r landable confined, published c .emergencyLanding⟩
  | publish phase todo next =>
      exact ⟨carrying_confined allowed todo r confined (parts _ todo next).2, published c phase⟩
  | send frame todo next control works =>
      obtain ⟨own, rest⟩ := parts _ todo next
      exact ⟨carrying_confined allowed todo r confined rest,
        Cockpit.write_extends c _ frame (Entry.Carries allowed) (own frame List.mem_cons_self)⟩
  | sendFails frame todo next control fails =>
      have written := Cockpit.write_extends c (.program id .command) frame (Entry.Carries allowed)
        ((parts _ todo next).1 frame List.mem_cons_self)
      exact ⟨descend_confined allowed _ r landable confined,
        Cockpit.extends_trans _ _ _ _ written (published _ .emergencyLanding)⟩
  | collapse todo next => exact ⟨⟨confined.plan, nofun, nofun⟩, same c⟩
  | hold millis todo next unstopped =>
      have going := carrying_confined allowed (.recheck :: todo) r confined (parts _ todo next).2
      exact ⟨rest_confined allowed millis c _ going, same c⟩
  | unfold action todo more next unfolds =>
      obtain ⟨own, rest⟩ := parts action todo next
      refine ⟨carrying_confined allowed (more ++ todo) r confined ?_, same c⟩
      rw [List.flatMap_append]
      refine List.forall_mem_append.mpr ⟨?_, rest⟩
      intro frame member
      exact own frame (unfolds_frames rules c r action more unfolds member)
  | mark armed todo next =>
      exact ⟨carrying_confined allowed todo r confined (parts _ todo next).2,
        Cockpit.extends_same _ _ _ rfl⟩
  | cut todo next =>
      exact last_confined allowed id .cut _ _ c _ landable
        ⟨confined.plan, confined.todo, confined.descent⟩
  | lower trip throttle lower down control =>
      have whole := confined.descent trip _ down
      refine ⟨rest_confined allowed _ _ _ ⟨confined.plan, nofun, ?_⟩,
        Cockpit.write_extends c _ _ (Entry.Carries allowed) (whole throttle List.mem_cons_self)⟩
      intro other throttles same
      cases same
      exact fun throttle member => whole throttle (List.mem_cons_of_mem _ member)
  | abandon trip throttle lower down revoked =>
      refine ⟨⟨confined.plan, nofun, ?_⟩, same c⟩
      intro other throttles same
      cases same
      exact nofun
  | land trip down => exact last_confined allowed id .landing _ _ c r landable confined

theorem wake_confined (rules : Rules) (id : Nat) (c : Cockpit) (r : Run) (landable : Landable allowed)
    (confined : r.Confined allowed) :
    (r.wake rules id c).2.Confined allowed ∧
      c.Extends (Entry.Carries allowed) (r.wake rules id c).1 := by
  refine wake_keeps rules id (fun later next => next.Confined allowed ∧
    c.Extends (Entry.Carries allowed) later) ?_ c r
    ⟨⟨confined.plan, confined.todo, confined.descent⟩, Cockpit.extends_same _ _ _ rfl⟩
  intro later run next _ _ kept moves
  obtain ⟨still, written⟩ := moves_confined allowed rules id later run next landable kept.1 moves
  exact ⟨still, Cockpit.extends_trans _ _ _ _ kept.2 written⟩

end Confined

end Run

namespace Supervisor

theorem meet_confined (allowed : Frame → Prop) (s : Supervisor) (h : Happening) (id : Nat) (run : Run)
    (landable : Landable allowed) (found : s.runs[id]? = some run) (confined : run.Confined allowed) :
    (∃ later, (s.meet h).runs[id]? = some later ∧ later.Confined allowed) ∧
      s.cockpit.Extends (fun entry => entry.event.program? = some id → entry.Carries allowed)
        (s.meet h).cockpit := by
  obtain ⟨inside, _⟩ := List.getElem?_eq_some_iff.mp found
  rcases meet_found s h id run found with ⟨unwoken, stop, place⟩ | ⟨_, alarms, woken⟩
  · refine ⟨⟨run.told stop, place, confined.plan, confined.todo, confined.descent⟩, ?_⟩
    exact Cockpit.extends_weaken _ _ _ _ (fun _ other own => absurd own other)
      (meet_about s h id inside unwoken)
  · obtain ⟨still, fresh, journal, carries⟩ :=
      run.wake_confined allowed s.rules id s.cockpit landable confined
    refine ⟨⟨_, ?_, still⟩, fresh, by rw [woken.journal, journal], fun entry member _ => carries entry member⟩
    rw [woken_runs s _ alarms id run found woken, if_pos rfl]

theorem after_confined (allowed : Frame → Prop) (s : Supervisor) (history : List Happening) (id : Nat)
    (run : Run) (landable : Landable allowed) (found : s.runs[id]? = some run)
    (confined : run.Confined allowed) :
    s.cockpit.Extends (fun entry => entry.event.program? = some id → entry.Carries allowed)
      (s.after history).cockpit := by
  induction history generalizing s run with
  | nil => exact Cockpit.extends_same _ _ _ rfl
  | cons h later ih =>
      obtain ⟨⟨next, place, still⟩, written⟩ := meet_confined allowed s h id run landable found confined
      exact Cockpit.extends_trans _ _ _ _ written (ih (s.meet h) next place still)

end Supervisor

-- The lines that a program read from a text may write.
inductive MacroLine : String → Prop where
  | arm : MacroLine "ARM"
  | disarm : MacroLine "DISARM"
  | level (throttle : Nat) (least : 1000 ≤ throttle) (most : throttle ≤ 1550) :
      MacroLine s!"CMD,0.00,0.00,{throttle},0.00"
  | roll (angle : String) (tilt : angle = "15.00" ∨ angle = "-15.00") :
      MacroLine s!"CMD,{angle},0.00,1400,0.00"
  | pitch (angle : String) (tilt : angle = "15.00" ∨ angle = "-15.00") :
      MacroLine s!"CMD,0.00,{angle},1400,0.00"
  | yaw (rate : String) (turn : rate = "30.00" ∨ rate = "-30.00") :
      MacroLine s!"CMD,0.00,0.00,1400,{rate}"

def Frame.IsMacro (frame : Frame) : Prop := MacroLine frame.text

theorem macro_of_text (frame : Frame) (line : String) (same : frame.text = line)
    (allowed : MacroLine line) : frame.IsMacro := by
  rw [Frame.IsMacro, same]
  exact allowed

def levelThrottles : List Nat := (List.range 12).map fun step => 1000 + 50 * step

abbrev IsLevel (throttle : Single) : Prop :=
  ∃ n ∈ levelThrottles, (Frame.control (.level throttle)).text = s!"CMD,0.00,0.00,{n},0.00"

theorem level_macro (throttle : Single) (listed : IsLevel throttle) : (Frame.control (.level throttle)).IsMacro := by
  obtain ⟨n, member, same⟩ := listed
  have range : ∀ n ∈ levelThrottles, 1000 ≤ n ∧ n ≤ 1550 := by decide
  exact macro_of_text _ _ same (.level n (range n member).1 (range n member).2)

def macroSetpoints : List Setpoint :=
  [⟨0, Command.moveTilt, Command.cruiseThrottle, 0⟩, ⟨0, -Command.moveTilt, Command.cruiseThrottle, 0⟩,
   ⟨Command.moveTilt, 0, Command.cruiseThrottle, 0⟩, ⟨-Command.moveTilt, 0, Command.cruiseThrottle, 0⟩,
   ⟨0, 0, Command.climbThrottle, 0⟩, ⟨0, 0, Command.descendThrottle, 0⟩,
   ⟨0, 0, Command.cruiseThrottle, Command.turnYaw⟩, ⟨0, 0, Command.cruiseThrottle, -Command.turnYaw⟩]

-- All the numbers that a program read from a text can write.
theorem macro_texts :
    IsLevel Command.cruiseThrottle ∧ (∀ setpoint ∈ macroSetpoints, IsLevel setpoint.throttle) ∧
      (∀ ramp ∈ [takeoffRamp, landRamp, emergencyRamp], ∀ throttle ∈ ramp.throttles, IsLevel throttle) ∧
      macroSetpoints.map (fun setpoint => (Frame.control setpoint).text) =
        ["CMD,0.00,15.00,1400,0.00", "CMD,0.00,-15.00,1400,0.00", "CMD,15.00,0.00,1400,0.00",
          "CMD,-15.00,0.00,1400,0.00", "CMD,0.00,0.00,1550,0.00", "CMD,0.00,0.00,1250,0.00",
          "CMD,0.00,0.00,1400,30.00", "CMD,0.00,0.00,1400,-30.00"] ∧
      (∀ entry ∈ directions, entry.2 ∈ macroSetpoints) ∧
      ∀ entry ∈ rotations, ⟨0, 0, Command.cruiseThrottle, entry.2⟩ ∈ macroSetpoints := by
  decide +kernel

theorem ramp_macro (ramp : Ramp) (known : ramp ∈ [takeoffRamp, landRamp, emergencyRamp])
    (throttle : Single) (member : throttle ∈ ramp.throttles) :
    (Frame.control (.level throttle)).IsMacro :=
  level_macro throttle (macro_texts.2.2.1 ramp known throttle member)

theorem macro_landable : Landable Frame.IsMacro where
  disarm := .disarm
  descent := ramp_macro emergencyRamp (by simp)

namespace Command

def IsMacro : Command → Prop
  | .move setpoint _ => setpoint ∈ macroSetpoints
  | _ => True

theorem setpoint_macro (setpoint : Setpoint) (member : setpoint ∈ macroSetpoints) :
    (Frame.control setpoint).IsMacro ∧ (Frame.control (.level setpoint.throttle)).IsMacro := by
  obtain ⟨_, levels, _, texts, _⟩ := macro_texts
  refine ⟨?_, level_macro _ (levels setpoint member)⟩
  have listed := List.mem_map_of_mem (f := fun setpoint => (Frame.control setpoint).text) member
  rw [texts] at listed
  simp only [List.mem_cons, List.not_mem_nil, or_false] at listed
  rcases listed with same | same | same | same | same | same | same | same
  · exact macro_of_text _ _ same (.pitch "15.00" (.inl rfl))
  · exact macro_of_text _ _ same (.pitch "-15.00" (.inr rfl))
  · exact macro_of_text _ _ same (.roll "15.00" (.inl rfl))
  · exact macro_of_text _ _ same (.roll "-15.00" (.inr rfl))
  · exact macro_of_text _ _ same (.level 1550 (by decide) (by decide))
  · exact macro_of_text _ _ same (.level 1250 (by decide) (by decide))
  · exact macro_of_text _ _ same (.yaw "30.00" (.inl rfl))
  · exact macro_of_text _ _ same (.yaw "-30.00" (.inr rfl))

theorem statement_macro (policy : Policy) (statement : List Char) (command : Command)
    (read : ofStatement? policy statement = some command) : command.IsMacro := by
  obtain ⟨_, _, _, _, straight, turning⟩ := macro_texts
  obtain ⟨name, arguments, stands⟩ := statement_stands policy statement command read
  cases stands with
  | move _ setpoint _ distance listed => exact straight _ listed
  | turn _ yaw _ angle listed => exact turning _ listed
  | _ => trivial

theorem ramp_frames (ramp : Ramp) (pace : Nat) :
    (ramp.actions pace).flatMap Action.frames =
      ramp.throttles.map fun throttle => .control (.level throttle) := by
  rw [Ramp.actions]
  induction ramp.throttles with
  | nil => rfl
  | cons throttle rest ih => simpa [Action.frames] using ih

theorem actions_macro (timing : Timing) (command : Command) (known : command.IsMacro) :
    ∀ frame ∈ (command.actions timing).flatMap Action.frames, frame.IsMacro := by
  have ramps (ramp : Ramp) (member : ramp ∈ [takeoffRamp, landRamp, emergencyRamp]) (frame : Frame)
      (among : frame ∈ ramp.throttles.map fun throttle => .control (.level throttle)) :
      frame.IsMacro := by
    obtain ⟨throttle, listed, same⟩ := List.mem_map.mp among
    exact same ▸ ramp_macro ramp member throttle listed
  intro frame member
  cases command with
  | takeoff delay =>
      simp only [actions, List.flatMap_append, List.flatMap_cons, List.flatMap_nil, ramp_frames,
        Action.frames, List.append_nil, List.nil_append, List.mem_append, List.mem_singleton] at member
      rcases member with same | climbing
      · exact same ▸ .arm
      · exact ramps takeoffRamp (by simp) frame climbing
  | land delay =>
      simp only [actions, List.flatMap_append, List.flatMap_cons, List.flatMap_nil, ramp_frames,
        Action.frames, List.append_nil, List.mem_append, List.mem_singleton] at member
      rcases member with sinking | same
      · exact ramps landRamp (by simp) frame sinking
      · exact same ▸ .disarm
  | hover delay =>
      have same : frame = .control (.level cruiseThrottle) := by
        simpa [actions, Action.frames] using member
      exact same ▸ level_macro cruiseThrottle macro_texts.1
  | move setpoint duration =>
      obtain ⟨own, settled⟩ := setpoint_macro setpoint known
      have among : frame = .control setpoint ∨ frame = .control (.level setpoint.throttle) := by
        simpa [actions, Action.frames] using member
      rcases among with same | same
      · exact same ▸ own
      · exact same ▸ settled
  | emergency =>
      have same : frame = .disarm := by simpa [actions, Action.frames] using member
      exact same ▸ .disarm
  | wait duration => simp [actions, Action.frames] at member
  | led payload delay => simp [actions, Action.frames] at member

end Command

theorem plan_macro (policy : Policy) (timing : Timing) (text : String) (actions : List Action)
    (member : actions ∈ (Program.read policy text).plan timing) :
    ∀ frame ∈ actions.flatMap Action.frames, frame.IsMacro := by
  obtain ⟨command, read, same⟩ := List.mem_map.mp member
  obtain ⟨statement, _, meant⟩ := List.mem_filterMap.mp read
  rw [← same]
  exact command.actions_macro timing (Command.statement_macro policy statement command meant)

namespace Supervisor

/-- All that a program read from a text ever writes are lines of the grammar, whatever happens around it. -/
theorem macro_program_lines (s t : Supervisor) (policy : Policy) (text : String) (id : Nat)
    (history : List Happening) (started : s.start? (Program.read policy text) = some (id, t)) :
    ∀ entry ∈ (t.after history).cockpit.since s.cockpit, ∀ purpose frame delivered,
      entry.event = .write (.program id purpose) frame delivered →
        ∃ line, MacroLine line ∧ frame.encode = line ++ "\n" := by
  have start := start_started s t _ id started
  have place : t.runs[id]? = some
      { began := s.clock, plan := (Program.read policy text).plan s.rules.timing } := by
    rw [started_runs s t _ id start, if_pos rfl]
  have published : s.cockpit.Extends
      (fun entry => entry.event.program? = some id → entry.Carries Frame.IsMacro) t.cockpit := by
    refine Cockpit.extends_weaken _ _ _ _ ?_ start.entries
    intro entry running _
    rw [Entry.Carries, running]
    trivial
  have written := after_confined Frame.IsMacro t history id _ macro_landable place
    ⟨fun actions member => plan_macro policy _ text actions member, nofun, nofun⟩
  have whole := Cockpit.extends_since _ _ _ (Cockpit.extends_trans _ _ _ _ published written)
  intro entry member purpose frame delivered same
  have allowed : entry.Carries Frame.IsMacro := whole entry member (by rw [same]; rfl)
  rw [Entry.Carries, same] at allowed
  exact ⟨frame.text, allowed, rfl⟩

theorem sideways_line :
    let program := Program.read {} "drone.move_left(2.5)  # a little"
    let t := charged.meet (.start program)
    ∃ frame, ((t.meet (.rouse ⟨0, .run 0⟩)).cockpit.since charged.cockpit).map Entry.event =
        [.write (.program 0 .command) frame true, .phase 0 .running] ∧
      ∃ line, MacroLine line ∧ frame.encode = line ++ "\n" := by
  intro program t
  have started : charged.start? program = some (0, t) := by
    have runs : (charged.start? program).isSome = true := by decide
    obtain ⟨⟨id, later⟩, same⟩ := Option.isSome_iff_exists.mp runs
    have first : id = 0 := (start_started charged later program id same).next
    simp only [t, meet, same, Option.map_some, Option.getD_some, first]
  let entry : Entry :=
    ⟨0, t.flight, .write (.program 0 .command) (.control ⟨-15, 0, 1400, 0⟩) true⟩
  have written : (t.meet (.rouse ⟨0, .run 0⟩)).cockpit.since charged.cockpit =
      [entry, ⟨0, t.flight, .phase 0 .running⟩] := by decide +kernel
  refine ⟨.control ⟨-15, 0, 1400, 0⟩, by rw [written]; rfl, ?_⟩
  exact macro_program_lines charged t {} _ 0 [.rouse ⟨0, .run 0⟩] started entry
    (by simp only [after, List.foldl_cons, List.foldl_nil, written, List.mem_cons_self])
    .command _ true rfl

end Supervisor

end FlightSupervisor
