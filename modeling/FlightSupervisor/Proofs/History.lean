import FlightSupervisor.Proofs.Bystanders
/-!
Histories: every order in which requests, data, alarms and time can follow each other.  A happening
goes on until something else may come in between, so a history is any list of them.  An arm request
only begins; its end is a happening of its own (`handle_after` puts the whole request together).
What a happening can do is said once, in `Course`.
-/

set_option autoImplicit false

namespace FlightSupervisor

inductive Happening where
  | pass (millis : Nat)
  | rouse (alarm : Alarm)
  | expire
  | conclude
  | deed (deed : Deed)
  | putOff (due : Nat) (deed : Deed)
  | request (request : Request)
  | beginArm (timeout : Nat)
  | start (program : Program)
  | stop (id : Nat)
  | vacate

-- Whether control is taken, now or later, without starting a program.
def Happening.seizes : Happening → Bool
  | .rouse alarm => alarm.sleeper.seizes
  | .deed work | .putOff _ work => (Sleeper.deed work).seizes
  | _ => false

def Happening.isPassage : Happening → Bool
  | .pass _ | .rouse _ | .expire | .conclude => true
  | _ => false

-- All that can happen where programs are started by requests and nobody else takes control. What an
-- alarm does was settled when it was set.
def Happening.isOperator : Happening → Bool
  | .start _ | .vacate | .deed .enterAutonomous | .putOff _ .enterAutonomous => false
  | _ => true

theorem passage_operator (h : Happening) (passage : h.isPassage = true) : h.isOperator = true := by
  cases h with
  | pass | rouse | expire | conclude => rfl
  | _ => cases passage

namespace Supervisor

-- A request up to the point at which anything else may happen.
def receive (s : Supervisor) : Request → Supervisor
  | .arm => if s.armRejection?.isSome then s else (s.beginArm s.armTimeout).2
  | request => (s.handle request).2

def wakeAlarm (alarm : Alarm) (s : Supervisor) : Supervisor :=
  { s with alarms := s.alarms.erase alarm }.rouse alarm.sleeper

-- Alarms may go off late and, at one instant, in any order; what cannot happen changes nothing.
def meet (s : Supervisor) : Happening → Supervisor
  | .pass millis => s.changeCockpit fun c => { c with clock := c.clock + millis }
  | .rouse alarm => if alarm ∈ s.alarms ∧ alarm.due ≤ s.clock then s.wakeAlarm alarm else s
  | .expire => s.expireHandshakes
  | .conclude => (s.pendingOutcome?.map s.concludeHandshakes).getD s
  | .deed deed => s.act deed
  | .putOff due deed => s.putOff due (.deed deed)
  | .request request => s.receive request
  | .beginArm timeout => (s.beginArm timeout).2
  | .start program => ((s.start? program).map Prod.snd).getD s
  | .stop id => s.requestStop id
  | .vacate => { s with slot := none }

def after (s : Supervisor) (history : List Happening) : Supervisor := history.foldl meet s

theorem after_append (s : Supervisor) (first later : List Happening) :
    s.after (first ++ later) = (s.after first).after later :=
  List.foldl_append

def woken? (s : Supervisor) : Happening → Option Nat
  | .rouse ⟨due, .run id⟩ => if ⟨due, .run id⟩ ∈ s.alarms ∧ due ≤ s.clock then some id else none
  | _ => none

inductive Course (s : Supervisor) : Happening → Supervisor → Prop where
  | spare (h : Happening) (t : Supervisor) (quiet : s.woken? h = none) (spares : Spares s t)
      (yields : h.seizes = false → Yields s t) : Course s h t
  | wake (due id : Nat) (member : ⟨due, .run id⟩ ∈ s.alarms) (past : due ≤ s.clock) :
      Course s (.rouse ⟨due, .run id⟩)
        ({ s with alarms := s.alarms.erase ⟨due, .run id⟩ }.wakeRun id)
  | submit (code : String) (id : Nat) (t : Supervisor) (free : s.slot.any s.isLive = false)
      (started : s.start? (Program.read s.rules.policy code) = some (id, t)) :
      Course s (.request (.run code)) { t with slot := some id }
  | start (program : Program) (id : Nat) (t : Supervisor) (started : s.start? program = some (id, t)) :
      Course s (.start program) t
  | tell (h : Happening) (id : Nat) (quiet : s.woken? h = none) : Course s h (s.requestStop id)
  | vacate : Course s .vacate { s with slot := none }

theorem course_yields (s t : Supervisor) (h : Happening) (quiet : s.woken? h = none)
    (yields : Yields s t) : Course s h t :=
  .spare h t quiet yields.toSpares fun _ => yields

theorem submit_course (s : Supervisor) (code : String) :
    Course s (.request (.run code)) (s.submit code).2 := by
  have same : Course s (.request (.run code)) s := course_yields s s _ rfl (yields_refl s)
  rw [submit]
  dsimp only
  split
  · exact same
  split
  · exact same
  split
  · exact same
  · rename_i _ _ free
    cases started : s.start? (Program.read s.rules.policy code) with
    | none => exact same
    | some pair =>
        obtain ⟨id, t⟩ := pair
        exact .submit code id t (by simpa using free) started

theorem receive_course (s : Supervisor) (request : Request) :
    Course s (.request request) (s.receive request) := by
  cases request with
  | run code => exact submit_course s code
  | joystick input => exact course_yields s _ _ rfl (yields_steer s input)
  | arm =>
      simp only [receive]
      split
      · exact course_yields s _ _ rfl (yields_refl s)
      · exact course_yields s _ _ rfl (yields_begin_arm s _)
  | disarm => exact course_yields s _ _ rfl (yields_disarm s)
  | telemetry => exact course_yields s _ _ rfl (yields_refl s)
  | status => exact course_yields s _ _ rfl (yields_status s)
  | stop =>
      show Course s (.request .stop) s.stop.2
      rw [stop]
      split
      · exact .tell _ _ rfl
      · exact course_yields s _ _ rfl (yields_refl s)

theorem rouse_course (s : Supervisor) (alarm : Alarm) :
    Course s (.rouse alarm) (s.meet (.rouse alarm)) := by
  obtain ⟨due, sleeper⟩ := alarm
  by_cases ready : ⟨due, sleeper⟩ ∈ s.alarms ∧ due ≤ s.clock
  · rw [meet, if_pos ready]
    cases waits : sleeper.isRun with
    | true =>
        cases sleeper with
        | run id => exact .wake due id ready.1 ready.2
        | _ => cases waits
    | false =>
        have quiet : s.woken? (.rouse ⟨due, sleeper⟩) = none := by
          cases sleeper with
          | run id => cases waits
          | _ => rfl
        have erased := yields_erase s ⟨due, sleeper⟩ waits
        refine .spare _ _ quiet (spares_trans _ _ _ erased.toSpares (spares_rouse _ sleeper waits)) ?_
        intro lawful
        exact yields_trans _ _ _ erased (yields_rouse _ sleeper waits lawful)
  · rw [meet, if_neg ready]
    have quiet : s.woken? (.rouse ⟨due, sleeper⟩) = none := by
      cases sleeper with
      | run id => simp only [woken?, if_neg ready]
      | _ => rfl
    exact course_yields s s _ quiet (yields_refl s)

theorem meet_course (s : Supervisor) (h : Happening) : Course s h (s.meet h) := by
  cases h with
  | pass millis =>
      exact course_yields s _ _ rfl ⟨⟨rfl, rfl, rfl, fun _ member _ => member,
        Cockpit.extends_same _ _ _ rfl⟩, id, fun _ member => .inl member⟩
  | rouse alarm => exact rouse_course s alarm
  | expire => exact course_yields s _ _ rfl (yields_expire s)
  | conclude =>
      refine course_yields s _ _ rfl ?_
      simp only [meet]
      cases s.pendingOutcome? with
      | none => exact yields_refl s
      | some outcome => exact yields_conclude s outcome
  | deed deed =>
      refine .spare _ _ rfl (spares_act s deed) ?_
      intro lawful
      refine yields_act s deed ?_
      intro same
      subst same
      cases lawful
  | putOff due deed =>
      refine .spare _ _ rfl (spares_put_off s due _) ?_
      intro lawful
      exact yields_put_off s due _ rfl lawful
  | request request => exact receive_course s request
  | beginArm timeout => exact course_yields s _ _ rfl (yields_begin_arm s timeout)
  | start program =>
      simp only [meet]
      cases started : s.start? program with
      | none => exact course_yields s s _ rfl (yields_refl s)
      | some pair => exact .start program pair.1 pair.2 started
  | stop id => exact .tell _ id rfl
  | vacate => exact .vacate

theorem sooner_either (found : Option Alarm) (alarm chosen : Alarm)
    (result : sooner found alarm = some chosen) : found = some chosen ∨ alarm = chosen := by
  cases found with
  | none => exact .inr (Option.some.inj result)
  | some first =>
      simp only [sooner] at result
      split at result
      · exact .inr (Option.some.inj result)
      · exact .inl result

theorem soonest_member (alarms : List Alarm) (found : Option Alarm) (chosen : Alarm)
    (result : alarms.foldl sooner found = some chosen) : found = some chosen ∨ chosen ∈ alarms := by
  induction alarms generalizing found with
  | nil => exact .inl result
  | cons head tail ih =>
      rcases ih (sooner found head) result with held | later
      · rcases sooner_either found head chosen held with before | here
        · exact .inl before
        · exact .inr (List.mem_cons.mpr (.inl here.symm))
      · exact .inr (List.mem_cons_of_mem _ later)

theorem next_alarm_member (s : Supervisor) (alarm : Alarm) (next : s.nextAlarm? = some alarm) :
    alarm ∈ s.alarms := by
  rcases soonest_member s.alarms none alarm next with none | member
  · cases none
  · exact member

theorem step_after (s t : Supervisor) (limit : Nat) (step : s.step? limit = some t) :
    ∃ h : Happening, h.isPassage = true ∧ t = s.meet h := by
  rw [step?] at step
  split at step
  · exact ⟨.expire, rfl, (Option.some.inj step).symm⟩
  split at step
  · rename_i alarm next
    obtain ⟨next, due⟩ := Option.filter_eq_some_iff.mp next
    have ready : alarm ∈ s.alarms ∧ alarm.due ≤ s.clock :=
      ⟨next_alarm_member s alarm next, by simpa using due⟩
    refine ⟨.rouse alarm, rfl, ?_⟩
    rw [meet, if_pos ready]
    exact (Option.some.inj step).symm
  split at step
  · rename_i outcome pending
    refine ⟨.conclude, rfl, ?_⟩
    simp only [meet, pending]
    exact (Option.some.inj step).symm
  dsimp only at step
  split at step
  · rename_i later
    refine ⟨.pass (min limit (s.nextDue?.getD limit) - s.clock), rfl, ?_⟩
    rw [← Option.some.inj step]
    simp only [meet, changeCockpit]
    congr 2
    simp only [clock] at later ⊢
    omega
  · cases step

theorem steps_until_after (limit : Nat) (goal : Supervisor → Bool) (fuel : Nat) (s : Supervisor) :
    ∃ history : List Happening, (∀ h ∈ history, h.isPassage = true) ∧
      stepsUntil limit goal fuel s = s.after history := by
  induction fuel generalizing s with
  | zero => exact ⟨[], by simp, rfl⟩
  | succ fuel ih =>
      rw [stepsUntil]
      split
      · exact ⟨[], by simp, rfl⟩
      · cases step : s.step? limit with
        | none => exact ⟨[], by simp, rfl⟩
        | some t =>
            obtain ⟨h, passage, first⟩ := step_after s t limit step
            obtain ⟨later, passages, rest⟩ := ih t
            refine ⟨h :: later, List.forall_mem_cons.mpr ⟨passage, passages⟩, ?_⟩
            simp only
            rw [rest, first]
            rfl

theorem handle_after (s : Supervisor) (request : Request) :
    ∃ history : List Happening, (∀ h ∈ history, h.isOperator = true) ∧
      (s.handle request).2 = s.after history := by
  have single (h : Happening) (operator : h.isOperator = true) :
      ∀ other ∈ [h], other.isOperator = true := List.forall_mem_singleton.mpr operator
  cases request with
  | arm =>
      show ∃ history : List Happening, _ ∧ s.arm.2 = s.after history
      rw [arm]
      split
      · exact ⟨[], by simp, rfl⟩
      rw [handshake]
      cases begun : s.beginArm s.armTimeout with
      | mk result sent =>
          have first : sent = s.meet (.beginArm s.armTimeout) := by simp only [meet, begun]
          cases result with
          | error cause => exact ⟨[.beginArm s.armTimeout], single _ rfl, first⟩
          | ok ticket =>
              simp only [awaitArm]
              obtain ⟨waiting, passages, waited⟩ := steps_until_after _ _ _ sent
              have within : ∀ h ∈ .beginArm s.armTimeout :: waiting, h.isOperator = true :=
                List.forall_mem_cons.mpr ⟨rfl, fun h member => passage_operator h (passages h member)⟩
              rw [elapseUntil, waited, first]
              simp only [concludeArm]
              split
              · refine ⟨.beginArm s.armTimeout :: waiting ++ [.deed .touch],
                  List.forall_mem_append.mpr ⟨within, single _ rfl⟩, ?_⟩
                rw [List.cons_append]
                show _ = Supervisor.after _ (waiting ++ [.deed .touch])
                rw [after_append]
                rfl
              · exact ⟨.beginArm s.armTimeout :: waiting, within, rfl⟩
  | run code => exact ⟨[.request (.run code)], single _ rfl, rfl⟩
  | joystick input => exact ⟨[.request (.joystick input)], single _ rfl, rfl⟩
  | disarm => exact ⟨[.request .disarm], single _ rfl, rfl⟩
  | telemetry => exact ⟨[.request .telemetry], single _ rfl, rfl⟩
  | status => exact ⟨[.request .status], single _ rfl, rfl⟩
  | stop => exact ⟨[.request .stop], single _ rfl, rfl⟩

end Supervisor

end FlightSupervisor
