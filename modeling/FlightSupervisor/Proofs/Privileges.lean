import FlightSupervisor.Proofs.Chunking
import FlightSupervisor.Proofs.ForcedDisarm
/-!
What bytes from the flight controller may do.  The marks that lines begin with exclude each other
(`starts_mark`), so a text says the same as the line that it is read as (`classify_tells`), and each part of the
flight state is changed by the lines that have a say in it.  Over any stream of bytes, however it is cut, the
armed flag and control can only be lost, and only to an alert (`inbound_takes_away`).
-/

set_option autoImplicit false

namespace FlightSupervisor

namespace Inbound

def marks : List String :=
  ["TELEM,", "STATUS,", "ACK", "ARM_FAIL", "PREARM", "ARM_OK", "ARMED", "🚨", "ALERT", "EMERGENCY"]

theorem marks_apart : ∀ a ∈ marks, ∀ b ∈ marks, a.toList <+: b.toList → a = b := by decide

def mark? (text : List Char) : Option String := marks.find? (starts · text)

theorem starts_mark (mark : String) (text : List Char) (known : mark ∈ marks) :
    starts mark text = decide (mark? text = some mark) := by
  cases begins : starts mark text with
  | false =>
      symm
      refine decide_eq_false ?_
      intro same
      have also : starts mark text = true := by simpa using List.find?_some same
      exact absurd also (by simp [begins])
  | true =>
      symm
      refine decide_eq_true ?_
      cases found : mark? text with
      | none => exact absurd begins (List.find?_eq_none.mp found mark known)
      | some other =>
          have one : mark.toList <+: text := List.isPrefixOf_iff_prefix.mp begins
          have chosen : starts other text = true := by simpa using List.find?_some found
          have two : other.toList <+: text := List.isPrefixOf_iff_prefix.mp chosen
          have listed : other ∈ marks := List.mem_of_find?_eq_some found
          rcases List.prefix_or_prefix_of_prefix one two with within | within
          · rw [marks_apart mark known other listed within]
          · rw [marks_apart other listed mark known within]

def isTelemetryText (text : List Char) : Bool := starts "TELEM," text

def isStatusText (text : List Char) : Bool := starts "STATUS," text

def isAlertText (text : List Char) : Bool := ["🚨", "ALERT", "EMERGENCY"].any (starts · text)

def isReadingText (text : List Char) : Bool := isTelemetryText text || isStatusText text

def isSignText (text : List Char) : Bool := isTelemetryText text || starts "ACK" text

def markerText? (text : List Char) : Option ArmAnswer :=
  if starts "ARM_OK" text || text = "ARMED".toList then some .success
  else if starts "ARM_FAIL" text || starts "PREARM" text then some .failure
  else none

def isReading : Inbound → Bool
  | .telemetry _ | .status _ => true
  | _ => false

def isSign : Inbound → Bool
  | .telemetry _ | .ack => true
  | _ => false

def marker? : Inbound → Option ArmAnswer
  | .armOk => some .success
  | .armFail _ => some .failure
  | _ => none

structure Tells (text : List Char) (line : Inbound) : Prop where
  alert : isAlertText text = line.isAlert
  reading : isReadingText text = line.isReading
  sign : isSignText text = line.isSign
  marker : markerText? text = line.marker?

theorem classify_begins (text : List Char) :
    classify text =
      if starts "TELEM," text then .telemetry (telemetryFields (cutAt ',' (text.drop "TELEM,".toList.length)))
      else if starts "STATUS," text then .status (statusFields (cutAt ',' (text.drop "STATUS,".toList.length)))
      else if starts "ACK" text then .ack
      else if starts "ARM_FAIL" text || starts "PREARM" text then .armFail (String.ofList text)
      else if starts "ARM_OK" text || text = "ARMED".toList then .armOk
      else if isAlertText text then .alert (String.ofList text)
      else .diagnostic (String.ofList text) := by
  have after (mark : String) : after? mark.toList text =
      if starts mark text then some (text.drop mark.toList.length) else none := rfl
  rw [classify, after, after]
  cases starts "TELEM," text with
  | true => rfl
  | false =>
      cases starts "STATUS," text with
      | true => rfl
      | false => rfl

theorem classify_tells (text : List Char) : Tells text (classify text) := by
  by_cases word : text = ['A', 'R', 'M', 'E', 'D']
  · subst word
    exact ⟨by decide, by decide, by decide, by decide⟩
  have told (mark : String) (known : mark ∈ marks) := starts_mark mark text known
  have telem := told "TELEM," (by decide)
  have status := told "STATUS," (by decide)
  have ack := told "ACK" (by decide)
  have fail := told "ARM_FAIL" (by decide)
  have prearm := told "PREARM" (by decide)
  have success := told "ARM_OK" (by decide)
  have siren := told "🚨" (by decide)
  have alert := told "ALERT" (by decide)
  have emergency := told "EMERGENCY" (by decide)
  have listed : ∀ mark, mark? text = some mark → mark ∈ marks := fun _ => List.mem_of_find?_eq_some
  generalize mark? text = found at *
  cases found with
  | none =>
      constructor <;> simp [classify_begins, isAlertText, isReadingText, isSignText, markerText?, isTelemetryText,
        isStatusText, isAlert, isReading, isSign, marker?, *]
  | some mark =>
      have known := listed mark rfl
      simp only [marks, List.mem_cons, List.not_mem_nil, or_false] at known
      rcases known with rfl | rfl | rfl | rfl | rfl | rfl | rfl | rfl | rfl | rfl <;> constructor <;>
        simp [classify_begins, isAlertText, isReadingText, isSignText, markerText?, isTelemetryText,
          isStatusText, isAlert, isReading, isSign, marker?, *]

end Inbound

open Inbound

-- The flight state with what is announced of it: an answer to an arm request goes to those who wait for one
-- and into the state.
structure Bulletin where
  flight : FlightState
  announced : ArmAnswer

namespace Bulletin

def resolve (b : Bulletin) (answer : ArmAnswer) : Bulletin :=
  { flight := b.flight.answerArm answer, announced := answer }

def hear (b : Bulletin) : Inbound → Bulletin
  | .armOk => b.resolve .success
  | .armFail _ => b.resolve .failure
  | line => { b with flight := b.flight.hear line }

theorem hear_flight (b : Bulletin) (line : Inbound) : (b.hear line).flight = b.flight.hear line := by
  cases line <;> rfl

theorem hear_announced (b : Bulletin) (line : Inbound) :
    (b.hear line).announced = line.marker?.getD b.announced := by
  cases line <;> rfl

end Bulletin

namespace FlightState

-- What is read of the aircraft, without the armed flag and the state of the connection.
def sensors (s : FlightState) : Telemetry := { s.telemetry with armed := false, connection := .disconnected }

section Hear

variable (s : FlightState) (line : Inbound)

theorem hear_armed : (s.hear line).armed = (s.armed && !line.isAlert) := by
  cases line <;> simp [hear, isAlert, absorb, setConnection, answerArm, forceDisarm, setArmed, leaveAutonomous]

theorem hear_autonomous : (s.hear line).autonomous = (s.autonomous && !line.isAlert) := by
  cases line <;> simp [hear, isAlert, absorb, setConnection, answerArm, forceDisarm, setArmed, leaveAutonomous]

theorem hear_operator : (s.hear line).lastOperator = s.lastOperator := by
  cases line <;> rfl

theorem hear_answer : (s.hear line).armAnswer = line.marker?.getD s.armAnswer := by
  cases line <;> rfl

theorem hear_connection :
    (s.hear line).telemetry.connection = if line.isSign then .connected else s.telemetry.connection := by
  cases line <;> rfl

theorem hear_sensors (other : line.isReading = false) : (s.hear line).sensors = s.sensors := by
  cases line <;> first | rfl | contradiction

theorem hear_sensors_only (t : FlightState) (same : s.sensors = t.sensors) :
    (s.hear line).sensors = (t.hear line).sensors := by
  simp only [sensors, Telemetry.mk.injEq] at same
  cases line <;> simp [same, sensors, hear, absorb, TelemetryUpdate.apply, setConnection, answerArm, forceDisarm,
    setArmed, leaveAutonomous]

theorem hear_sensed_armed (quiet : (line.isReading || line.isAlert) = false) :
    (s.hear line).telemetry.armed = s.telemetry.armed := by
  cases line <;> first | rfl | contradiction

theorem hear_sensed_armed_only (t : FlightState) (same : s.telemetry.armed = t.telemetry.armed) :
    (s.hear line).telemetry.armed = (t.hear line).telemetry.armed := by
  cases line <;> simp [same, hear, absorb, TelemetryUpdate.apply, setConnection, answerArm, forceDisarm, setArmed,
    leaveAutonomous]

end Hear

def hearTexts (s : FlightState) (texts : List (List Char)) : FlightState :=
  texts.foldl (fun s text => s.hear (classify text)) s

section HearTexts

variable (s : FlightState) (texts : List (List Char))

theorem hear_texts_armed : (s.hearTexts texts).armed = (s.armed && !texts.any isAlertText) := by
  induction texts generalizing s with
  | nil => simp [hearTexts]
  | cons text later ih =>
      have rest := ih (s.hear (classify text))
      rw [hear_armed, ← (classify_tells text).alert] at rest
      rw [List.any_cons, Bool.not_or, ← Bool.and_assoc]
      exact rest

theorem hear_texts_autonomous : (s.hearTexts texts).autonomous = (s.autonomous && !texts.any isAlertText) := by
  induction texts generalizing s with
  | nil => simp [hearTexts]
  | cons text later ih =>
      have rest := ih (s.hear (classify text))
      rw [hear_autonomous, ← (classify_tells text).alert] at rest
      rw [List.any_cons, Bool.not_or, ← Bool.and_assoc]
      exact rest

theorem hear_texts_operator : (s.hearTexts texts).lastOperator = s.lastOperator := by
  induction texts generalizing s with
  | nil => rfl
  | cons text later ih => exact (ih (s.hear (classify text))).trans (hear_operator s (classify text))

theorem hear_texts_connection :
    (s.hearTexts texts).telemetry.connection =
      if texts.any isSignText then .connected else s.telemetry.connection := by
  induction texts generalizing s with
  | nil => rfl
  | cons text later ih =>
      have rest := ih (s.hear (classify text))
      rw [hear_connection, ← (classify_tells text).sign] at rest
      rw [List.any_cons]
      refine rest.trans ?_
      cases isSignText text <;> cases later.any isSignText <;> rfl

theorem hear_texts_filter {Part : Type} (part : FlightState → Part) (concerns : List Char → Bool)
    (kept : ∀ s text, concerns text = false → part (s.hear (classify text)) = part s)
    (alone : ∀ s t text, part s = part t → part (s.hear (classify text)) = part (t.hear (classify text))) :
    ∀ t, part s = part t → part (s.hearTexts texts) = part (t.hearTexts (texts.filter concerns)) := by
  induction texts generalizing s with
  | nil => exact fun t same => same
  | cons text later ih =>
      intro t same
      cases concerned : concerns text with
      | true =>
          rw [List.filter_cons_of_pos concerned]
          exact ih _ _ (alone s t text same)
      | false =>
          rw [List.filter_cons_of_neg (by simp [concerned])]
          exact ih _ t ((kept s text concerned).trans same)

end HearTexts

end FlightState

def latestMarker? (texts : List (List Char)) : Option ArmAnswer := (texts.filterMap markerText?).getLast?

theorem last_told_cons {α β : Type} (tells? : α → Option β) (first : α) (later : List α) (old : β) :
    ((first :: later).filterMap tells?).getLast?.getD old =
      (later.filterMap tells?).getLast?.getD ((tells? first).getD old) := by
  cases told : tells? first with
  | none => simp [List.filterMap_cons_none told]
  | some value => simp [List.filterMap_cons_some told, List.getLast?_cons]

theorem latest_marker_cons (text : List Char) (later : List (List Char)) (old : ArmAnswer) :
    (latestMarker? (text :: later)).getD old = (latestMarker? later).getD ((markerText? text).getD old) :=
  last_told_cons markerText? text later old

theorem FlightState.hear_texts_answer (s : FlightState) (texts : List (List Char)) :
    (s.hearTexts texts).armAnswer = (latestMarker? texts).getD s.armAnswer := by
  induction texts generalizing s with
  | nil => rfl
  | cons text later ih =>
      rw [latest_marker_cons, (classify_tells text).marker, ← hear_answer]
      exact ih (s.hear (classify text))

namespace Bulletin

def hearTexts (b : Bulletin) (texts : List (List Char)) : Bulletin :=
  texts.foldl (fun b text => b.hear (classify text)) b

theorem hear_texts_flight (b : Bulletin) (texts : List (List Char)) :
    (b.hearTexts texts).flight = b.flight.hearTexts texts := by
  induction texts generalizing b with
  | nil => rfl
  | cons text later ih =>
      have rest := ih (b.hear (classify text))
      rw [hear_flight] at rest
      exact rest

theorem hear_texts_announced (b : Bulletin) (texts : List (List Char)) :
    (b.hearTexts texts).announced = (latestMarker? texts).getD b.announced := by
  induction texts generalizing b with
  | nil => rfl
  | cons text later ih =>
      rw [latest_marker_cons, (classify_tells text).marker, ← hear_announced]
      exact ih (b.hear (classify text))

end Bulletin

namespace Decoder

/-- The texts of the lines that a chunk completes: decoded with replacement characters for what is no UTF-8, without
the blanks around them, and blank ones left out. -/
def texts (d : Decoder) (chunk : Bytes) : List (List Char) :=
  ((cutAt lineFeed (d.buffer ++ chunk)).dropLast.map fun line => trim (Utf8.lossy line)).filter (· ≠ [])

def textsAll (d : Decoder) : List Bytes → List (List Char)
  | [] => []
  | chunk :: later => d.texts chunk ++ (d.feed {} chunk).decoder.textsAll later

theorem feed_texts (d : Decoder) (flight : FlightState) (chunk : Bytes) :
    (d.feed flight chunk).flight = flight.hearTexts (d.texts chunk) := by
  have heard : (d.feed flight chunk).flight = ((d.texts chunk).map classify).foldl FlightState.hear flight := rfl
  rw [heard, List.foldl_map]
  rfl

theorem feed_all_texts (d : Decoder) (flight : FlightState) (chunks : List Bytes) :
    (d.feedAll flight chunks).flight = flight.hearTexts (d.textsAll chunks) := by
  induction chunks generalizing d flight with
  | nil => rfl
  | cons chunk later ih =>
      have alike : (d.feed flight chunk).decoder = (d.feed {} chunk).decoder := rfl
      have fed : (d.feedAll flight (chunk :: later)).flight =
          ((d.feed flight chunk).decoder.feedAll (d.feed flight chunk).flight later).flight := rfl
      rw [fed, ih, feed_texts, alike, textsAll, FlightState.hearTexts, FlightState.hearTexts,
        FlightState.hearTexts, List.foldl_append]

/-- What comes in arms nothing and gives control to nobody. An alert takes both away, a marker answers the arm requests,
and all other lines change at most what is shown of the aircraft. -/
theorem inbound_takes_away (d : Decoder) (b : Bulletin) (chunks : List Bytes) :
    let texts := d.textsAll chunks
    let old := b.flight
    let flight := (d.feedAll old chunks).flight
    (flight.armed = true ↔ old.armed = true ∧ ∀ text ∈ texts, isAlertText text = false) ∧
      (flight.autonomous = true ↔ old.autonomous = true ∧ ∀ text ∈ texts, isAlertText text = false) ∧
      flight.lastOperator = old.lastOperator ∧
      flight.armAnswer = (latestMarker? texts).getD old.armAnswer ∧
      (b.hearTexts texts).flight = flight ∧
      (b.hearTexts texts).announced = (latestMarker? texts).getD b.announced ∧
      flight.telemetry.connection =
        (if ∃ text ∈ texts, isSignText text = true then .connected else old.telemetry.connection) ∧
      flight.sensors = (old.hearTexts (texts.filter isReadingText)).sensors ∧
      flight.telemetry.armed =
        (old.hearTexts (texts.filter fun text => isReadingText text || isAlertText text)).telemetry.armed := by
  intro texts old flight
  have heard : flight = old.hearTexts texts := feed_all_texts d old chunks
  refine ⟨?_, ?_, ?_, ?_, ?_, ?_, ?_, ?_, ?_⟩
  · rw [heard, FlightState.hear_texts_armed]
    simp
  · rw [heard, FlightState.hear_texts_autonomous]
    simp
  · rw [heard, FlightState.hear_texts_operator]
  · rw [heard, FlightState.hear_texts_answer]
  · rw [heard, Bulletin.hear_texts_flight]
  · exact Bulletin.hear_texts_announced b texts
  · rw [heard, FlightState.hear_texts_connection]
    simp
  · rw [heard]
    apply FlightState.hear_texts_filter old texts FlightState.sensors isReadingText ?_ ?_ old rfl
    · intro s text other
      exact FlightState.hear_sensors s _ ((classify_tells text).reading.symm.trans other)
    · exact fun s t text => FlightState.hear_sensors_only s _ t
  · rw [heard]
    apply FlightState.hear_texts_filter old texts (·.telemetry.armed) _ ?_ ?_ old rfl
    · intro s text quiet
      rw [(classify_tells text).reading, (classify_tells text).alert] at quiet
      exact FlightState.hear_sensed_armed s _ quiet
    · exact fun s t text => FlightState.hear_sensed_armed_only s _ t

end Decoder

end FlightSupervisor
