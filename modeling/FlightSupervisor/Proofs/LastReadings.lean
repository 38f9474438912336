import FlightSupervisor.Proofs.Joining
import FlightSupervisor.Proofs.Privileges
/-!
Each reading of the aircraft is told by itself.  A gauge has a place of its own in each form of line, or none, and
what a line carries for it depends on the text in that place alone (`packet_said`), whatever stands in the others and
however many there are.  So a gauge shows what the last line carried that carried anything for it, and an edit of
a line changes at most the gauges whose own places it touches (`last_valid_reading`).
-/

set_option autoImplicit false

namespace FlightSupervisor

namespace Utf8

theorem begin_low (b : UInt8) (begun : Begun) (begins : begin? b = some begun) : 0x80 ≤ begun.low := by
  simp only [begin?] at begins
  repeat' split at begins
  all_goals cases begins
  all_goals simp

theorem decode_from_ascii (state : Option Begun) (front rest : Bytes) (b : UInt8) (ascii : b < 0x80)
    (within : ∀ begun, state = some begun → 0x80 ≤ begun.low) :
    decodeFrom state (front ++ b :: rest) =
      decodeFrom state front ++ some (Char.ofNat b.toNat) :: decodeFrom none rest := by
  induction front generalizing state with
  | nil =>
      cases state with
      | none => simp [decodeFrom, ascii]
      | some begun =>
          have low := within begun rfl
          have apart : ¬ (begun.low ≤ b ∧ b ≤ begun.high) := fun inside =>
            absurd (UInt8.le_trans low inside.1) (UInt8.not_le.mpr ascii)
          simp [decodeFrom, if_neg apart, ascii]
  | cons c front ih =>
      have between := ih none (by simp)
      have later (next : Begun) (low : 0x80 ≤ next.low) := ih (some next) (by rintro begun ⟨⟩; exact low)
      cases state with
      | none =>
          simp only [List.cons_append, decodeFrom]
          split
          · rw [between, List.cons_append]
          · cases begins : begin? c with
            | some next => exact later next (begin_low c next begins)
            | none => simp only [between, List.cons_append]
      | some begun =>
          simp only [List.cons_append, decodeFrom]
          split
          · split
            · rw [between, List.cons_append]
            · exact later _ (UInt8.le_refl _)
          · split
            · rw [between, List.cons_append, List.cons_append]
            · cases begins : begin? c with
              | some next => simp only [later next (begin_low c next begins), List.cons_append]
              | none => simp only [between, List.cons_append]

theorem lossy_ascii (front rest : Bytes) (b : UInt8) (ascii : b < 0x80) :
    lossy (front ++ b :: rest) = lossy front ++ Char.ofNat b.toNat :: lossy rest := by
  rw [lossy, decode_from_ascii none front rest b ascii (by simp), List.map_append, List.map_cons]
  rfl

end Utf8

def comma : UInt8 := 44

theorem lossy_marked (front : Bytes) (fields : List Bytes) :
    Utf8.lossy (front ++ marked comma fields) = Utf8.lossy front ++ marked ',' (fields.map Utf8.lossy) := by
  induction fields generalizing front with
  | nil => simp
  | cons field more ih => rw [marked_cons, Utf8.lossy_ascii _ _ _ (by decide), ih]; rfl

inductive Gauge where
  | roll
  | pitch
  | yawRate
  | batteryVoltage
  | batteryPercent
  | armed

abbrev Gauge.Value : Gauge → Type
  | .batteryPercent => Nat
  | .armed => Bool
  | _ => Single

def Gauge.stored : (g : Gauge) → Telemetry → g.Value
  | .roll, t => t.roll
  | .pitch, t => t.pitch
  | .yawRate, t => t.yawRate
  | .batteryVoltage, t => t.batteryVoltage
  | .batteryPercent, t => t.batteryPercent
  | .armed, t => t.armed

inductive Form where
  | telemetry
  | status
deriving DecidableEq

namespace Form

def word : Form → String
  | .telemetry => "TELEM"
  | .status => "STATUS"

def place? : Form → Gauge → Option Nat
  | .telemetry, .roll => some 0
  | .telemetry, .pitch => some 1
  | .telemetry, .yawRate => some 2
  | .telemetry, .batteryVoltage => some 4
  | .telemetry, .batteryPercent => some 5
  | .telemetry, .armed => some 6
  | .status, .armed => some 0
  | .status, .batteryVoltage => some 1
  | .status, .roll => some 2
  | .status, .pitch => some 3
  | .status, _ => none

/-- The value of a field, if its text is valid.  Whether the motors are armed is told by `1` and `0` in telemetry and
by `ARMED` and `DISARMED` in a status. -/
def value? : Form → (g : Gauge) → List Char → Option g.Value
  | .telemetry, .armed, field =>
      if trim field = "1".toList then some true else if trim field = "0".toList then some false else none
  | .status, .armed, field =>
      if trim field = "ARMED".toList then some true
      else if trim field = "DISARMED".toList then some false
      else none
  | _, .batteryPercent, field => Inbound.percentField? (some field)
  | _, .roll, field | _, .pitch, field | _, .yawRate, field | _, .batteryVoltage, field =>
      Inbound.numberField? (some field)

def own? {α : Type} (form : Form) (g : Gauge) (fields : List α) : Option α :=
  (form.place? g).bind fun place => fields[place]?

def carried? (form : Form) (g : Gauge) (fields : List (List Char)) : Option g.Value :=
  (form.own? g fields).bind (form.value? g)

def fieldsOf (form : Form) (text : List Char) : List (List Char) :=
  cutAt ',' (text.drop (form.word ++ ",").toList.length)

end Form

open Inbound

def Gauge.alerted? : (g : Gauge) → Option g.Value
  | .armed => some false
  | _ => none

-- What a line says about a gauge: the value it carries, or that the motors are off if it is an alert.
def Gauge.said? (g : Gauge) (text : List Char) : Option g.Value :=
  if isTelemetryText text then Form.telemetry.carried? g (Form.telemetry.fieldsOf text)
  else if isStatusText text then Form.status.carried? g (Form.status.fieldsOf text)
  else if isAlertText text then g.alerted?
  else none

def TelemetryUpdate.told? (u : TelemetryUpdate) : (g : Gauge) → Option g.Value
  | .roll => u.roll
  | .pitch => u.pitch
  | .yawRate => u.yawRate
  | .batteryVoltage => u.batteryVoltage
  | .batteryPercent => u.batteryPercent
  | .armed => u.armed

section Carried

variable (g : Gauge) (fields : List (List Char))

theorem number_present (field : Option (List Char)) :
    numberField? field = field.bind fun text => numberField? (some text) := by
  cases field <;> rfl

theorem percent_present (field : Option (List Char)) :
    percentField? field = field.bind fun text => percentField? (some text) := by
  cases field <;> rfl

theorem flag_words (on off : String) (field : Option (List Char)) :
    flagField? on off field = field.bind fun text =>
      if trim text = on.toList then some true else if trim text = off.toList then some false else none := by
  cases field with
  | none => rfl
  | some text => simp [flagField?, ← String.toList_inj]

theorem telemetry_told : (telemetryFields fields).told? g = Form.telemetry.carried? g fields := by
  cases g
  case armed => exact flag_words _ _ _
  case batteryPercent => exact percent_present _
  all_goals exact number_present _

theorem status_told : (statusFields fields).told? g = Form.status.carried? g fields := by
  cases g
  case armed => exact flag_words _ _ _
  case batteryPercent | yawRate => rfl
  all_goals exact number_present _

end Carried

namespace FlightState

variable (s : FlightState) (g : Gauge)

theorem absorb_stored (update : TelemetryUpdate) :
    g.stored (s.absorb update).telemetry = (update.told? g).getD (g.stored s.telemetry) := by
  cases g <;> rfl

theorem connection_stored (connection : Connection) :
    g.stored (s.setConnection connection).telemetry = g.stored s.telemetry := by
  cases g <;> rfl

theorem hear_stored (text : List Char) :
    g.stored (s.hear (classify text)).telemetry = (g.said? text).getD (g.stored s.telemetry) := by
  have alert := (classify_tells text).alert
  have reading := (classify_tells text).reading
  rw [Gauge.said?]
  cases telem : isTelemetryText text with
  | true =>
      have read : classify text = .telemetry (telemetryFields (Form.telemetry.fieldsOf text)) := by
        have begins : starts "TELEM," text = true := telem
        rw [classify_begins, if_pos begins]
        rfl
      rw [read, hear, connection_stored, absorb_stored, telemetry_told, if_pos rfl]
  | false =>
      cases status : isStatusText text with
      | true =>
          have read : classify text = .status (statusFields (Form.status.fieldsOf text)) := by
            have other : ¬ starts "TELEM," text = true := by simpa [isTelemetryText] using telem
            have begins : starts "STATUS," text = true := status
            rw [classify_begins, if_neg other, if_pos begins]
            rfl
          rw [read, hear, absorb_stored, status_told, if_neg (by simp), if_pos rfl]
      | false =>
          rw [isReadingText, telem, status] at reading
          rw [if_neg (by simp), if_neg (by simp), alert]
          generalize classify text = line at reading ⊢
          cases line
          case telemetry | status => contradiction
          all_goals cases g <;> rfl

theorem hear_texts_stored (texts : List (List Char)) :
    g.stored (s.hearTexts texts).telemetry = (texts.filterMap g.said?).getLast?.getD (g.stored s.telemetry) := by
  induction texts generalizing s with
  | nil => rfl
  | cons text later ih =>
      rw [last_told_cons, ← hear_stored]
      exact ih (s.hear (classify text))

end FlightState

-- A line as it comes, with its fields behind commas.
def Form.packet (form : Form) (fields : List Bytes) : Bytes := Utf8.encode form.word ++ marked comma fields

theorem own_map {α β : Type} (form : Form) (g : Gauge) (f : α → β) (fields : List α) :
    form.own? g (fields.map f) = (form.own? g fields).map f := by
  rw [Form.own?, Form.own?]
  cases form.place? g <;> simp

section Packet

variable (form : Form) (fields : List Bytes) (some_field : fields ≠ [])

theorem word_lossy : Utf8.lossy (Utf8.encode form.word) = form.word.toList := by
  cases form <;> decide

include some_field in
theorem packet_text : ∃ first more, trimLast (fields.map Utf8.lossy) = first :: more ∧
    trim (Utf8.lossy (form.packet fields)) = (form.word ++ ",").toList ++ (first ++ marked ',' more) := by
  have front : trimLeft (form.word.toList ++ marked ',' (fields.map Utf8.lossy)) =
      form.word.toList ++ marked ',' (fields.map Utf8.lossy) := by
    cases form <;> exact trim_left_visible _ _ (by decide)
  have text : trim (Utf8.lossy (form.packet fields)) =
      form.word.toList ++ marked ',' (trimLast (fields.map Utf8.lossy)) := by
    rw [Form.packet, lossy_marked, word_lossy, trim, front]
    exact trim_right_joined ',' (by decide) _ _ (by simpa using some_field)
  obtain ⟨first, more, pieces⟩ : ∃ first more, trimLast (fields.map Utf8.lossy) = first :: more := by
    apply List.exists_cons_of_ne_nil
    intro empty
    have same := trim_last_trim (fields.map Utf8.lossy)
    rw [empty] at same
    exact some_field (by simpa using same.symm)
  exact ⟨first, more, pieces, by rw [text, pieces]; simp⟩

include some_field in
theorem packet_fields (plain : ∀ field ∈ fields, ',' ∉ Utf8.lossy field) :
    form.fieldsOf (trim (Utf8.lossy (form.packet fields))) = trimLast (fields.map Utf8.lossy) := by
  obtain ⟨first, more, pieces, text⟩ := packet_text form fields some_field
  have unmarked : ∀ piece ∈ first :: more, ',' ∉ piece := by
    rw [← pieces]
    intro piece member inside
    obtain ⟨whole, listed, within⟩ := trim_last_mem _ piece member
    obtain ⟨field, known, rfl⟩ := List.mem_map.mp listed
    exact plain field known (within ',' inside)
  rw [Form.fieldsOf, text, List.drop_left, cut_at_joined ',' first more unmarked, pieces]

theorem value_trimmed (g : Gauge) (a b : List Char) (same : trim a = trim b) : form.value? g a = form.value? g b := by
  cases form <;> cases g <;> simp only [Form.value?, numberField?, percentField?, Option.getD_some, same]

theorem carried_trimmed (g : Gauge) (a b : List (List Char)) (same : a.map trim = b.map trim) :
    form.carried? g a = form.carried? g b := by
  rw [Form.carried?, Form.carried?, Form.own?, Form.own?]
  cases form.place? g with
  | none => rfl
  | some place =>
      have here : (a[place]?).map trim = (b[place]?).map trim := by simp only [← List.getElem?_map, same]
      simp only [Option.bind_some]
      cases one : a[place]? <;> cases two : b[place]? <;> simp [one, two] at here ⊢
      exact value_trimmed form g _ _ here

theorem form_kind (rest : List Char) :
    let text := (form.word ++ ",").toList ++ rest
    isTelemetryText text = decide (form = .telemetry) ∧ isStatusText text = decide (form = .status) ∧
      isAlertText text = false ∧ isSignText text = decide (form = .telemetry) ∧ markerText? text = none := by
  cases form
  · exact ⟨rfl, rfl, rfl, rfl, rfl⟩
  · exact ⟨rfl, rfl, rfl, rfl, rfl⟩

include some_field in
theorem packet_said (g : Gauge) (plain : ∀ field ∈ fields, ',' ∉ Utf8.lossy field) :
    g.said? (trim (Utf8.lossy (form.packet fields))) = form.carried? g (fields.map Utf8.lossy) := by
  have read := packet_fields form fields some_field plain
  obtain ⟨first, more, -, text⟩ := packet_text form fields some_field
  have kind := form_kind form (first ++ marked ',' more)
  rw [← text] at kind
  rw [← carried_trimmed form g _ _ (trim_last_trim (fields.map Utf8.lossy)), ← read, Gauge.said?, kind.1, kind.2.1]
  cases form <;> rfl

end Packet

namespace FlightState

def exceptGauges (s : FlightState) : FlightState :=
  { s with telemetry := { connection := s.telemetry.connection } }

theorem all_told (s t : FlightState) (besides : s.exceptGauges = t.exceptGauges)
    (shown : ∀ g : Gauge, g.stored s.telemetry = g.stored t.telemetry) : s = t := by
  obtain ⟨armed, autonomous, readings, operator, answer⟩ := s
  obtain ⟨armed', autonomous', readings', operator', answer'⟩ := t
  simp only [exceptGauges, mk.injEq, Telemetry.mk.injEq, true_and] at besides
  have same : readings = readings' := by
    obtain ⟨roll, pitch, yawRate, voltage, percent, flag, connection⟩ := readings
    obtain ⟨roll', pitch', yawRate', voltage', percent', flag', connection'⟩ := readings'
    exact Telemetry.mk.injEq .. |>.mpr
      ⟨shown .roll, shown .pitch, shown .yawRate, shown .batteryVoltage, shown .batteryPercent, shown .armed,
        besides.2.2.1⟩
  simp only [mk.injEq]
  exact ⟨besides.1, besides.2.1, same, besides.2.2.2⟩

section Replaced

variable (s : FlightState) (before after : List (List Char)) (one other : List Char)

theorem replaced_besides (alert : isAlertText one = isAlertText other) (sign : isSignText one = isSignText other)
    (marker : markerText? one = markerText? other) :
    (s.hearTexts (before ++ one :: after)).exceptGauges = (s.hearTexts (before ++ other :: after)).exceptGauges := by
  simp only [exceptGauges, hear_texts_armed, hear_texts_autonomous, hear_texts_operator, hear_texts_answer,
    hear_texts_connection, latestMarker?, List.any_append, List.any_cons, List.filterMap_append, List.filterMap_cons,
    alert, sign, marker]

theorem replaced_stored (g : Gauge) (said : g.said? one = g.said? other) :
    g.stored (s.hearTexts (before ++ one :: after)).telemetry =
      g.stored (s.hearTexts (before ++ other :: after)).telemetry := by
  simp only [hear_texts_stored, List.filterMap_append, List.filterMap_cons, said]

end Replaced

end FlightState

inductive Edit where
  | replace (place : Nat) (text : Bytes)
  | truncate (last : Nat)
  | extend (more : List Bytes)

namespace Edit

def apply : Edit → List Bytes → List Bytes
  | .replace place text, fields => fields.set place text
  | .truncate last, fields => fields.take (last + 1)
  | .extend more, fields => fields ++ more

def newTexts : Edit → List Bytes
  | .replace _ text => [text]
  | .truncate _ => []
  | .extend more => more

def touches (fields : List Bytes) : Edit → Nat → Bool
  | .replace place _, i => decide (i = place)
  | .truncate last, i => decide (last < i)
  | .extend _, i => decide (fields.length ≤ i)

variable (edit : Edit) (fields : List Bytes)

theorem apply_untouched (i : Nat) (untouched : edit.touches fields i = false) :
    (edit.apply fields)[i]? = fields[i]? := by
  cases edit with
  | replace place text =>
      have apart : place ≠ i := by simpa [touches, eq_comm] using untouched
      simp [apply, apart]
  | truncate last =>
      have kept : i < last + 1 := by simpa [touches, Nat.lt_succ_iff] using untouched
      simp [apply, kept]
  | extend more =>
      have inside : i < fields.length := by simpa [touches] using untouched
      simp [apply, List.getElem?_append_left inside]

theorem own_untouched (form : Form) (g : Gauge)
    (untouched : ∀ i, form.place? g = some i → edit.touches fields i = false) :
    form.own? g (edit.apply fields) = form.own? g fields := by
  rw [Form.own?, Form.own?]
  cases place : form.place? g with
  | none => rfl
  | some i => exact apply_untouched edit fields i (untouched i place)

theorem apply_some (some_field : fields ≠ []) : edit.apply fields ≠ [] := by
  cases edit <;> simp [apply, some_field]

theorem apply_mem : ∀ field ∈ edit.apply fields, field ∈ fields ∨ field ∈ edit.newTexts := by
  intro field member
  cases edit with
  | replace place text => simpa [newTexts] using List.mem_or_eq_of_mem_set member
  | truncate last => exact .inl (List.mem_of_mem_take member)
  | extend more => exact List.mem_append.mp member

end Edit

namespace Decoder

def raw (d : Decoder) (chunk : Bytes) : List Bytes := (cutAt lineFeed (d.buffer ++ chunk)).dropLast

def rawAll (d : Decoder) : List Bytes → List Bytes
  | [] => []
  | chunk :: later => d.raw chunk ++ (d.feed {} chunk).decoder.rawAll later

def textsOf (raw : List Bytes) : List (List Char) :=
  (raw.map fun line => trim (Utf8.lossy line)).filter (· ≠ [])

theorem texts_all_raw (d : Decoder) (chunks : List Bytes) : d.textsAll chunks = textsOf (d.rawAll chunks) := by
  induction chunks generalizing d with
  | nil => rfl
  | cons chunk later ih =>
      rw [textsAll, rawAll, textsOf, List.map_append, List.filter_append, ih]
      rfl

structure Fields (fields : List Bytes) : Prop where
  some_field : fields ≠ []
  plain : ∀ field ∈ fields, ',' ∉ Utf8.lossy field

theorem Fields.edited {fields : List Bytes} (whole : Fields fields) (edit : Edit)
    (plain : ∀ text ∈ edit.newTexts, ',' ∉ Utf8.lossy text) : Fields (edit.apply fields) where
  some_field := edit.apply_some fields whole.some_field
  plain := fun field member => (edit.apply_mem fields field member).elim (whole.plain field) (plain field)

-- Two streams that complete the same lines but for one.
def Differ (d : Decoder) (chunks chunks' : List Bytes) (line line' : Bytes) : Prop :=
  ∃ before after, d.rawAll chunks = before ++ line :: after ∧ d.rawAll chunks' = before ++ line' :: after

section Exchange

variable (d : Decoder) (flight : FlightState) (form : Form) (fields : List Bytes) (chunks chunks' : List Bytes)

theorem texts_of_packet (before after : List Bytes) (whole : Fields fields) :
    textsOf (before ++ form.packet fields :: after) =
      textsOf before ++ trim (Utf8.lossy (form.packet fields)) :: textsOf after := by
  obtain ⟨first, more, -, text⟩ := packet_text form fields whole.some_field
  have visible : trim (Utf8.lossy (form.packet fields)) ≠ [] := by
    rw [text]
    cases form <;> simp [Form.word]
  simp [textsOf, visible]

theorem packet_exchange (fields' : List Bytes) (whole : Fields fields) (whole' : Fields fields')
    (differ : d.Differ chunks chunks' (form.packet fields) (form.packet fields')) :
    (d.feedAll flight chunks).flight.exceptGauges = (d.feedAll flight chunks').flight.exceptGauges ∧
      ∀ g : Gauge, form.own? g fields = form.own? g fields' →
        g.stored (d.feedAll flight chunks).flight.telemetry =
          g.stored (d.feedAll flight chunks').flight.telemetry := by
  obtain ⟨before, after, lines, lines'⟩ := differ
  rw [feed_all_texts, feed_all_texts, texts_all_raw, texts_all_raw, lines, lines',
    texts_of_packet form fields before after whole, texts_of_packet form fields' before after whole']
  constructor
  · obtain ⟨first, more, -, text⟩ := packet_text form fields whole.some_field
    obtain ⟨first', more', -, text'⟩ := packet_text form fields' whole'.some_field
    obtain ⟨-, -, alert, sign, marker⟩ := form_kind form (first ++ marked ',' more)
    obtain ⟨-, -, alert', sign', marker'⟩ := form_kind form (first' ++ marked ',' more')
    rw [text, text']
    exact FlightState.replaced_besides flight _ _ _ _ (alert.trans alert'.symm) (sign.trans sign'.symm)
      (marker.trans marker'.symm)
  · intro g own
    apply FlightState.replaced_stored
    rw [packet_said form fields whole.some_field g whole.plain,
      packet_said form fields' whole'.some_field g whole'.plain, Form.carried?, Form.carried?, own_map, own_map, own]

theorem edit_exchange (edit : Edit) (whole : Fields fields)
    (plain : ∀ text ∈ edit.newTexts, ',' ∉ Utf8.lossy text)
    (differ : d.Differ chunks chunks' (form.packet fields) (form.packet (edit.apply fields))) :
    (∀ g : Gauge, (∀ i, form.place? g = some i → edit.touches fields i = false) →
        g.stored (d.feedAll flight chunks).flight.telemetry =
          g.stored (d.feedAll flight chunks').flight.telemetry) ∧
      ((∀ (g : Gauge) i, form.place? g = some i → edit.touches fields i = false) →
        (d.feedAll flight chunks).flight = (d.feedAll flight chunks').flight) := by
  have whole' := whole.edited edit plain
  obtain ⟨besides, shown⟩ := packet_exchange d flight form fields chunks chunks' _ whole whole' differ
  have untouched (g : Gauge) (apart : ∀ i, form.place? g = some i → edit.touches fields i = false) :=
    shown g (edit.own_untouched fields form g apart).symm
  exact ⟨untouched, fun apart => FlightState.all_told _ _ besides fun g => untouched g (apart g)⟩

end Exchange

theorem telemetry_places (g : Gauge) (i : Nat) (place : Form.telemetry.place? g = some i) : i ≠ 3 ∧ i < 7 := by
  cases g <;> cases place <;> decide

/-- A gauge shows the last value that a line carried for it, so an edit of one line changes at most the gauges whose own
fields it touches. -/
theorem last_valid_reading (d : Decoder) (flight : FlightState) :
    (∀ chunks (g : Gauge), g.stored (d.feedAll flight chunks).flight.telemetry =
        ((d.textsAll chunks).filterMap g.said?).getLast?.getD (g.stored flight.telemetry)) ∧
    ∀ fields chunks chunks', Fields fields →
      let old := (d.feedAll flight chunks).flight
      let new := (d.feedAll flight chunks').flight
      (∀ (form : Form) (fields' : List Bytes), Fields fields' →
        d.Differ chunks chunks' (form.packet fields) (form.packet fields') →
        old.exceptGauges = new.exceptGauges ∧
        ∀ g : Gauge, form.own? g fields = form.own? g fields' → g.stored old.telemetry = g.stored new.telemetry) ∧
      (∀ (form : Form) (edit : Edit), (∀ text ∈ edit.newTexts, ',' ∉ Utf8.lossy text) →
        d.Differ chunks chunks' (form.packet fields) (form.packet (edit.apply fields)) →
        (∀ g : Gauge, (∀ i, form.place? g = some i → edit.touches fields i = false) →
          g.stored old.telemetry = g.stored new.telemetry) ∧
        ((∀ (g : Gauge) i, form.place? g = some i → edit.touches fields i = false) → old = new)) ∧
      ∀ place text, place = 3 ∨ 7 ≤ place → ',' ∉ Utf8.lossy text →
        d.Differ chunks chunks' (Form.telemetry.packet fields) (Form.telemetry.packet (fields.set place text)) →
        old = new := by
  refine ⟨?_, ?_⟩
  · intro chunks g
    rw [feed_all_texts, FlightState.hear_texts_stored]
  · intro fields chunks chunks' whole old new
    refine ⟨?_, ?_, ?_⟩
    · intro form fields' whole' differ
      exact packet_exchange d flight form fields chunks chunks' fields' whole whole' differ
    · intro form edit plain differ
      exact edit_exchange d flight form fields chunks chunks' edit whole plain differ
    · intro place text unused plain differ
      have edited := edit_exchange d flight .telemetry fields chunks chunks' (.replace place text) whole
        (by simpa [Edit.newTexts] using plain) differ
      apply edited.2
      intro g i own
      obtain ⟨throttle, motors⟩ := telemetry_places g i own
      have apart : i ≠ place := by omega
      simpa [Edit.touches] using apart

-- A battery level that does not read leaves the voltage beside it and the flag behind it as they are told.
theorem battery_level_garbled :
    let stream (line : String) := [Utf8.encode (line ++ "\r\nSTATUS,DISARMED,?,4.5\n")]
    let read (line : String) := (feedAll {} {} (stream line)).flight.telemetry
    let clear := read "TELEM,1.5,-2,0.5,1400,11.1,80,1"
    let garbled := read "TELEM,1.5,-2,0.5,1400,11.1,8o,1"
    clear.batteryPercent = 80 ∧ garbled.batteryPercent = 0 ∧ clear.batteryVoltage = garbled.batteryVoltage := by
  intro stream read clear garbled
  let fields := ["1.5", "-2", "0.5", "1400", "11.1", "80", "1\r"].map Utf8.encode
  let edit := Edit.replace 5 (Utf8.encode "8o")
  have whole : Fields fields := ⟨by decide, by decide⟩
  have differ : Differ {} (stream "TELEM,1.5,-2,0.5,1400,11.1,80,1") (stream "TELEM,1.5,-2,0.5,1400,11.1,8o,1")
      (Form.telemetry.packet fields) (Form.telemetry.packet (edit.apply fields)) :=
    ⟨[], [Utf8.encode "STATUS,DISARMED,?,4.5"], by decide, by decide⟩
  have told := (last_valid_reading {} {}).2 fields _ _ whole |>.2.1 .telemetry edit (by decide) differ
  refine ⟨by decide +kernel, by decide +kernel, ?_⟩
  apply told.1 .batteryVoltage
  intro i place
  cases place
  rfl

end Decoder

end FlightSupervisor
