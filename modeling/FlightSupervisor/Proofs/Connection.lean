import FlightSupervisor.Decoder
import FlightSupervisor.Watchdog
/-!
The state of the connection is only ever written.  A view leaves something out; what makes nothing of that does the same
with all that looks the same (`overlooks_same`).  What the flight controller says of the rest does not depend on the
connection, so lines are heard alike with and without it (`feed_offline`).
-/

set_option autoImplicit false

namespace FlightSupervisor

-- What is shown of the result comes from no more than the view shows.
def Overlooks {α β γ : Type} (view : α → α) (shown : β → γ) (work : α → β) : Prop :=
  ∀ x, shown (work (view x)) = shown (work x)

section Overlooks

variable {α β γ δ : Type} {view : α → α}

theorem overlooks_same {shown : β → γ} {work : α → β} (overlooks : Overlooks view shown work) (x y : α)
    (same : view x = view y) : shown (work x) = shown (work y) := by
  rw [← overlooks x, same, overlooks y]

theorem overlooks_then {shown : β → β} {told : γ → δ} {work : α → β} {next : β → γ}
    (first : Overlooks view shown work) (second : Overlooks shown told next) :
    Overlooks view told fun x => next (work x) :=
  fun x => overlooks_same second _ _ (first x)

theorem overlooks_pair {shown : β → γ} {work : α → δ × β} (overlooks : Overlooks view (Prod.map id shown) work)
    (x : α) : ∃ result viewed plain, work (view x) = (result, viewed) ∧ work x = (result, plain) ∧
      shown viewed = shown plain := by
  obtain ⟨results, states⟩ := Prod.mk.inj (overlooks x)
  exact ⟨(work x).1, (work (view x)).2, (work x).2, Prod.ext results rfl, rfl, states⟩

end Overlooks

namespace FlightState

def offline (f : FlightState) : FlightState := f.setConnection .disconnected

theorem offline_offline (f : FlightState) : f.offline.offline = f.offline := rfl

theorem set_connection_offline (connection : Connection) (f : FlightState) :
    (f.setConnection connection).offline = f.offline := rfl

theorem offline_alike (f g : FlightState) (same : f.offline = g.offline) :
    g = f.setConnection g.telemetry.connection := by
  have back : g = g.offline.setConnection g.telemetry.connection := rfl
  rw [back, ← same]
  rfl

theorem hear_offline (line : Inbound) : Overlooks offline offline fun f => f.hear line := by
  intro f
  cases line <;> rfl

theorem hear_all_offline (lines : List Inbound) : Overlooks offline offline fun f => lines.foldl hear f := by
  induction lines with
  | nil => exact offline_offline
  | cons line later ih => exact overlooks_then (hear_offline line) ih

theorem watch_connection (now timeout : Nat) (f : FlightState) :
    ∃ connection, (f.watch now timeout).2 = f.setConnection connection := by
  rw [watch]
  split
  · split
    · exact ⟨f.telemetry.connection, rfl⟩
    · exact ⟨.warning, rfl⟩
  · exact ⟨f.telemetry.connection, rfl⟩

theorem watch_silent (now timeout : Nat) (f : FlightState) : (f.watch now timeout).2.offline = f.offline := by
  obtain ⟨connection, same⟩ := f.watch_connection now timeout
  rw [same, set_connection_offline]

theorem watch_offline (now timeout : Nat) : Overlooks offline offline fun f => (f.watch now timeout).2 := by
  intro f
  dsimp only
  rw [watch_silent, watch_silent, offline_offline]

end FlightState

namespace Decoder

theorem feed_offline (d : Decoder) (chunk : Bytes) :
    Overlooks FlightState.offline FlightState.offline fun f => (d.feed f chunk).flight :=
  FlightState.hear_all_offline (d.completed chunk)

end Decoder

end FlightSupervisor
