import Mathlib.Data.List.Induction
import FlightSupervisor.Proofs.LineLocality
/-!
Pieces of text put together again.  Cutting at a mark undoes joining, as long as no piece holds the mark
(`cut_at_joined`), a span ends where what follows it does not belong to it (`span_taken`), and trimming a text trims
at most its last piece (`trim_right_joined`).
-/

set_option autoImplicit false

namespace FlightSupervisor

section Joining

variable {α : Type}

def marked (mark : α) (pieces : List (List α)) : List α := pieces.flatMap (mark :: ·)

@[simp] theorem marked_nil (mark : α) : marked mark [] = [] := rfl

@[simp] theorem marked_cons (mark : α) (piece : List α) (more : List (List α)) :
    marked mark (piece :: more) = mark :: (piece ++ marked mark more) := rfl

variable [DecidableEq α]

theorem cut_at_joined (mark : α) (first : List α) (more : List (List α))
    (unmarked : ∀ piece ∈ first :: more, mark ∉ piece) :
    cutAt mark (first ++ marked mark more) = first :: more := by
  induction more generalizing first with
  | nil => simpa using cut_at_unmarked mark first (unmarked first List.mem_cons_self)
  | cons second more ih =>
      have rest := ih second fun piece member => unmarked piece (List.mem_cons_of_mem first member)
      rw [marked_cons, cut_at_ended mark first _ (unmarked first List.mem_cons_self), rest]

end Joining

section Spans

variable {α : Type} (p : α → Bool) (front rest : List α) (inside : ∀ x ∈ front, p x = true)
  (stops : ∀ x ∈ rest.head?, p x = false)

include inside stops

theorem span_taken : (front ++ rest).takeWhile p = front := by
  rw [List.takeWhile_append_of_pos inside]
  cases rest with
  | nil => simp
  | cons x rest => simp [stops x rfl]

theorem span_dropped : (front ++ rest).dropWhile p = rest := by
  rw [List.dropWhile_append_of_pos inside]
  cases rest with
  | nil => rfl
  | cons x rest => simp [stops x rfl]

end Spans

section Trimming

variable (text : List Char)

theorem trim_right_visible (c : Char) (visible : isBlank c = false) : trimRight (text ++ [c]) = text ++ [c] := by
  simp [trimRight, visible]

theorem trim_left_visible (c : Char) (visible : isBlank c = false) : trimLeft (c :: text) = c :: text := by
  simp [trimLeft, visible]

theorem trim_right_behind (front : List Char) (c : Char) (visible : isBlank c = false) :
    trimRight (front ++ c :: text) = front ++ c :: trimRight text := by
  induction text using List.reverseRecOn with
  | nil => exact trim_right_visible front c visible
  | append_singleton rest last ih =>
      rw [show front ++ c :: (rest ++ [last]) = (front ++ c :: rest) ++ [last] by simp]
      cases blank : isBlank last with
      | true => rw [trim_right_blank _ _ blank, trim_right_blank _ _ blank, ih]
      | false => rw [trim_right_visible _ _ blank, trim_right_visible _ _ blank]; simp

theorem trim_trim_right : trim (trimRight text) = trim text := by
  induction text using List.reverseRecOn with
  | nil => rfl
  | append_singleton rest last ih =>
      cases blank : isBlank last with
      | true => rw [trim_right_blank _ _ blank, trim_blank _ _ blank, ih]
      | false => rw [trim_right_visible _ _ blank]

theorem mem_trim_right (c : Char) (member : c ∈ trimRight text) : c ∈ text := by
  rw [trimRight, List.mem_reverse] at member
  exact List.mem_reverse.mp ((List.dropWhile_sublist isBlank).subset member)

def trimLast : List (List Char) → List (List Char)
  | [] => []
  | [piece] => [trimRight piece]
  | piece :: second :: more => piece :: trimLast (second :: more)

theorem trim_right_joined (mark : Char) (visible : isBlank mark = false) (front : List Char)
    (pieces : List (List Char)) (some_piece : pieces ≠ []) :
    trimRight (front ++ marked mark pieces) = front ++ marked mark (trimLast pieces) := by
  induction pieces generalizing front with
  | nil => exact absurd rfl some_piece
  | cons piece more ih =>
      cases more with
      | nil => simpa [trimLast] using trim_right_behind piece front mark visible
      | cons second more =>
          have rest := ih (front ++ mark :: piece) (by simp)
          simpa [trimLast] using rest

theorem trim_last_trim (pieces : List (List Char)) : (trimLast pieces).map trim = pieces.map trim := by
  induction pieces with
  | nil => rfl
  | cons piece more ih =>
      cases more with
      | nil => simp [trimLast, trim_trim_right]
      | cons second more => simpa [trimLast] using ih

theorem trim_last_mem (pieces : List (List Char)) :
    ∀ piece ∈ trimLast pieces, ∃ whole ∈ pieces, ∀ c ∈ piece, c ∈ whole := by
  induction pieces with
  | nil => simp [trimLast]
  | cons piece more ih =>
      cases more with
      | nil => simpa [trimLast] using fun c => mem_trim_right piece c
      | cons second more =>
          intro found member
          rcases List.mem_cons.mp member with rfl | later
          · exact ⟨found, by simp, fun c inside => inside⟩
          · obtain ⟨whole, listed, within⟩ := ih found later
            exact ⟨whole, List.mem_cons_of_mem piece listed, within⟩

end Trimming

end FlightSupervisor
