/-
# Channels

A channel keeps the order of the messages that are sent on it.  The first message
may arrive in pieces: what is left of it stays in front, and what has arrived is
kept by the receiver.  `assembled part channel` are the messages as they were sent,
`part` being what the receiver has of the first one; it does not change when a piece
arrives, grows behind when a message is sent and loses its head with the last piece.

When nothing is on its way the receiver has nothing either (`Settled`).
-/

import Mathlib.Data.List.Basic

namespace Basis

variable {α : Type}

/-- The messages on their way, of whose first one `part` has arrived. -/
def assembled (part : List α) : List (List α) → List (List α)
  | [] => []
  | message :: channel => (part ++ message) :: channel

/-- With nothing on its way there is no part of a message. -/
def Settled (part : List α) (channel : List (List α)) : Prop := channel = [] → part = []

/-- The first piece of the first message, of `size` bytes, and what is left. -/
def piece (size : ℕ) : List (List α) → List α × List (List α)
  | [] => ([], [])
  | message :: channel => (message.take size, message.drop size :: channel)

/-- The rest of the first message, and the messages behind it. -/
def lastPiece : List (List α) → List α × List (List α)
  | [] => ([], [])
  | message :: channel => (message, channel)

theorem Settled.nil (channel : List (List α)) : Settled [] channel := fun _ => rfl

theorem Settled.append {part : List α} {channel : List (List α)} (h : Settled part channel)
    (messages : List (List α)) : Settled part (channel ++ messages) := fun hnil =>
  h (List.append_eq_nil_iff.1 hnil).1

/-- What is left of a message is on its way. -/
theorem Settled.piece (part : List α) (size : ℕ) {channel : List (List α)} (h : channel ≠ []) :
    Settled part (piece size channel).2 := by
  cases channel with
  | nil => exact absurd rfl h
  | cons message channel => nofun

theorem assembled_nil (channel : List (List α)) : assembled [] channel = channel := by
  cases channel <;> rfl

theorem length_assembled (part : List α) (channel : List (List α)) :
    (assembled part channel).length = channel.length := by
  cases channel <;> rfl

theorem assembled_eq_nil {part : List α} {channel : List (List α)} :
    assembled part channel = [] ↔ channel = [] := by
  cases channel <;> simp [assembled]

/-- What is sent comes behind what is on its way. -/
theorem assembled_append {part : List α} {channel : List (List α)} (h : Settled part channel)
    (messages : List (List α)) :
    assembled part (channel ++ messages) = assembled part channel ++ messages := by
  cases channel with
  | nil =>
      rw [h rfl, assembled_nil]
      rfl
  | cons message channel => rfl

/-- A piece that arrives changes no message. -/
theorem assembled_piece (part : List α) (size : ℕ) {channel : List (List α)} (h : channel ≠ []) :
    assembled (part ++ (piece size channel).1) (piece size channel).2 = assembled part channel := by
  cases channel with
  | nil => exact absurd rfl h
  | cons message channel => simp [assembled, piece]

/-- With its last piece a message has arrived. -/
theorem assembled_lastPiece (part : List α) {channel : List (List α)} (h : channel ≠ []) :
    assembled part channel = (part ++ (lastPiece channel).1) :: (lastPiece channel).2 := by
  cases channel with
  | nil => exact absurd rfl h
  | cons message channel => rfl

end Basis
