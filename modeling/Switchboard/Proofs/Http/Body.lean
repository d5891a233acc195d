import Switchboard.Http.Body

/-
This file shows that only the bytes that were received decide what is collected of a body, and not
the frames in which they arrived.
-/

namespace Switchboard.Http.Body

theorem collectFrames_eq (limit : Nat) (ending : BodyEnd) (frames : List Bytes) {held : Bytes}
    (within : held.length ≤ limit) :
    collectFrames limit ending held frames =
      if limit < (held ++ frames.flatten).length then .tooLarge
      else finish (held ++ frames.flatten) ending := by
  -- what is held grows with every frame and stays within the limit until one frame is too much
  induction frames generalizing held with
  | nil =>
      rw [collectFrames, List.flatten_nil, List.append_nil, if_neg (Nat.not_lt.2 within)]
  | cons frame frames inductionHypothesis =>
      rw [collectFrames, List.flatten_cons, ← List.append_assoc]
      split
      · next large =>
          have larger : limit < (held ++ frame ++ frames.flatten).length := by
            rw [List.length_append, List.length_append]
            omega
          rw [if_pos larger]
      · next small =>
          rw [← List.length_append, Nat.not_lt] at small
          exact inductionHypothesis small

/-- A body is too large when more bytes were received than are allowed, however it ends. -/
theorem collect_eq (limit : Nat) (body : Body) :
    body.collect limit =
      if limit < body.received.length then .tooLarge else finish body.received body.ending :=
  collectFrames_eq limit body.ending body.frames (Nat.zero_le _)

/-- A whole body is one that completes within the limit. -/
theorem collect_eq_whole {limit : Nat} {body : Body} {payload : Bytes} :
    body.collect limit = .whole payload ↔
      body.received.length ≤ limit ∧ body.ending = .complete ∧ body.received = payload := by
  rw [collect_eq]
  split
  · next large => exact ⟨nofun, fun whole => absurd whole.1 (Nat.not_le.2 large)⟩
  · next small =>
      cases body.ending with
      | complete => simp [finish, Nat.not_lt.1 small]
      | brokenOff => simp [finish]
      | stalled => simp [finish]

theorem received_ofBytes (payload : Bytes) : (ofBytes payload).received = payload :=
  List.append_nil payload

end Switchboard.Http.Body
