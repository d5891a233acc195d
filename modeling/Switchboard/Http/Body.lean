import Switchboard.Bytes

/-
This file collects the body of a request from the frames in which it arrives.
-/

namespace Switchboard.Http

/-- After its last frame a body is complete, the connection breaks off, or nothing ever comes. -/
inductive BodyEnd where
  | complete
  | brokenOff
  | stalled
  deriving DecidableEq, Repr

structure Body where
  frames : List Bytes
  ending : BodyEnd
  deriving DecidableEq, Repr

namespace Body

def ofBytes (payload : Bytes) : Body := ⟨[payload], .complete⟩

/-- These bytes were received, whatever came after them. -/
def received (body : Body) : Bytes := body.frames.flatten

/-- A body is read in full, exceeds its limit, or ends in one of the two other ways. -/
inductive Collected where
  | whole (payload : Bytes)
  | tooLarge
  | brokenOff
  | stalled
  deriving DecidableEq, Repr

def finish (held : Bytes) : BodyEnd → Collected
  | .complete => .whole held
  | .brokenOff => .brokenOff
  | .stalled => .stalled

/-- The frame that passes the limit ends the reading. -/
def collectFrames (limit : Nat) (ending : BodyEnd) : Bytes → List Bytes → Collected
  | held, [] => finish held ending
  | held, frame :: rest =>
    if limit < held.length + frame.length then .tooLarge
    else collectFrames limit ending (held ++ frame) rest

def collect (limit : Nat) (body : Body) : Collected :=
  collectFrames limit body.ending [] body.frames

end Body

end Switchboard.Http
