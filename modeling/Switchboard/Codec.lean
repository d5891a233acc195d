import Switchboard.Error
import Switchboard.Json.Reader
import Switchboard.Json.Writer
import Switchboard.MessagePack.Reader
import Switchboard.MessagePack.Writer

/-
This file chooses between the payload formats and turns typed values into payloads and back.
-/

namespace Switchboard

/-- A payload carries no tag, so both sides of a call have to use the same codec. -/
inductive Codec where
  | json
  | messagePack
  deriving DecidableEq, Repr

namespace Codec

/-- The media type is sent beside a payload. -/
def mediaType : Codec → String
  | .json => "application/json"
  | .messagePack => "application/msgpack"

def encode (codec : Codec) (datum : Datum) : Except Error Bytes :=
  match codec with
  | .json =>
    match Json.write datum with
    | .ok payload => .ok payload
    | .error fault => .error (.encode fault.message)
  | .messagePack => .ok (MessagePack.write datum)

/-- The reader names the shape that it expects. -/
def decode (codec : Codec) (shape : Shape) (payload : Bytes) : Except Error Datum :=
  match codec with
  | .json =>
    match Json.readPayload shape payload with
    | .ok datum => .ok datum
    | .error fault => .error (.decode (fault.message payload))
  | .messagePack =>
    match MessagePack.readPayload shape payload with
    | .ok datum => .ok datum
    | .error fault => .error (.decode fault.message)

end Codec

end Switchboard
