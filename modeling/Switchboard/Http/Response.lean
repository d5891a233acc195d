import Switchboard.Text.Utf8

/-
This file builds the answers of a listener.
-/

namespace Switchboard.Http

/-- Of the headers, only the media type of the body counts. -/
structure Response where
  statusCode : Nat
  contentType : Option String
  body : Bytes
  deriving DecidableEq, Repr

namespace Response

/-- An answer to a caller that made a mistake, or met one, is a text. -/
def plain (statusCode : Nat) (message : String) : Response :=
  ⟨statusCode, some "text/plain; charset=utf-8", Text.Utf8.encode message⟩

def methodNotAllowed : Response := plain 405 "Invalid method"

def notFound : Response := plain 404 "Not Found"

def bodyTooLarge (limit : Nat) : Response := plain 413 s!"Request body exceeds {limit} bytes"

def bodyBrokenOff : Response :=
  plain 400 "Failed to read request body: error reading a body from connection"

def requestTimedOut : Response := plain 503 "Request timed out"

def handlerTimedOut : Response := plain 503 "Handler timed out"

def handlerPanicked : Response := plain 500 "Handler panicked"

/-- A request line that cannot be read is answered before any routing. -/
def badRequest : Response := ⟨400, none, []⟩

end Response

end Switchboard.Http
