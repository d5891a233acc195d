import Switchboard.Http.Client
import Switchboard.Http.Listener

/-
This file puts the parts of a process together: codec, invoker, dispatch table and listener.
-/

namespace Switchboard

/-- An adapter is built from settings that can be honored, so it fails before the first call. -/
structure Adapter (σ : Type) where
  config : Config
  codec : Codec
  transport : Transport σ
  handlers : Handlers σ

namespace Adapter

variable {σ : Type}

/-- The outbound calls of this adapter go through a transport that is given. -/
def withTransport (config : Config) (codec : Codec) (transport : Transport σ) :
    Except Error (Adapter σ) :=
  match config.validate with
  | .error error => .error error
  | .ok _ => .ok ⟨config, codec, transport, Handlers.empty⟩

/-- The outbound calls of this adapter go to the remote peer of its settings. -/
def withCodec (network : Http.Network σ) (config : Config) (codec : Codec) :
    Except Error (Adapter σ) :=
  match config.validate with
  | .error error => .error error
  | .ok _ =>
    match { Http.ClientOptions.ofConfig config.remote with
        contentType := some codec.mediaType }.build with
    | .error error => .error error
    | .ok client => withTransport config codec (client.transport network)

/-- The invoker makes the outbound calls. -/
def invoker (adapter : Adapter σ) : Invoker σ := ⟨adapter.transport, adapter.codec⟩

/-- An operation is exposed under a key. -/
def register (adapter : Adapter σ) (namespaceName operation : String) (request : Shape)
    (run : Operation σ) : Except Error (Adapter σ) :=
  match adapter.handlers.register namespaceName operation
      (some (typedHandler adapter.codec request run)) with
  | .error error => .error error
  | .ok handlers => .ok { adapter with handlers := handlers }

/-- Answers carry the media type of the codec. -/
def router (adapter : Adapter σ) : Http.Router σ :=
  { Http.Router.ofConfig adapter.config adapter.handlers with
    contentType := some adapter.codec.mediaType }

def bind (adapter : Adapter σ) (binder : Http.Binder) : Except Error (Http.Listener σ) :=
  Http.Listener.bind binder adapter.config.listen.host adapter.config.listen.port adapter.router

end Adapter

end Switchboard
