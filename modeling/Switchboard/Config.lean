import Switchboard.Error
import Switchboard.Text.Quoted

/-
This file holds the settings of one process and says which of them it can honor.
-/

namespace Switchboard

/-- The listen settings say where requests are accepted and how each of them is bounded. -/
structure ListenConfig where
  host : String := "localhost"
  port : UInt16 := 9000
  /-- The prefix is cut off a request path before routing; an empty one cuts nothing. -/
  pathPrefix : String := ""
  requestTimeout : Option Duration := none
  /-- One hundred mebibytes suffice unless a process asks for more. -/
  maxBodySize : Nat := 104857600
  deriving DecidableEq, Repr

/-- The remote settings name the peer that outbound calls are sent to. -/
structure RemoteConfig where
  baseUrl : String := "http://localhost:32321/outbound"
  timeout : Option Duration := none
  connectTimeout : Option Duration := none
  deriving DecidableEq, Repr

/-- None of these switches changes how operations are addressed. -/
structure TransportFlags where
  tls : Bool := false
  compress : Bool := false
  http2 : Bool := false
  wiretap : Bool := false
  deriving DecidableEq, Repr

structure Config where
  listen : ListenConfig := {}
  remote : RemoteConfig := {}
  transport : TransportFlags := {}
  deriving DecidableEq, Repr

/-- Each fault is one setting that cannot be honored. -/
inductive ConfigFault where
  | tlsUnsupported
  | compressionUnsupported
  | emptyHost
  | zeroBodySize
  | malformedPrefix (pathPrefix : String)
  | emptyBaseUrl
  deriving DecidableEq, Repr

def ConfigFault.message : ConfigFault → String
  | .tlsUnsupported => "TLS was requested but is not supported by this build"
  | .compressionUnsupported => "compression was requested but is not supported by this build"
  | .emptyHost => "listen host is empty"
  | .zeroBodySize => "max body size must be positive"
  | .malformedPrefix pathPrefix =>
    s!"path prefix {Text.quoted pathPrefix} must start with '/' and not end with one"
  | .emptyBaseUrl => "remote base URL is empty"

def ConfigFault.toError (fault : ConfigFault) : Error := .configuration fault.message

namespace Config

/-- A prefix is empty, or it starts with a slash and ends with another character. -/
def isPathPrefix (pathPrefix : String) : Bool :=
  pathPrefix.toList = [] ||
    (pathPrefix.toList.head? = some '/' && pathPrefix.toList.getLast? ≠ some '/')

/-- The settings are checked in this order, and the first fault is reported. -/
def fault? (config : Config) : Option ConfigFault :=
  if config.transport.tls then some .tlsUnsupported
  else if config.transport.compress then some .compressionUnsupported
  else if config.listen.host = "" then some .emptyHost
  else if config.listen.maxBodySize = 0 then some .zeroBodySize
  else if isPathPrefix config.listen.pathPrefix = false then
    some (.malformedPrefix config.listen.pathPrefix)
  else if config.remote.baseUrl = "" then some .emptyBaseUrl
  else none

def validate (config : Config) : Except Error Unit :=
  match config.fault? with
  | some fault => .error fault.toError
  | none => .ok ()

end Config

end Switchboard
