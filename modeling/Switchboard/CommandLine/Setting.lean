import Switchboard.Config

/-
This file lists the settings that a process takes from its caller.
-/

namespace Switchboard.CommandLine

/-- A setting may be given on the command line or in the environment. -/
inductive Setting where
  | host
  | port
  | pathPrefix
  | outboundBaseUrl
  | requestTimeout
  | outboundTimeout
  | connectTimeout
  | maxBodySize
  | secure
  | compress
  | http2
  | wiretap
  deriving DecidableEq, Repr

/-- Scanning ends at a question that is answered at once or at the first mistake. -/
inductive Stop where
  | help
  | version
  | unknownArgument
  | missingValue
  | invalidFlag
  | invalidNumber
  | repeated
  | surplusValue
  deriving DecidableEq, Repr

/-- A question that was answered is a success. -/
def Stop.exitCode : Stop → Nat
  | .help => 0
  | .version => 0
  | _ => 2

/-- A flag has no value of its own on the command line. -/
inductive Value where
  | text (value : String)
  | number (value : Nat)
  | flag (value : Bool)
  deriving DecidableEq, Repr

/-- The numbers of a setting go up to a greatest one. -/
inductive Kind where
  | text
  | port
  | number
  | flag
  deriving DecidableEq, Repr

namespace Setting

/-- The environment is read in this order. -/
def all : List Setting :=
  [.host, .port, .pathPrefix, .outboundBaseUrl, .requestTimeout, .outboundTimeout,
    .connectTimeout, .maxBodySize, .secure, .compress, .http2, .wiretap]

/-- The name of an option follows two hyphens. -/
def option : Setting → String
  | .host => "host"
  | .port => "port"
  | .pathPrefix => "path-prefix"
  | .outboundBaseUrl => "outbound-base-url"
  | .requestTimeout => "request-timeout-ms"
  | .outboundTimeout => "outbound-timeout-ms"
  | .connectTimeout => "connect-timeout-ms"
  | .maxBodySize => "max-body-size"
  | .secure => "secure"
  | .compress => "compress"
  | .http2 => "http2"
  | .wiretap => "wiretap"

/-- The prefix has a variable of a longer name. -/
def environmentName : Setting → String
  | .host => "HOST"
  | .port => "PORT"
  | .pathPrefix => "INBOUND_PATH_PREFIX"
  | .outboundBaseUrl => "OUTBOUND_BASE_URL"
  | .requestTimeout => "REQUEST_TIMEOUT_MS"
  | .outboundTimeout => "OUTBOUND_TIMEOUT_MS"
  | .connectTimeout => "CONNECT_TIMEOUT_MS"
  | .maxBodySize => "MAX_BODY_SIZE"
  | .secure => "SECURE"
  | .compress => "COMPRESS"
  | .http2 => "HTTP2"
  | .wiretap => "WIRETAP"

def kind : Setting → Kind
  | .host => .text
  | .port => .port
  | .pathPrefix => .text
  | .outboundBaseUrl => .text
  | .requestTimeout => .number
  | .outboundTimeout => .number
  | .connectTimeout => .number
  | .maxBodySize => .number
  | .secure => .flag
  | .compress => .flag
  | .http2 => .flag
  | .wiretap => .flag

def ofOption? (name : String) : Option Setting := all.find? fun setting => setting.option = name

end Setting

/-- Digits are decimal, and there is at least one. -/
def readDigits (characters : List Char) : Option Nat :=
  if characters ≠ [] ∧ characters.all Char.isDigit then
    some (characters.foldl (fun total digit => total * 10 + (digit.toNat - 0x30)) 0)
  else none

/-- A plus sign may stand before the digits. -/
def readNumber (raw : String) : Option Nat :=
  match raw.toList with
  | '+' :: digits => readDigits digits
  | digits => readDigits digits

/-- A port is read as a signed number, so zero may have a minus sign. -/
def readPort (raw : String) : Option Nat :=
  match raw.toList with
  | '-' :: digits => if readDigits digits = some 0 then some 0 else none
  | _ => readNumber raw

def readAtMost (maximum : Nat) : Option Nat → Except Stop Value
  | none => .error .invalidNumber
  | some number => if number ≤ maximum then .ok (.number number) else .error .invalidNumber

/-- A flag is spelled out in the environment. -/
def readFlag (raw : String) : Except Stop Value :=
  if raw = "true" then .ok (.flag true)
  else if raw = "false" then .ok (.flag false)
  else .error .invalidFlag

def Kind.read (kind : Kind) (raw : String) : Except Stop Value :=
  match kind with
  | .text => .ok (.text raw)
  | .port => readAtMost 65535 (readPort raw)
  | .number => readAtMost 18446744073709551615 (readNumber raw)
  | .flag => readFlag raw

def Setting.read (setting : Setting) (raw : String) : Except Stop Value := setting.kind.read raw

/-- Each setting is one field of the configuration. A value of another kind changes nothing. -/
def Setting.apply (setting : Setting) (value : Value) (config : Config) : Config :=
  match setting, value with
  | .host, .text name => { config with listen := { config.listen with host := name } }
  | .port, .number number =>
    { config with listen := { config.listen with port := UInt16.ofNat number } }
  | .pathPrefix, .text text =>
    { config with listen := { config.listen with pathPrefix := text } }
  | .outboundBaseUrl, .text text =>
    { config with remote := { config.remote with baseUrl := text } }
  | .requestTimeout, .number milliseconds =>
    { config with
      listen := { config.listen with requestTimeout := some (.ofMilliseconds milliseconds) } }
  | .outboundTimeout, .number milliseconds =>
    { config with remote := { config.remote with timeout := some (.ofMilliseconds milliseconds) } }
  | .connectTimeout, .number milliseconds =>
    { config with
      remote := { config.remote with connectTimeout := some (.ofMilliseconds milliseconds) } }
  | .maxBodySize, .number bytes =>
    { config with listen := { config.listen with maxBodySize := bytes } }
  | .secure, .flag isSet => { config with transport := { config.transport with tls := isSet } }
  | .compress, .flag isSet =>
    { config with transport := { config.transport with compress := isSet } }
  | .http2, .flag isSet => { config with transport := { config.transport with http2 := isSet } }
  | .wiretap, .flag isSet =>
    { config with transport := { config.transport with wiretap := isSet } }
  | _, _ => config

end Switchboard.CommandLine
