import Switchboard.CommandLine.Scan
import Switchboard.Customers.Exchange

/-
This file starts the customer service: it reads the settings, builds the parts and binds the
listener, or reports why that failed.
-/

namespace Switchboard

/-- A report is what a process leaves behind when it stops. -/
structure Report where
  exitCode : Nat
  standardOutput : String
  standardError : String
  deriving DecidableEq, Repr

namespace Report

def success (output : String) : Report := ⟨0, output, ""⟩

/-- The further lines of a cause stand below its first one. -/
def indent (width : Nat) (text : String) : String :=
  String.ofList (text.toList.flatMap fun character =>
    if character = '\n' then '\n' :: List.replicate width ' ' else [character])

/-- Several causes are numbered from the outermost one on. -/
def causeLines : Nat → List String → List String
  | _, [] => []
  | number, cause :: rest =>
    s!"    {number}: {indent 7 cause}\n" :: causeLines (number + 1) rest

def causesText : List String → String
  | [cause] => s!"    {indent 4 cause}\n"
  | causes => String.join (causeLines 0 causes)

/-- A failure names the step that failed and the causes below it. -/
def failure (context : String) (error : Error) : Report :=
  ⟨1, "", s!"Error: {context}\n\nCaused by:\n{causesText (error.message :: error.causes)}"⟩

def versionText : String := "customers 0.1.0\n"

def usageText : String :=
  "Usage: customers [OPTIONS]\n\nOptions:\n" ++
    String.join (CommandLine.Setting.all.map fun setting =>
      s!"  --{setting.option} [env: {setting.environmentName}]\n")

def mistakeText : CommandLine.Stop → String
  | .unknownArgument => "error: unexpected argument\n"
  | .missingValue => "error: an option needs a value\n"
  | .invalidFlag => "error: a flag is neither true nor false\n"
  | .invalidNumber => "error: a value is no number in range\n"
  | .repeated => "error: an option is given twice\n"
  | .surplusValue => "error: a flag takes no value\n"
  | _ => ""

def ofStop (stop : CommandLine.Stop) : Report :=
  match stop with
  | .help => success usageText
  | .version => success versionText
  | stop => ⟨stop.exitCode, "", mistakeText stop⟩

end Report

namespace Startup

variable {σ : Type}

/-- The service speaks the compact format with its peer and its callers. -/
def codec : Codec := .messagePack

/-- The service reaches its peer through the invoker of its own adapter. -/
def serve (network : Http.Network σ) (config : Config) : Except Report (Adapter σ) :=
  match Adapter.withCodec network config codec with
  | .error error => .error (.failure "invalid configuration" error)
  | .ok adapter =>
    let outbound := Customers.Outbound.remote adapter.invoker
    match Customers.registerInbound adapter (.service outbound) with
    | .error error => .error (.failure "failed to register inbound operations" error)
    | .ok adapter => .ok adapter

/-- A process that starts has bound its listener. -/
def start (network : Http.Network σ) (binder : Http.Binder) (arguments : List String)
    (environment : List (String × String)) : Except Report (Http.Listener σ) :=
  match CommandLine.read arguments environment with
  | .error stop => .error (.ofStop stop)
  | .ok config =>
    match serve network config with
    | .error report => .error report
    | .ok adapter =>
      match adapter.bind binder with
      | .error error => .error (.failure "listener failed" error)
      | .ok listener => .ok listener

end Startup

end Switchboard
