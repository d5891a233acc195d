import Switchboard.Startup

/-
This file is the command of the customer service.
-/

namespace Switchboard.Main

/-- The variables of the environment that name settings are read; all others are left alone. -/
def environment : IO (List (String × String)) :=
  CommandLine.Setting.all.filterMapM fun setting => do
    let value ← IO.getEnv setting.environmentName
    return value.map fun value => (setting.environmentName, value)

/-- This build carries no sockets, so every address is refused. -/
def binder : Http.Binder := fun _ _ => some "sockets are not supported by this build"

end Switchboard.Main

def main (arguments : List String) : IO UInt32 := do
  let environment ← Switchboard.Main.environment
  match Switchboard.Startup.start (Switchboard.Http.Network.unreachable (σ := Unit))
      Switchboard.Main.binder arguments environment with
  | .ok _ => return 0
  | .error report => do
    (← IO.getStdout).putStr report.standardOutput
    (← IO.getStderr).putStr report.standardError
    return UInt32.ofNat report.exitCode
