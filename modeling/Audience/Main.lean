import Audience.Service.Startup

/-!
The command line. It takes the settings from the environment, says what they are, and ends with an error when
the service cannot start with them.
-/

namespace Audience

/-- The environment of the process. -/
def readEnvironment : IO Environment := do
  let values ← Environment.names.mapM fun name => return (name, ← IO.getEnv name)
  return fun name => (values.lookup name).join

end Audience

/-- Reports the settings and checks that the service starts with them. -/
def main : IO UInt32 := do
  let env ← Audience.readEnvironment
  for line in Audience.Startup.output env do
    IO.println line
  match env.settings.start fun _ => .error Audience.RemoteWarehouse.unanswered with
  | .ok _ => return 0
  | .error e =>
    IO.eprintln (Audience.Startup.failureText e)
    return 1
