import UserAccounts.Config.Sources
import UserAccounts.Text.Numeral

/-!
# The command

`main` reads the settings from the command line and the environment and examines them in the order
in which a service that starts needs them: where to listen, what links begin with, and where the
accounts are kept. It prints what the service would use, or the first thing that is wrong.
-/

namespace UserAccounts

/-- What a service with these settings uses, a line for each. The database URL is left out, since it
may hold a password. -/
def Config.summary (c : Config) : Except ConfigError (List String) := do
  let address ← c.bindAddress
  let url ← c.baseUrl
  let store ← c.storeSettings
  return ["listening on " ++ address.text, "links begin with " ++ url.text,
    "at most " ++ Text.natural store.maxConnections ++ " connections, each awaited for " ++
      Text.natural store.acquireTimeout.wholeMillis ++ " ms",
    "showing events from level " ++ c.logLevel ++ " on"]

/-- The environment variables of all settings that are set. -/
def readEnvironment : IO (List (String × String)) :=
  Config.Setting.all.filterMapM fun setting => do
    return (← IO.getEnv setting.environmentName).map ((setting.environmentName, ·))

end UserAccounts

/-- Examine the settings that the arguments and the environment give. -/
def main (arguments : List String) : IO UInt32 := do
  match UserAccounts.Config.load arguments (← UserAccounts.readEnvironment) with
  | none =>
    IO.eprintln "failed to load configuration"
    return 1
  | some config =>
    match config.summary with
    | .error e =>
      IO.eprintln e.message
      return 1
    | .ok lines =>
      lines.forM IO.println
      return 0
