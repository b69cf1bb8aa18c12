import Stagehand.Access
import Stagehand.Cache.Error
import Stagehand.Log.Telemetry
import Stagehand.Settings.Load

/-!
# Failures
Why the program fails. Whatever the cause, it is told in one message.
-/

namespace Stagehand

/-- Why the program fails. -/
inductive Failure
  | load (e : LoadError)
  | telemetry (e : TelemetryError)
  | access (e : AccessError)
  | cache (e : CacheError)

/-- The words for why the program fails. -/
def Failure.message : Failure → String
  | load e => "failed to load configuration: " ++ e.message
  | telemetry e => e.message
  | access e => e.message
  | cache e => e.message

end Stagehand
