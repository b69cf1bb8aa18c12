/-!
# Telemetry
Log lines are written by one subscriber for the whole process. It is installed once, when the
program starts.
-/

namespace Stagehand

/-- Why the subscriber could not be installed. -/
structure TelemetryError where
  reason : String
deriving DecidableEq

/-- The words for why the subscriber could not be installed. -/
def TelemetryError.message (e : TelemetryError) : String :=
  "telemetry initialization failed: " ++ e.reason

/-- Installs the subscriber, unless the process already has one. -/
def installSubscriber (installed : Bool) : Except TelemetryError Unit :=
  if installed then
    .error ⟨"failed to install tracing subscriber: " ++
      "a global default trace dispatcher has already been set"⟩
  else .ok ()

end Stagehand
