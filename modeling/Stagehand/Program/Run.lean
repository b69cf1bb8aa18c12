import Stagehand.Cache.Provider
import Stagehand.Log.Filter
import Stagehand.Log.Line
import Stagehand.Program.Failure

/-!
# Running the program
A run reads the arguments, loads the settings and does what was asked for. What it finds goes to
the output and what it reports goes to the log; neither has any influence on the other.
-/

namespace Stagehand

/-- What surrounds a run: variables, files, the network, and the time as records and as log lines
show it. -/
structure Surroundings where
  environment : Environment := []
  directory : Settings.Directory
  network : Network := .unreachable
  recordTime : String
  lineTime : String

/-- What a run leaves: the exit code, the output, the lines of the log, and the attempts to reach
the network. -/
structure Outcome where
  exitCode : Nat
  output : String := ""
  log : List String := []
  contacts : List Contact := []

namespace Program

/-- Where the events of the program itself come from. -/
def target : String := "fanhub"

/-! ### Actions -/

/-- The event of an answered ping. -/
def pingEvent (enabled : Bool) (reply : String) : Event where
  target := target
  severity := .info
  message := "cache ping"
  fields := [("enabled", .flag enabled), ("reply", .words reply)]

/-- What is printed about an answered ping. -/
def pingLine (enabled : Bool) (reply : String) : String :=
  (if enabled then "live" else "fallback") ++ " " ++ reply ++ "\n"

/-- Pings the cache through the shared client. -/
def ping (provider : CacheProvider) (w : World) : Except Failure String × World :=
  let (client, _, w) := provider.obtain w
  match client.perform .ping w with
  | (.ok (.word reply), w) =>
    (.ok (pingLine client.enabled reply), w.report (pingEvent client.enabled reply))
  | (.ok _, w) => (.ok "", w)
  | (.error e, w) => (.error (.cache e), w)

/-- The session that the arguments describe. -/
def sessionOf (c : CommandLine.RoleCheck) : Session := ⟨c.tenant, c.user, c.role⟩

/-- The event of a role that was checked. -/
def roleEvent (c : CommandLine.RoleCheck) (tenant : String) (permitted : Bool) : Event where
  target := target
  severity := .info
  message := "role check"
  fields := [("tenant", .text tenant)] ++
    (c.user.map fun u => ("user", Event.Value.text u)).toList ++
    [("role", .words (toString c.role)), ("permitted", .flag permitted)]

/-- What is printed about a role that passed its check. -/
def roleLine (tenant : String) (role : Role) : String :=
  "ok " ++ tenant ++ " " ++ toString role ++ " (" ++ role.displayName ++ ")\n"

/-- Whether the role ranks high enough for what was asked. -/
def isPermitted (c : CommandLine.RoleCheck) : Bool :=
  c.minimum.all fun m => (sessionOf c).canAct m

/-- Checks the tenant, the role against a list, and the role's rank, in this order. -/
def checkRole (c : CommandLine.RoleCheck) (w : World) : Except Failure String × World :=
  let s := sessionOf c
  match s.requireTenant with
  | .error e => (.error (.access e), w)
  | .ok tenant =>
    match if c.allowed = [] then .ok () else s.assertRole c.allowed with
    | .error e => (.error (.access e), w)
    | .ok () =>
      let w := w.report (roleEvent c tenant (isPermitted c))
      if isPermitted c then (.ok (roleLine tenant c.role), w)
      else (.error (.access (.forbidden c.role)), w)

/-- Does what was asked for; without a request that is a ping. -/
def act (action : Option CommandLine.Action) (settings : Settings) (w : World) :
    Except Failure String × World :=
  match action.getD .ping with
  | .ping => ping { config := settings.cache.config } w
  | .checkRole c => checkRole c w

/-! ### Runs -/

/-- The event of a failure. -/
def failureEvent (f : Failure) : Event where
  target := target
  severity := .error
  message := "application error"
  fields := [("error", .words f.message)]

/-- The outcome of arguments that ask for a text or are wrong. -/
def stopped (s : CommandLine.Stop) : Outcome :=
  match s with
  | .fault _ => { exitCode := s.exitCode, log := [s.message] }
  | _ => { exitCode := s.exitCode, output := s.message }

/-- The outcome of a failure before anything is logged. -/
def failedEarly (f : Failure) (around : Surroundings) : Outcome :=
  { exitCode := 1, log := [(failureEvent f).compactLine around.lineTime] }

/-- The lines of the events that a filter shows. -/
def logLines (filter : LogFilter) (format : LogFormat) (time : String) (events : List Event) :
    List String :=
  (events.filter filter.shows).map (Event.line format time)

/-- The outcome of a run with settings. -/
def perform (action : Option CommandLine.Action) (settings : Settings) (around : Surroundings) :
    Outcome :=
  let directives := (around.environment.lookup LogFilter.variableName).getD ""
  let filter := LogFilter.ofText directives settings.logging.level
  let written (w : World) : List String :=
    LogFilter.complaints directives ++
      logLines filter settings.logging.format around.lineTime w.journal.events
  match act action settings { network := around.network, now := around.recordTime } with
  | (.ok output, w) => ⟨0, output, written w, w.contacts⟩
  | (.error f, w) => ⟨1, "", written (w.report (failureEvent f)), w.contacts⟩

/-- What the arguments ask for. -/
def parse (arguments : List String) (env : Environment) :
    Except CommandLine.Stop CommandLine.Arguments :=
  CommandLine.parse (env.lookup CommandLine.configFileVariable) arguments

/-- The paths at which a run looks for files. -/
def paths (arguments : List String) (env : Environment) : List String :=
  match parse arguments env with
  | .error _ => []
  | .ok a => (Settings.fixedFiles ++ a.configFile.toList).flatMap Settings.candidates

/-- The outcome of a run with arguments. -/
def run (arguments : List String) (around : Surroundings) : Outcome :=
  match parse arguments around.environment with
  | .error s => stopped s
  | .ok a =>
    match Settings.load around.environment around.directory a with
    | .error e => failedEarly (.load e) around
    | .ok settings =>
      match installSubscriber false with
      | .error e => failedEarly (.telemetry e) around
      | .ok () => perform a.action settings around

end Program

end Stagehand
