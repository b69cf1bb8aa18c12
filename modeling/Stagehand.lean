import Stagehand.Main
import Stagehand.Proofs.Cache.Stored
import Stagehand.Proofs.Cache.Provider
import Stagehand.Proofs.Cache.Connect
import Stagehand.Proofs.Cache.Authorization
import Stagehand.Proofs.Cache.Secrecy
import Stagehand.Proofs.Settings.Layers
import Stagehand.Proofs.Settings.Precedence
import Stagehand.Proofs.Cache.Redirects
import Stagehand.Proofs.Cache.Accounting
import Stagehand.Proofs.Program.Ping
import Stagehand.Proofs.Program.RoleCheck
import Stagehand.Proofs.Program.Logging
import Stagehand.Proofs.Cache.Fallback
import Stagehand.Proofs.Cache.Race
import Stagehand.Proofs.Cache.Increment
import Stagehand.Proofs.Log.Record
import Stagehand.Proofs.Cache.Redaction
import Stagehand.Proofs.Log.Verbosity
import Stagehand.Proofs.Text.Blank
import Stagehand.Proofs.Settings.Validation
import Stagehand.Proofs.Session
import Stagehand.Proofs.Time.Calendar
import Stagehand.Proofs.Time.Stamp
import Stagehand.Proofs.Log.Timestamp
import Stagehand.Proofs.Log.Sinks
import Stagehand.Proofs.Settings.Description
import Stagehand.Proofs.CommandLine.Content
import Stagehand.Proofs.CommandLine.Placement
import Stagehand.Proofs.CommandLine.RoleNames
import Stagehand.Proofs.Json.Plain
