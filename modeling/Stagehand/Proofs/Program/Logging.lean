import Stagehand.Proofs.Program.RoleCheck
import Stagehand.Proofs.Settings.Quiet

/-!
# Logging from the command line
Two runs that differ only in what is said about logging, with a flag, in a file or in a variable,
have the same output, the same exit code and the same contacts, whether they succeed or fail.
-/

namespace Stagehand

/-! ### Commands in other worlds -/

namespace RemoteCache

variable {r : RemoteCache} {c : CacheCommand} {w w' : World}

/-- What comes of a command depends on nothing of the world but the network. -/
theorem perform_congr (h : w.network = w'.network) : (r.perform c w).1 = (r.perform c w').1 := by
  have hsend : (r.send c w).1 = (r.send c w').1 := by
    simp only [send, h]
    split <;> rfl
  rw [perform_eq, perform_eq, execute_eq, execute_eq, hsend]

end RemoteCache

namespace Program

open CommandLine (Apart)
open Settings (quietEnvironment SameFiles)

/-- The same is printed, with the same exit code, after the same contacts. -/
structure SameResult (o o' : Outcome) : Prop where
  output : o.output = o'.output
  exitCode : o.exitCode = o'.exitCode
  contacts : o.contacts = o'.contacts

/-! ### Actions -/

section Actions

variable {w w' : World}

theorem ping_congr (c : CacheConfig) (hnetwork : w.network = w'.network)
    (hcontacts : w.contacts = w'.contacts) :
    (ping { config := c } w).1 = (ping { config := c } w').1 ∧
      (ping { config := c } w).2.contacts = (ping { config := c } w').2.contacts := by
  cases hconnect : RemoteCache.connect c with
  | error e =>
    obtain ⟨hprinted, hnone⟩ := ping_of_refused hconnect w
    obtain ⟨hprinted', hnone'⟩ := ping_of_refused hconnect w'
    exact ⟨hprinted.trans hprinted'.symm, hnone.trans (hcontacts.trans hnone'.symm)⟩
  | ok r =>
    obtain ⟨hprinted, hmade⟩ := ping_of_accepted hconnect w
    obtain ⟨hprinted', hmade'⟩ := ping_of_accepted hconnect w'
    have hperform : ((CacheClient.live (.remote r)).perform .ping
          (w.report (CacheProvider.readyEvent c))).1 =
        ((CacheClient.live (.remote r)).perform .ping
          (w'.report (CacheProvider.readyEvent c))).1 :=
      RemoteCache.perform_congr hnetwork
    have hbefore : (w.report (CacheProvider.readyEvent c)).contacts =
        (w'.report (CacheProvider.readyEvent c)).contacts := hcontacts
    have hreached : (w.report (CacheProvider.readyEvent c)).network =
        (w'.report (CacheProvider.readyEvent c)).network := hnetwork
    rw [hprinted, hprinted', hperform, hmade, hmade', RemoteCache.perform_contacts,
      RemoteCache.perform_contacts, hbefore, hreached]
    exact ⟨rfl, rfl⟩

theorem checkRole_result (c : CommandLine.RoleCheck) (w w' : World) :
    (checkRole c w).1 = (checkRole c w').1 ∧ (checkRole c w).2.contacts = w.contacts := by
  simp only [checkRole]
  split
  · exact ⟨rfl, rfl⟩
  · split
    · exact ⟨rfl, rfl⟩
    · split <;> exact ⟨rfl, rfl⟩

/-- What comes of an action depends on the settings for the cache and on the network. -/
theorem act_congr (action : Option CommandLine.Action) {settings settings' : Settings}
    (hcache : settings.cache = settings'.cache) (w w' : World) (hnetwork : w.network = w'.network)
    (hcontacts : w.contacts = w'.contacts) :
    (act action settings w).1 = (act action settings' w').1 ∧
      (act action settings w).2.contacts = (act action settings' w').2.contacts := by
  simp only [act, hcache]
  cases action.getD .ping with
  | ping => exact ping_congr settings'.cache.config hnetwork hcontacts
  | checkRole c =>
    obtain ⟨hresult, hnone⟩ := checkRole_result c w w'
    exact ⟨hresult, hnone.trans (hcontacts.trans (checkRole_result c w' w).2.symm)⟩

theorem perform_sameResult (action : Option CommandLine.Action) {settings settings' : Settings}
    {around around' : Surroundings} (hcache : settings.cache = settings'.cache)
    (hnetwork : around.network = around'.network) :
    SameResult (perform action settings around) (perform action settings' around') := by
  obtain ⟨hresult, hcontacts⟩ :=
    act_congr action hcache (worldOf around) (worldOf around') hnetwork rfl
  rw [← perform_contacts, ← perform_contacts] at hcontacts
  cases hact : (act action settings (worldOf around)).1 with
  | ok output =>
    obtain ⟨houtput, hexit⟩ := perform_of_ok hact
    obtain ⟨houtput', hexit'⟩ := perform_of_ok (hresult.symm.trans hact)
    exact ⟨houtput.trans houtput'.symm, hexit.trans hexit'.symm, hcontacts⟩
  | error f =>
    obtain ⟨houtput, hexit⟩ := perform_of_error hact
    obtain ⟨houtput', hexit'⟩ := perform_of_error (hresult.symm.trans hact)
    exact ⟨houtput.trans houtput'.symm, hexit.trans hexit'.symm, hcontacts⟩

end Actions

/-! ### Runs -/

/-- A run that fails because of what is said about logging. -/
inductive BlamesLogging (arguments : List String) (around : Surroundings) : Prop
  | arguments {s : CommandLine.Stop} (hparse : parse arguments around.environment = .error s)
    (hs : s.BlamesLogging)
  | settings {a : CommandLine.Arguments} {e : LoadError}
    (hparse : parse arguments around.environment = .ok a)
    (hload : Settings.load around.environment around.directory a = .error e)
    (he : e.BlamesLogging)

/-- A run that shows its help or its version and does nothing else. -/
def ShowsText (arguments : List String) (around : Surroundings) : Prop :=
  ∃ s, parse arguments around.environment = .error s ∧ s.isFault = false

theorem showsText_iff {arguments : List String} {around : Surroundings} {s : CommandLine.Stop}
    (hparse : parse arguments around.environment = .error s) :
    ShowsText arguments around ↔ s.isFault = false := by
  constructor
  · rintro ⟨s', hs', htext⟩
    cases hparse.symm.trans hs'
    exact htext
  · intro htext
    exact ⟨s, hparse, htext⟩

theorem sameResult_stopped {s s' : CommandLine.Stop} (h : s.Like s')
    (hfault : s.isFault = s'.isFault) : SameResult (stopped s) (stopped s') := by
  have hfaults (h : s.isFault = true) (h' : s'.isFault = true) :
      SameResult (stopped s) (stopped s') := by
    cases s with
    | fault e =>
      cases s' with
      | fault e' => exact ⟨rfl, rfl, rfl⟩
      | _ => cases h'
    | _ => cases h
  rcases h with rfl | h | h
  · exact ⟨rfl, rfl, rfl⟩
  · exact hfaults h (hfault.symm.trans h)
  · exact hfaults (hfault.trans h) h

section Run

variable {arguments arguments' : List String} {around around' : Surroundings}

theorem parse_agrees (harguments : Apart .program arguments arguments')
    (henv : quietEnvironment around.environment = quietEnvironment around'.environment) :
    CommandLine.Agrees CommandLine.SameArguments (parse arguments around.environment)
      (parse arguments' around'.environment) := by
  have hnamed : around.environment.lookup CommandLine.configFileVariable =
      around'.environment.lookup CommandLine.configFileVariable :=
    Settings.lookup_eq_of_quiet henv (by decide) Settings.ofVariable_configFileVariable
  rw [parse, parse, hnamed]
  exact CommandLine.parse_agrees _ harguments

theorem sameResult_parsed {a a' : CommandLine.Arguments}
    (hparse : parse arguments around.environment = .ok a)
    (hparse' : parse arguments' around'.environment = .ok a')
    (hsame : CommandLine.SameArguments a a')
    (henv : quietEnvironment around.environment = quietEnvironment around'.environment)
    (hfiles : SameFiles around.directory around'.directory a.configFile)
    (hnetwork : around.network = around'.network)
    (hvalid : ¬BlamesLogging arguments around) (hvalid' : ¬BlamesLogging arguments' around') :
    SameResult (run arguments around) (run arguments' around') := by
  have hagrees := Settings.load_agrees henv hfiles hsame
  generalize hload : Settings.load around.environment around.directory a = x at hagrees
  generalize hload' : Settings.load around'.environment around'.directory a' = y at hagrees
  cases hagrees with
  | left he _ => exact absurd (.settings hparse hload he) hvalid
  | right he _ => exact absurd (.settings hparse' hload' he) hvalid'
  | @error e e' _ =>
    have hrun : run arguments around = failedEarly (.load e) around := by
      simp only [run, hparse, hload]
    have hrun' : run arguments' around' = failedEarly (.load e') around' := by
      simp only [run, hparse', hload']
    rw [hrun, hrun']
    exact ⟨rfl, rfl, rfl⟩
  | @ok settings settings' hcache =>
    rw [run_eq_perform hparse hload, run_eq_perform hparse' hload', hsame.action]
    exact perform_sameResult a'.action hcache hnetwork

/-- Logging does not matter. Two runs whose arguments, files and variables differ only in what they
say about logging, with nothing wrong about that, have the same output, exit code and contacts,
unless just one of them shows a text instead of doing what was asked for. -/
theorem run_sameResult (harguments : Apart .program arguments arguments')
    (henv : quietEnvironment around.environment = quietEnvironment around'.environment)
    (hfiles : ∀ a, parse arguments around.environment = .ok a →
      SameFiles around.directory around'.directory a.configFile)
    (hnetwork : around.network = around'.network)
    (hvalid : ¬BlamesLogging arguments around) (hvalid' : ¬BlamesLogging arguments' around')
    (htext : ShowsText arguments around ↔ ShowsText arguments' around') :
    SameResult (run arguments around) (run arguments' around') := by
  have hagrees := parse_agrees harguments henv
  generalize hparse : parse arguments around.environment = x at hagrees
  generalize hparse' : parse arguments' around'.environment = y at hagrees
  cases hagrees with
  | left hs _ => exact absurd (.arguments hparse hs) hvalid
  | right hs _ => exact absurd (.arguments hparse' hs) hvalid'
  | @error s s' hlike =>
    have hrun : run arguments around = stopped s := by simp only [run, hparse]
    have hrun' : run arguments' around' = stopped s' := by simp only [run, hparse']
    rw [showsText_iff hparse, showsText_iff hparse', ← Bool.not_eq_true, ← Bool.not_eq_true,
      not_iff_not, ← Bool.eq_iff_iff] at htext
    rw [hrun, hrun']
    exact sameResult_stopped hlike htext
  | ok hsame =>
    exact sameResult_parsed hparse hparse' hsame henv (hfiles _ hparse) hnetwork hvalid hvalid'

theorem not_blamesLogging {a : CommandLine.Arguments} {settings : Settings}
    (hparse : parse arguments around.environment = .ok a)
    (hload : Settings.load around.environment around.directory a = .ok settings) :
    ¬BlamesLogging arguments around := by
  rintro (⟨hparse', -⟩ | ⟨hparse', hload', -⟩)
  · cases hparse.symm.trans hparse'
  · cases hparse.symm.trans hparse'
    cases hload.symm.trans hload'

theorem not_showsText {a : CommandLine.Arguments}
    (hparse : parse arguments around.environment = .ok a) : ¬ShowsText arguments around := by
  rintro ⟨s, hs, -⟩
  cases hparse.symm.trans hs

end Run

/-- A file about the format of the log. -/
def formatFile : List (String × Json) := [("logging", .object [("json", .bool true)])]

/-- The surroundings of a run with something about logging in variables and in a file. -/
def talkative : Surroundings where
  environment := [(LogFilter.variableName, "trace"), ("FANHUB__LOGGING__LEVEL", "error")]
  directory := ⟨"/", fun path =>
    if path = "fanhub.json" then some (Utf8.bytes (Json.object formatFile).text.toList) else none⟩
  network := .peer [.result "PONG"]
  recordTime := "2026-01-01T00:00:00Z"
  lineTime := "2026-01-01T00:00:00Z"

theorem ofVariable_loggingLevel (v : String) :
    Settings.ofVariable ("FANHUB__LOGGING__LEVEL", v) =
      some ("logging.level", .leaf (some "the environment") (.text v)) := by
  have hletters : "FANHUB__LOGGING__LEVEL".toList = "FANHUB__LOGGING__LEVEL".toList ++ [] := rfl
  rw [Settings.ofVariable, lowerCase_of_nameLetters hletters (by decide)]
  rfl

theorem quietEnvironment_talkative :
    quietEnvironment answering.environment = quietEnvironment talkative.environment := by
  have hkey : Settings.isLoggingKey "logging.level" = true := by decide +kernel
  have hlevel : Settings.isLoggingVariable ("FANHUB__LOGGING__LEVEL", "error") = true := by
    rw [Settings.isLoggingVariable, ofVariable_loggingLevel, Option.any_some, hkey, Bool.or_true]
  rw [quietEnvironment, quietEnvironment, talkative, List.filter_cons_of_neg (by decide),
    List.filter_cons_of_neg (by simp [hlevel])]
  rfl

/-- What the file supplies. -/
def formatEntries (place : String) : Settings.Source :=
  [("logging", .table (some place) [("json", .leaf (some place) (.flag true))])]

theorem ofFixedFile_fallback :
    Settings.ofFixedFile talkative.directory "config/default" = .ok [] :=
  Settings.ofFixedFile_missing (by decide +kernel)

theorem ofFixedFile_talkative :
    ∃ place, Settings.ofFixedFile talkative.directory "fanhub" = .ok (formatEntries place) := by
  refine ⟨talkative.directory.placeOf "fanhub.json", ?_⟩
  rw [Settings.ofFixedFile, Settings.find_fanhubJson rfl rfl rfl]
  exact Settings.ofFound_object (Settings.exact_section "logging" "json" .bool)
    (Settings.plain_section (by decide) (by decide) .bool) _

theorem sameFiles_talkative : SameFiles answering.directory talkative.directory none where
  fixed name hname := by
    have hmissing : Settings.ofFixedFile answering.directory name = .ok [] :=
      Settings.ofFixedFile_missing fun _ _ => rfl
    have hquiet : Settings.quietFile (Settings.ofFixedFile talkative.directory name) = some [] := by
      rcases List.mem_pair.mp hname with rfl | rfl
      · rw [ofFixedFile_fallback]
        rfl
      · obtain ⟨place, hplace⟩ := ofFixedFile_talkative
        have hkey : Settings.isLoggingKey "logging" = true := by decide +kernel
        rw [hplace, formatEntries, Settings.quietFile, Except.toOption, Option.map_some,
          Settings.quietSource, List.filter_cons_of_neg (by simp [hkey]), List.filter_nil]
    rw [hquiet, hmissing]
    rfl
  named := rfl

/-- The arguments of a ping that is answered, as they are read. -/
def askedFor (level : Option String) (json : Option Bool) : CommandLine.Arguments where
  overrides :=
    { logLevel := level
      logJson := json
      cacheUrl := some "http://[::1]:6380/"
      cacheToken := some "test-token" }
  action := some .ping

theorem exists_of_isOk {ε α : Type} {x : Except ε α} (h : x.isOk = true) : ∃ a, x = .ok a := by
  cases x with
  | ok a => exact ⟨a, rfl⟩
  | error e => cases h

/-- What the sources supply together with the flags. -/
def suppliedTo (a : CommandLine.Arguments) : Settings.Supplied :=
  Settings.Supplied.override ({ level := some "error", json := some true } : Settings.Supplied)
    a.overrides

theorem supplied_talkative (a : CommandLine.Arguments) (h : a.configFile = none) :
    Settings.supplied talkative.environment talkative.directory a = .ok (suppliedTo a) := by
  obtain ⟨place, hplace⟩ := ofFixedFile_talkative
  have hvariables : Settings.ofEnvironment talkative.environment =
      [("logging.level", .leaf (some "the environment") (.text "error"))] := by
    rw [Settings.ofEnvironment, talkative, List.filterMap_cons, List.filterMap_cons,
      Settings.ofVariable_variableName, ofVariable_loggingLevel, List.filterMap_nil]
  have hranked : Settings.Ranked talkative.environment talkative.directory a.configFile
      [[("logging.level", .leaf (some "the environment") (.text "error"))], [],
        formatEntries place, []] := by
    rw [h]
    exact ⟨[], formatEntries place, [], ofFixedFile_fallback, hplace, rfl, by rw [hvariables]⟩
  have hkey : Settings.KeyPath.ofKey "logging" = [.name "logging"] :=
    Settings.KeyPath.ofKey_home .level
  have hpath : Settings.KeyPath.ofKey "logging.level" = [.name "logging", .name "level"] := by
    decide +kernel
  have hread : Settings.Supplied.ofEntries ((Settings.layered
      [[], formatEntries place, [], [("logging.level", .leaf (some "the environment")
        (.text "error"))]]).entries?.getD []) =
          .ok { level := some "error", json := some true } := by
    simp only [Settings.layered, formatEntries, Settings.Tree.supply, List.foldl_cons,
      List.foldl_nil, hkey, hpath]
    rfl
  have hfilled : ({ level := some "error", json := some true } : Settings.Supplied).fillIn
      talkative.environment = { level := some "error", json := some true } := by
    decide +kernel
  rw [suppliedTo, ← hfilled]
  exact (Settings.supplied_eq_ok_iff hranked).mpr ⟨_, hread, rfl⟩

theorem load_talkative : ∃ settings, Settings.load talkative.environment talkative.directory
    (askedFor (some "debug") (some true)) = .ok settings := by
  have hok :
      (Settings.ofSupplied (suppliedTo (askedFor (some "debug") (some true)))).isOk = true := by
    decide +kernel
  obtain ⟨settings, hsettings⟩ := exists_of_isOk hok
  exact ⟨settings, Settings.load_eq_ok_iff.mpr ⟨_, supplied_talkative _ rfl, hsettings⟩⟩

/-- The arguments of such a ping. -/
def asking : List String :=
  ["ping", "--cache-url", "http://[::1]:6380/", "--cache-token=test-token"]

/-- The arguments of such a ping with flags for logging among them. -/
def askingLoudly : List String :=
  ["--log-level", "debug", "ping", "--cache-url", "http://[::1]:6380/", "--log-json=yes",
    "--cache-token=test-token"]

theorem apart_askingLoudly : Apart .program asking askingLoudly := by
  have hlevel : CommandLine.Spells .program ["--log-level", "debug"] [(.logLevel, "debug")] :=
    .apart rfl rfl rfl .nil
  have hurl : CommandLine.Spells .ping ["--cache-url", "http://[::1]:6380/"]
      [(.cacheUrl, "http://[::1]:6380/")] :=
    .apart rfl rfl rfl .nil
  have hjson : CommandLine.Spells .ping ["--log-json=yes"] [(.logJson, "yes")] :=
    .joined rfl rfl .nil
  have hafter : Apart .ping ["--cache-url", "http://[::1]:6380/", "--cache-token=test-token"]
      ["--cache-url", "http://[::1]:6380/", "--log-json=yes", "--cache-token=test-token"] :=
    .flag hurl (.right hjson rfl (.same .ping ["--cache-token=test-token"]))
  exact .right hlevel rfl (.subcommand rfl rfl hafter)

/-- A ping is answered in the same way whatever is said about logging. -/
theorem run_sameResult_talkative :
    SameResult (run asking answering) (run askingLoudly talkative) := by
  have hparse : parse asking answering.environment = .ok (askedFor none none) := rfl
  have hnamed : talkative.environment.lookup CommandLine.configFileVariable = none := by
    decide +kernel
  have hparse' : parse askingLoudly talkative.environment =
      .ok (askedFor (some "debug") (some true)) := by
    rw [parse, hnamed]
    rfl
  obtain ⟨settings', hload'⟩ := load_talkative
  have hload : Settings.load answering.environment answering.directory (askedFor none none) =
      .ok { cache := { url := some "http://[::1]:6380/", token := some "test-token" } } :=
    rfl
  refine run_sameResult apart_askingLoudly quietEnvironment_talkative ?_ rfl
    (not_blamesLogging hparse hload) (not_blamesLogging hparse' hload') ?_
  · intro a ha
    cases hparse.symm.trans ha
    exact sameFiles_talkative
  · exact iff_of_false (not_showsText hparse) (not_showsText hparse')

/-- A flag for logging may keep the help from being shown: because of it a wrong value that stands
before it is looked at. -/
theorem run_apart_help :
    let bare := ["--cache-request-timeout-ms", "abc", "ping", "--help"]
    let logging := ["--cache-request-timeout-ms", "abc", "--log-level", "debug", "ping", "--help"]
    Apart .program bare logging ∧ ¬BlamesLogging bare answering ∧
      ¬BlamesLogging logging answering ∧ (run bare answering).exitCode = 0 ∧
      (run bare answering).output =
        (CommandLine.Stop.help (CommandLine.Level.ping.help "")).message ∧
      (run logging answering).exitCode = 2 ∧ (run logging answering).output = "" := by
  intro bare logging
  have htimeout : CommandLine.Spells .program ["--cache-request-timeout-ms", "abc"]
      [(.timeout, "abc")] :=
    .apart rfl rfl rfl .nil
  have hlevel : CommandLine.Spells .program ["--log-level", "debug"] [(.logLevel, "debug")] :=
    .apart rfl rfl rfl .nil
  have hbare : parse bare answering.environment = .error (.help (CommandLine.Level.ping.help "")) :=
    rfl
  obtain ⟨reason, hlogging⟩ : ∃ reason, parse logging answering.environment =
      .error (.fault (.invalidValue .timeout "abc" reason)) :=
    ⟨_, rfl⟩
  have hrun : run bare answering = stopped (.help (CommandLine.Level.ping.help "")) := by
    simp only [run, hbare]
  have hrun' : run logging answering = stopped (.fault (.invalidValue .timeout "abc" reason)) := by
    simp only [run, hlogging]
  refine ⟨.flag htimeout (.right hlevel rfl (.same .program ["ping", "--help"])), ?_, ?_, ?_, ?_,
    ?_, ?_⟩
  · rintro (⟨hparse, e, f, rfl, -⟩ | ⟨hparse, -⟩)
    · cases hbare.symm.trans hparse
    · cases hbare.symm.trans hparse
  · rintro (⟨hparse, e, f, rfl, hf, hisLogging⟩ | ⟨hparse, -⟩)
    · cases hlogging.symm.trans hparse
      cases hf
      cases hisLogging
    · cases hlogging.symm.trans hparse
  · rw [hrun]
    rfl
  · rw [hrun]
    rfl
  · rw [hrun']
    rfl
  · rw [hrun']
    rfl

end Program

end Stagehand
