import Stagehand.Program.Run
import Stagehand.Proofs.Cache.Redirects
import Stagehand.Proofs.Settings.Endpoint

/-!
# Pinging from the command line
A run that is asked to ping answers for itself where the settings name no cache that can be asked,
whatever is wrong with them. Where they do it asks that cache, and fails unless it is answered.
-/

namespace Stagehand

/-! ### Answers to a ping -/

theorem CacheCommand.answer_ping_eq_ok_iff {v : Json} {answer : CacheAnswer} :
    CacheCommand.answer .ping v = .ok answer ↔
      ∃ reply, v = .string reply ∧ answer = .word reply := by
  constructor
  · intro h
    cases v with
    | string reply =>
      cases h
      exact ⟨reply, rfl, rfl⟩
    | _ => cases h
  · rintro ⟨reply, rfl, rfl⟩
    rfl

namespace RemoteCache

variable {r : RemoteCache} {w : World}

theorem perform_ping_of_yields {reply : String} (h : r.Yields .ping w.network (.string reply)) :
    (r.perform .ping w).1 = .ok (.word reply) :=
  perform_eq_ok_iff.mpr ⟨_, execute_eq_ok_iff.mpr h, rfl⟩

theorem perform_ping_of_not_yields (h : ¬∃ reply, r.Yields .ping w.network (.string reply)) :
    ∃ e, (r.perform .ping w).1 = .error e := by
  cases hresult : (r.perform .ping w).1 with
  | error e => exact ⟨e, rfl⟩
  | ok answer =>
    obtain ⟨v, hv, hanswer⟩ := perform_eq_ok_iff.mp hresult
    obtain ⟨reply, rfl, -⟩ := CacheCommand.answer_ping_eq_ok_iff.mp hanswer
    exact absurd ⟨reply, execute_eq_ok_iff.mp hv⟩ h

end RemoteCache

namespace Program

/-! ### Pings -/

section Ping

variable {c : CacheConfig} {r : RemoteCache}

theorem ping_of_refused {e : CacheError} (h : RemoteCache.connect c = .error e) (w : World) :
    (ping { config := c } w).1 = .ok "fallback noop\n" ∧
      (ping { config := c } w).2.contacts = w.contacts := by
  simp only [ping, CacheProvider.obtain, CacheProvider.build, Connector.remote, h, Except.map]
  exact ⟨rfl, rfl⟩

/-- What comes of pinging a live client: what is printed, or a failure. -/
def printed : Except CacheError CacheAnswer → Except Failure String
  | .ok (.word reply) => .ok (pingLine true reply)
  | .ok _ => .ok ""
  | .error e => .error (.cache e)

/-- A live client is reported before it is pinged. -/
theorem ping_of_accepted (h : RemoteCache.connect c = .ok r) (w : World) :
    let performed := (CacheClient.live (.remote r)).perform .ping
      (w.report (CacheProvider.readyEvent c))
    (ping { config := c } w).1 = printed performed.1 ∧
      (ping { config := c } w).2.contacts = performed.2.contacts := by
  intro performed
  simp only [ping, CacheProvider.obtain, CacheProvider.build, Connector.remote, h, Except.map]
  split
  · rename_i hp
    simp only [performed, hp]
    exact ⟨rfl, rfl⟩
  · rename_i answer w' hne hp
    simp only [performed, hp]
    cases answer with
    | word reply => exact absurd rfl (hne reply)
    | _ => exact ⟨rfl, trivial⟩
  · rename_i hp
    simp only [performed, hp]
    exact ⟨rfl, trivial⟩

theorem ping_of_yields (h : RemoteCache.connect c = .ok r) {w : World} {reply : String}
    (hreply : r.Yields .ping w.network (.string reply)) :
    (ping { config := c } w).1 = .ok ("live " ++ reply ++ "\n") := by
  have hp : ((CacheClient.live (.remote r)).perform .ping
      (w.report (CacheProvider.readyEvent c))).1 = .ok (.word reply) :=
    RemoteCache.perform_ping_of_yields hreply
  rw [(ping_of_accepted h w).1, hp]
  rfl

theorem ping_of_not_yields (h : RemoteCache.connect c = .ok r) {w : World}
    (hnone : ¬∃ reply, r.Yields .ping w.network (.string reply)) :
    ∃ f, (ping { config := c } w).1 = .error f := by
  obtain ⟨e, hp⟩ : ∃ e, ((CacheClient.live (.remote r)).perform .ping
      (w.report (CacheProvider.readyEvent c))).1 = .error e :=
    RemoteCache.perform_ping_of_not_yields hnone
  rw [(ping_of_accepted h w).1, hp]
  exact ⟨_, rfl⟩

end Ping

/-! ### Runs -/

/-- The world at the start of a run. -/
abbrev worldOf (around : Surroundings) : World :=
  { network := around.network, now := around.recordTime }

section Perform

variable {action : Option CommandLine.Action} {settings : Settings} {around : Surroundings}

theorem perform_of_ok {output : String}
    (h : (act action settings (worldOf around)).1 = .ok output) :
    (perform action settings around).output = output ∧
      (perform action settings around).exitCode = 0 := by
  simp only [perform]
  split
  · rename_i ho
    rw [ho] at h
    cases h
    exact ⟨rfl, rfl⟩
  · rename_i he
    rw [he] at h
    cases h

theorem perform_of_error {f : Failure} (h : (act action settings (worldOf around)).1 = .error f) :
    (perform action settings around).output = "" ∧
      (perform action settings around).exitCode = 1 := by
  simp only [perform]
  split
  · rename_i ho
    rw [ho] at h
    cases h
  · exact ⟨rfl, rfl⟩

theorem perform_contacts :
    (perform action settings around).contacts =
      (act action settings (worldOf around)).2.contacts := by
  simp only [perform]
  split
  · rename_i ho
    rw [ho]
  · rename_i he
    rw [he]

end Perform

section Run

variable {arguments : List String} {around : Surroundings} {a : CommandLine.Arguments}
  {settings : Settings}

/-- What a run leaves that is asked to ping is what becomes of the ping. -/
theorem run_of_ping (hparse : parse arguments around.environment = .ok a)
    (haction : a.action = none ∨ a.action = some .ping)
    (hload : Settings.load around.environment around.directory a = .ok settings) :
    let done := ping { config := settings.cache.config } (worldOf around)
    (run arguments around).contacts = done.2.contacts ∧
    (∀ output, done.1 = .ok output →
      (run arguments around).output = output ∧ (run arguments around).exitCode = 0) ∧
    ∀ f, done.1 = .error f →
      (run arguments around).output = "" ∧ (run arguments around).exitCode = 1 := by
  have hrun : run arguments around = perform a.action settings around := by
    simp only [run, hparse, hload]
    rfl
  have hact : act a.action settings (worldOf around) =
      ping { config := settings.cache.config } (worldOf around) := by
    rcases haction with h | h
    · rw [h]
      rfl
    · rw [h]
      rfl
  rw [hrun, ← hact]
  exact ⟨perform_contacts, fun output => perform_of_ok, fun f => perform_of_error⟩

/-- A run that is asked to ping, with settings that could be loaded. Where no cache can be asked, it
sends nothing and succeeds with the answer of the fallback. Otherwise it sends a ping to the cache,
and succeeds with the reply if there is one and fails without any output if there is none, as it
always does behind `https`, where a peer never answers here. No text for the URL or the token keeps
settings from being loaded, so that none has a run fail before that: not as a flag or in a variable
that fills it in, and not in any other source either. -/
theorem run_ping (hparse : parse arguments around.environment = .ok a)
    (haction : a.action = none ∨ a.action = some .ping)
    (hload : Settings.load around.environment around.directory a = .ok settings) :
    let outcome := run arguments around
    (∀ e, RemoteCache.connect settings.cache.config = .error e →
      outcome.contacts = [] ∧ outcome.output = "fallback noop\n" ∧ outcome.exitCode = 0) ∧
    (∀ r, RemoteCache.connect settings.cache.config = .ok r →
      (∀ reply, r.Yields .ping around.network (.string reply) →
        outcome.output = "live " ++ reply ++ "\n" ∧ outcome.exitCode = 0) ∧
      ((¬∃ reply, r.Yields .ping around.network (.string reply)) →
        outcome.output = "" ∧ outcome.exitCode = 1) ∧
      settings.cache.config.HasUrl r.url ∧
      ∀ responses, around.network = .peer responses → r.url.scheme = "http".toList →
        ∃ q text more, outcome.contacts = .request q :: more ∧ q.method = .post ∧
          (q.url = r.url ∨ q.url = r.url.withoutUserinfo) ∧ q.body = some text ∧
          Json.parse text = .ok (.array [.string "PING"])) ∧
    (∀ (env : Environment) (url token : Option String),
      Settings.ofEnvironment env = Settings.ofEnvironment around.environment →
      ∃ settings', Settings.load env around.directory (Settings.retarget a url token) =
        .ok settings') ∧
    (∀ (env : Environment) (d : Settings.Directory) (a' : CommandLine.Arguments)
      (sources sources' : List Settings.Source),
      Settings.Ranked around.environment around.directory a.configFile sources →
      Settings.Ranked env d a'.configFile sources' →
      Settings.Retargeted sources sources' a.overrides a'.overrides →
      ∃ settings', Settings.load env d a' = .ok settings') ∧
    ∀ (env : Environment) (d : Settings.Directory) (a : CommandLine.Arguments) (e : LoadError),
      Settings.load env d a = .error e → ¬e.Blames .url ∧ ¬e.Blames .token := by
  intro outcome
  obtain ⟨hcontacts, hok, herror⟩ := run_of_ping hparse haction hload
  refine ⟨?_, ?_, ?_, ?_, ?_⟩
  · intro e he
    obtain ⟨houtput, hnothing⟩ := ping_of_refused he (worldOf around)
    exact ⟨hcontacts.trans hnothing, hok _ houtput⟩
  · intro r hr
    refine ⟨?_, ?_, (CacheConfig.connect_eq_ok_iff.mp hr).url, ?_⟩
    · intro reply hreply
      exact hok _ (ping_of_yields hr hreply)
    · intro hnone
      obtain ⟨f, hf⟩ := ping_of_not_yields (w := worldOf around) hr hnone
      exact herror f hf
    · intro responses hnetwork hscheme
      obtain ⟨more, hmore, -⟩ := RemoteCache.perform_contacts_open (c := .ping)
        (w := (worldOf around).report (CacheProvider.readyEvent settings.cache.config))
        hnetwork hscheme
      refine ⟨r.request .ping, CacheCommand.ping.body, more, ?_, r.request_method _,
        r.request_url _, r.request_body _, CacheCommand.parse_body .ping⟩
      rw [hcontacts, (ping_of_accepted hr _).2, hmore]
      rfl
  · intro env url token henv
    obtain ⟨cache, hcache, -⟩ := Settings.load_retarget hload henv url token
    exact ⟨_, hcache⟩
  · intro env d a' sources sources' hsources hsources' hchanged
    obtain ⟨cache, hcache, -⟩ := Settings.load_retargeted hload hsources hsources' hchanged
    exact ⟨_, hcache⟩
  · intro env d a e he
    exact ⟨Settings.load_not_blames he (.inl rfl), Settings.load_not_blames he (.inr rfl)⟩

end Run

/-- Surroundings without variables or files, and a peer that answers once. -/
def answering : Surroundings where
  directory := ⟨"/", fun _ => none⟩
  network := .peer [.result "PONG"]
  recordTime := ""
  lineTime := ""

/-- A cache that can be asked answers, and nobody asks one at a URL that is none. -/
theorem run_ping_answering :
    let answered := run ["--cache-url=http://[::1]:6380/", "--cache-token", "test-token"] answering
    let unasked := run ["ping", "--cache-url", "http://["] answering
    answered.output = "live PONG\n" ∧ answered.exitCode = 0 ∧
      unasked.contacts = [] ∧ unasked.output = "fallback noop\n" ∧ unasked.exitCode = 0 := by
  intro answered unasked
  have hyields : RemoteCache.local6.Yields .ping answering.network (.string "PONG") := by
    refine ⟨.result "PONG", ?_, by decide, CacheReply.replies_result .string .string⟩
    rw [RemoteCache.request_local6]
    rfl
  have hparse : parse ["--cache-url=http://[::1]:6380/", "--cache-token", "test-token"]
      answering.environment = .ok
        ⟨none, { cacheUrl := some "http://[::1]:6380/", cacheToken := some "test-token" }, none⟩ :=
    rfl
  have hload : Settings.load answering.environment answering.directory
      ⟨none, { cacheUrl := some "http://[::1]:6380/", cacheToken := some "test-token" }, none⟩ = .ok
        { cache := { url := some "http://[::1]:6380/", token := some "test-token" } } :=
    rfl
  have hparse' : parse ["ping", "--cache-url", "http://["] answering.environment =
      .ok ⟨none, { cacheUrl := some "http://[" }, some .ping⟩ :=
    rfl
  have hload' : Settings.load answering.environment answering.directory
      ⟨none, { cacheUrl := some "http://[" }, some .ping⟩ =
        .ok { cache := { url := some "http://[" } } :=
    rfl
  obtain ⟨-, hlive, -, -, -⟩ := run_ping hparse (.inl rfl) hload
  obtain ⟨hrefused, -, -, -, -⟩ := run_ping hparse' (.inr rfl) hload'
  obtain ⟨houtput, hexit⟩ := (hlive RemoteCache.local6 rfl).1 "PONG" hyields
  exact ⟨houtput, hexit, hrefused _ rfl⟩

end Program

end Stagehand
