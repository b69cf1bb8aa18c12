import Stagehand.Proofs.Cache.Authorization

/-!
# What shows of credentials
Two providers whose configurations differ in nothing but the token and the user information of the
URL cannot be told apart by anything except the authorization of their requests, as long as the user
information can be read. User information that cannot be read stays in the URL, and shows where an
exchange breaks off.
-/

namespace Stagehand

namespace World

/-- A world without the authorization of the requests that were made in it. -/
def withoutAuthorization (w : World) : World :=
  { w with contacts := w.contacts.map Contact.withoutAuthorization }

/-- Outcomes that differ in nothing but the authorization of requests. -/
structure Alike {α : Type _} (x y : α × World) : Prop where
  result : x.1 = y.1
  world : x.2.withoutAuthorization = y.2.withoutAuthorization

theorem Alike.elim {α : Type _} {x y : α × World} (h : Alike x y) :
    ∃ a w w', x = (a, w) ∧ y = (a, w') ∧ w.withoutAuthorization = w'.withoutAuthorization :=
  ⟨x.1, x.2, y.2, rfl, Prod.ext h.result.symm rfl, h.world⟩

variable {w w' : World} (h : w.withoutAuthorization = w'.withoutAuthorization)

include h

theorem eq_of_withoutAuthorization : w' = { w with contacts := w'.contacts } := by
  obtain ⟨network, contacts, shelf, journal, metrics, now⟩ := w
  obtain ⟨network', contacts', shelf', journal', metrics', now'⟩ := w'
  simp only [withoutAuthorization, mk.injEq] at h
  obtain ⟨rfl, -, rfl, rfl, rfl, rfl⟩ := h
  rfl

theorem report_withoutAuthorization (e : Event) :
    (w.report e).withoutAuthorization = (w'.report e).withoutAuthorization := by
  have hreport := congrArg (report · e) h
  exact hreport

theorem count_withoutAuthorization (s : Series) :
    (w.count s).withoutAuthorization = (w'.count s).withoutAuthorization := by
  have hcount := congrArg (count · s) h
  exact hcount

end World

/-! ### Commands -/

section Commands

variable {r r' : RemoteCache} {c : CacheCommand} {w w' : World}

theorem RemoteCache.send_alike
    (hr : (r.request c).withoutAuthorization = (r'.request c).withoutAuthorization)
    (hw : w.withoutAuthorization = w'.withoutAuthorization) :
    World.Alike (r.send c w) (r'.send c w') := by
  obtain ⟨result, made, made', network, hx, hx', hmade⟩ :=
    (Request.exchange_alike hr maxRedirects w.network).elim
  have hcontacts : (w.contacts ++ made).map Contact.withoutAuthorization =
      (w'.contacts ++ made').map Contact.withoutAuthorization := by
    rw [List.map_append, List.map_append, hmade]
    exact congrArg (World.contacts · ++ _) hw
  have hworld : World.withoutAuthorization { w with network, contacts := w.contacts ++ made } =
      World.withoutAuthorization { w with network, contacts := w'.contacts ++ made' } :=
    congrArg (fun contacts => { w with network, contacts }) hcontacts
  rw [World.eq_of_withoutAuthorization hw, send, send, hx, hx']
  cases result with
  | error e => exact ⟨rfl, hworld⟩
  | ok response => exact ⟨rfl, hworld⟩

theorem RemoteCache.execute_alike
    (hr : (r.request c).withoutAuthorization = (r'.request c).withoutAuthorization)
    (hw : w.withoutAuthorization = w'.withoutAuthorization) :
    World.Alike (r.execute c w) (r'.execute c w') := by
  obtain ⟨result, v, v', hx, hx', hv⟩ := (send_alike hr hw).elim
  have hcounted := World.count_withoutAuthorization
    (World.count_withoutAuthorization hv (.commands c.name)) (.commandTimes c.name)
  rw [execute, execute, hx, hx']
  cases result with
  | ok v => exact ⟨rfl, hcounted⟩
  | error e =>
    have hfailed := World.count_withoutAuthorization hcounted (.commandErrors c.name)
    exact ⟨rfl, World.report_withoutAuthorization hfailed (failureEvent c.name e)⟩

theorem RemoteCache.perform_alike
    (hr : (r.request c).withoutAuthorization = (r'.request c).withoutAuthorization)
    (hw : w.withoutAuthorization = w'.withoutAuthorization) :
    World.Alike (r.perform c w) (r'.perform c w') := by
  obtain ⟨result, v, v', hx, hx', hv⟩ := (execute_alike hr hw).elim
  rw [perform, perform, hx, hx']
  cases result with
  | ok v => exact ⟨rfl, hv⟩
  | error e => exact ⟨rfl, hv⟩

theorem RemoteCache.perform_unreachable (hw : w.network = .unreachable) :
    (r.perform c w).1 = .error (.transport ⟨.sending, (r.request c).url⟩) := by
  simp only [perform, execute, send, hw, Request.exchange_unreachable]

end Commands

/-! ### Clients -/

namespace CacheClient

/-- Clients that show the same of themselves, and whose commands cannot be told apart but by the
authorization of their requests. -/
structure Alike (a b : CacheClient) : Prop where
  enabled : a.enabled = b.enabled
  description : a.description = b.description
  perform (c : CacheCommand) {w w' : World}
    (hw : w.withoutAuthorization = w'.withoutAuthorization) :
    World.Alike (a.perform c w) (b.perform c w')

variable {a b : CacheClient} {w w' : World}

theorem Alike.getJson {α : Type} (h : a.Alike b) (reader : Json.Reader α) (key : String)
    (hw : w.withoutAuthorization = w'.withoutAuthorization) :
    World.Alike (a.getJson reader key w) (b.getJson reader key w') := by
  obtain ⟨result, v, v', hx, hx', hv⟩ := (h.perform (.get key) hw).elim
  rw [CacheClient.getJson, CacheClient.getJson, hx, hx']
  cases result with
  | error e => exact ⟨rfl, hv⟩
  | ok answer =>
    cases answer with
    | value found =>
      cases found with
      | none => exact ⟨rfl, hv⟩
      | some text =>
        dsimp only
        cases Json.read reader text with
        | ok a => exact ⟨rfl, hv⟩
        | error e => exact ⟨rfl, hv⟩
    | number n => exact ⟨rfl, hv⟩
    | word s => exact ⟨rfl, hv⟩

theorem Alike.setSerialized (h : a.Alike b) (key : String)
    (serialized : Except Json.ReadError String) (expiry : Option Nat)
    (hw : w.withoutAuthorization = w'.withoutAuthorization) :
    World.Alike (a.setSerialized key serialized expiry w)
      (b.setSerialized key serialized expiry w') := by
  cases serialized with
  | error e => exact ⟨rfl, hw⟩
  | ok text => exact h.perform (.set key text expiry) hw

end CacheClient

/-! ### Configurations -/

namespace CacheConfig

/-- Configurations of two remote caches that differ in nothing but the token and user information of
the URL that can be read. -/
structure Alike (c c' : CacheConfig) (r r' : RemoteCache) : Prop where
  accepted : c.Accepted r
  accepted' : c'.Accepted r'
  timeout : c.timeout = c'.timeout
  url : r.url.withoutUserinfo = r'.url.withoutUserinfo
  readable : r.url.ReadableUserinfo
  readable' : r'.url.ReadableUserinfo

variable {c c' : CacheConfig} {r r' : RemoteCache} (h : c.Alike c' r r')

include h

theorem Alike.request (command : CacheCommand) :
    (r.request command).withoutAuthorization = (r'.request command).withoutAuthorization := by
  rw [RemoteCache.request, RemoteCache.request, Request.posting_withoutAuthorization h.readable,
    Request.posting_withoutAuthorization h.readable', h.url]

theorem Alike.choice :
    (CacheProvider.choice c .remote).Alike (CacheProvider.choice c' .remote) := by
  simp only [CacheProvider.choice, Connector.remote, h.accepted.connect_eq, h.accepted'.connect_eq,
    Except.map]
  exact ⟨rfl, rfl, fun command _ _ hw => RemoteCache.perform_alike (h.request command) hw⟩

theorem Alike.redactedUrl : c.redactedUrl = c'.redactedUrl := by
  rw [h.accepted.redactedUrl_eq, h.accepted'.redactedUrl_eq, h.url]

theorem Alike.configDescription : c.description = c'.description := by
  have htoken : redacted c.token = redacted c'.token := by
    rw [h.accepted.token, h.accepted'.token, redacted, redacted, Option.map_some, Option.map_some]
  unfold CacheConfig.description
  rw [h.redactedUrl, h.timeout, htoken]

end CacheConfig

/-! ### Providers in use -/

namespace CacheProvider

/-- Answers that cannot be told apart, where a client may stand for another one. -/
inductive Answer.Alike : Answer → Answer → Prop
  | refl (a : Answer) : Alike a a
  | client {a b : CacheClient} (h : a.Alike b) : Alike (.client a) (.client b)

theorem Answer.Alike.result_eq {x y : Except CacheError CacheAnswer}
    (h : (Answer.result x).Alike (.result y)) : x = y := by
  cases h
  rfl

/-- Two providers in use that went through the same steps. -/
structure Mirrored (c c' : CacheConfig) (logger : Logger) (w : World) (n : Nat) (u u' : Use) :
    Prop where
  left : Decided c logger .remote w n u
  right : Decided c' logger .remote w n u'
  world : u.world.withoutAuthorization = u'.world.withoutAuthorization

/-- Steps that cannot be told apart. -/
structure Use.Alike (x y : Answer × Use) : Prop where
  answer : x.1.Alike y.1
  world : x.2.world.withoutAuthorization = y.2.world.withoutAuthorization

variable {c c' : CacheConfig} {r r' : RemoteCache} {logger : Logger} {w : World} {n : Nat}
  {u u' : Use}

theorem Mirrored.withHandle (hu : Mirrored c c' logger w n u u') (i : Nat)
    {act : CacheClient → World → Answer × World}
    (hact : World.Alike (act (choice c .remote) u.world) (act (choice c' .remote) u'.world)) :
    Use.Alike (u.withHandle i act) (u'.withHandle i act) := by
  rw [Use.withHandle, Use.withHandle, hu.left.handles, hu.right.handles, List.getElem?_replicate,
    List.getElem?_replicate]
  by_cases hi : i < n
  · simp only [if_pos hi]
    exact ⟨hact.result ▸ .refl _, hact.world⟩
  · simp only [if_neg hi]
    exact ⟨.refl _, hu.world⟩

section Mirrored

variable (h : c.Alike c' r r')

include h

theorem Mirrored.client (hu : Mirrored c c' logger w n u u') :
    Use.Alike (u.step .client) (u'.step .client) := by
  constructor
  · rw [hu.left.client.2, hu.right.client.2]
    exact .client h.choice
  · simp only [Use.step, obtain, hu.left.provider, hu.right.provider]
    cases n with
    | succ n => exact hu.world
    | zero =>
      simp only [build, Connector.remote, h.accepted.connect_eq, h.accepted'.connect_eq, Except.map,
        readyEvent, h.redactedUrl]
      exact World.report_withoutAuthorization hu.world _

theorem Mirrored.description (hu : Mirrored c c' logger w n u u') :
    u.provider.description = u'.provider.description := by
  rw [hu.left.provider, hu.right.provider]
  unfold CacheProvider.description
  rw [h.configDescription]
  cases n with
  | zero => rfl
  | succ n => simp only [if_neg n.succ_ne_zero, h.choice.description]

theorem Mirrored.step_alike (hu : Mirrored c c' logger w n u u') (s : Step) :
    Use.Alike (u.step s) (u'.step s) := by
  cases s with
  | client => exact hu.client h
  | isInitialized =>
    refine ⟨?_, hu.world⟩
    simp only [Use.step, hu.left.isInitialized_eq, hu.right.isInitialized_eq]
    exact .refl _
  | description =>
    refine ⟨?_, hu.world⟩
    simp only [Use.step, hu.description h]
    exact .refl _
  | enabled i =>
    simp only [Use.step]
    apply hu.withHandle
    exact ⟨congrArg Answer.flag h.choice.enabled, hu.world⟩
  | perform i command =>
    have hperform := h.choice.perform command hu.world
    simp only [Use.step]
    apply hu.withHandle
    exact ⟨congrArg Answer.result hperform.result, hperform.world⟩
  | getJson i reader key =>
    have hget := h.choice.getJson reader key hu.world
    simp only [Use.step]
    apply hu.withHandle
    exact ⟨congrArg Answer.found hget.result, hget.world⟩
  | setJson i key serialized expiry =>
    have hset := h.choice.setSerialized key serialized expiry hu.world
    simp only [Use.step]
    apply hu.withHandle
    exact ⟨congrArg Answer.result hset.result, hset.world⟩
  | elapse network now =>
    refine ⟨.refl _, ?_⟩
    have helapse := congrArg (fun w => { w with network, now }) hu.world
    exact helapse

theorem Mirrored.step (hu : Mirrored c c' logger w n u u') (s : Step) :
    Mirrored c c' logger w (n + if s.asks then 1 else 0) (u.step s).2 (u'.step s).2 :=
  ⟨hu.left.step s, hu.right.step s, (hu.step_alike h s).world⟩

theorem Mirrored.run (hu : Mirrored c c' logger w n u u') (steps : List Step) :
    ∃ m, Mirrored c c' logger w m (u.run steps) (u'.run steps) := by
  induction steps generalizing n u u' with
  | nil => exact ⟨n, hu⟩
  | cons s steps ih => exact ih (hu.step h s)

end Mirrored

/-- Of two providers of remote caches whose configurations differ in nothing but the token and user
information that can be read, the credentials show nowhere but in the authorization of requests:
after any steps the worlds agree in all the rest, every step shows the same, and so do the
configurations. -/
theorem run_hides_credentials (hc : RemoteCache.connect c = .ok r)
    (hc' : RemoteCache.connect c' = .ok r') (htimeout : c.timeout = c'.timeout)
    (hurl : r.url.withoutUserinfo = r'.url.withoutUserinfo)
    (hread : r.url.ReadableUserinfo) (hread' : r'.url.ReadableUserinfo)
    (logger : Logger) (w : World) (steps : List Step) (s : Step) :
    let u := (fresh c logger .remote w).run steps
    let u' := (fresh c' logger .remote w).run steps
    u.world.withoutAuthorization = u'.world.withoutAuthorization ∧
    (u.step s).1.Alike (u'.step s).1 ∧
    c.description = c'.description := by
  intro u u'
  have h : c.Alike c' r r' := ⟨CacheConfig.connect_eq_ok_iff.mp hc,
    CacheConfig.connect_eq_ok_iff.mp hc', htimeout, hurl, hread, hread'⟩
  have hfresh : Mirrored c c' logger w 0 (fresh c logger .remote w) (fresh c' logger .remote w) :=
    ⟨decided_fresh c logger .remote w, decided_fresh c' logger .remote w, rfl⟩
  obtain ⟨n, hrun⟩ := hfresh.run h steps
  exact ⟨hrun.world, (hrun.step_alike h s).answer, h.configDescription⟩

/-- A ping without a cache shows the same, whoever is let in. -/
theorem run_hides_credentials_ping :
    let c := CacheConfig.local6 "default:s3cret@"
    let c' : CacheConfig := { CacheConfig.local6 "" with token := some "other-token" }
    let u := (fresh c .memory .remote {}).run [.client]
    let u' := (fresh c' .memory .remote {}).run [.client]
    (u.step (.perform 0 .ping)).1.Alike (u'.step (.perform 0 .ping)).1 := by
  intro c c' u u'
  have hc' : RemoteCache.connect c' = .ok ⟨CacheConfig.localUrl "" "", "other-token"⟩ :=
    rfl
  have hread : (CacheConfig.localUrl "default" "s3cret").ReadableUserinfo :=
    ⟨by decide +kernel, nofun⟩
  have hread' : (CacheConfig.localUrl "" "").ReadableUserinfo :=
    ⟨by decide +kernel, fun _ => by decide +kernel⟩
  exact (run_hides_credentials CacheConfig.connect_local6_credentials hc' rfl rfl hread hread'
    .memory {} [.client] (.perform 0 .ping)).2.1

theorem perform_unreachable (hc : RemoteCache.connect c = .ok r) (command : CacheCommand) :
    (((fresh c .events .remote {}).run [.client]).step (.perform 0 command)).1 =
      .result (.error (.transport ⟨.sending, (r.request command).url⟩)) := by
  simp only [Use.run, List.foldl_cons, List.foldl_nil, Use.step, fresh, obtain, build,
    Connector.remote, hc, Except.map]
  exact congrArg Answer.result (RemoteCache.perform_unreachable rfl)

/-- A user name that is no text stays in the URL, and where there is no cache a ping shows it and
the password behind it. -/
theorem run_shows_userinfo :
    ¬∀ (c c' : CacheConfig) (r r' : RemoteCache) (logger : Logger) (w : World) (steps : List Step)
      (s : Step), RemoteCache.connect c = .ok r → RemoteCache.connect c' = .ok r' →
        c.timeout = c'.timeout → r.url.withoutUserinfo = r'.url.withoutUserinfo →
        (((fresh c logger .remote w).run steps).step s).1.Alike
          (((fresh c' logger .remote w).run steps).step s).1 := by
  intro h
  have hc : RemoteCache.connect (.local6 "%FF:s3cret@") =
      .ok ⟨CacheConfig.localUrl "%FF" "s3cret", "test-token"⟩ :=
    rfl
  have halike := h _ _ _ _ .events {} [.client] (.perform 0 .ping) hc CacheConfig.connect_local6
    rfl rfl
  rw [perform_unreachable hc, perform_unreachable CacheConfig.connect_local6] at halike
  injection halike.result_eq with htransport
  injection htransport with hfailure
  injection hfailure with _ hurl
  have hshown : (RemoteCache.request ⟨CacheConfig.localUrl "%FF" "s3cret", "test-token"⟩
      .ping).url = CacheConfig.localUrl "%FF" "s3cret" := by
    decide +kernel
  have hhidden : (RemoteCache.request ⟨CacheConfig.localUrl "" "", "test-token"⟩ .ping).url =
      CacheConfig.localUrl "" "" := by
    decide +kernel
  rw [hshown, hhidden] at hurl
  cases hurl

end CacheProvider

end Stagehand
