import Stagehand.Proofs.Cache.Provider
import Stagehand.Proofs.Url.Shape

/-!
# Which configurations are accepted
A configuration is looked at piece by piece, the URL before the token. The first piece that is wrong
is what a provider warns of when it falls back; where no piece is wrong its client is live, and it
is reported as ready without a warning.
-/

namespace Stagehand

/-! ### Pieces -/

/-- A URL of one of the two schemes of the web. -/
def Url.IsHttp (u : Url) : Prop := u.scheme = "http".toList ∨ u.scheme = "https".toList

instance (u : Url) : Decidable u.IsHttp :=
  inferInstanceAs (Decidable (u.scheme = "http".toList ∨ u.scheme = "https".toList))

theorem Url.isWeb_iff {u : Url} : u.isWeb = true ↔ u.IsHttp := decide_eq_true_iff

theorem Utf8.bytes_toList (s : String) : Utf8.bytes s.toList = s.toUTF8.data.toList := by
  rw [bytes, String.toUTF8, ← String.utf8Encode_toList, List.utf8Encode, List.data_toByteArray]

namespace RemoteCache

/-- A token whose bytes are tabs or no control characters. -/
def Sendable (token : String) : Prop :=
  ∀ b ∈ token.toUTF8.data.toList, b = 9 ∨ 32 ≤ b ∧ b ≠ 127

theorem isToken_iff {token : String} : isToken token = true ↔ Sendable token := by
  rw [isToken, Utf8.bytes_toList, List.all_eq_true]
  exact forall₂_congr fun _ _ => decide_eq_true_iff

end RemoteCache

namespace CacheConfig

/-! ### What is looked at -/

/-- A configuration whose URL can be read. -/
def HasUrl (c : CacheConfig) (url : Url) : Prop :=
  ∃ text, c.url = some text ∧ Url.parse text = .ok url

/-- A configuration with nothing wrong. -/
structure Accepted (c : CacheConfig) (r : RemoteCache) : Prop where
  url : c.HasUrl r.url
  scheme : r.url.IsHttp
  token : c.token = some r.token
  nonempty : r.token ≠ ""
  sendable : RemoteCache.Sendable r.token

/-- What is wrong with a configuration in which all that is looked at before is in order. What is
looked at later does not matter. -/
inductive Refused (c : CacheConfig) : CacheError → Prop
  | missingUrl (hurl : c.url = none) : Refused c .missingUrl
  | invalidUrl {text : String} {e : UrlError} (hurl : c.url = some text)
    (hparse : Url.parse text = .error e) : Refused c (.invalidUrl e)
  | unsupportedScheme {url : Url} (hurl : c.HasUrl url) (hscheme : ¬url.IsHttp) :
    Refused c (.unsupportedScheme (String.ofList url.scheme))
  | missingToken {url : Url} (hurl : c.HasUrl url) (hscheme : url.IsHttp)
    (htoken : c.token = none ∨ c.token = some "") : Refused c .missingToken
  | invalidToken {url : Url} {token : String} (hurl : c.HasUrl url) (hscheme : url.IsHttp)
    (htoken : c.token = some token) (hne : token ≠ "") (hbytes : ¬RemoteCache.Sendable token) :
    Refused c .invalidToken

variable {c : CacheConfig} {r : RemoteCache} {e : CacheError}

theorem Accepted.connect_eq (h : c.Accepted r) : RemoteCache.connect c = .ok r := by
  obtain ⟨text, hurl, hparse⟩ := h.url
  have htoken : c.token.filter (· ≠ "") = some r.token := by
    rw [h.token, Option.filter_some, if_pos (decide_eq_true h.nonempty)]
  simp only [RemoteCache.connect, hurl, hparse, if_pos (Url.isWeb_iff.mpr h.scheme), htoken,
    if_pos (RemoteCache.isToken_iff.mpr h.sendable)]

theorem Refused.connect_eq (h : c.Refused e) : RemoteCache.connect c = .error e := by
  cases h with
  | missingUrl hurl => simp only [RemoteCache.connect, hurl]
  | invalidUrl hurl hparse => simp only [RemoteCache.connect, hurl, hparse]
  | unsupportedScheme hurl hscheme =>
    obtain ⟨text, hurl, hparse⟩ := hurl
    simp only [RemoteCache.connect, hurl, hparse, if_neg (mt Url.isWeb_iff.mp hscheme)]
  | missingToken hurl hscheme htoken =>
    obtain ⟨text, hurl, hparse⟩ := hurl
    have hnone : c.token.filter (· ≠ "") = none := by
      rcases htoken with htoken | htoken
      · rw [htoken, Option.filter_none]
      · rw [htoken, Option.filter_some, if_neg (by decide)]
    simp only [RemoteCache.connect, hurl, hparse, if_pos (Url.isWeb_iff.mpr hscheme), hnone]
  | @invalidToken _ token hurl hscheme htoken hne hbytes =>
    obtain ⟨text, hurl, hparse⟩ := hurl
    have hsome : c.token.filter (· ≠ "") = some token := by
      rw [htoken, Option.filter_some, if_pos (decide_eq_true hne)]
    simp only [RemoteCache.connect, hurl, hparse, if_pos (Url.isWeb_iff.mpr hscheme), hsome,
      if_neg (mt RemoteCache.isToken_iff.mp hbytes)]

/-- A configuration is accepted, or something about it is wrong. -/
theorem accepted_or_refused (c : CacheConfig) : (∃ r, c.Accepted r) ∨ ∃ e, c.Refused e := by
  cases hurl : c.url with
  | none => exact .inr ⟨_, .missingUrl hurl⟩
  | some text =>
    cases hparse : Url.parse text with
    | error e => exact .inr ⟨_, .invalidUrl hurl hparse⟩
    | ok url =>
      have hhas : c.HasUrl url := ⟨text, hurl, hparse⟩
      by_cases hscheme : url.IsHttp
      · cases htoken : c.token with
        | none => exact .inr ⟨_, .missingToken hhas hscheme (.inl htoken)⟩
        | some token =>
          by_cases hne : token = ""
          · subst hne
            exact .inr ⟨_, .missingToken hhas hscheme (.inr htoken)⟩
          · by_cases hbytes : RemoteCache.Sendable token
            · exact .inl ⟨⟨url, token⟩, hhas, hscheme, htoken, hne, hbytes⟩
            · exact .inr ⟨_, .invalidToken hhas hscheme htoken hne hbytes⟩
      · exact .inr ⟨_, .unsupportedScheme hhas hscheme⟩

theorem connect_eq_ok_iff : RemoteCache.connect c = .ok r ↔ c.Accepted r := by
  constructor
  · intro h
    rcases c.accepted_or_refused with ⟨r', hr⟩ | ⟨e, he⟩
    · rw [hr.connect_eq] at h
      cases h
      exact hr
    · rw [he.connect_eq] at h
      cases h
  · intro h
    exact h.connect_eq

theorem Refused.unique {e' : CacheError} (h : c.Refused e) (h' : c.Refused e') : e = e' := by
  have heq := h.connect_eq.symm.trans h'.connect_eq
  cases heq
  rfl

/-- People are shown the URL without its user information. -/
theorem HasUrl.redactedUrl_eq {url : Url} (h : c.HasUrl url) :
    c.redactedUrl = some url.withoutUserinfo.text := by
  obtain ⟨text, hurl, hparse⟩ := h
  simp only [redactedUrl, hurl, hparse, Url.stripped?_of_parse hparse, Option.map_some]

theorem Accepted.redactedUrl_eq (h : c.Accepted r) :
    c.redactedUrl = some r.url.withoutUserinfo.text :=
  h.url.redactedUrl_eq

end CacheConfig

/-! ### What becomes known of a decision -/

namespace CacheProvider

/-- The events that come from providers. -/
def reports (w : World) : List Event := w.journal.events.filter fun e => e.target = target

/-- Commands report their failures as their own. -/
theorem reports_later {w w' : World} (h : w.Later w') : reports w' = reports w := by
  induction h with
  | refl => rfl
  | exchange _ _ _ ih => exact ih
  | shelve _ _ ih => exact ih
  | count _ _ ih => exact ih
  | failure _ _ _ ih =>
    rw [reports, World.report, Journal.report, List.filter_append]
    exact (List.append_nil _).trans ih
  | elapse _ _ _ ih => exact ih

/-- A record with the reason why a provider falls back. -/
structure IsWarning (e : CacheError) (r : Record) : Prop where
  severity : r.severity = .warn
  message : r.message = fallbackWarning
  reason : r.get? "error" = some (.string e.message)

theorem isWarning_stamped (e : CacheError) (time : String) :
    IsWarning e (.stamped .warn fallbackWarning
      (Members.ofList [("error", .string e.message)]) time) :=
  ⟨rfl, rfl, rfl⟩

/-- The event of a live client, with the URL for people. -/
def readyAt (url : Url) : Event where
  target := target
  severity := .info
  message := "remote cache client ready"
  fields := [("endpoint", .words url.withoutUserinfo.text)]

/-- What has become known since a world by the decision of a provider. -/
def Told (c : CacheConfig) (w w' : World) : Prop :=
  (∀ r, c.Accepted r →
    w'.journal.emitted = w.journal.emitted ∧ reports w' = reports w ++ [readyAt r.url]) ∧
  ∀ e, c.Refused e →
    ∃ record, w'.journal.emitted = w.journal.emitted ++ [record] ∧ IsWarning e record

variable {c : CacheConfig} {logger : Logger} {w w' w'' : World} {u : Use}

theorem Told.later (h : Told c w w') (hlater : w'.Later w'') : Told c w w'' := by
  rw [Told, hlater.quiet.emitted, reports_later hlater]
  exact h

theorem told_build (c : CacheConfig) (logger : Logger) (w : World) :
    Told c w (build ⟨c, logger, .remote, 0, none⟩ w).2 := by
  constructor
  · intro r hr
    simp only [build, Connector.remote, hr.connect_eq, Except.map]
    refine ⟨rfl, ?_⟩
    rw [reports, World.report, Journal.report, List.filter_append, readyEvent, hr.redactedUrl_eq]
    rfl
  · intro e he
    simp only [build, Connector.remote, he.connect_eq, Except.map]
    exact ⟨_, emitted_emit logger w.journal _, isWarning_stamped e w.now⟩

/-! ### Providers of the remote cache -/

/-- What a provider has made known: nothing before it is asked for its client, and its decision
afterwards. -/
inductive Stage (c : CacheConfig) (logger : Logger) (w : World) (u : Use) : Prop
  | unasked (hp : u.provider = ⟨c, logger, .remote, 0, none⟩) (hw : w.Later u.world)
  | asked (hp : u.provider.client ≠ none) (hw : Told c w u.world)

theorem Stage.client (h : Stage c logger w u) : Stage c logger w (u.step .client).2 := by
  obtain ⟨p, w', handles⟩ := u
  cases h with
  | unasked hp hw =>
    obtain rfl : p = _ := hp
    have hbuild := told_build c logger w'
    rw [Told, hw.quiet.emitted, reports_later hw] at hbuild
    exact .asked nofun hbuild
  | asked hp hw =>
    obtain ⟨client, hclient⟩ : ∃ client, p.client = some client := Option.ne_none_iff_exists'.mp hp
    have hobtain : p.obtain w' = (client, p, w') := by
      simp only [obtain, hclient]
    simp only [Use.step, hobtain]
    exact .asked hp hw

theorem Stage.step (h : Stage c logger w u) (s : Step) : Stage c logger w (u.step s).2 := by
  cases hs : s.asks with
  | true =>
    cases s <;> cases hs
    exact h.client
  | false =>
    obtain ⟨w', hstep, hlater⟩ := u.later_step hs
    rw [hstep]
    cases h with
    | unasked hp hw => exact .unasked hp (hw.trans hlater)
    | asked hp hw => exact .asked hp (hw.later hlater)

theorem Stage.run (h : Stage c logger w u) (steps : List Step) :
    Stage c logger w (u.run steps) := by
  induction steps generalizing u with
  | nil => exact h
  | cons s steps ih => exact ih (h.step s)

/-- A provider that was asked for its client has made its decision known, whatever is done
afterwards. -/
theorem told_run (c : CacheConfig) (logger : Logger) (w : World) {steps : List Step}
    (h : 0 < steps.countP Step.asks) :
    Told c w ((fresh c logger .remote w).run steps).world := by
  have hdecided := (decided_fresh c logger .remote w).run steps
  have hstage : Stage c logger w (fresh c logger .remote w) := .unasked rfl .refl
  cases hstage.run steps with
  | unasked hp _ =>
    rw [hdecided.provider, if_neg (by omega)] at hp
    cases hp
  | asked _ hw => exact hw

/-- The client of a provider is live exactly where its configuration is accepted, and where it is
not there is one thing that is found wrong first. Once the client was asked for, that one thing has
been warned of, or the URL has been reported without a warning; nothing that is done afterwards adds
to it. -/
theorem run_connects (c : CacheConfig) (logger : Logger) (w : World) (steps more : List Step) :
    let u := (fresh c logger .remote w).run steps
    ((∃ r, c.Accepted r) ∨ ∃ e, c.Refused e ∧ ∀ e', c.Refused e' → e' = e) ∧
    (∃ client, (u.step .client).1 = .client client ∧
      (client.enabled = true ↔ ∃ r, c.Accepted r)) ∧
    Told c w ((u.step .client).2.run more).world := by
  intro u
  refine ⟨?_, ⟨choice c .remote, ?_, ?_⟩, ?_⟩
  · rcases c.accepted_or_refused with hr | ⟨e, he⟩
    · exact .inl hr
    · exact .inr ⟨e, he, fun e' he' => he'.unique he⟩
  · exact ((decided_fresh c logger .remote w).run steps).client.2
  · rw [enabled_choice]
    constructor
    · rintro ⟨b, hb⟩
      rcases c.accepted_or_refused with hr | ⟨e, he⟩
      · exact hr
      · rw [Connector.remote, he.connect_eq] at hb
        cases hb
    · rintro ⟨r, hr⟩
      exact ⟨.remote r, by rw [Connector.remote, hr.connect_eq]; rfl⟩
  · have hrun : (u.step .client).2.run more =
        (fresh c logger .remote w).run (steps ++ .client :: more) := by
      rw [Use.run_append]
      rfl
    rw [hrun]
    apply told_run
    rw [List.countP_append, List.countP_cons_of_pos rfl]
    omega

/-- Of a wrong scheme and an empty token only the scheme is warned of. -/
theorem run_connects_two_faults :
    let c : CacheConfig := { url := some "redis://[::1]/", token := some "" }
    c.Refused (.unsupportedScheme "redis") ∧
    ∃ record, ((((fresh c .memory .remote {}).run []).step .client).2.run
        [.perform 0 .ping, .client]).world.journal.emitted = [record] ∧
      IsWarning (.unsupportedScheme "redis") record := by
  intro c
  have hurl : c.HasUrl { scheme := "redis".toList, host := some (.ip6 [0, 0, 0, 0, 0, 0, 0, 1]),
                         path := .segments [[]] } :=
    ⟨"redis://[::1]/", rfl, rfl⟩
  have hrefused : c.Refused (.unsupportedScheme "redis") := by
    apply CacheConfig.Refused.unsupportedScheme hurl
    decide
  obtain ⟨-, -, htold⟩ := run_connects c .memory {} [] [.perform 0 .ping, .client]
  exact ⟨hrefused, htold.2 _ hrefused⟩

end CacheProvider

end Stagehand
