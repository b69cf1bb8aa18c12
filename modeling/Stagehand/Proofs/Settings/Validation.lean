import Stagehand.Proofs.Log.Verbosity
import Stagehand.Proofs.Settings.Endpoint
import Stagehand.Proofs.Text.Blank

/-!
# Which settings make sense
Supplied settings are refused for a level that no text names, and otherwise for a request that may
take no time; the URL and the token are never a reason. Settings that are accepted are in a normal
form, which is accepted again and stays as it is.
-/

namespace Stagehand.Settings

open Verbosity (Names)

/-- Whether a level is supplied that is none. -/
def MisnamesLevel (s : Supplied) : Prop := ∃ text, s.level = some text ∧ ∀ v, ¬ Names text.toList v

/-- Under which key and for which reason supplied settings are refused. A level that is none counts
before all else. -/
inductive Refused (s : Supplied) (key reason : String) : Prop
  | level (h : MisnamesLevel s) (hkey : key = "logging.level")
    (hreason : reason = "failed to parse: " ++ Verbosity.unknownMessage)
  | timeout (hlevel : ¬ MisnamesLevel s) (h : s.timeoutMs = some 0)
    (hkey : key = "cache.request_timeout_ms") (hreason : reason = "must be greater than zero")

/-- What accepted settings are like: the named level, the given milliseconds, and a URL and a token
without blanks at their ends. -/
structure Normal (s : Supplied) (settings : Settings) : Prop where
  level : ∀ text, s.level = some text → Names text.toList settings.logging.level
  level_default : s.level = none → settings.logging.level = .info
  format : settings.logging.format = if s.json = some true then .json else .compact
  timeout : settings.cache.timeout = .ofMillis (s.timeoutMs.getD 2000)
  timeout_pos : 1 ≤ settings.cache.timeout.millis
  url : Keeps s.url settings.cache.url
  token : Keeps s.token settings.cache.token

variable {s : Supplied} {settings : Settings} {e : Invalid}

/-! ### Refusals -/

theorem loggingOf_eq_error_iff :
    loggingOf s = .error e ↔
      MisnamesLevel s ∧ e = ⟨.level, "failed to parse: " ++ Verbosity.unknownMessage⟩ := by
  rw [loggingOf, MisnamesLevel]
  cases s.level with
  | none => simp
  | some text =>
    cases h : Verbosity.ofText? text with
    | some v => simp [← Verbosity.ofText?_eq_some_iff, h]
    | none => simp [← Verbosity.ofText?_eq_some_iff, h, eq_comm]

theorem cacheOf_eq_error_iff :
    cacheOf s = .error e ↔ s.timeoutMs = some 0 ∧ e = ⟨.timeout, "must be greater than zero"⟩ := by
  rw [cacheOf]
  cases s.timeoutMs with
  | none => simp [defaultTimeoutMs]
  | some n =>
    by_cases hn : n = 0
    · simp [hn, eq_comm]
    · simp [hn]

theorem exists_cacheOf_iff : (∃ cache, cacheOf s = .ok cache) ↔ s.timeoutMs ≠ some 0 := by
  rw [cacheOf]
  cases s.timeoutMs with
  | none => simp [defaultTimeoutMs]
  | some n => by_cases hn : n = 0 <;> simp [hn]

theorem ofSupplied_eq_ok_iff :
    ofSupplied s = .ok settings ↔
      loggingOf s = .ok settings.logging ∧ cacheOf s = .ok settings.cache := by
  obtain ⟨logging, cache⟩ := settings
  rw [ofSupplied]
  cases loggingOf s with
  | error e => simp
  | ok l => cases cacheOf s <;> simp

theorem ofSupplied_eq_error_iff :
    ofSupplied s = .error e ↔
      loggingOf s = .error e ∨ (∃ logging, loggingOf s = .ok logging) ∧ cacheOf s = .error e := by
  rw [ofSupplied]
  cases loggingOf s with
  | error e => simp
  | ok l => cases cacheOf s <;> simp

theorem exists_loggingOf_iff :
    (∃ logging, loggingOf s = .ok logging) ↔ ¬ MisnamesLevel s := by
  constructor
  · rintro ⟨logging, hlogging⟩ hlevel
    rw [loggingOf_eq_error_iff.mpr ⟨hlevel, rfl⟩] at hlogging
    cases hlogging
  · intro hlevel
    cases h : loggingOf s with
    | error e => exact absurd (loggingOf_eq_error_iff.mp h).1 hlevel
    | ok logging => exact ⟨logging, rfl⟩

/-- Settings are refused for just what is wrong with them. -/
theorem refused_iff : Refused s e.field.key e.reason ↔ ofSupplied s = .error e := by
  rw [ofSupplied_eq_error_iff, exists_loggingOf_iff, loggingOf_eq_error_iff, cacheOf_eq_error_iff]
  obtain ⟨field, reason⟩ := e
  constructor
  · intro h
    cases h with
    | level hlevel hkey hreason =>
      have hfield : field = .level := Field.eq_of_key (.inl hkey)
      exact .inl ⟨hlevel, by rw [hfield, ← hreason]⟩
    | timeout hlevel htimeout hkey hreason =>
      have hfield : field = .timeout := Field.eq_of_key (.inl hkey)
      exact .inr ⟨hlevel, htimeout, by rw [hfield, ← hreason]⟩
  · rintro (⟨hlevel, h⟩ | ⟨hlevel, htimeout, h⟩)
    · obtain ⟨hfield, hreason⟩ := Invalid.mk.inj h
      exact .level hlevel (by rw [hfield]; rfl) hreason
    · obtain ⟨hfield, hreason⟩ := Invalid.mk.inj h
      exact .timeout hlevel htimeout (by rw [hfield]; rfl) hreason

theorem exists_ofSupplied_iff :
    (∃ settings, ofSupplied s = .ok settings) ↔ ¬ (MisnamesLevel s ∨ s.timeoutMs = some 0) := by
  rw [not_or, ← exists_loggingOf_iff, ← ne_eq, ← exists_cacheOf_iff]
  constructor
  · rintro ⟨settings, h⟩
    obtain ⟨hlogging, hcache⟩ := ofSupplied_eq_ok_iff.mp h
    exact ⟨⟨_, hlogging⟩, ⟨_, hcache⟩⟩
  · rintro ⟨⟨logging, hlogging⟩, ⟨cache, hcache⟩⟩
    exact ⟨⟨logging, cache⟩, ofSupplied_eq_ok_iff.mpr ⟨hlogging, hcache⟩⟩

/-! ### The normal form -/

theorem normal_of_ofSupplied (h : ofSupplied s = .ok settings) : Normal s settings := by
  have hlevel := shows_of_ofSupplied h .level
  have hjson : settings.logging.format = if s.json.getD false then .json else .compact :=
    shows_of_ofSupplied h .json
  have htimeout : settings.cache.timeout = .ofMillis (s.timeoutMs.getD 2000) :=
    shows_of_ofSupplied h .timeout
  have hurl : settings.cache.url = s.url.bind nonBlank := shows_of_ofSupplied h .url
  have htoken : settings.cache.token = s.token.bind nonBlank := shows_of_ofSupplied h .token
  have hzero : s.timeoutMs ≠ some 0 := fun hz => exists_ofSupplied_iff.mp ⟨settings, h⟩ (.inr hz)
  refine ⟨?_, ?_, ?_, htimeout, ?_, hurl ▸ keeps_nonBlank s.url, htoken ▸ keeps_nonBlank s.token⟩
  · intro text htext
    simp only [Supplied.get, htext, Shows] at hlevel
    exact Verbosity.ofText?_eq_some_iff.mp hlevel
  · intro hnone
    simpa only [Supplied.get, hnone, Shows] using hlevel
  · rw [hjson]
    rcases s.json with _ | _ | _ <;> rfl
  · rw [htimeout, Span.millis_ofMillis]
    cases hms : s.timeoutMs with
    | none => decide
    | some n => exact Nat.pos_of_ne_zero fun hn => hzero (hn ▸ hms)

/-- A URL and a token in their normal form are accepted as they are. -/
theorem ofSupplied_normal (h : ofSupplied s = .ok settings) :
    ofSupplied { s with url := settings.cache.url, token := settings.cache.token } =
      .ok settings := by
  have hnormal := normal_of_ofSupplied h
  obtain ⟨hlogging, hcache⟩ := ofSupplied_eq_ok_iff.mp h
  refine ofSupplied_eq_ok_iff.mpr ⟨hlogging, ?_⟩
  simp only [cacheOf, hnormal.url.bind_nonBlank, hnormal.token.bind_nonBlank] at hcache ⊢
  split at hcache
  · cases hcache
  · rename_i hms
    rw [if_neg hms, ← Except.ok.inj hcache]

/-- Supplied settings are refused just for a level that is none, or else for a time of zero,
whatever the URL and the token are. Otherwise the settings are in their normal form, and making them
from that form again changes nothing. -/
theorem ofSupplied_validates (s : Supplied) :
    (∀ e, ofSupplied s = .error e ↔ Refused s e.field.key e.reason) ∧
    ((∃ settings, ofSupplied s = .ok settings) ↔ ¬ (MisnamesLevel s ∨ s.timeoutMs = some 0)) ∧
    (∀ url token e, ofSupplied { s with url, token } = .error e ↔ ofSupplied s = .error e) ∧
    (∀ settings, ofSupplied s = .ok settings → Normal s settings ∧
      ofSupplied { s with url := settings.cache.url, token := settings.cache.token } =
        .ok settings) := by
  refine ⟨fun e => refused_iff.symm, exists_ofSupplied_iff, ?_, ?_⟩
  · intro url token e
    simp only [ofSupplied_eq_error_iff, exists_loggingOf_iff, loggingOf_eq_error_iff,
      cacheOf_eq_error_iff, MisnamesLevel]
  · intro settings h
    exact ⟨normal_of_ofSupplied h, ofSupplied_normal h⟩

/-- A level with zeros in front, a URL between blanks of all kinds, a blank token and the longest
time are accepted. -/
theorem ofSupplied_validates_padded :
    let s : Supplied := ⟨some "+005", none, some "\u3000 http://a b/\u00a0\n", some "\t\u2028",
      some 18446744073709551615⟩
    let settings : Settings := ⟨⟨.trace, .compact⟩,
      ⟨some "http://a b/", none, .ofMillis 18446744073709551615⟩⟩
    ofSupplied s = .ok settings ∧ Normal s settings ∧
      ofSupplied { s with url := some "http://a b/", token := none } = .ok settings := by
  intro s settings
  have h : ofSupplied s = .ok settings := by decide +kernel
  obtain ⟨-, -, -, hok⟩ := ofSupplied_validates s
  exact ⟨h, hok settings h⟩

end Stagehand.Settings
