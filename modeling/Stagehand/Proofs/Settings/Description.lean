import Stagehand.Proofs.Cache.Authorization
import Stagehand.Proofs.Text.Quoted
import Stagehand.Settings.Basic

/-!
# Settings for people
The text of the settings of the cache hides the token but not the URL: settings that are shown alike
have the same text for it, user information included. The text of the configuration that is made
from them hides both.
-/

namespace Stagehand

namespace CacheConfig

variable {c c' : CacheConfig}

/-- All tokens are shown alike. -/
theorem redacted_of_isSome {secret : Option String} (h : secret.isSome = true) :
    redacted secret = some "<redacted>" := by
  obtain ⟨text, rfl⟩ := Option.isSome_iff_exists.mp h
  rfl

/-- What is shown of a configuration is the URL without user information, and no token. -/
theorem description_eq_iff (htimeout : c.timeout = c'.timeout) (htoken : c.token.isSome = true)
    (htoken' : c'.token.isSome = true) :
    c.description = c'.description ↔ c.redactedUrl = c'.redactedUrl := by
  unfold CacheConfig.description
  rw [htimeout, redacted_of_isSome htoken, redacted_of_isSome htoken']
  simp only [String.append_left_inj, String.append_right_inj, quotedOption_injective.eq_iff]

end CacheConfig

namespace CacheSettings

/-- Settings of the same cache: neither has a URL, or both have the same text for it, or both can be
read as URLs with no other difference than in the user information. -/
def SameCache (s s' : CacheSettings) : Prop :=
  s.url = s'.url ∨ ∃ u u', s.config.HasUrl u ∧ s'.config.HasUrl u' ∧
    u.withoutUserinfo = u'.withoutUserinfo

variable {s s' : CacheSettings}

theorem SameCache.redactedUrl_eq (h : s.SameCache s') :
    s.config.redactedUrl = s'.config.redactedUrl := by
  rcases h with h | ⟨u, u', hu, hu', h⟩
  · simp only [CacheConfig.redactedUrl, config, h]
  · rw [hu.redactedUrl_eq, hu'.redactedUrl_eq, h]

/-- What is shown of settings is the URL as it is, and no token. -/
theorem description_eq_iff (htimeout : s.timeout = s'.timeout) (htoken : s.token.isSome = true)
    (htoken' : s'.token.isSome = true) : s.description = s'.description ↔ s.url = s'.url := by
  unfold CacheSettings.description
  rw [htimeout, CacheConfig.redacted_of_isSome htoken, CacheConfig.redacted_of_isSome htoken']
  simp only [String.append_left_inj, String.append_right_inj, quotedOption_injective.eq_iff]

/-- Two settings of the same cache, with tokens, are shown alike as configurations, whatever the
tokens and the user information are. As settings they are shown alike just where the texts of their
URLs are the same. -/
theorem description_tells_url (htimeout : s.timeout = s'.timeout)
    (htoken : s.token.isSome = true) (htoken' : s'.token.isSome = true) (h : s.SameCache s') :
    s.config.description = s'.config.description ∧
      (s.description = s'.description ↔ s.url = s'.url) :=
  ⟨(CacheConfig.description_eq_iff htimeout htoken htoken').mpr h.redactedUrl_eq,
    description_eq_iff htimeout htoken htoken'⟩

/-- Settings of a cache on the machine itself, with some user information in the URL. -/
def local6 (userinfo token : String) : CacheSettings :=
  { url := (CacheConfig.local6 userinfo).url, token := some token }

theorem sameCache_local6 (token token' : String) :
    (local6 "default:s3cret@" token).SameCache (local6 "" token') :=
  .inr ⟨CacheConfig.localUrl "default" "s3cret", CacheConfig.localUrl "" "", ⟨_, rfl, rfl⟩,
    ⟨_, rfl, rfl⟩, rfl⟩

/-- A password is shown with the settings, and not with the configuration. -/
theorem description_tells_url_password :
    let s := local6 "default:s3cret@" "t1"
    let s' := local6 "" "t2"
    s.config.description = s'.config.description ∧ s.description ≠ s'.description := by
  intro s s'
  have htimeout : s.timeout = s'.timeout := rfl
  obtain ⟨hconfig, hsettings⟩ :=
    description_tells_url htimeout rfl rfl (sameCache_local6 "t1" "t2")
  exact ⟨hconfig, fun h => absurd (hsettings.mp h) (by decide)⟩

/-- Settings of the same cache with other user information are not shown alike. -/
theorem description_shows_userinfo :
    ¬∀ s s' : CacheSettings, s.timeout = s'.timeout → s.token.isSome = true →
      s'.token.isSome = true → s.SameCache s' →
        s.description = s'.description ∧ s.config.description = s'.config.description := by
  intro h
  have htimeout : (local6 "default:s3cret@" "t1").timeout = (local6 "" "t2").timeout := rfl
  have hshown := (h _ _ htimeout rfl rfl (sameCache_local6 "t1" "t2")).1
  rw [description_eq_iff htimeout rfl rfl] at hshown
  exact absurd hshown (by decide)

end CacheSettings

end Stagehand
