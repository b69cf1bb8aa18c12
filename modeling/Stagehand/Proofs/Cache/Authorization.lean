import Stagehand.Proofs.Cache.Command
import Stagehand.Proofs.Cache.Connect
import Stagehand.Proofs.Http.Credentials

/-!
# How commands are authorized
A command goes out under the token of the configuration, unless the URL has user information that
can be read: then it goes out under that, and the token is not sent at all.
-/

namespace Stagehand

/-- A user name and a password are never taken for a token. -/
theorem Credentials.basic_ne_bearer (name password token : String) :
    basic name password ≠ bearer token := by
  intro h
  have hchars := congrArg String.toList h
  rw [basic, bearer, String.toList_append, String.toList_append] at hchars
  cases hchars

namespace RemoteCache

variable (r : RemoteCache) (c : CacheCommand)

/-- The token is sent exactly where no credentials can be read from the URL. -/
theorem request_authorization_eq_bearer_iff :
    (r.request c).authorization = some (Credentials.bearer r.token) ↔
      ¬(r.url.hasUserinfo = true ∧ r.url.ReadableUserinfo) := by
  rw [← Credentials.ofUrl?_eq_none_iff, request]
  cases hof : Credentials.ofUrl? r.url with
  | none => simp [Request.posting_of_none hof]
  | some pair => simp [Request.posting_of_some hof, Credentials.basic_ne_bearer]

theorem request_authorization_of_readable (hu : r.url.hasUserinfo = true)
    (hread : r.url.ReadableUserinfo) :
    ∃ name password, Credentials.ofUrl? r.url = some (name, password) ∧
      (r.request c).authorization = some (Credentials.basic name password) := by
  have hof : Credentials.ofUrl? r.url ≠ none := fun h =>
    Credentials.ofUrl?_eq_none_iff.mp h ⟨hu, hread⟩
  obtain ⟨⟨name, password⟩, hof⟩ := Option.ne_none_iff_exists'.mp hof
  exact ⟨name, password, hof, by rw [request, Request.posting_of_some hof]⟩

end RemoteCache

/-- The first request of a command on an open URL carries the token of the configuration exactly
where the URL has no user information that can be read, and carries that user information
otherwise. -/
theorem RemoteCache.perform_authorizes {config : CacheConfig} {r : RemoteCache}
    (hconnect : connect config = .ok r) (hs : r.url.scheme = "http".toList) (c : CacheCommand)
    {w : World} {responses : List Response} (hw : w.network = .peer responses) :
    ∃ token q more, config.token = some token ∧
      ((CacheClient.live (.remote r)).perform c w).2.contacts = w.contacts ++ .request q :: more ∧
      (q.authorization = some ("Bearer " ++ token) ↔
        ¬(r.url.hasUserinfo = true ∧ r.url.ReadableUserinfo)) ∧
      (r.url.hasUserinfo = true → r.url.ReadableUserinfo →
        ∃ name password, Credentials.ofUrl? r.url = some (name, password) ∧
          q.authorization = some (Credentials.basic name password)) := by
  obtain ⟨more, hcontacts, -⟩ := perform_contacts_open (c := c) hw hs
  exact ⟨r.token, r.request c, more, (CacheConfig.connect_eq_ok_iff.mp hconnect).token, hcontacts,
    r.request_authorization_eq_bearer_iff c, r.request_authorization_of_readable c⟩

namespace CacheConfig

/-- A cache on the machine itself, with some user information in its URL. -/
def local6 (userinfo : String) : CacheConfig where
  url := some ("http://" ++ userinfo ++ "[::1]:6380/")
  token := some "test-token"

/-- The URL of the cache on the machine itself. -/
def localUrl (username password : String) : Url where
  scheme := "http".toList
  username := username.toList
  password := password.toList
  host := some (.ip6 [0, 0, 0, 0, 0, 0, 0, 1])
  port := some 6380
  path := .segments [[]]

theorem connect_local6 : RemoteCache.connect (local6 "") = .ok ⟨localUrl "" "", "test-token"⟩ :=
  rfl

theorem connect_local6_credentials : RemoteCache.connect (local6 "default:s3cret@") =
    .ok ⟨localUrl "default" "s3cret", "test-token"⟩ :=
  rfl

end CacheConfig

/-- Without user information a ping carries the token. -/
theorem RemoteCache.perform_authorizes_ping :
    ∃ q more, ((CacheClient.live (.remote ⟨CacheConfig.localUrl "" "", "test-token"⟩)).perform .ping
        { network := .peer [] }).2.contacts = .request q :: more ∧
      q.authorization = some "Bearer test-token" := by
  obtain ⟨token, q, more, htoken, hcontacts, hbearer, -⟩ :=
    perform_authorizes CacheConfig.connect_local6 rfl .ping (w := { network := .peer [] }) rfl
  cases htoken
  refine ⟨q, more, hcontacts, hbearer.mpr ?_⟩
  rintro ⟨h, -⟩
  cases h

/-- A URL may have user information that takes the token's place. -/
theorem RemoteCache.perform_drops_token :
    ¬∀ (config : CacheConfig) (r : RemoteCache) (c : CacheCommand) (w : World)
      (responses : List Response), connect config = .ok r → r.url.scheme = "http".toList →
        w.network = .peer responses →
        ∃ token q more, config.token = some token ∧
          ((CacheClient.live (.remote r)).perform c w).2.contacts =
            w.contacts ++ .request q :: more ∧
          q.authorization = some ("Bearer " ++ token) := by
  intro h
  obtain ⟨token, q, more, htoken, hcontacts, hbearer⟩ :=
    h _ _ .ping { network := .peer [] } [] CacheConfig.connect_local6_credentials rfl rfl
  cases htoken
  have hw : ({ network := .peer [] } : World).network = .peer [] := rfl
  obtain ⟨more', hcontacts', -⟩ := perform_contacts_open (c := .ping)
    (r := ⟨CacheConfig.localUrl "default" "s3cret", "test-token"⟩) hw rfl
  rw [hcontacts] at hcontacts'
  cases hcontacts'
  have hnot := (request_authorization_eq_bearer_iff _ _).mp hbearer
  exact hnot ⟨rfl, by decide +kernel, by nofun⟩

end Stagehand
