import Stagehand.Proofs.Settings.Precedence

/-!
# The endpoint and loading
Nobody looks into the URL and the token of the cache while settings are loaded. Whatever text stands
for one of them, in whatever source, is no reason why settings cannot be loaded.
-/

namespace Stagehand

/-- A failure to load that is put down to the value of a setting: to a single value that cannot
count as what is wanted, or to one that makes no sense. -/
inductive LoadError.Blames (f : Settings.Field) : LoadError → Prop
  | misfit {key : String} {wanted : Settings.Wanted} {found : Settings.Tree}
    (hkey : key = f.key ∨ key = f.listKey) (hfound : found.IsLeaf) :
    Blames f (.misfit (.setting key wanted found))
  | invalid (reason : String) : Blames f (.invalid ⟨f, reason⟩)

namespace Settings

/-! ### What cannot be read -/

theorem Field.eq_of_key {f g : Field}
    (h : f.key = g.key ∨ f.key = g.listKey ∨ f.listKey = g.key ∨ f.listKey = g.listKey) :
    f = g := by
  revert h
  cases f <;> cases g <;> decide +kernel

/-- Every single value counts as a text. -/
theorem asText_eq_error {t found : Tree} {wanted : Wanted} (h : asText t = .error (wanted, found))
    (hnil : ∀ o, t ≠ .leaf o .nil) : ¬found.IsLeaf := by
  cases t with
  | leaf o s =>
    cases s with
    | nil => exact absurd rfl (hnil o)
    | flag b => cases h
    | integer n => cases h
    | real x => cases h
    | text s => cases h
  | list o items =>
    cases h
    rintro ⟨o', s, hs⟩
    cases hs
  | table o es =>
    cases h
    rintro ⟨o', s, hs⟩
    cases hs

/-- A setting that cannot be read is named by one of its keys. -/
theorem optional_eq_error {α : Type} {key : String} {sense : Sense α} {x : Option Tree} {m : Misfit}
    (h : optional key sense x = .error m) :
    ∃ t wanted found, (∀ o, t ≠ .leaf o .nil) ∧ sense t = .error (wanted, found) ∧
      m = .setting key wanted found := by
  unfold optional at h
  split at h
  · cases h
  · cases h
  · rename_i t hnil
    split at h
    · cases h
    · rename_i wanted found hsense
      cases h
      exact ⟨t, wanted, found, hnil, hsense, rfl⟩

theorem readField_eq_error {α : Type} {f : Field} {sense : Sense α} {x : Option Tree} {m : Misfit}
    (h : readField f sense x = .error m) :
    (∃ s found, m = .part s found) ∨
      ∃ key t wanted found, (key = f.key ∨ key = f.listKey) ∧ (∀ o, t ≠ .leaf o .nil) ∧
        sense t = .error (wanted, found) ∧ m = .setting key wanted found := by
  unfold readField at h
  split at h
  · cases h
  · obtain ⟨t, wanted, found, hmisfit⟩ := optional_eq_error h
    exact .inr ⟨_, t, wanted, found, .inl rfl, hmisfit⟩
  · obtain ⟨t, wanted, found, hmisfit⟩ := optional_eq_error h
    exact .inr ⟨_, t, wanted, found, .inr rfl, hmisfit⟩
  · cases h
    exact .inl ⟨_, _, rfl⟩

theorem Supplied.exists_of_ofEntries {root : Members Tree} {m : Misfit}
    (h : Supplied.ofEntries root = .error m) :
    ∃ f : Field, readField f f.sense (root.get? f.home.name) = .error m := by
  simp only [ofEntries] at h
  split at h
  · rename_i he
    cases h
    exact ⟨.level, he⟩
  · split at h
    · rename_i he
      cases h
      exact ⟨.json, he⟩
    · split at h
      · rename_i he
        cases h
        exact ⟨.url, he⟩
      · split at h
        · rename_i he
          cases h
          exact ⟨.token, he⟩
        · split at h
          · rename_i he
            cases h
            exact ⟨.timeout, he⟩
          · cases h

/-! ### Failures to load -/

section Load

variable {env : Environment} {d : Directory} {arguments : CommandLine.Arguments} {e : LoadError}
  {f : Field}

theorem ofFound_not_blames {found : Found} (h : ofFound found = .error e) : ¬e.Blames f := by
  rw [ofFound] at h
  split at h
  · cases h
  · cases h
    intro hblames
    cases hblames

theorem ofFixedFile_not_blames {name : String} (h : ofFixedFile d name = .error e) :
    ¬e.Blames f := by
  rw [ofFixedFile] at h
  split at h
  · exact ofFound_not_blames h
  · cases h

theorem ofNamedFile_not_blames {configFile : Option String}
    (h : ofNamedFile d configFile = .error e) : ¬e.Blames f := by
  cases configFile with
  | none => cases h
  | some name =>
    rw [ofNamedFile] at h
    split at h
    · exact ofFound_not_blames h
    · cases h
      intro hblames
      cases hblames

/-- A file that is missing or malformed is not put down to any value. -/
theorem layers_not_blames {configFile : Option String} (h : layers env d configFile = .error e) :
    ¬e.Blames f := by
  rw [layers] at h
  split at h
  · rename_i hfixed
    cases h
    rw [fixedFiles, List.mapM_cons, List.mapM_cons, List.mapM_nil] at hfixed
    cases hfallback : ofFixedFile d "config/default" with
    | error e' =>
      rw [hfallback] at hfixed
      cases hfixed
      exact ofFixedFile_not_blames hfallback
    | ok fallback =>
      rw [hfallback] at hfixed
      cases hhere : ofFixedFile d "fanhub" with
      | error e' =>
        rw [hhere] at hfixed
        cases hfixed
        exact ofFixedFile_not_blames hhere
      | ok here =>
        rw [hhere] at hfixed
        cases hfixed
  · split at h
    · rename_i hnamed
      cases h
      exact ofNamedFile_not_blames hnamed
    · cases h

theorem misfit_not_blames {root : Members Tree} {m : Misfit}
    (h : Supplied.ofEntries root = .error m) (hf : f = .url ∨ f = .token) :
    ¬(LoadError.misfit m).Blames f := by
  obtain ⟨g, hg⟩ := Supplied.exists_of_ofEntries h
  rcases readField_eq_error hg with
    ⟨s, found, rfl⟩ | ⟨key, t, wanted, found, hkey, hnil, hsense, rfl⟩
  · intro hblames
    cases hblames
  · rintro (⟨hkey', hfound⟩ | _)
    have hfg : f = g := by
      apply Field.eq_of_key
      rcases hkey with rfl | rfl <;> rcases hkey' with h | h <;> simp [h]
    subst hfg
    rcases hf with rfl | rfl
    · exact asText_eq_error hsense hnil hfound
    · exact asText_eq_error hsense hnil hfound

theorem invalid_not_blames {s : Supplied} {i : Invalid} (h : ofSupplied s = .error i)
    (hf : f = .url ∨ f = .token) : ¬(LoadError.invalid i).Blames f := by
  have hfield : i.field = .level ∨ i.field = .timeout := by
    rw [ofSupplied] at h
    split at h
    · rename_i hlogging
      cases h
      rw [loggingOf] at hlogging
      split at hlogging
      · cases hlogging
      · split at hlogging <;> cases hlogging
        exact .inl rfl
    · split at h
      · rename_i hcache
        cases h
        rw [cacheOf] at hcache
        split at hcache <;> cases hcache
        exact .inr rfl
      · cases h
  rintro (_ | _)
  rcases hf with rfl | rfl <;> rcases hfield with h | h <;> cases h

/-- No single value for the URL or for the token is a reason why settings cannot be loaded. -/
theorem load_not_blames (h : load env d arguments = .error e) (hf : f = .url ∨ f = .token) :
    ¬e.Blames f := by
  rw [load] at h
  split at h
  · rename_i hsupplied
    cases h
    rw [supplied] at hsupplied
    split at hsupplied
    · rename_i hlayers
      cases hsupplied
      exact layers_not_blames hlayers
    · split at hsupplied
      · rename_i hmisfit
        cases hsupplied
        exact misfit_not_blames hmisfit hf
      · cases hsupplied
  · split at h
    · rename_i hinvalid
      cases h
      exact invalid_not_blames hinvalid hf
    · cases h

end Load

/-! ### Other endpoints -/

/-- The arguments with other flags for the URL and the token. -/
def retarget (arguments : CommandLine.Arguments) (url token : Option String) :
    CommandLine.Arguments :=
  { arguments with overrides := { arguments.overrides with cacheUrl := url, cacheToken := token } }

theorem ofSupplied_retarget {s : Supplied} {settings : Settings} (h : ofSupplied s = .ok settings)
    (url token : Option String) :
    ofSupplied { s with url := url, token := token } =
      .ok { settings with cache := { settings.cache with
        url := url.bind nonBlank, token := token.bind nonBlank } } := by
  rw [ofSupplied] at h
  split at h
  · cases h
  · rename_i logging hlogging
    split at h
    · cases h
    · rename_i cache hcache
      cases h
      have hlogging' : loggingOf { s with url := url, token := token } = .ok logging := hlogging
      have hms : s.timeoutMs.getD defaultTimeoutMs ≠ 0 := by
        intro hms
        rw [cacheOf, if_pos hms] at hcache
        cases hcache
      obtain rfl := cacheOf_eq hcache
      have hcache' : cacheOf { s with url := url, token := token } =
          .ok ⟨url.bind nonBlank, token.bind nonBlank,
            .ofMillis (s.timeoutMs.getD defaultTimeoutMs)⟩ := if_neg hms
      rw [ofSupplied, hlogging', hcache']

section Retarget

variable {env env' : Environment} {d : Directory} {arguments : CommandLine.Arguments}

theorem supplied_retarget {s : Supplied} (h : supplied env d arguments = .ok s)
    (henv : ofEnvironment env' = ofEnvironment env) (url token : Option String) :
    ∃ url' token', supplied env' d (retarget arguments url token) =
      .ok { s with url := url', token := token' } := by
  have hlayers : layers env' d arguments.configFile = layers env d arguments.configFile := by
    rw [layers, layers, henv]
  rw [supplied] at h
  split at h
  · cases h
  · rename_i sources hsources
    split at h
    · cases h
    · rename_i read hread
      cases h
      rw [supplied, retarget, hlayers, hsources]
      simp only [hread]
      exact ⟨_, _, rfl⟩

/-- The settings are loaded with any other flags for the URL and the token and with any other
variables that fill them in, and the rest of the settings stays the same. -/
theorem load_retarget {settings : Settings} (h : load env d arguments = .ok settings)
    (henv : ofEnvironment env' = ofEnvironment env) (url token : Option String) :
    ∃ cache, load env' d (retarget arguments url token) = .ok ⟨settings.logging, cache⟩ ∧
      cache.timeout = settings.cache.timeout := by
  obtain ⟨s, hs, hsettings⟩ := load_eq_ok_iff.mp h
  obtain ⟨url', token', hs'⟩ := supplied_retarget hs henv url token
  exact ⟨_, load_eq_ok_iff.mpr ⟨_, hs', ofSupplied_retarget hsettings url' token'⟩, rfl⟩

end Retarget

/-! ### Other sources -/

theorem Supplied.exists_of_readField {root : Members Tree}
    (h : ∀ f : Field, ∃ v, readField f f.sense (root.get? f.home.name) = .ok v) :
    ∃ s, Supplied.ofEntries root = .ok s := by
  obtain ⟨level, hlevel⟩ := h .level
  obtain ⟨json, hjson⟩ := h .json
  obtain ⟨url, hurl⟩ := h .url
  obtain ⟨token, htoken⟩ := h .token
  obtain ⟨timeoutMs, htimeout⟩ := h .timeout
  simp only [Field.sense, Field.home] at hlevel hjson hurl htoken htimeout
  simp only [ofEntries, hlevel, hjson, hurl, htoken, htimeout]
  exact ⟨_, rfl⟩

/-- What is stated of a setting is read in the same way from all the sources together. -/
theorem Supplied.exists_of_stated {sources : List Source}
    (hleaf : ∀ source ∈ sources, LeafByLeaf source)
    (h : ∀ f : Field, ∃ v, optional f.key f.sense (sources.findSome? (stated · f)) = .ok v) :
    ∃ s, Supplied.ofEntries ((layered sources.reverse).entries?.getD []) = .ok s := by
  apply Supplied.exists_of_readField
  intro f
  obtain ⟨v, hv⟩ := h f
  refine ⟨v, ?_⟩
  rw [readField_layered hleaf]
  exact optional_sameLeaf hv (at?_layered hleaf f).symm

theorem optional_of_isLeaf {f : Field} (hf : f = .url ∨ f = .token) {x : Option Tree}
    (hx : ∀ t, x = some t → t.IsLeaf) : ∃ v, optional f.key f.sense x = .ok v := by
  cases x with
  | none => exact ⟨none, rfl⟩
  | some t =>
    obtain ⟨o, s, rfl⟩ := hx t rfl
    rcases hf with rfl | rfl <;> cases s <;> exact ⟨_, rfl⟩

/-- Other sources and flags, in which only the URL and the token have changed, and these to single
values. -/
structure Retargeted (sources sources' : List Source) (o o' : CommandLine.Overrides) : Prop where
  tables : ∀ source ∈ sources, LeafByLeaf source
  tables' : ∀ source ∈ sources', LeafByLeaf source
  kept : ∀ f, f ≠ .url → f ≠ .token → Undisturbed f sources sources' ∧ flag? o f = flag? o' f
  single : ∀ f, f = .url ∨ f = .token →
    ∀ t, sources'.findSome? (stated · f) = some t → t.IsLeaf

theorem Supplied.eq_retarget {s s' : Supplied}
    (h : ∀ f, f ≠ .url → f ≠ .token → s'.get f = s.get f) :
    s' = { s with url := s'.url, token := s'.token } := by
  obtain ⟨level, json, url, token, timeoutMs⟩ := s'
  have hlevel : level = s.level := h .level nofun nofun
  have hjson : json = s.json := h .json nofun nofun
  have htimeout : timeoutMs = s.timeoutMs := h .timeout nofun nofun
  subst hlevel hjson htimeout
  rfl

theorem filler?_eq_none {env : Environment} {f : Field} (hurl : f ≠ .url) (htoken : f ≠ .token) :
    filler? env f = none := by
  cases f with
  | url => exact absurd rfl hurl
  | token => exact absurd rfl htoken
  | _ => rfl

section Retargeted

variable {env env' : Environment} {d d' : Directory} {arguments arguments' : CommandLine.Arguments}
  {sources sources' : List Source}

theorem supplied_retargeted {s : Supplied} (h : supplied env d arguments = .ok s)
    (hsources : Ranked env d arguments.configFile sources)
    (hsources' : Ranked env' d' arguments'.configFile sources')
    (hchanged : Retargeted sources sources' arguments.overrides arguments'.overrides) :
    ∃ url token, supplied env' d' arguments' = .ok { s with url := url, token := token } := by
  obtain ⟨read, hread, rfl⟩ := (supplied_eq_ok_iff hsources).mp h
  have hget := Supplied.get_of_layered hchanged.tables hread
  have hstated (f : Field) :
      ∃ v, optional f.key f.sense (sources'.findSome? (stated · f)) = .ok v := by
    by_cases hf : f = .url ∨ f = .token
    · exact optional_of_isLeaf hf (hchanged.single f hf)
    · obtain ⟨hurl, htoken⟩ := not_or.mp hf
      rw [← (hchanged.kept f hurl htoken).1.findSome?_eq]
      exact ⟨_, hget f⟩
  obtain ⟨read', hread'⟩ := Supplied.exists_of_stated hchanged.tables' hstated
  have hget' := Supplied.get_of_layered hchanged.tables' hread'
  have hsame : ∀ f, f ≠ .url → f ≠ .token →
      ((read'.fillIn env').override arguments'.overrides).get f =
        ((read.fillIn env).override arguments.overrides).get f := by
    intro f hurl htoken
    obtain ⟨hundisturbed, hflag⟩ := hchanged.kept f hurl htoken
    have hread : read'.get f = read.get f := by
      have hf := hget' f
      rw [← hundisturbed.findSome?_eq, hget f] at hf
      exact (Except.ok.inj hf).symm
    rw [Supplied.get_override_fillIn, Supplied.get_override_fillIn, hread, hflag,
      filler?_eq_none hurl htoken, filler?_eq_none hurl htoken]
  rw [(supplied_eq_ok_iff hsources').mpr ⟨read', hread', rfl⟩, Supplied.eq_retarget hsame]
  exact ⟨_, _, rfl⟩

/-- Where settings are loaded, settings are also loaded from sources and flags in which the URL and
the token have changed. -/
theorem load_retargeted {settings : Settings} (h : load env d arguments = .ok settings)
    (hsources : Ranked env d arguments.configFile sources)
    (hsources' : Ranked env' d' arguments'.configFile sources')
    (hchanged : Retargeted sources sources' arguments.overrides arguments'.overrides) :
    ∃ cache, load env' d' arguments' = .ok ⟨settings.logging, cache⟩ ∧
      cache.timeout = settings.cache.timeout := by
  obtain ⟨s, hs, hsettings⟩ := load_eq_ok_iff.mp h
  obtain ⟨url, token, hs'⟩ := supplied_retargeted hs hsources hsources' hchanged
  exact ⟨_, load_eq_ok_iff.mpr ⟨_, hs', ofSupplied_retarget hsettings url token⟩, rfl⟩

end Retargeted

end Settings

end Stagehand
