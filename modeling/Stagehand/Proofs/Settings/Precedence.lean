import Stagehand.Proofs.Settings.Files
import Stagehand.Proofs.Settings.Layers
import Stagehand.Proofs.Text.CodeTable

/-!
# Which source decides
Every setting is decided for itself: by its flag, or by the highest source that says anything of
it, or by the variable that fills it in, or by its default.
-/

namespace Stagehand

namespace Settings

/-! ### Settings one by one -/

/-- What a setting is read as. -/
abbrev Field.Value : Field → Type
  | level => String
  | json => Bool
  | url => String
  | token => String
  | timeout => Nat

/-- How a setting is read. -/
def Field.sense : (f : Field) → Sense f.Value
  | level => asText
  | json => asSwitch
  | url => asText
  | token => asText
  | timeout => asUnsigned

/-- What is supplied for a setting. -/
def Supplied.get (s : Supplied) : (f : Field) → Option f.Value
  | .level => s.level
  | .json => s.json
  | .url => s.url
  | .token => s.token
  | .timeout => s.timeoutMs

/-- The flag of a setting. -/
def flag? (o : CommandLine.Overrides) : (f : Field) → Option f.Value
  | .level => o.logLevel
  | .json => o.logJson
  | .url => o.cacheUrl
  | .token => o.cacheToken
  | .timeout => o.timeoutMs

/-- The variable that fills a setting in, which only the URL and the token have. -/
def filler? (env : Environment) : (f : Field) → Option f.Value
  | .level => none
  | .json => none
  | .url => env.lookup urlVariable
  | .token => env.lookup tokenVariable
  | .timeout => none

theorem Supplied.get_override_fillIn (s : Supplied) (env : Environment)
    (o : CommandLine.Overrides) (f : Field) :
    ((s.fillIn env).override o).get f = (flag? o f).or ((s.get f).or (filler? env f)) := by
  cases f with
  | level => exact congrArg (o.logLevel.or ·) (Option.or_none).symm
  | json => exact congrArg (o.logJson.or ·) (Option.or_none).symm
  | url => rfl
  | token => rfl
  | timeout => exact congrArg (o.timeoutMs.or ·) (Option.or_none).symm

/-! ### Reading what sources state -/

theorem Supplied.readField_get {root : Members Tree} {s : Supplied}
    (h : Supplied.ofEntries root = .ok s) (f : Field) :
    readField f f.sense (root.get? f.home.name) = .ok (s.get f) := by
  simp only [ofEntries] at h
  split at h
  · cases h
  · rename_i hlevel
    split at h
    · cases h
    · rename_i hjson
      split at h
      · cases h
      · rename_i hurl
        split at h
        · cases h
        · rename_i htoken
          split at h
          · cases h
          · rename_i htimeout
            cases h
            cases f with
            | level => exact hlevel
            | json => exact hjson
            | url => exact hurl
            | token => exact htoken
            | timeout => exact htimeout

/-- Nothing but a single value can be read as a setting. -/
theorem Field.isLeaf_of_sense {f : Field} {t : Tree} {v : f.Value} (h : f.sense t = .ok v) :
    t.IsLeaf := by
  cases t with
  | leaf o s => exact ⟨o, s, rfl⟩
  | list o items => cases f <;> cases h
  | table o es => cases f <;> cases h

theorem optional_sameLeaf {f : Field} {x y : Option Tree} {v : Option f.Value}
    (h : optional f.key f.sense x = .ok v) (hxy : SameLeaf x y) :
    optional f.key f.sense y = .ok v := by
  cases hxy with
  | refl => exact h
  | @compound a b ha _ =>
    cases hsense : f.sense a with
    | ok v => exact absurd (Field.isLeaf_of_sense hsense) ha
    | error e =>
      cases a with
      | leaf o s => exact absurd ⟨o, s, rfl⟩ ha
      | list o items =>
        simp only [optional, hsense] at h
        cases h
      | table o es =>
        simp only [optional, hsense] at h
        cases h

/-- A section that is a table, or missing, is read entry by entry. -/
theorem readField_of_isTable {t : Tree} {f : Field}
    (h : ∀ u, t.child? f.home.name = some u → u.IsTable) :
    readField f f.sense (t.child? f.home.name) = optional f.key f.sense (t.at? f) := by
  rw [Tree.at?]
  cases hchild : t.child? f.home.name with
  | none => rfl
  | some u =>
    obtain ⟨o, es, rfl⟩ := h u hchild
    rfl

theorem get?_entries? (t : Tree) (name : String) :
    Members.get? name (t.entries?.getD []) = t.child? name := by
  cases t <;> rfl

section Layered

variable {sources : List Source} (hleaf : ∀ source ∈ sources, LeafByLeaf source)

include hleaf

theorem readField_layered (f : Field) :
    readField f f.sense (((layered sources.reverse).entries?.getD []).get? f.home.name) =
      optional f.key f.sense ((layered sources.reverse).at? f) := by
  rw [get?_entries?]
  apply readField_of_isTable
  intro u hu
  exact isTable_layered hleaf hu

/-- What is read of a setting is what the highest source states that states anything. -/
theorem Supplied.get_of_layered {s : Supplied}
    (h : Supplied.ofEntries ((layered sources.reverse).entries?.getD []) = .ok s) (f : Field) :
    optional f.key f.sense (sources.findSome? (stated · f)) = .ok (s.get f) := by
  have hread := Supplied.readField_get h f
  rw [readField_layered hleaf] at hread
  exact optional_sameLeaf hread (at?_layered hleaf f)

end Layered

/-! ### Loading -/

/-- The sources of settings, the highest first: the variables, the file that the command line names,
and the two files with fixed names. -/
def Ranked (env : Environment) (d : Directory) (configFile : Option String)
    (sources : List Source) : Prop :=
  ∃ fallback here named, ofFixedFile d "config/default" = .ok fallback ∧
    ofFixedFile d "fanhub" = .ok here ∧ ofNamedFile d configFile = .ok named ∧
    sources = [ofEnvironment env, named, here, fallback]

/-- What is decided for a setting: its flag, or what the highest source states that states
anything, or the variable that fills it in. A source may state that there is no value; that hides
the sources below, and the setting is filled in nevertheless. -/
def decided (sources : List Source) (env : Environment)
    (o : CommandLine.Overrides) (f : Field) : Except Misfit (Option f.Value) :=
  (optional f.key f.sense (sources.findSome? (stated · f))).map fun v =>
    (flag? o f).or (v.or (filler? env f))

theorem mapM_fixedFiles_eq_ok_iff {d : Directory} {fixed : List (Members Tree)} :
    fixedFiles.mapM (ofFixedFile d) = .ok fixed ↔
      ∃ fallback here, ofFixedFile d "config/default" = .ok fallback ∧
        ofFixedFile d "fanhub" = .ok here ∧ fixed = [fallback, here] := by
  rw [fixedFiles, List.mapM_cons, List.mapM_cons, List.mapM_nil]
  constructor
  · intro h
    cases hfallback : ofFixedFile d "config/default" with
    | error e =>
      rw [hfallback] at h
      cases h
    | ok fallback =>
      rw [hfallback] at h
      cases hhere : ofFixedFile d "fanhub" with
      | error e =>
        rw [hhere] at h
        cases h
      | ok here =>
        rw [hhere] at h
        cases h
        exact ⟨fallback, here, rfl, rfl, rfl⟩
  · rintro ⟨fallback, here, hfallback, hhere, rfl⟩
    rw [hfallback, hhere]
    rfl

/-- The sources are laid over each other from the lowest to the highest. -/
theorem layers_eq_ok_iff {env : Environment} {d : Directory} {configFile : Option String}
    {sources : List Source} :
    layers env d configFile = .ok sources.reverse ↔ Ranked env d configFile sources := by
  rw [layers]
  constructor
  · intro h
    split at h
    · cases h
    · rename_i fixed hfixed
      split at h
      · cases h
      · rename_i named hnamed
        obtain ⟨fallback, here, hfallback, hhere, rfl⟩ := mapM_fixedFiles_eq_ok_iff.mp hfixed
        refine ⟨fallback, here, named, hfallback, hhere, hnamed, ?_⟩
        rw [← List.reverse_reverse sources, ← Except.ok.inj h]
        rfl
  · rintro ⟨fallback, here, named, hfallback, hhere, hnamed, rfl⟩
    rw [mapM_fixedFiles_eq_ok_iff.mpr ⟨fallback, here, hfallback, hhere, rfl⟩, hnamed]
    rfl

theorem Ranked.unique {env : Environment} {d : Directory} {configFile : Option String}
    {sources sources' : List Source} (h : Ranked env d configFile sources)
    (h' : Ranked env d configFile sources') : sources = sources' := by
  have hreverse := (layers_eq_ok_iff.mpr h).symm.trans (layers_eq_ok_iff.mpr h')
  exact List.reverse_inj.mp (Except.ok.inj hreverse)

theorem supplied_eq_ok_iff {env : Environment} {d : Directory} {arguments : CommandLine.Arguments}
    {sources : List Source} (h : Ranked env d arguments.configFile sources) {s : Supplied} :
    supplied env d arguments = .ok s ↔
      ∃ read, Supplied.ofEntries ((layered sources.reverse).entries?.getD []) = .ok read ∧
        s = (read.fillIn env).override arguments.overrides := by
  rw [supplied, layers_eq_ok_iff.mpr h]
  dsimp only
  constructor
  · intro hs
    split at hs
    · cases hs
    · rename_i read hread
      cases hs
      exact ⟨read, hread, rfl⟩
  · rintro ⟨read, hread, rfl⟩
    rw [hread]

theorem load_eq_ok_iff {env : Environment} {d : Directory} {arguments : CommandLine.Arguments}
    {settings : Settings} :
    load env d arguments = .ok settings ↔
      ∃ s, supplied env d arguments = .ok s ∧ ofSupplied s = .ok settings := by
  rw [load]
  constructor
  · intro h
    split at h
    · cases h
    · rename_i s hs
      split at h
      · cases h
      · rename_i hsettings
        cases h
        exact ⟨s, hs, hsettings⟩
  · rintro ⟨s, hs, hsettings⟩
    simp only [hs, hsettings]

/-! ### What is loaded -/

/-- What settings show of what was decided for a setting: the default where nothing was, and no
blanks around a URL or a token. -/
def Shows (settings : Settings) : (f : Field) → Option f.Value → Prop
  | .level, none => settings.logging.level = .info
  | .level, some text => Verbosity.ofText? text = some settings.logging.level
  | .json, v => settings.logging.format = if v.getD false then .json else .compact
  | .url, v => settings.cache.url = v.bind nonBlank
  | .token, v => settings.cache.token = v.bind nonBlank
  | .timeout, v => settings.cache.timeout = .ofMillis (v.getD defaultTimeoutMs)

/-- Settings that are the same in one place. -/
def SameAt (a b : Settings) : Field → Prop
  | .level => a.logging.level = b.logging.level
  | .json => a.logging.format = b.logging.format
  | .url => a.cache.url = b.cache.url
  | .token => a.cache.token = b.cache.token
  | .timeout => a.cache.timeout = b.cache.timeout

/-- A blank text that is supplied: by the flag, or without the flag by the highest source that
states anything. -/
inductive Blank (flag : Option String) (highest : Option Tree) : Prop
  | flag {text : String} (hflag : flag = some text) (hblank : nonBlank text = none)
  | source {o : Option String} {text : String} (hflag : flag = none)
    (hhighest : highest = some (.leaf o (.text text))) (hblank : nonBlank text = none)

theorem shows_logging {s : Supplied} {logging : LoggingSettings} (h : loggingOf s = .ok logging)
    (cache : CacheSettings) :
    Shows ⟨logging, cache⟩ .level s.level ∧ Shows ⟨logging, cache⟩ .json s.json := by
  rw [loggingOf] at h
  split at h
  · rename_i hlevel
    cases h
    rw [hlevel]
    exact ⟨rfl, rfl⟩
  · rename_i text hlevel
    split at h
    · rename_i level htext
      cases h
      rw [hlevel]
      exact ⟨htext, rfl⟩
    · cases h

theorem cacheOf_eq {s : Supplied} {cache : CacheSettings} (h : cacheOf s = .ok cache) :
    cache = ⟨s.url.bind nonBlank, s.token.bind nonBlank,
      .ofMillis (s.timeoutMs.getD defaultTimeoutMs)⟩ := by
  rw [cacheOf] at h
  split at h
  · cases h
  · cases h
    rfl

theorem shows_of_ofSupplied {s : Supplied} {settings : Settings} (h : ofSupplied s = .ok settings)
    (f : Field) : settings.Shows f (s.get f) := by
  rw [ofSupplied] at h
  split at h
  · cases h
  · rename_i logging hlogging
    split at h
    · cases h
    · rename_i cache hcache
      cases h
      obtain ⟨hlevel, hjson⟩ := shows_logging hlogging cache
      obtain rfl := cacheOf_eq hcache
      cases f with
      | level => exact hlevel
      | json => exact hjson
      | url => rfl
      | token => rfl
      | timeout => rfl

theorem Shows.sameAt {a b : Settings} {f : Field} {v : Option f.Value} (ha : a.Shows f v)
    (hb : b.Shows f v) : a.SameAt b f := by
  cases f with
  | level =>
    cases v with
    | none => exact ha.trans hb.symm
    | some text => exact Option.some.inj (ha.symm.trans hb)
  | json => exact ha.trans hb.symm
  | url => exact ha.trans hb.symm
  | token => exact ha.trans hb.symm
  | timeout => exact ha.trans hb.symm

section Load

variable {env : Environment} {d : Directory} {arguments : CommandLine.Arguments}
  {settings : Settings}

theorem exists_ranked (h : load env d arguments = .ok settings) :
    ∃ sources, Ranked env d arguments.configFile sources := by
  cases hlayers : layers env d arguments.configFile with
  | error e =>
    rw [load, supplied, hlayers] at h
    cases h
  | ok sources =>
    rw [← List.reverse_reverse sources] at hlayers
    exact ⟨sources.reverse, layers_eq_ok_iff.mp hlayers⟩

theorem shows_decided {sources : List Source}
    (h : load env d arguments = .ok settings)
    (hsources : Ranked env d arguments.configFile sources)
    (hleaf : ∀ source ∈ sources, LeafByLeaf source) (f : Field) :
    ∃ v, decided sources env arguments.overrides f = .ok v ∧ settings.Shows f v := by
  obtain ⟨s, hs, hsettings⟩ := load_eq_ok_iff.mp h
  obtain ⟨read, hread, rfl⟩ := (supplied_eq_ok_iff hsources).mp hs
  refine ⟨_, ?_, shows_of_ofSupplied hsettings f⟩
  rw [decided, Supplied.get_of_layered hleaf hread f, Supplied.get_override_fillIn]
  rfl

theorem exists_of_decided {sources : List Source} {o : CommandLine.Overrides}
    {f : Field} {v : Option f.Value} (h : decided sources env o f = .ok v) :
    ∃ w, optional f.key f.sense (sources.findSome? (stated · f)) = .ok w ∧
      (flag? o f).or (w.or (filler? env f)) = v := by
  rw [decided] at h
  cases hw : optional f.key f.sense (sources.findSome? (stated · f)) with
  | error e =>
    rw [hw] at h
    cases h
  | ok w =>
    rw [hw] at h
    exact ⟨w, rfl, Except.ok.inj h⟩

/-- What is decided for a setting depends on nothing but what is stated of it. -/
theorem decided_congr {sources sources' : List Source} {env env' : Environment}
    {o o' : CommandLine.Overrides} {f : Field} (hsources : Undisturbed f sources sources')
    (hflag : flag? o f = flag? o' f) (hfiller : filler? env f = filler? env' f) :
    decided sources env o f = decided sources' env' o' f := by
  rw [decided, decided, hsources.findSome?_eq, hflag, hfiller]

/-- A blank text hides all that could be there instead of it, and counts as missing. -/
theorem Blank.bind_nonBlank {flag : Option String} {highest : Option Tree} (h : Blank flag highest)
    {key : String} {v : Option String} (hv : optional key asText highest = .ok v)
    (filler : Option String) : (flag.or (v.or filler)).bind nonBlank = none := by
  cases h with
  | flag hflag hblank =>
    rw [hflag]
    exact hblank
  | source hflag hhighest hblank =>
    rw [hhighest] at hv
    cases hv
    rw [hflag]
    exact hblank

/-- Every setting is decided for itself. Where loading succeeds, the settings show what is decided
for each; a blank URL or token is missing whatever the lower sources state; and of settings that are
loaded elsewhere each one is the same about which nothing has changed, neither in a source nor as a
flag nor in the variable that fills it in. -/
theorem load_decides (h : load env d arguments = .ok settings)
    (hleaf : ∀ sources, Ranked env d arguments.configFile sources →
      ∀ source ∈ sources, LeafByLeaf source) :
    ∃ sources, Ranked env d arguments.configFile sources ∧
      (∀ f, ∃ v, decided sources env arguments.overrides f = .ok v ∧ settings.Shows f v) ∧
      (Blank arguments.overrides.cacheUrl (sources.findSome? (stated · .url)) →
        settings.cache.url = none) ∧
      (Blank arguments.overrides.cacheToken (sources.findSome? (stated · .token)) →
        settings.cache.token = none) ∧
      ∀ (env' : Environment) (d' : Directory) (arguments' : CommandLine.Arguments)
        (settings' : Settings) (sources' : List Source),
        load env' d' arguments' = .ok settings' → Ranked env' d' arguments'.configFile sources' →
        (∀ source ∈ sources', LeafByLeaf source) →
        ∀ f, Undisturbed f sources sources' →
          flag? arguments.overrides f = flag? arguments'.overrides f →
          filler? env f = filler? env' f → settings.SameAt settings' f := by
  obtain ⟨sources, hsources⟩ := exists_ranked h
  have hshows (f : Field) := shows_decided h hsources (hleaf sources hsources) f
  refine ⟨sources, hsources, hshows, ?_, ?_, ?_⟩
  · intro hblank
    obtain ⟨v, hv, hshow⟩ := hshows .url
    obtain ⟨w, hw, rfl⟩ := exists_of_decided hv
    exact hshow.trans (hblank.bind_nonBlank hw _)
  · intro hblank
    obtain ⟨v, hv, hshow⟩ := hshows .token
    obtain ⟨w, hw, rfl⟩ := exists_of_decided hv
    exact hshow.trans (hblank.bind_nonBlank hw _)
  · intro env' d' arguments' settings' sources' h' hsources' hleaf' f hsame hflag hfiller
    obtain ⟨v, hv, hshow⟩ := hshows f
    obtain ⟨v', hv', hshow'⟩ := shows_decided h' hsources' hleaf' f
    rw [decided_congr hsame hflag hfiller, hv'] at hv
    cases hv
    exact hshow.sameAt hshow'

end Load

/-! ### A URL that is taken back -/

/-- Letters that do not lead to the mark of a setting tell that a variable holds none. -/
theorem ofVariable_of_nameLetters {name : String} (cs : List Char) {rest : List Char}
    (hname : name.toList = cs ++ rest) (hcs : cs.all (· ∈ nameLetters) = true)
    (h : ∀ after, variableMark.toList.isPrefixOf (cs.map Char.toLower ++ after) = false)
    (v : String) : ofVariable (name, v) = none := by
  rw [ofVariable, lowerCase_of_nameLetters hname hcs]
  exact if_neg (Bool.eq_false_iff.mp (h _))

/-- The variables that fill in are not read as settings. -/
theorem ofVariable_urlVariable (v : String) : ofVariable (urlVariable, v) = none :=
  ofVariable_of_nameLetters ['U'] rfl (by decide) (fun _ => rfl) v

/-- A file that sets the URL of the cache. -/
def urlFile (url : Json) : List (String × Json) := [("cache", .object [("url", url)])]

theorem exact_urlFile {url : Json} (h : Json.Exact 125 url) :
    Json.Exact Json.maxDepth (.object (urlFile url)) :=
  exact_section "cache" "url" h

theorem plain_urlFile {url : Json} (h : url.Plain) : (Json.object (urlFile url)).Plain :=
  plain_section (by decide) (by decide) h

/-- A directory with a file that sets the URL, and another file that takes it back. -/
def takenBack : Directory where
  path := "/home"
  file? path :=
    if path = "fanhub.json" then
      some (Utf8.bytes (Json.object (urlFile (.string "http://a/"))).text.toList)
    else if path = "other.json" then some (Utf8.bytes (Json.object (urlFile .null)).text.toList)
    else none

/-- The entries of such a file. -/
def urlEntries (place : String) (url : Scalar) : Source :=
  [("cache", .table (some place) [("url", .leaf (some place) url)])]

theorem ranked_takenBack : ∃ here there, Ranked [(urlVariable, "http://b/")] takenBack
    (some "other.json") [[], urlEntries there .nil, urlEntries here (.text "http://a/"), []] := by
  have hfallback : ofFixedFile takenBack "config/default" = .ok [] :=
    ofFixedFile_missing (by decide +kernel)
  have hhere : takenBack.find "fanhub" = .ok ⟨takenBack.placeOf "fanhub.json", .json,
      textOf (Utf8.bytes (Json.object (urlFile (.string "http://a/"))).text.toList)⟩ :=
    find_fanhubJson rfl rfl rfl
  have hnamed : takenBack.find "other.json" = .ok ⟨takenBack.placeOf "other.json", .json,
      textOf (Utf8.bytes (Json.object (urlFile .null)).text.toList)⟩ := by
    have hformat : ((pathNames "other.json").getLast?.bind extensionOf).bind Format.ofExtension? =
        some .json := by
      decide +kernel
    simp only [Directory.find, hformat]
    rfl
  refine ⟨takenBack.placeOf "fanhub.json", takenBack.placeOf "other.json", [],
    urlEntries (takenBack.placeOf "fanhub.json") (.text "http://a/"),
    urlEntries (takenBack.placeOf "other.json") .nil, hfallback, ?_, ?_, ?_⟩
  · rw [ofFixedFile, hhere]
    exact ofFound_object (exact_urlFile .string) (plain_urlFile .string) _
  · rw [ofNamedFile, hnamed]
    exact ofFound_object (exact_urlFile .null) (plain_urlFile .null) _
  · rw [ofEnvironment, List.filterMap_cons, ofVariable_urlVariable, List.filterMap_nil]

theorem ofEntries_takenBack (here there : String) :
    Supplied.ofEntries ((layered [[], urlEntries here (.text "http://a/"), urlEntries there .nil,
      []]).entries?.getD []) = .ok {} := by
  rfl

theorem leafByLeaf_urlEntries (place : String) (url : Scalar) :
    LeafByLeaf (urlEntries place url) := by
  apply leafByLeaf_of_keepsTables
  have hkey : KeyPath.ofKey "cache" = [.name "cache"] := KeyPath.ofKey_home .url
  simp only [urlEntries, List.all_cons, keepsTables, hkey]
  rfl

theorem stated_urlEntries (place : String) (url : Scalar) :
    stated (urlEntries place url) .url = some (.leaf (some place) url) := by
  rfl

theorem load_takenBack {d : Directory} {here there : String}
    (h : Ranked [(urlVariable, "http://b/")] d (some "other.json")
      [[], urlEntries there .nil, urlEntries here (.text "http://a/"), []]) :
    load [(urlVariable, "http://b/")] d { configFile := some "other.json" } =
      .ok { cache := { url := some "http://b/" } } := by
  have hfilled : (({} : Supplied).fillIn [(urlVariable, "http://b/")]).override {} =
      { url := some "http://b/" } := by
    decide +kernel
  have hblank : nonBlank "http://b/" = some "http://b/" := by decide +kernel
  rw [load, supplied, layers_eq_ok_iff.mpr h]
  simp only [List.reverse_cons, List.reverse_nil, List.nil_append, List.cons_append,
    ofEntries_takenBack, hfilled, ofSupplied, loggingOf, cacheOf, Option.bind_some, hblank]
  rfl

theorem leafByLeaf_takenBack {here there : String} :
    ∀ source ∈ [[], urlEntries there .nil, urlEntries here (.text "http://a/"), []],
      LeafByLeaf source := by
  have hempty : LeafByLeaf [] := leafByLeaf_of_keepsTables rfl
  simp only [List.forall_mem_cons, hempty, leafByLeaf_urlEntries, true_and]
  exact nofun

/-- Where the named file takes the URL back, the URL is filled in. -/
theorem load_decides_takenBack :
    ∃ sources v, Ranked [(urlVariable, "http://b/")] takenBack (some "other.json") sources ∧
      decided sources [(urlVariable, "http://b/")] {} .url = .ok v ∧
      v.bind nonBlank = some "http://b/" := by
  obtain ⟨here, there, hranked⟩ := ranked_takenBack
  have hleaf (sources : List Source)
      (h : Ranked [(urlVariable, "http://b/")] takenBack (some "other.json") sources) :
      ∀ source ∈ sources, LeafByLeaf source := by
    rw [h.unique hranked]
    exact leafByLeaf_takenBack
  obtain ⟨sources, hsources, hdecided, -⟩ := load_decides (load_takenBack hranked) hleaf
  obtain ⟨v, hv, hshow⟩ := hdecided .url
  exact ⟨sources, v, hsources, hv, hshow.symm⟩

/-- The value that a source has for a setting, if it has one at all. -/
def value? (source : Source) (f : Field) : Option f.Value :=
  match optional f.key f.sense (stated source f) with
  | .ok v => v
  | .error _ => none

/-- Where the named file takes the URL back, the URL of the file below it does not count. -/
theorem load_hides_value :
    ¬∀ (env : Environment) (d : Directory) (arguments : CommandLine.Arguments)
      (settings : Settings) (sources : List Source),
      load env d arguments = .ok settings → Ranked env d arguments.configFile sources →
      (∀ source ∈ sources, LeafByLeaf source) →
      settings.cache.url = ((flag? arguments.overrides .url).or
        ((sources.findSome? (value? · .url)).or (filler? env .url))).bind nonBlank := by
  intro h
  obtain ⟨here, there, hranked⟩ := ranked_takenBack
  have hurl := h _ _ _ _ _ (load_takenBack hranked) hranked leafByLeaf_takenBack
  have htop : value? [] .url = none := rfl
  have hthere : value? (urlEntries there .nil) .url = none := by
    rw [value?, stated_urlEntries]
    rfl
  have hhere : value? (urlEntries here (.text "http://a/")) .url = some "http://a/" := by
    rw [value?, stated_urlEntries]
    rfl
  have hblank : nonBlank "http://a/" = some "http://a/" := by decide +kernel
  simp only [List.findSome?_cons, htop, hthere, hhere, flag?, Option.none_or, Option.some_or,
    Option.bind_some, hblank] at hurl
  exact absurd hurl (by decide)

end Settings

end Stagehand
