import Stagehand.Log.Filter
import Stagehand.Proofs.CommandLine.Quiet
import Stagehand.Proofs.Settings.Endpoint

/-!
# Settings for logging
Sources that differ only in settings for logging lead to the same settings for the cache, as far as
the settings for logging are right. Such a setting may stand in any source, under any key.
-/

namespace Stagehand

/-- A failure to load that is put down to a setting for logging, or to the section of these. -/
inductive LoadError.BlamesLogging : LoadError → Prop
  | misfit {f : Settings.Field} (hf : f.home = .logging) {key : String}
    (hkey : key = f.key ∨ key = f.listKey) (wanted : Settings.Wanted) (found : Settings.Tree) :
    BlamesLogging (.misfit (.setting key wanted found))
  | part (found : Settings.Tree) : BlamesLogging (.misfit (.part .logging found))
  | invalid {i : Settings.Invalid} (h : i.field.home = .logging) : BlamesLogging (.invalid i)

namespace Settings

/-! ### Apart from logging -/

/-- Whether a key names the section for logging, or something in it. -/
def isLoggingKey (key : String) : Bool :=
  (KeyPath.ofKey key).head? = some (.name Section.logging.name)

/-- Whether a variable is for logging: the one with the directives, or one that holds a setting. -/
def isLoggingVariable (v : String × String) : Bool :=
  v.1 = LogFilter.variableName || (ofVariable v).any fun setting => isLoggingKey setting.1

/-- What a source supplies for anything but logging. -/
def quietSource (source : Source) : Source := source.filter fun setting => !isLoggingKey setting.1

/-- The variables for anything but logging. -/
def quietEnvironment (env : Environment) : Environment := env.filter fun v => !isLoggingVariable v

/-- What is supplied for anything but logging. -/
def Supplied.quiet (s : Supplied) : Supplied :=
  { s with
    level := none
    json := none }

/-- What a file supplies for anything but logging, if the file can be read. -/
def quietFile (file : Except LoadError Source) : Option Source := file.toOption.map quietSource

/-- Directories whose files supply the same for anything but logging, as far as these files are
looked for. -/
structure SameFiles (d d' : Directory) (configFile : Option String) : Prop where
  fixed : ∀ name ∈ fixedFiles, quietFile (ofFixedFile d name) = quietFile (ofFixedFile d' name)
  named : quietFile (ofNamedFile d configFile) = quietFile (ofNamedFile d' configFile)

/-! ### Variables -/

section Variables

variable {env env' : Environment} {name : String}

theorem ofVariable_tokenVariable (v : String) : ofVariable (tokenVariable, v) = none :=
  ofVariable_of_nameLetters ['U'] rfl (by decide) (fun _ => rfl) v

theorem ofVariable_variableName (v : String) : ofVariable (LogFilter.variableName, v) = none :=
  ofVariable_of_nameLetters ['R'] rfl (by decide) (fun _ => rfl) v

/-- One underscore is too few for a setting. -/
theorem ofVariable_configFileVariable (v : String) :
    ofVariable (CommandLine.configFileVariable, v) = none :=
  ofVariable_of_nameLetters "FANHUB_C".toList rfl (by decide) (fun _ => rfl) v

theorem isLoggingVariable_eq_false (hname : name ≠ LogFilter.variableName)
    (h : ∀ v, ofVariable (name, v) = none) (v : String) : isLoggingVariable (name, v) = false := by
  rw [isLoggingVariable, h v, decide_eq_false hname]
  rfl

theorem lookup_quietEnvironment (h : ∀ v, isLoggingVariable (name, v) = false) :
    (quietEnvironment env).lookup name = env.lookup name := by
  induction env with
  | nil => rfl
  | cons v env ih =>
    obtain ⟨n, v⟩ := v
    rw [quietEnvironment] at ih ⊢
    by_cases hn : name = n
    · subst hn
      rw [List.filter_cons_of_pos (by rw [h v]; rfl), List.lookup_cons_self, List.lookup_cons_self]
    · have hne : (name == n) = false := beq_eq_false_iff_ne.mpr hn
      rw [List.lookup_cons, hne, ← ih, List.filter_cons]
      split
      · rw [List.lookup_cons, hne]
      · rfl

/-- A variable that is not for logging has the same value. -/
theorem lookup_eq_of_quiet (henv : quietEnvironment env = quietEnvironment env')
    (hname : name ≠ LogFilter.variableName) (h : ∀ v, ofVariable (name, v) = none) :
    env.lookup name = env'.lookup name := by
  have hlogging := isLoggingVariable_eq_false hname h
  rw [← lookup_quietEnvironment hlogging, henv, lookup_quietEnvironment hlogging]

/-- The variables that hold settings hold the same for anything but logging. -/
theorem quietSource_ofEnvironment (env : Environment) :
    quietSource (ofEnvironment env) = ofEnvironment (quietEnvironment env) := by
  rw [quietSource, ofEnvironment, ofEnvironment, quietEnvironment, List.filter_filterMap,
    List.filterMap_filter]
  refine congrArg (List.filterMap · env) (funext fun v => ?_)
  obtain ⟨name, v⟩ := v
  by_cases hname : name = LogFilter.variableName
  · subst hname
    rw [ofVariable_variableName]
    simp
  · rw [isLoggingVariable, decide_eq_false hname, Bool.false_or]
    cases ofVariable (name, v) with
    | none => simp
    | some setting => cases h : isLoggingKey setting.1 <;> simp [h, Option.filter]

end Variables

/-! ### Sources -/

section Sources

variable {name : String} {t t' : Tree}

theorem Tree.child?_supply_congr (h : t.child? name = t'.child? name) (source : Source) :
    (supply source t).child? name = (supply source t').child? name := by
  cases sets_supply source name with
  | keeps hkeeps => exact (hkeeps t).trans (h.trans (hkeeps t').symm)
  | puts g _ hputs =>
    have hchild : (supply source t).child? name = some (g ((t.child? name).getD .nil)) := hputs t
    rw [hchild, h]
    exact (hputs t').symm

theorem Tree.child?_modifyAt_of_isLoggingKey {key : String} (hkey : isLoggingKey key = true)
    (hname : name ≠ Section.logging.name) (f : Tree → Tree) (t : Tree) :
    (t.modifyAt f (KeyPath.ofKey key)).child? name = t.child? name := by
  obtain ⟨n, path, hpath⟩ := KeyPath.ofKey_eq_name key
  rw [isLoggingKey, hpath, List.head?_cons, decide_eq_true_eq, Option.some.injEq,
    Step.name.injEq] at hkey
  subst hkey
  rw [hpath]
  exact child?_modifyEntry_of_ne hname t _

/-- The keys for logging are nothing to the other sections. -/
theorem Tree.child?_supply_quietSource (hname : name ≠ Section.logging.name) (source : Source)
    (t : Tree) : (supply source t).child? name = (supply (quietSource source) t).child? name := by
  induction source generalizing t with
  | nil => rfl
  | cons setting source ih =>
    obtain ⟨key, v⟩ := setting
    rw [quietSource] at ih ⊢
    cases hkey : isLoggingKey key with
    | true =>
      -- the trees below differ from here on, but not in this entry
      rw [List.filter_cons_of_neg (by simp [hkey]), ← ih]
      exact child?_supply_congr (child?_modifyAt_of_isLoggingKey hkey hname _ _) source
    | false =>
      rw [List.filter_cons_of_pos (by simp [hkey])]
      exact ih _

theorem child?_foldl_quietSource (hname : name ≠ Section.logging.name) (sources : List Source)
    (h : t.child? name = t'.child? name) :
    (sources.foldl (fun below source => Tree.supply source below) t).child? name =
      ((sources.map quietSource).foldl (fun below source => Tree.supply source below) t').child?
        name := by
  induction sources generalizing t t' with
  | nil => exact h
  | cons source sources ih =>
    exact ih ((Tree.child?_supply_congr h source).trans
      (Tree.child?_supply_quietSource hname source t'))

/-- Sources that differ only in logging supply the same for every other section. -/
theorem child?_layered {sources sources' : List Source}
    (h : sources.map quietSource = sources'.map quietSource) (hname : name ≠ Section.logging.name) :
    (layered sources).child? name = (layered sources').child? name := by
  rw [layered, layered, child?_foldl_quietSource hname sources rfl, h,
    ← child?_foldl_quietSource hname sources' rfl]

end Sources

/-! ### What is supplied -/

section Supplied

/-- A setting for logging that cannot be read is blamed, or its section is. -/
theorem blamesLogging_of_readField {α : Type} {f : Field} {sense : Sense α} {x : Option Tree}
    {m : Misfit} (hf : f.home = .logging) (h : readField f sense x = .error m) :
    (LoadError.misfit m).BlamesLogging := by
  unfold readField at h
  split at h
  · cases h
  · obtain ⟨t, wanted, found, -, -, rfl⟩ := optional_eq_error h
    exact .misfit hf (.inl rfl) wanted found
  · obtain ⟨t, wanted, found, -, -, rfl⟩ := optional_eq_error h
    exact .misfit hf (.inr rfl) wanted found
  · cases h
    rw [hf]
    exact .part _

theorem Field.home_eq_cache {f : Field} (hf : f.home ≠ .logging) : f.home = .cache := by
  cases h : f.home with
  | logging => exact absurd h hf
  | cache => rfl

/-- Where the section for the cache is the same, whatever keeps one side from being read keeps the
other side from it, or is a setting for logging. -/
theorem error_of_ofEntries {root root' : Members Tree} {m : Misfit}
    (h : root.get? Section.cache.name = root'.get? Section.cache.name)
    (hm : Supplied.ofEntries root = .error m) :
    (LoadError.misfit m).BlamesLogging ∨ ∀ s, Supplied.ofEntries root' ≠ .ok s := by
  obtain ⟨f, hf⟩ := Supplied.exists_of_ofEntries hm
  by_cases hhome : f.home = .logging
  · exact .inl (blamesLogging_of_readField hhome hf)
  · refine .inr fun s hs => ?_
    have hread := Supplied.readField_get hs f
    rw [Field.home_eq_cache hhome] at hf hread
    rw [h, hread] at hf
    cases hf

theorem ofEntries_agrees {root root' : Members Tree}
    (h : root.get? Section.cache.name = root'.get? Section.cache.name) :
    Paired LoadError.BlamesLogging (fun _ _ => True) (fun s s' => s.quiet = s'.quiet)
      ((Supplied.ofEntries root).mapError .misfit)
      ((Supplied.ofEntries root').mapError .misfit) := by
  cases hs : Supplied.ofEntries root with
  | error m =>
    rcases error_of_ofEntries h hs with hblames | hnone
    · exact .left hblames _
    · cases hs' : Supplied.ofEntries root' with
      | error m' => exact .error trivial
      | ok s' => exact absurd hs' (hnone s')
  | ok s =>
    cases hs' : Supplied.ofEntries root' with
    | error m' =>
      rcases error_of_ofEntries h.symm hs' with hblames | hnone
      · exact .right hblames _
      · exact absurd hs (hnone s)
    | ok s' =>
      refine .ok ?_
      have hget (f : Field) (hf : f.home = .cache) : s.get f = s'.get f := by
        have hread := Supplied.readField_get hs f
        rw [hf, h, ← hf, Supplied.readField_get hs' f] at hread
        exact (Except.ok.inj hread).symm
      have hurl : s.url = s'.url := hget .url rfl
      have htoken : s.token = s'.token := hget .token rfl
      have htimeout : s.timeoutMs = s'.timeoutMs := hget .timeout rfl
      rw [Supplied.quiet, Supplied.quiet, hurl, htoken, htimeout]

theorem ofSupplied_agrees {s s' : Supplied} (h : s.quiet = s'.quiet) :
    Paired LoadError.BlamesLogging (fun _ _ => True)
      (fun settings settings' => settings.cache = settings'.cache)
      ((ofSupplied s).mapError .invalid) ((ofSupplied s').mapError .invalid) := by
  have hlogging {s : Supplied} {i : Invalid} (hi : loggingOf s = .error i) :
      (LoadError.invalid i).BlamesLogging := by
    rw [loggingOf] at hi
    split at hi
    · cases hi
    · split at hi <;> cases hi
      exact .invalid rfl
  have hcache : cacheOf s = cacheOf s' := by
    have hquiet (s : Supplied) : cacheOf s = cacheOf s.quiet := rfl
    rw [hquiet s, h, ← hquiet]
  rw [ofSupplied, ofSupplied, hcache]
  cases hl : loggingOf s with
  | error i => exact .left (hlogging hl) _
  | ok logging =>
    cases hl' : loggingOf s' with
    | error i => exact .right (hlogging hl') _
    | ok logging' =>
      cases cacheOf s' with
      | error i => exact .error trivial
      | ok cache => exact .ok rfl

end Supplied

/-! ### Loading -/

section Load

variable {env env' : Environment} {d d' : Directory}

theorem layers_quiet (env : Environment) (d : Directory) (configFile : Option String) :
    (layers env d configFile).toOption.map (List.map quietSource) =
      (quietFile (ofFixedFile d "config/default")).bind fun fallback =>
        (quietFile (ofFixedFile d "fanhub")).bind fun here =>
          (quietFile (ofNamedFile d configFile)).map fun named =>
            [fallback, here, named, ofEnvironment (quietEnvironment env)] := by
  rw [layers, fixedFiles, List.mapM_cons, List.mapM_cons, List.mapM_nil, quietFile, quietFile,
    quietFile, ← quietSource_ofEnvironment]
  cases ofFixedFile d "config/default" with
  | error e => rfl
  | ok fallback =>
    cases ofFixedFile d "fanhub" with
    | error e => rfl
    | ok here => cases ofNamedFile d configFile <;> rfl

theorem layers_agrees {configFile : Option String}
    (henv : quietEnvironment env = quietEnvironment env') (hfiles : SameFiles d d' configFile) :
    Paired LoadError.BlamesLogging (fun _ _ => True)
      (fun sources sources' => sources.map quietSource = sources'.map quietSource)
      (layers env d configFile) (layers env' d' configFile) := by
  have hquiet : (layers env d configFile).toOption.map (List.map quietSource) =
      (layers env' d' configFile).toOption.map (List.map quietSource) := by
    rw [layers_quiet, layers_quiet, hfiles.fixed _ (by decide), hfiles.fixed _ (by decide),
      hfiles.named, henv]
  cases hlayers : layers env d configFile with
  | error e =>
    cases hlayers' : layers env' d' configFile with
    | error e' => exact .error trivial
    | ok sources' =>
      rw [hlayers, hlayers'] at hquiet
      cases hquiet
  | ok sources =>
    cases hlayers' : layers env' d' configFile with
    | error e' =>
      rw [hlayers, hlayers'] at hquiet
      cases hquiet
    | ok sources' =>
      rw [hlayers, hlayers'] at hquiet
      exact .ok (Option.some.inj hquiet)

theorem Supplied.quiet_override_fillIn {s s' : Supplied} {o o' : CommandLine.Overrides}
    (henv : quietEnvironment env = quietEnvironment env') (hs : s.quiet = s'.quiet)
    (ho : o.quiet = o'.quiet) :
    ((s.fillIn env).override o).quiet = ((s'.fillIn env').override o').quiet := by
  have hquiet (s : Supplied) (env : Environment) (o : CommandLine.Overrides) :
      ((s.fillIn env).override o).quiet = (s.quiet.fillIn env).override o.quiet :=
    rfl
  have hurl : env.lookup urlVariable = env'.lookup urlVariable :=
    lookup_eq_of_quiet henv (by decide) ofVariable_urlVariable
  have htoken : env.lookup tokenVariable = env'.lookup tokenVariable :=
    lookup_eq_of_quiet henv (by decide) ofVariable_tokenVariable
  rw [hquiet, hquiet, hs, ho, fillIn, fillIn, hurl, htoken]

theorem supplied_agrees {x y : CommandLine.Arguments}
    (henv : quietEnvironment env = quietEnvironment env') (hfiles : SameFiles d d' x.configFile)
    (h : CommandLine.SameArguments x y) :
    Paired LoadError.BlamesLogging (fun _ _ => True) (fun s s' => s.quiet = s'.quiet)
      (supplied env d x) (supplied env' d' y) := by
  have hsupplied (env : Environment) (d : Directory) (arguments : CommandLine.Arguments) :
      supplied env d arguments = (layers env d arguments.configFile).bind fun sources =>
        ((Supplied.ofEntries ((layered sources).entries?.getD [])).mapError .misfit).bind fun s =>
          .ok ((s.fillIn env).override arguments.overrides) := by
    rw [supplied]
    cases layers env d arguments.configFile with
    | error e => rfl
    | ok sources =>
      dsimp only [Except.bind]
      cases Supplied.ofEntries ((layered sources).entries?.getD []) <;> rfl
  rw [hsupplied, hsupplied, ← h.configFile]
  refine (layers_agrees henv hfiles).bind fun {sources sources'} hsources => ?_
  have hcache : Members.get? Section.cache.name ((layered sources).entries?.getD []) =
      Members.get? Section.cache.name ((layered sources').entries?.getD []) := by
    rw [get?_entries?, get?_entries?, child?_layered hsources (by decide)]
  refine (ofEntries_agrees hcache).bind fun hs => .ok ?_
  exact Supplied.quiet_override_fillIn henv hs h.overrides

/-- Where only settings for logging differ, and these are right, settings are loaded with the same
cache or cannot be loaded at all. -/
theorem load_agrees {x y : CommandLine.Arguments}
    (henv : quietEnvironment env = quietEnvironment env') (hfiles : SameFiles d d' x.configFile)
    (h : CommandLine.SameArguments x y) :
    Paired LoadError.BlamesLogging (fun _ _ => True)
      (fun settings settings' => settings.cache = settings'.cache) (load env d x)
      (load env' d' y) := by
  have hload (env : Environment) (d : Directory) (arguments : CommandLine.Arguments) :
      load env d arguments = (supplied env d arguments).bind fun s =>
        (ofSupplied s).mapError .invalid := by
    rw [load]
    cases supplied env d arguments with
    | error e => rfl
    | ok s =>
      dsimp only [Except.bind]
      cases ofSupplied s <;> rfl
  rw [hload, hload]
  exact (supplied_agrees henv hfiles h).bind ofSupplied_agrees

end Load

end Settings

end Stagehand
