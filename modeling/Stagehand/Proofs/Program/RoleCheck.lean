import Stagehand.Proofs.CommandLine.Roles
import Stagehand.Proofs.Program.Ping
import Stagehand.Proofs.Session

/-!
# Checking a role from the command line
A run that is asked to check a role decides by what it was asked alone: the tenant comes first, then
the list of roles, then the rank. The cache plays no part in it, whatever the settings say of it.
-/

namespace Stagehand

namespace CommandLine.RoleCheck

/-- What was asked for is permitted, in the name of a tenant. -/
structure Admits (c : RoleCheck) (tenant : String) : Prop where
  given : c.tenant = some tenant
  nonempty : tenant ≠ ""
  listed : c.allowed = [] ∨ c.role ∈ c.allowed
  ranked : ∀ m, c.minimum = some m → m.rank ≤ c.role.rank

/-- There is no tenant, or one without a name. -/
def LacksTenant (c : RoleCheck) : Prop := c.tenant = none ∨ c.tenant = some ""

end CommandLine.RoleCheck

namespace Program

open CommandLine (RoleCheck)

variable {c : RoleCheck} {tenant : String}

/-! ### The decision -/

theorem isPermitted_iff :
    isPermitted c = true ↔ ∀ m, c.minimum = some m → m.rank ≤ c.role.rank := by
  rw [isPermitted]
  cases c.minimum with
  | none => exact ⟨fun _ => nofun, fun _ => rfl⟩
  | some minimum =>
    rw [Option.all_some, Session.canAct, Role.atLeast, decide_eq_true_eq]
    constructor
    · rintro h m ⟨⟩
      exact h
    · intro h
      exact h minimum rfl

/-- A role passes an empty list, and any other list that it is in. -/
theorem listed_eq (c : RoleCheck) :
    (if c.allowed = [] then .ok () else (sessionOf c).assertRole c.allowed) =
      if c.allowed = [] ∨ c.role ∈ c.allowed then Except.ok ()
      else .error (AccessError.forbidden c.role) := by
  by_cases hempty : c.allowed = []
  · rw [if_pos hempty, if_pos (.inl hempty)]
  · rw [if_neg hempty, Session.assertRole]
    simp only [hempty, false_or]
    rfl

/-- The tenant decides first, and the list next. What passes both is reported, with the decision
about the rank. -/
theorem checkRole_eq (c : RoleCheck) (w : World) :
    checkRole c w =
      match (sessionOf c).requireTenant with
      | .error e => (.error (.access e), w)
      | .ok tenant =>
        if c.allowed = [] ∨ c.role ∈ c.allowed then
          let w := w.report (roleEvent c tenant (isPermitted c))
          if isPermitted c then (.ok (roleLine tenant c.role), w)
          else (.error (.access (.forbidden c.role)), w)
        else (.error (.access (.forbidden c.role)), w) := by
  simp only [checkRole, listed_eq]
  cases (sessionOf c).requireTenant with
  | error e => rfl
  | ok tenant =>
    by_cases hlisted : c.allowed = [] ∨ c.role ∈ c.allowed
    · simp only [if_pos hlisted]
    · simp only [if_neg hlisted]

theorem checkRole_of_lacksTenant (h : c.LacksTenant) (w : World) :
    checkRole c w = (.error (.access .tenantRequired), w) := by
  have htenant : (sessionOf c).requireTenant = .error .tenantRequired :=
    Session.requireTenant_of_lacks h
  simp only [checkRole_eq, htenant]

theorem checkRole_of_tenant (hgiven : c.tenant = some tenant) (hnonempty : tenant ≠ "")
    (w : World) :
    checkRole c w =
      if c.allowed = [] ∨ c.role ∈ c.allowed then
        let w := w.report (roleEvent c tenant (isPermitted c))
        if isPermitted c then (.ok (roleLine tenant c.role), w)
        else (.error (.access (.forbidden c.role)), w)
      else (.error (.access (.forbidden c.role)), w) := by
  have htenant : (sessionOf c).requireTenant = .ok tenant :=
    Session.requireTenant_eq_ok_iff.mpr ⟨hgiven, hnonempty⟩
  simp only [checkRole_eq, htenant]

theorem checkRole_of_admits (h : c.Admits tenant) (w : World) :
    checkRole c w = (.ok (roleLine tenant c.role), w.report (roleEvent c tenant true)) := by
  have hpermitted : isPermitted c = true := isPermitted_iff.mpr h.ranked
  rw [checkRole_of_tenant h.given h.nonempty, if_pos h.listed, hpermitted]
  rfl

theorem checkRole_of_not_admits (hgiven : c.tenant = some tenant) (hnonempty : tenant ≠ "")
    (h : ¬c.Admits tenant) (w : World) :
    ∃ events, (events = [] ∨ events = [roleEvent c tenant false]) ∧
      checkRole c w = (.error (.access (.forbidden c.role)), events.foldl World.report w) := by
  rw [checkRole_of_tenant hgiven hnonempty]
  by_cases hlisted : c.allowed = [] ∨ c.role ∈ c.allowed
  · have hpermitted : isPermitted c = false := by
      rw [Bool.eq_false_iff]
      intro hpermitted
      exact h ⟨hgiven, hnonempty, hlisted, isPermitted_iff.mp hpermitted⟩
    rw [if_pos hlisted, hpermitted]
    exact ⟨_, .inr rfl, rfl⟩
  · rw [if_neg hlisted]
    exact ⟨_, .inl rfl, rfl⟩

/-- What was asked for is decided by the set of the listed roles. -/
theorem checkRole_congr {roles : List Role} (h : ∀ r, r ∈ roles ↔ r ∈ c.allowed) (w : World) :
    checkRole { c with allowed := roles } w = checkRole c w := by
  have hlisted : (roles = [] ∨ c.role ∈ roles) ↔ (c.allowed = [] ∨ c.role ∈ c.allowed) := by
    rw [List.eq_nil_iff_forall_not_mem, List.eq_nil_iff_forall_not_mem]
    simp only [h]
  simp only [checkRole_eq, hlisted]
  rfl

/-! ### Runs -/

/-- The lines that a run writes about events. -/
def written (settings : Settings) (around : Surroundings) (events : List Event) : List String :=
  let directives := (around.environment.lookup LogFilter.variableName).getD ""
  LogFilter.complaints directives ++
    logLines (LogFilter.ofText directives settings.logging.level) settings.logging.format
      around.lineTime events

section Perform

variable {action : Option CommandLine.Action} {settings : Settings} {around : Surroundings}
  {w : World}

theorem perform_eq_of_ok {output : String}
    (h : act action settings (worldOf around) = (.ok output, w)) :
    perform action settings around =
      ⟨0, output, written settings around w.journal.events, w.contacts⟩ := by
  simp only [perform, h]
  rfl

theorem perform_eq_of_error {f : Failure}
    (h : act action settings (worldOf around) = (.error f, w)) :
    perform action settings around =
      ⟨1, "", written settings around (w.journal.events ++ [failureEvent f]), w.contacts⟩ := by
  simp only [perform, h]
  rfl

theorem perform_of_admits (h : c.Admits tenant) :
    perform (some (.checkRole c)) settings around =
      ⟨0, roleLine tenant c.role, written settings around [roleEvent c tenant true], []⟩ := by
  have hact : act (some (.checkRole c)) settings (worldOf around) = _ := checkRole_of_admits h _
  exact perform_eq_of_ok hact

theorem perform_of_lacksTenant (h : c.LacksTenant) :
    perform (some (.checkRole c)) settings around =
      ⟨1, "", written settings around [failureEvent (.access .tenantRequired)], []⟩ := by
  have hact : act (some (.checkRole c)) settings (worldOf around) = _ :=
    checkRole_of_lacksTenant h _
  exact perform_eq_of_error hact

theorem perform_of_not_admits (hgiven : c.tenant = some tenant) (hnonempty : tenant ≠ "")
    (h : ¬c.Admits tenant) :
    ∃ events, (events = [] ∨ events = [roleEvent c tenant false]) ∧
      perform (some (.checkRole c)) settings around =
        ⟨1, "", written settings around (events ++ [failureEvent (.access (.forbidden c.role))]),
          []⟩ := by
  obtain ⟨events, hevents, hcheck⟩ := checkRole_of_not_admits hgiven hnonempty h (worldOf around)
  have hact : act (some (.checkRole c)) settings (worldOf around) = _ := hcheck
  refine ⟨events, hevents, (perform_eq_of_error hact).trans ?_⟩
  rcases hevents with rfl | rfl <;> rfl

theorem exitCode_perform_eq_zero_iff :
    (perform (some (.checkRole c)) settings around).exitCode = 0 ↔ ∃ tenant, c.Admits tenant := by
  constructor
  · intro hexit
    by_contra hnone
    by_cases hlacks : c.LacksTenant
    · rw [perform_of_lacksTenant hlacks] at hexit
      cases hexit
    · rw [RoleCheck.LacksTenant, not_or] at hlacks
      obtain ⟨tenant, hgiven⟩ := Option.ne_none_iff_exists'.mp hlacks.1
      have hnonempty : tenant ≠ "" := by
        rintro rfl
        exact hlacks.2 hgiven
      have hdenied : ¬c.Admits tenant := fun h => hnone ⟨tenant, h⟩
      obtain ⟨events, -, hperform⟩ := perform_of_not_admits hgiven hnonempty hdenied
      rw [hperform] at hexit
      cases hexit
  · rintro ⟨tenant, h⟩
    rw [perform_of_admits h]

/-- What is listed matters as a set. -/
theorem perform_congr_allowed {roles : List Role} (h : ∀ r, r ∈ roles ↔ r ∈ c.allowed) :
    perform (some (.checkRole { c with allowed := roles })) settings around =
      perform (some (.checkRole c)) settings around := by
  have hact : act (some (.checkRole { c with allowed := roles })) settings (worldOf around) =
      act (some (.checkRole c)) settings (worldOf around) :=
    checkRole_congr h _
  rw [perform, hact]
  rfl

end Perform

/-- What differs in a world after a check of a role: at most the events, and only in what the
program itself has to say. -/
structure Unasked (w w' : World) : Prop where
  network : w'.network = w.network
  contacts : w'.contacts = w.contacts
  shelf : w'.shelf = w.shelf
  metrics : w'.metrics = w.metrics
  records : w'.journal.records = w.journal.records
  emitted : w'.journal.emitted = w.journal.emitted
  reports : CacheProvider.reports w' = CacheProvider.reports w

theorem unasked_checkRole (c : RoleCheck) (w : World) : Unasked w (checkRole c w).2 := by
  have hreport (tenant : String) (permitted : Bool) :
      Unasked w (w.report (roleEvent c tenant permitted)) := by
    refine ⟨rfl, rfl, rfl, rfl, rfl, rfl, ?_⟩
    rw [CacheProvider.reports, World.report, Journal.report, List.filter_append]
    exact List.append_nil _
  have hself : Unasked w w := ⟨rfl, rfl, rfl, rfl, rfl, rfl, rfl⟩
  rw [checkRole_eq]
  split
  · exact hself
  · split
    · dsimp only
      split <;> exact hreport _ _
    · exact hself

section Run

variable {arguments : List String} {around : Surroundings} {a : CommandLine.Arguments}
  {settings : Settings}

theorem run_eq_perform (hparse : parse arguments around.environment = .ok a)
    (hload : Settings.load around.environment around.directory a = .ok settings) :
    run arguments around = perform a.action settings around := by
  simp only [run, hparse, hload]
  rfl

/-- A run that is asked to check a role, with settings that could be loaded. It succeeds where there
is a tenant, the role is in the list if there is one, and it ranks high enough, and prints these.
Otherwise it prints nothing: without a tenant that is the failure, and else it is the role. No cache
is asked or even made, and nobody is warned. The list matters as a set, in whatever way it is
written. -/
theorem run_checkRole (hparse : parse arguments around.environment = .ok a)
    (haction : a.action = some (.checkRole c))
    (hload : Settings.load around.environment around.directory a = .ok settings) :
    let outcome := run arguments around
    (outcome.exitCode = 0 ↔ ∃ tenant, c.Admits tenant) ∧
    (∀ tenant, c.Admits tenant →
      outcome = ⟨0, "ok " ++ tenant ++ " " ++ c.role.slug ++ " (" ++ c.role.displayName ++ ")\n",
        written settings around [roleEvent c tenant true], []⟩) ∧
    (c.LacksTenant →
      outcome = ⟨1, "", written settings around [failureEvent (.access .tenantRequired)], []⟩) ∧
    (∀ tenant, c.tenant = some tenant → tenant ≠ "" → ¬c.Admits tenant →
      ∃ events, (events = [] ∨ events = [roleEvent c tenant false]) ∧
        outcome = ⟨1, "",
          written settings around (events ++ [failureEvent (.access (.forbidden c.role))]), []⟩) ∧
    Unasked (worldOf around) (act a.action settings (worldOf around)).2 ∧
    (∀ arguments' roles, (∀ r, r ∈ roles ↔ r ∈ c.allowed) →
      parse arguments' around.environment =
        .ok { a with action := some (.checkRole { c with allowed := roles }) } →
      run arguments' around = outcome) ∧
    ∃ flags before after tail items, CommandLine.Spells .program flags before ∧
      CommandLine.Spells .checkRole after items ∧ CommandLine.Ends tail ∧
      arguments = flags ++ "check-role" :: (after ++ tail) ∧
      c.allowed.map Role.slug = CommandLine.listed items ∧
      ∀ after' tail' items', CommandLine.Spells .checkRole after' items' →
        CommandLine.Ends tail' → CommandLine.others items' = CommandLine.others items →
        (∀ slug, slug ∈ CommandLine.listed items' ↔ slug ∈ CommandLine.listed items) →
        run (flags ++ "check-role" :: (after' ++ tail')) around = outcome := by
  intro outcome
  have hrun : outcome = perform (some (.checkRole c)) settings around := by
    rw [← haction]
    exact run_eq_perform hparse hload
  have hset (arguments' : List String) (roles : List Role) (h : ∀ r, r ∈ roles ↔ r ∈ c.allowed)
      (hparse' : parse arguments' around.environment =
        .ok { a with action := some (.checkRole { c with allowed := roles }) }) :
      run arguments' around = outcome := by
    rw [hrun, ← perform_congr_allowed h]
    exact run_eq_perform hparse' hload
  refine ⟨?_, ?_, ?_, ?_, ?_, hset, ?_⟩
  · rw [hrun]
    exact exitCode_perform_eq_zero_iff
  · intro tenant h
    exact hrun.trans (perform_of_admits h)
  · intro h
    exact hrun.trans (perform_of_lacksTenant h)
  · intro tenant hgiven hnonempty h
    rw [hrun]
    exact perform_of_not_admits hgiven hnonempty h
  · rw [haction]
    exact unasked_checkRole c _
  · obtain ⟨flags, before, after, tail, items, hflags, hafter, htail, harguments, hallowed,
      hrelisted⟩ := CommandLine.parse_relisted hparse haction
    refine ⟨flags, before, after, tail, items, hflags, hafter, htail, harguments, hallowed, ?_⟩
    intro after' tail' items' hafter' htail' hothers hlisted
    obtain ⟨roles, hroles, hparse'⟩ := hrelisted after' tail' items' hafter' htail' hothers hlisted
    exact hset _ roles hroles hparse'

/-- Roles may be written with commas or as flags of their own, and a tenant comes first. -/
theorem run_checkRole_listed :
    let one := run ["check-role", "--role", "creator", "--tenant", "t1", "--allowed=fan,creator",
      "--cache-url", "http://["] answering
    let other := run ["check-role", "--role", "creator", "--allowed", "creator", "--tenant", "t1",
      "--cache-url", "http://[", "--allowed", "fan", "--allowed=creator,creator"] answering
    let neither := run ["check-role", "--role", "fan", "--minimum", "creator"] answering
    one.output = "ok t1 creator (Creator)\n" ∧ one.exitCode = 0 ∧ other = one ∧
      neither.output = "" ∧ neither.exitCode = 1 := by
  intro one other neither
  have hparse : parse ["check-role", "--role", "creator", "--tenant", "t1", "--allowed=fan,creator",
      "--cache-url", "http://["] answering.environment =
        .ok ⟨none, { cacheUrl := some "http://[" }, some (.checkRole
          ⟨.creator, some "t1", none, none, [.fan, .creator]⟩)⟩ :=
    rfl
  have hload : Settings.load answering.environment answering.directory
      ⟨none, { cacheUrl := some "http://[" }, some (.checkRole
        ⟨.creator, some "t1", none, none, [.fan, .creator]⟩)⟩ =
          .ok { cache := { url := some "http://[" } } :=
    rfl
  have hparse' : parse ["check-role", "--role", "creator", "--allowed", "creator", "--tenant", "t1",
      "--cache-url", "http://[", "--allowed", "fan", "--allowed=creator,creator"]
        answering.environment =
        .ok ⟨none, { cacheUrl := some "http://[" }, some (.checkRole
          ⟨.creator, some "t1", none, none, [.creator, .fan, .creator, .creator]⟩)⟩ :=
    rfl
  have hparseNeither : parse ["check-role", "--role", "fan", "--minimum", "creator"]
      answering.environment =
        .ok ⟨none, {}, some (.checkRole ⟨.fan, none, none, some .creator, []⟩)⟩ :=
    rfl
  have hloadNeither : Settings.load answering.environment answering.directory
      ⟨none, {}, some (.checkRole ⟨.fan, none, none, some .creator, []⟩)⟩ = .ok {} :=
    rfl
  have hadmits : RoleCheck.Admits ⟨.creator, some "t1", none, none, [.fan, .creator]⟩ "t1" :=
    ⟨rfl, by decide, .inr (by decide), nofun⟩
  obtain ⟨hexit, hok, -, -, -, hset, -⟩ := run_checkRole hparse rfl hload
  obtain ⟨-, -, hlacks, -⟩ := run_checkRole hparseNeither rfl hloadNeither
  have hother : other = one := by
    refine hset _ [.creator, .fan, .creator, .creator] ?_ hparse'
    intro r
    cases r <;> decide
  refine ⟨?_, hexit.mpr ⟨"t1", hadmits⟩, hother, ?_, ?_⟩
  · exact congrArg Outcome.output (hok "t1" hadmits)
  · exact congrArg Outcome.output (hlacks (.inl rfl))
  · exact congrArg Outcome.exitCode (hlacks (.inl rfl))

end Run

end Program

end Stagehand
