import Stagehand.Settings.Load

/-!
# Sources laid over each other
Whatever a source does to the place of a setting, it does without regard to what stands there: it
leaves it alone, puts a value there, or clears it together with its section. Where no source clears
anything, what stands at a place in the end is what the highest source says that says anything.
-/

namespace Stagehand.Settings

/-- What one source supplies: values under their keys. -/
abbrev Source := List (String × Tree)

/-! ### Changes -/

/-- A change whose outcome is of one shape, and one and the same where it is a single value. -/
inductive Firm (change : Tree → Tree) : Prop
  | leaf (o : Option String) (s : Scalar) (h : ∀ t, change t = .leaf o s)
  | list (h : ∀ t, ∃ o items, change t = .list o items)
  | table (h : ∀ t, ∃ o es, change t = .table o es)

/-- A change that leaves alone what is looked at, or puts something there that is firm. -/
inductive Sets (look : Tree → Option Tree) (change : Tree → Tree) : Prop
  | keeps (h : ∀ t, look (change t) = look t)
  | puts (g : Tree → Tree) (hg : Firm g) (h : ∀ t, look (change t) = some (g ((look t).getD .nil)))

/-- A change that may also clear what is looked at. -/
inductive Acts (look : Tree → Option Tree) (change : Tree → Tree) : Prop
  | sets (h : Sets look change)
  | clears (h : ∀ t, look (change t) = none)

section Changes

variable {look : Tree → Option Tree} {first second g : Tree → Tree}

theorem Firm.comp (h : Firm second) (first : Tree → Tree) : Firm fun t => second (first t) := by
  cases h with
  | leaf o s h => exact .leaf o s fun t => h (first t)
  | list h => exact .list fun t => h (first t)
  | table h => exact .table fun t => h (first t)

theorem Sets.comp (h : Sets look second) (hfirst : Sets look first) :
    Sets look fun t => second (first t) := by
  cases h with
  | keeps h =>
    cases hfirst with
    | keeps hfirst => exact .keeps fun t => (h _).trans (hfirst t)
    | puts g hg hfirst => exact .puts g hg fun t => (h _).trans (hfirst t)
  | puts g hg h =>
    cases hfirst with
    | keeps hfirst => exact .puts g hg fun t => by rw [h, hfirst]
    | puts g' _ hfirst =>
      exact .puts (fun t => g (g' t)) (hg.comp g') fun t => by rw [h, hfirst, Option.getD_some]

theorem Acts.comp (h : Acts look second) (hfirst : Acts look first) :
    Acts look fun t => second (first t) := by
  cases h with
  | clears h => exact .clears fun t => h _
  | sets h =>
    cases hfirst with
    | sets hfirst => exact .sets (h.comp hfirst)
    | clears hfirst =>
      cases h with
      | keeps h => exact .clears fun t => (h _).trans (hfirst t)
      | puts g hg h =>
        refine .sets (.puts (fun _ => g .nil) (hg.comp fun _ => .nil) fun t => ?_)
        rw [h, hfirst, Option.getD_none]

end Changes

/-! ### Changes of entries -/

namespace Tree

theorem child?_list (o : Option String) (items : List Tree) (name : String) :
    (list o items).child? name = none :=
  rfl

theorem child?_leaf (o : Option String) (s : Scalar) (name : String) :
    (leaf o s).child? name = none :=
  rfl

theorem firm_modifyEntry (name : String) (f : Tree → Tree) : Firm (modifyEntry name f) :=
  .table fun _ => ⟨_, _, rfl⟩

theorem firm_modifyItem (i : Int) (f : Tree → Tree) : Firm (modifyItem i f) :=
  .list fun _ => ⟨_, _, rfl⟩

theorem overlayEntries_table (es : List (String × Tree)) (o : Option String)
    (below : Members Tree) :
    ∃ o' below', overlayEntries es (table o below) = table o' below' := by
  induction es generalizing o below with
  | nil => exact ⟨o, below, by rw [overlayEntries]⟩
  | cons e es ih =>
    obtain ⟨n, t⟩ := e
    rw [overlayEntries]
    exact ih _ _

theorem firm_overlay (v : Tree) : Firm v.overlay := by
  cases v with
  | leaf o s => exact .leaf o s fun t => by rw [overlay]
  | list o items => exact .list fun t => ⟨o, items, by rw [overlay]⟩
  | table o es =>
    refine .table fun t => ?_
    rw [overlay]
    exact overlayEntries_table _ _ _

theorem firm_modifyAt (v : Tree) (path : KeyPath) : Firm (modifyAt v.overlay path) := by
  match path with
  | [] => exact firm_overlay v
  | .name n :: path => exact firm_modifyEntry n _
  | .index i :: path => exact firm_modifyItem i _

theorem sets_modifyEntry (name : String) {f : Tree → Tree} (hf : Firm f) (other : String) :
    Sets (child? · other) (modifyEntry name f) := by
  by_cases h : other = name
  · subst h
    exact .puts f hf fun t => child?_modifyEntry_self t other f
  · exact .keeps fun t => child?_modifyEntry_of_ne h t f

theorem sets_overlayEntries (es : List (String × Tree)) (name : String) :
    Sets (child? · name) (overlayEntries es) := by
  induction es with
  | nil => exact .keeps fun t => by rw [overlayEntries]
  | cons e es ih =>
    obtain ⟨n, v⟩ := e
    have h := ih.comp (sets_modifyEntry n (firm_overlay v) name)
    simp only [overlayEntries]
    exact h

theorem overlay_table (o : Option String) (es : List (String × Tree)) (t : Tree) :
    (table o es).overlay t = overlayEntries es (table t.asTable.1 t.asTable.2) := by
  rw [overlay]

theorem sets_overlay_table (o : Option String) (es : List (String × Tree)) (name : String) :
    Sets (child? · name) (overlay (table o es)) := by
  have hbelow : Sets (child? · name) fun t : Tree => .table t.asTable.1 t.asTable.2 :=
    .keeps fun t => rfl
  have h := (sets_overlayEntries es name).comp hbelow
  rw [funext (overlay_table o es)]
  exact h

theorem acts_modifyAt (v : Tree) (path : KeyPath) (name : String) :
    Acts (child? · name) (modifyAt v.overlay path) := by
  match path with
  | [] =>
    cases v with
    | leaf o s => exact .clears fun t => by rw [modifyAt, overlay, child?_leaf]
    | list o items => exact .clears fun t => by rw [modifyAt, overlay, child?_list]
    | table o es => exact .sets (sets_overlay_table o es name)
  | .name n :: path => exact .sets (sets_modifyEntry n (firm_modifyAt v path) name)
  | .index i :: path => exact .clears fun t => rfl

end Tree

/-! ### The places of settings -/

theorem KeyPath.ofKey_eq_name (key : String) : ∃ n path, ofKey key = .name n :: path := by
  rw [ofKey, ofText?]
  cases nameOf? key.toList with
  | none => exact ⟨key, [], rfl⟩
  | some found =>
    obtain ⟨name, rest⟩ := found
    dsimp only
    cases stepsOf? key.length rest with
    | none => exact ⟨key, [], rfl⟩
    | some path => exact ⟨name, path, rfl⟩

namespace Tree

/-- What stands at the place of a setting, in a section that is a table. -/
def at? (t : Tree) (f : Field) : Option Tree := (t.child? f.home.name).bind (·.child? f.name)

theorem at?_eq (t : Tree) (f : Field) :
    t.at? f = ((t.child? f.home.name).getD nil).child? f.name := by
  rw [at?]
  cases t.child? f.home.name with
  | none => rfl
  | some t => rfl

theorem at?_modifyEntry_home (t : Tree) (f : Field) (change : Tree → Tree) :
    (t.modifyEntry f.home.name change).at? f =
      (change ((t.child? f.home.name).getD nil)).child? f.name := by
  rw [at?_eq, child?_modifyEntry_self, Option.getD_some]

theorem sets_at {f : Field} {change : Tree → Tree} (h : Sets (child? · f.name) change) :
    Sets (at? · f) (modifyEntry f.home.name change) := by
  cases h with
  | keeps h => exact .keeps fun t => by rw [at?_modifyEntry_home, h, at?_eq]
  | puts g hg h => exact .puts g hg fun t => by rw [at?_modifyEntry_home, h, at?_eq]

theorem acts_at {f : Field} {change : Tree → Tree} (h : Acts (child? · f.name) change) :
    Acts (at? · f) (modifyEntry f.home.name change) := by
  cases h with
  | sets h => exact .sets (sets_at h)
  | clears h => exact .clears fun t => by rw [at?_modifyEntry_home, h]

theorem at?_modifyEntry_of_ne {f : Field} {n : String} (hn : n ≠ f.home.name)
    (change : Tree → Tree) (t : Tree) : (t.modifyEntry n change).at? f = t.at? f := by
  rw [at?, at?, child?_modifyEntry_of_ne hn.symm]

/-! ### Sources -/

theorem acts_supply (source : Source) (f : Field) :
    Acts (at? · f) (supply source) := by
  induction source with
  | nil => exact .sets (.keeps fun t => rfl)
  | cons setting source ih =>
    obtain ⟨key, v⟩ := setting
    have hkey : Acts (at? · f) (modifyAt v.overlay (KeyPath.ofKey key)) := by
      obtain ⟨n, path, hpath⟩ := KeyPath.ofKey_eq_name key
      rw [hpath]
      by_cases hn : n = f.home.name
      · subst hn
        exact acts_at (acts_modifyAt v path f.name)
      · exact .sets (.keeps (at?_modifyEntry_of_ne hn _))
    exact ih.comp hkey

theorem sets_supply (source : Source) (name : String) :
    Sets (child? · name) (supply source) := by
  induction source with
  | nil => exact .keeps fun t => rfl
  | cons setting source ih =>
    obtain ⟨key, v⟩ := setting
    have hkey : Sets (child? · name) (modifyAt v.overlay (KeyPath.ofKey key)) := by
      obtain ⟨n, path, hpath⟩ := KeyPath.ofKey_eq_name key
      rw [hpath]
      exact sets_modifyEntry n (firm_modifyAt v path) name
    exact ih.comp hkey

/-- A single value. -/
def IsLeaf (t : Tree) : Prop := ∃ o s, t = leaf o s

/-- A table. -/
def IsTable (t : Tree) : Prop := ∃ o es, t = table o es

end Tree

/-- What a source says of a setting on its own. -/
def stated (source : Source) (f : Field) : Option Tree :=
  (Tree.supply source (.ofEntries [])).at? f

/-- A source that replaces what other sources supply setting by setting: of what it says nothing
about it leaves alone what is there. A source that has a list or a single value for a section does
not do so. -/
def LeafByLeaf (source : Source) : Prop :=
  ∀ f, stated source f = none → ∀ below, (Tree.supply source below).at? f = below.at? f

/-- The same single value or nothing on both sides, or no single value on either. -/
inductive SameLeaf : Option Tree → Option Tree → Prop
  | refl (x : Option Tree) : SameLeaf x x
  | compound {a b : Tree} (ha : ¬a.IsLeaf) (hb : ¬b.IsLeaf) : SameLeaf (some a) (some b)

theorem SameLeaf.symm {x y : Option Tree} (h : SameLeaf x y) : SameLeaf y x := by
  cases h with
  | refl => exact .refl _
  | compound ha hb => exact .compound hb ha

theorem SameLeaf.trans {x y z : Option Tree} (h : SameLeaf x y) (h' : SameLeaf y z) :
    SameLeaf x z := by
  cases h with
  | refl => exact h'
  | compound ha hb =>
    cases h' with
    | refl => exact .compound ha hb
    | compound _ hc => exact .compound ha hc

theorem SameLeaf.or {x y : Option Tree} (h : SameLeaf x y) (a : Option Tree) :
    SameLeaf (a.or x) (a.or y) := by
  cases a with
  | none => exact h
  | some a => exact .refl (some a)

theorem Firm.sameLeaf {g : Tree → Tree} (h : Firm g) (t u : Tree) :
    SameLeaf (some (g t)) (some (g u)) := by
  cases h with
  | leaf o s h =>
    rw [h, h]
    exact .refl _
  | list h =>
    have hleaf (t : Tree) : ¬(g t).IsLeaf := by
      rintro ⟨o, s, hs⟩
      obtain ⟨o', items, hitems⟩ := h t
      cases hs.symm.trans hitems
    exact .compound (hleaf t) (hleaf u)
  | table h =>
    have hleaf (t : Tree) : ¬(g t).IsLeaf := by
      rintro ⟨o, s, hs⟩
      obtain ⟨o', es, hes⟩ := h t
      cases hs.symm.trans hes
    exact .compound (hleaf t) (hleaf u)

/-- What a source says of a setting counts, whatever there is below. -/
theorem sameLeaf_of_stated {source : Source} {f : Field} {t : Tree}
    (h : stated source f = some t) (below : Tree) :
    SameLeaf ((Tree.supply source below).at? f) (some t) := by
  have hempty : (Tree.ofEntries []).at? f = none := rfl
  cases Tree.acts_supply source f with
  | clears hclears =>
    rw [stated, hclears] at h
    cases h
  | sets hsets =>
    cases hsets with
    | keeps hkeeps =>
      rw [stated, hkeeps, hempty] at h
      cases h
    | puts g hg hputs =>
      rw [stated, hputs] at h
      rw [hputs, ← h]
      exact hg.sameLeaf _ _

section LeafByLeaf

variable {source : Source} (h : LeafByLeaf source)

include h

theorem LeafByLeaf.at?_supply (below : Tree) (f : Field) :
    SameLeaf ((Tree.supply source below).at? f) ((stated source f).or (below.at? f)) := by
  cases hstated : stated source f with
  | none =>
    rw [h f hstated below, Option.none_or]
    exact .refl _
  | some t => exact sameLeaf_of_stated hstated below

theorem LeafByLeaf.exists_at? (f : Field) :
    ∃ below, (Tree.supply source below).at? f ≠ none := by
  cases hstated : stated source f with
  | some t => exact ⟨.ofEntries [], Option.ne_none_iff_exists'.mpr ⟨t, hstated⟩⟩
  | none =>
    refine ⟨.ofEntries [(f.home.name, .ofEntries [(f.name, .nil)])], ?_⟩
    rw [h f hstated]
    cases f <;> nofun

/-- No section ends up as anything but a table, since what puts anything else there would clear the
settings of the section. -/
theorem LeafByLeaf.isTable_supply {below : Tree} {s : Section}
    (hbelow : ∀ t, below.child? s.name = some t → t.IsTable) {t : Tree}
    (ht : (Tree.supply source below).child? s.name = some t) : t.IsTable := by
  cases Tree.sets_supply source s.name with
  | keeps hkeeps => exact hbelow t ((hkeeps below).symm.trans ht)
  | puts g hg hputs =>
    have hclears (hg : ∀ t name, (g t).child? name = none) : False := by
      obtain ⟨f, rfl⟩ : ∃ f : Field, f.home = s := by
        cases s with
        | logging => exact ⟨.level, rfl⟩
        | cache => exact ⟨.url, rfl⟩
      obtain ⟨below, hat⟩ := h.exists_at? f
      rw [Tree.at?, hputs, Option.bind_some, hg] at hat
      exact hat rfl
    cases hg with
    | leaf o v hg => exact (hclears fun t name => by rw [hg, Tree.child?_leaf]).elim
    | list hg =>
      refine (hclears fun t name => ?_).elim
      obtain ⟨o, items, hitems⟩ := hg t
      rw [hitems, Tree.child?_list]
    | table hg =>
      rw [hputs] at ht
      cases ht
      exact hg _

end LeafByLeaf

/-! ### All sources -/

section Layered

variable {sources : List Source} (h : ∀ source ∈ sources, LeafByLeaf source)

include h

theorem at?_foldl (below : Tree) (f : Field) :
    SameLeaf ((sources.foldl (fun below source => Tree.supply source below) below).at? f)
      ((sources.reverse.findSome? (stated · f)).or (below.at? f)) := by
  induction sources generalizing below with
  | nil => exact .refl _
  | cons source sources ih =>
    have hsource := (h source List.mem_cons_self).at?_supply below f
    have hrest := ih (fun s hs => h s (.tail _ hs)) (Tree.supply source below)
    rw [List.foldl_cons, List.reverse_cons, List.findSome?_append, Option.or_assoc]
    have hone : [source].findSome? (stated · f) = stated source f := by
      rw [List.findSome?_singleton]
    rw [hone]
    exact hrest.trans (hsource.or _)

theorem leafByLeaf_reverse :
    ∀ source ∈ sources.reverse, LeafByLeaf source := by
  intro source hsource
  exact h source (List.mem_reverse.mp hsource)

/-- What stands at the place of a setting is what the highest source says that says anything. The
sources are given from the highest to the lowest. -/
theorem at?_layered (f : Field) :
    SameLeaf ((layered sources.reverse).at? f) (sources.findSome? (stated · f)) := by
  have hfold := at?_foldl (leafByLeaf_reverse h) (.ofEntries []) f
  have hempty : (Tree.ofEntries []).at? f = none := rfl
  rwa [hempty, Option.or_none, List.reverse_reverse] at hfold

theorem isTable_foldl {below : Tree} {s : Section}
    (hbelow : ∀ t, below.child? s.name = some t → t.IsTable) {t : Tree}
    (ht : (sources.foldl (fun below source => Tree.supply source below) below).child? s.name =
      some t) : t.IsTable := by
  induction sources generalizing below with
  | nil => exact hbelow t ht
  | cons source sources ih =>
    refine ih (fun s hs => h s (.tail _ hs)) ?_ ht
    intro t ht
    exact (h source List.mem_cons_self).isTable_supply hbelow ht

theorem isTable_layered {s : Section} {t : Tree}
    (ht : (layered sources.reverse).child? s.name = some t) : t.IsTable :=
  isTable_foldl (leafByLeaf_reverse h) (by nofun) ht

end Layered

/-! ### One setting changed -/

theorem Acts.congr {look : Tree → Option Tree} {change : Tree → Tree} (h : Acts look change)
    {t u : Tree} (ht : look t = look u) : look (change t) = look (change u) := by
  cases h with
  | clears h => rw [h, h]
  | sets h =>
    cases h with
    | keeps h => rw [h, h, ht]
    | puts g _ h => rw [h, h, ht]

namespace Tree

theorem supply_append (source more : Source) (t : Tree) :
    supply (source ++ more) t = supply more (supply source t) :=
  List.foldl_append

theorem supply_singleton (key : String) (v t : Tree) :
    supply [(key, v)] t = t.modifyAt v.overlay (KeyPath.ofKey key) :=
  rfl

theorem overlayEntries_append (es more : List (String × Tree)) (t : Tree) :
    overlayEntries (es ++ more) t = overlayEntries more (overlayEntries es t) := by
  induction es generalizing t with
  | nil => rw [List.nil_append, overlayEntries]
  | cons e es ih =>
    obtain ⟨n, v⟩ := e
    rw [List.cons_append, overlayEntries, overlayEntries, ih]

/-- An entry is nothing to what stands at other names. -/
theorem child?_overlay_insert {name other : String} (h : other ≠ name) (o : Option String)
    (before after : List (String × Tree)) (v t : Tree) :
    ((table o (before ++ (name, v) :: after)).overlay t).child? other =
      ((table o (before ++ after)).overlay t).child? other := by
  rw [overlay_table, overlay_table, overlayEntries_append, overlayEntries_append, overlayEntries]
  exact (Acts.sets (sets_overlayEntries after other)).congr (child?_modifyEntry_of_ne h _ _)

end Tree

theorem KeyPath.ofKey_home (f : Field) : ofKey f.home.name = [.name f.home.name] := by
  cases f <;> decide +kernel

theorem Field.name_ne {f g : Field} (h : f ≠ g) (hhome : g.home.name = f.home.name) :
    f.name ≠ g.name := by
  cases f <;> cases g <;> simp_all [home, name, Section.name]

theorem stated_append (source after : Source) (f : Field) :
    stated (source ++ after) f =
      (Tree.supply after (Tree.supply source (.ofEntries []))).at? f := by
  rw [stated, Tree.supply_append]

theorem stated_append_congr {first second : Source} {f : Field}
    (h : stated first f = stated second f) (after : Source) : stated (first ++ after) f = stated (second ++ after) f := by
  rw [stated_append, stated_append]
  exact (Tree.acts_supply after f).congr h

/-- A source to which a value for a setting has been added: under the key of the setting, or as an
entry of its section. -/
inductive Added (g : Field) : Source → Source → Prop
  | key {key : String} (hkey : KeyPath.ofKey key = [.name g.home.name, .name g.name])
    (before after : Source) (v : Tree) :
    Added g (before ++ after) (before ++ [(key, v)] ++ after)
  | entry (before after : Source) (o : Option String) (first last : List (String × Tree))
    (v : Tree) :
    Added g (before ++ [(g.home.name, .table o (first ++ last))] ++ after)
      (before ++ [(g.home.name, .table o (first ++ (g.name, v) :: last))] ++ after)

/-- A source in which the value for a setting has been added, removed or replaced. -/
inductive Edited (g : Field) (source source' : Source) : Prop
  | added (h : Added g source source')
  | removed (h : Added g source' source)
  | replaced {bare : Source} (h : Added g bare source) (h' : Added g bare source')

theorem Added.stated_eq {f g : Field} {source source' : Source} (h : Added g source source')
    (hf : f ≠ g) : stated source f = stated source' f := by
  cases h with
  | @key key hkey before after v =>
    apply stated_append_congr
    rw [stated_append, Tree.supply_singleton, hkey, Tree.modifyAt]
    by_cases hhome : g.home.name = f.home.name
    · rw [hhome, Tree.at?_modifyEntry_home, Tree.modifyAt,
        Tree.child?_modifyEntry_of_ne (Field.name_ne hf hhome), ← Tree.at?_eq]
      rfl
    · rw [Tree.at?_modifyEntry_of_ne hhome]
      rfl
  | entry before after o first last v =>
    apply stated_append_congr
    rw [stated_append, stated_append, Tree.supply_singleton, Tree.supply_singleton,
      KeyPath.ofKey_home, Tree.modifyAt, Tree.modifyAt]
    by_cases hhome : g.home.name = f.home.name
    · rw [hhome, Tree.at?_modifyEntry_home, Tree.at?_modifyEntry_home]
      exact (Tree.child?_overlay_insert (Field.name_ne hf hhome) o first last v _).symm
    · rw [Tree.at?_modifyEntry_of_ne hhome, Tree.at?_modifyEntry_of_ne hhome]

theorem Edited.stated_eq {f g : Field} {source source' : Source} (h : Edited g source source')
    (hf : f ≠ g) : stated source f = stated source' f := by
  cases h with
  | added h => exact h.stated_eq hf
  | removed h => exact (h.stated_eq hf).symm
  | replaced h h' => exact (h.stated_eq hf).symm.trans (h'.stated_eq hf)

/-- Sources that differ in nothing that is about a setting: one by one they state the same of it, or
have been edited for another setting. -/
inductive Undisturbed (f : Field) : List Source → List Source → Prop
  | nil : Undisturbed f [] []
  | same {source source' : Source} {sources sources' : List Source}
    (h : stated source f = stated source' f) (hrest : Undisturbed f sources sources') :
    Undisturbed f (source :: sources) (source' :: sources')
  | edited {g : Field} (hf : f ≠ g) {source source' : Source} {sources sources' : List Source}
    (h : Edited g source source') (hrest : Undisturbed f sources sources') :
    Undisturbed f (source :: sources) (source' :: sources')

theorem Undisturbed.findSome?_eq {f : Field} {sources sources' : List Source}
    (h : Undisturbed f sources sources') :
    sources.findSome? (stated · f) = sources'.findSome? (stated · f) := by
  induction h with
  | nil => rfl
  | same h _ ih => rw [List.findSome?_cons, List.findSome?_cons, h, ih]
  | edited hf h _ ih => rw [List.findSome?_cons, List.findSome?_cons, h.stated_eq hf, ih]

/-! ### Sources with tables for sections -/

/-- Whether a name is that of a section. -/
def isSectionName (n : String) : Bool := n = Section.logging.name || n = Section.cache.name

theorem isSectionName_name (s : Section) : isSectionName s.name = true := by
  cases s <;> rfl

/-- Whether what a source has under a key makes nothing but tables of sections. -/
def keepsTables (setting : String × Tree) : Bool :=
  match KeyPath.ofKey setting.1 with
  | [.name n] => setting.2.entries?.isSome || !isSectionName n
  | .name n :: .index _ :: _ => !isSectionName n
  | _ => true

theorem sets_of_keepsTables {setting : String × Tree} (h : keepsTables setting = true) (f : Field) :
    Sets (Tree.at? · f) (Tree.modifyAt setting.2.overlay (KeyPath.ofKey setting.1)) := by
  obtain ⟨n, path, hpath⟩ := KeyPath.ofKey_eq_name setting.1
  rw [keepsTables, hpath] at h
  rw [hpath]
  by_cases hn : n = f.home.name
  · subst hn
    match path with
    | [] =>
      dsimp only at h
      rw [isSectionName_name, Bool.not_true, Bool.or_false] at h
      cases hv : setting.2 with
      | leaf o s =>
        rw [hv] at h
        cases h
      | list o items =>
        rw [hv] at h
        cases h
      | table o es => exact Tree.sets_at (Tree.sets_overlay_table o es f.name)
    | .name m :: path =>
      exact Tree.sets_at (Tree.sets_modifyEntry m (Tree.firm_modifyAt setting.2 path) f.name)
    | .index i :: path =>
      dsimp only at h
      rw [isSectionName_name] at h
      cases h
  · exact .keeps (Tree.at?_modifyEntry_of_ne hn _)

/-- A source that has nothing but tables for sections supplies settings one by one. -/
theorem leafByLeaf_of_keepsTables {source : Source}
    (h : source.all keepsTables = true) : LeafByLeaf source := by
  intro f hstated below
  have hsets : Sets (Tree.at? · f) (Tree.supply source) := by
    clear hstated
    induction source with
    | nil => exact .keeps fun t => rfl
    | cons setting source ih =>
      obtain ⟨hsetting, hsource⟩ := Bool.and_eq_true_iff.mp h
      exact (ih hsource).comp (sets_of_keepsTables hsetting f)
  cases hsets with
  | keeps hkeeps => exact hkeeps below
  | puts g _ hputs =>
    rw [stated, hputs] at hstated
    cases hstated

end Stagehand.Settings
