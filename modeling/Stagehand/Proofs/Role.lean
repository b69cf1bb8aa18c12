import Mathlib.Data.Set.List
import Stagehand.Proofs.Json.Record
import Stagehand.Proofs.Json.RoundTrip
import Stagehand.Role

/-!
# Roles against the grammar
A role is known by its slug. In a JSON text it is spelled by its slug as a string, or as the name of
the one member of an object that holds null.
-/

namespace Stagehand.Role

open Json

/-! ### Names -/

/-- What a text is read as: the role of that slug, or nothing. -/
theorem ofText_eq_ok_iff {s : String} {r : Role} : ofText s = .ok r ↔ r.slug = s := by
  constructor
  · intro h
    unfold ofText at h
    split at h <;> cases h <;> rfl
  · rintro rfl
    cases r <;> rfl

theorem slug_injective : Function.Injective slug := by
  intro r r' h
  have hr := ofText_eq_ok_iff.mpr h
  rw [ofText_eq_ok_iff.mpr rfl] at hr
  exact (Except.ok.inj hr).symm

/-- A role goes by its slug in JSON texts too. -/
theorem jsonName_eq_slug (r : Role) : r.jsonName = r.slug := by
  cases r <;> decide

theorem ofJsonName?_eq_some_iff {name : String} {r : Role} :
    ofJsonName? name = some r ↔ r.slug = name := by
  constructor
  · intro h
    have hname := List.find?_some h
    rwa [decide_eq_true_eq, jsonName_eq_slug] at hname
  · rintro rfl
    cases r <;> decide

/-- A role in a JSON text. -/
inductive Spelled : List Sym → Role → List Sym → Prop
  | slug {role : Role} {s r : List Sym} (h : Text s role.slug r) : Spelled s role r
  | tagged {role : Role} {s t u v r : List Sym} (h : Mark '\x7b' s t) (hn : Name t role.slug u)
    (hu : Blanks u (Utf8.ofChars ['n', 'u', 'l', 'l'] ++ v)) (hc : Mark '}' v r) : Spelled s role r

theorem named_eq_ok_iff {slug : String} {role : Role} {s r : List Sym} :
    named slug s = .ok (role, r) ↔ role.slug = slug ∧ s = r := by
  rw [named, ← ofJsonName?_eq_some_iff]
  cases ofJsonName? slug with
  | none => simp [faultHere]
  | some role' => simp

theorem readUnit_eq_ok_iff {s r : List Sym} :
    readUnit s = .ok ((), r) ↔ Blanks s (Utf8.ofChars ['n', 'u', 'l', 'l'] ++ r) := by
  constructor
  · intro h
    rw [readUnit] at h
    split at h
    · cases h
    · rename_i c t hs
      split at h
      · rename_i hlead
        have hc := Lead.tells_of c
        rw [hlead] at hc
        cases hc
        rw [readWord_eq_ok_iff] at h
        subst h
        exact (skipBlanks_eq_cons_iff (by decide)).mp hs
      · cases h
  · intro h
    rw [readUnit, skipBlanks_word (by decide) h]
    exact readWord_eq_ok_iff.mpr rfl

theorem lead_quote : Lead.of (.char '"') = .quote := by decide

theorem readName_eq_ok_iff {role : Role} {s r : List Sym} :
    readName s = .ok (role, r) ↔ Text s role.slug r := by
  constructor
  · intro h
    rw [readName] at h
    split at h
    · cases h
    · rename_i c t hs
      split at h
      · rename_i hlead
        have hc := Lead.tells_of c
        rw [hlead] at hc
        cases hc
        split at h
        · cases h
        · rename_i hstring
          obtain ⟨rfl, rfl⟩ := named_eq_ok_iff.mp h
          exact ⟨t, (skipBlanks_eq_char_iff (by decide)).mp hs, readString_eq_ok_iff.mp hstring⟩
      · cases h
  · rintro ⟨t, hq, hl⟩
    rw [readName, (skipBlanks_eq_char_iff (by decide)).mpr hq]
    simp only [lead_quote, if_true, readString_eq_ok_iff.mpr hl]
    exact named_eq_ok_iff.mpr ⟨rfl, rfl⟩

theorem readTagged_eq_ok_iff {role : Role} {s r : List Sym} :
    readTagged s = .ok (role, r) ↔ ∃ t u, Name s role.slug t ∧
      Blanks t (Utf8.ofChars ['n', 'u', 'l', 'l'] ++ u) ∧ Mark '}' u r := by
  constructor
  · intro h
    rw [readTagged] at h
    split at h
    · cases h
    rename_i hname
    split at h
    · cases h
    rename_i t hcolon
    split at h
    · cases h
    rename_i u hunit
    split at h
    · cases h
    rename_i c v hs
    split at h
    · rename_i hc
      subst hc
      cases h
      obtain ⟨x, hq, hl⟩ := readName_eq_ok_iff.mp hname
      exact ⟨t, u, ⟨x, _, hq, hl, readColon_eq_ok_iff.mp hcolon⟩, readUnit_eq_ok_iff.mp hunit,
        (skipBlanks_eq_char_iff (by decide)).mp hs⟩
    · cases h
  · rintro ⟨t, u, ⟨x, y, hq, hl, hcolon⟩, hunit, hc⟩
    rw [readTagged, readName_eq_ok_iff.mpr ⟨x, hq, hl⟩]
    simp only [readColon_eq_ok_iff.mpr hcolon, readUnit_eq_ok_iff.mpr hunit,
      (skipBlanks_eq_char_iff (by decide)).mpr hc, if_true]

theorem read_eq_ok_iff {role : Role} {s r : List Sym} :
    read s = .ok (role, r) ↔ Spelled s role r := by
  constructor
  · intro h
    rw [read] at h
    split at h
    · cases h
    rename_i c t hs
    have hc := Lead.tells_of c
    split at h
    · rename_i hlead
      rw [hlead] at hc
      cases hc
      split at h
      · cases h
      · rename_i hstring
        obtain ⟨rfl, rfl⟩ := named_eq_ok_iff.mp h
        exact .slug ⟨t, (skipBlanks_eq_char_iff (by decide)).mp hs,
          readString_eq_ok_iff.mp hstring⟩
    · rename_i hlead
      rw [hlead] at hc
      cases hc
      obtain ⟨u, v, hn, hu, hclose⟩ := readTagged_eq_ok_iff.mp h
      exact .tagged ((skipBlanks_eq_char_iff (by decide)).mp hs) hn hu hclose
    · cases h
  · intro h
    cases h with
    | slug h =>
      obtain ⟨t, hq, hl⟩ := h
      rw [read, (skipBlanks_eq_char_iff (by decide)).mpr hq]
      simp only [lead_quote, readString_eq_ok_iff.mpr hl]
      exact named_eq_ok_iff.mpr ⟨rfl, rfl⟩
    | tagged h hn hu hc =>
      rw [read, (skipBlanks_eq_char_iff (by decide)).mpr h]
      exact readTagged_eq_ok_iff.mpr ⟨_, _, hn, hu, hc⟩

/-- A role is read where it is spelled. -/
theorem reads_read : Reads read Spelled where
  iff := read_eq_ok_iff
  blanks s := by rw [read, read, skipBlanks_skipBlanks]
  leads := by
    intro s role r h
    cases h with
    | slug h => exact reads_readText.leads h
    | tagged h => exact ⟨_, _, (skipBlanks_eq_char_iff (by decide)).mpr h, by decide⟩
  shorter := by
    intro s role r h
    cases h with
    | slug h => exact reads_readText.shorter h
    | tagged h hn hu hc =>
      have hle := hu.length_le
      rw [List.length_append] at hle
      calc _ < _ := hc.length_lt
        _ ≤ _ := Nat.le_trans (Nat.le_add_left _ _) hle
        _ < _ := hn.length_lt
        _ < _ := h.length_lt

end Stagehand.Role
