import Stagehand.Proofs.Cache.Connect
import Stagehand.Proofs.Url.Authority

/-!
# URLs for people
A URL that can be read is shown as it is written, but for its user information. There is nothing to
show otherwise.
-/

namespace Stagehand.CacheConfig

variable {c : CacheConfig}

theorem redactedUrl_eq_none_iff :
    c.redactedUrl = none ↔
      c.url = none ∨ ∃ text e, c.url = some text ∧ Url.parse text = .error e := by
  constructor
  · intro h
    cases hurl : c.url with
    | none => exact .inl rfl
    | some text =>
      cases hparse : Url.parse text with
      | error e => exact .inr ⟨text, e, rfl, hparse⟩
      | ok u =>
        have hhas : c.HasUrl u := ⟨text, hurl, hparse⟩
        rw [hhas.redactedUrl_eq] at h
        cases h
  · rintro (hurl | ⟨text, e, hurl, hparse⟩)
    · simp only [redactedUrl, hurl]
    · simp only [redactedUrl, hurl, hparse]

/-- There is nothing to show just where there is no URL or none that can be read. Otherwise what is
shown is the URL with all its parts but the user name and the password: its text, from which they
are taken out behind the slashes. So there is no user information in the authority that is shown,
two URLs that differ in nothing else are shown alike, and one without any is shown as it is. -/
theorem redactedUrl_strips (c : CacheConfig) :
    (c.redactedUrl = none ↔
      c.url = none ∨ ∃ text e, c.url = some text ∧ Url.parse text = .error e) ∧
    ∀ text u, c.url = some text → Url.parse text = .ok u →
      ∃ shown, c.redactedUrl = some shown ∧
        shown = ({ u with username := [], password := [] } : Url).text ∧
        '@' ∉ Url.authorityOf shown.toList ∧
        (u.hasUserinfo = true → ∃ rest,
          u.text.toList = u.scheme ++ "://".toList ++ (u.userinfoChars ++ rest) ∧
          shown.toList = u.scheme ++ "://".toList ++ rest) ∧
        (u.hasUserinfo = false → shown = u.text) ∧
        ∀ (c' : CacheConfig) text' u', c'.url = some text' → Url.parse text' = .ok u' →
          ({ u' with username := [], password := [] } : Url) =
            { u with username := [], password := [] } →
          c'.redactedUrl = some shown := by
  refine ⟨redactedUrl_eq_none_iff, ?_⟩
  intro text u hurl hparse
  have hhas : c.HasUrl u := ⟨text, hurl, hparse⟩
  obtain ⟨hcolon, hshape⟩ := Url.parse_eq_ok hparse
  refine ⟨u.withoutUserinfo.text, hhas.redactedUrl_eq, rfl, ?_, ?_, ?_, ?_⟩
  · rw [Url.text, String.toList_ofList]
    exact hshape.withoutUserinfo.at_notMem_authorityOf hcolon rfl
  · intro hu
    obtain ⟨rest, hchars, hstripped⟩ := hshape.chars_eq hu
    refine ⟨rest, ?_, ?_⟩
    · rw [Url.text, String.toList_ofList, hchars, List.append_assoc]
      rfl
    · rw [Url.text, String.toList_ofList, hstripped, List.append_assoc]
      rfl
  · intro hu
    rw [Url.withoutUserinfo_eq hu]
  · intro c' text' u' hurl' hparse' heq
    have hhas' : c'.HasUrl u' := ⟨text', hurl', hparse'⟩
    rw [hhas'.redactedUrl_eq]
    exact congrArg (fun v => some v.text) heq

/-- An empty user name and a password with an `@` of its own are left out of what is shown. -/
theorem redactedUrl_strips_password :
    let text := "redis://:p@ss@cache:6379/0?x#y"
    let c : CacheConfig := { url := some text }
    let u : Url :=
      { scheme := "redis".toList, password := "p%40ss".toList
        host := some (.name "cache".toList), port := some 6379, path := .segments [['0']]
        query := some ['x'], fragment := some ['y'] }
    Url.parse text = .ok u ∧ u.hasUserinfo = true ∧
    c.redactedUrl = some "redis://cache:6379/0?x#y" := by
  intro text c u
  have hread : (Url.parse text).toOption = some u := by decide +kernel
  have hparse : Url.parse text = .ok u := by
    cases hp : Url.parse text with
    | error e =>
      rw [hp] at hread
      cases hread
    | ok v =>
      rw [hp] at hread
      cases hread
      rfl
  obtain ⟨-, h⟩ := redactedUrl_strips c
  obtain ⟨shown, hshown, htext, -⟩ := h text u rfl hparse
  refine ⟨hparse, rfl, ?_⟩
  rw [hshown, htext]
  decide +kernel

end Stagehand.CacheConfig
