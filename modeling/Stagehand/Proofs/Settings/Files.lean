import Stagehand.Proofs.Json.RoundTrip
import Stagehand.Proofs.Text.Utf8
import Stagehand.Settings.Load

/-!
# Files that are there, and files that are not
A file that is missing under all names supplies nothing. A file that holds the text of a JSON object
supplies the entries of that object.
-/

namespace Stagehand.Settings

theorem find_missing {d : Directory} {name : String}
    (h : ∀ path ∈ candidates name, d.file? path = none) : d.find name = .error (.missing name) := by
  have hname : d.file? name = none := h name List.mem_cons_self
  have hextended : d.findExtended? name = none := by
    rw [Directory.findExtended?, List.findSome?_eq_none_iff]
    rintro ⟨extension, format⟩ hmem
    cases hpath : withExtension? name extension with
    | none => simp only [hpath]
    | some path =>
      have hcandidate : path ∈ candidates name :=
        .tail _ (List.mem_filterMap.mpr ⟨(extension, format), hmem, hpath⟩)
      simp only [hpath, h path hcandidate, Option.map_none]
  simp only [Directory.find, hname, hextended]

theorem ofFixedFile_missing {d : Directory} {name : String}
    (h : ∀ path ∈ candidates name, d.file? path = none) : ofFixedFile d name = .ok [] := by
  rw [ofFixedFile, find_missing h]

/-- A file of this name is found with the extension of its format. -/
theorem find_fanhubJson {d : Directory} {bytes : List UInt8} (hbare : d.file? "fanhub" = none)
    (htoml : d.file? "fanhub.toml" = none) (hjson : d.file? "fanhub.json" = some bytes) :
    d.find "fanhub" = .ok ⟨d.placeOf "fanhub.json", .json, textOf bytes⟩ := by
  have htomlPath : withExtension? "fanhub" "toml" = some "fanhub.toml" := by decide +kernel
  have hjsonPath : withExtension? "fanhub" "json" = some "fanhub.json" := by decide +kernel
  simp only [Directory.find, hbare, Directory.findExtended?, Format.extensions,
    List.findSome?_cons, htomlPath, htoml, Option.map_none, hjsonPath, hjson, Option.map_some]

/-! ### JSON objects -/

/-- The text of a section with one setting can be read. -/
theorem exact_section (part setting : String) {v : Json} (h : Json.Exact 125 v) :
    Json.Exact Json.maxDepth (.object [(part, .object [(setting, v)])]) := by
  have hordered (v : Json) (name : String) : Members.Ordered [(name, v)] := .cons nofun .nil
  have hpart : Json.Exact 126 (.object [(setting, v)]) := by
    refine .object (hordered _ _) fun m hm => ?_
    obtain rfl := List.mem_singleton.mp hm
    exact h
  have hroot : Json.Exact 127 (.object [(part, .object [(setting, v)])]) := by
    refine .object (hordered _ _) fun m hm => ?_
    obtain rfl := List.mem_singleton.mp hm
    exact hpart
  exact hroot

theorem plain_section {part setting : String} (hpart : part ≠ Json.embeddedName)
    (hsetting : setting ≠ Json.embeddedName) {v : Json} (h : v.Plain) :
    (Json.object [(part, .object [(setting, v)])]).Plain := by
  have hsection : (Json.object [(setting, v)]).Plain := by
    refine .object (fun hn => hsetting (Option.some.inj hn)) fun m hm => ?_
    obtain rfl := List.mem_singleton.mp hm
    exact h
  refine .object (fun hn => hpart (Option.some.inj hn)) fun m hm => ?_
  obtain rfl := List.mem_singleton.mp hm
  exact hsection

theorem shown_bytes (s : String) : Utf8.shown (Utf8.bytes s.toList) = s := by
  have hmap : (Utf8.ofChars s.toList).map Sym.shown = s.toList := by
    rw [Utf8.ofChars, List.map_map]
    exact List.map_id _
  rw [Utf8.shown, Utf8.symbols_bytes, hmap, String.ofList_toList]

/-- The text of an object has no mark of the byte order. -/
theorem textOf_object (ms : List (String × Json)) :
    textOf (Utf8.bytes (Json.object ms).text.toList) = (Json.object ms).text := by
  obtain ⟨bytes, hbytes⟩ : ∃ bytes, Utf8.bytes (Json.object ms).text.toList = 0x7b :: bytes := by
    rw [Json.text, String.toList_ofList]
    cases ms with
    | nil => exact ⟨_, rfl⟩
    | cons m ms => exact ⟨_, rfl⟩
  have hshown := shown_bytes (Json.object ms).text
  rw [hbytes] at hshown ⊢
  exact hshown

theorem ofFound_object {ms : List (String × Json)} (h : Json.Exact Json.maxDepth (.object ms))
    (hp : (Json.object ms).Plain) (place : String) :
    ofFound ⟨place, .json, textOf (Utf8.bytes (Json.object ms).text.toList)⟩ =
      .ok (Tree.locatedEntries place (ofMembers ms)) := by
  have hparse : Json.parse (Json.object ms).text = .ok (.object ms) := h.read_text hp
  rw [textOf_object, ofFound]
  simp only [Format.entries?, Format.value?, hparse, ofJson, Tree.located, Tree.entries?]

end Stagehand.Settings
