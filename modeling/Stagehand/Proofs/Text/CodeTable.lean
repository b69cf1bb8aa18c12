import Stagehand.Text.Lower

/-!
# Looking characters up in tables
A table is a long text, but to look a character up only some of its words have to be read.
-/

namespace Stagehand

/-- A text stays whole if it has none of the characters at which it is cut. -/
theorem cutWhere_of_forall {p : Char → Bool} {cs : List Char} (h : ∀ c ∈ cs, p c = false) :
    cutWhere p cs = [cs] := by
  induction cs with
  | nil => rfl
  | cons c cs ih =>
    obtain ⟨hc, hcs⟩ := List.forall_mem_cons.mp h
    rw [cutWhere, if_neg (Bool.eq_false_iff.mp hc), ih hcs]

namespace CodeMap

/-- The map of a table that is given by its characters. -/
def ofChars (cs : List Char) : CodeMap :=
  ⟨(((cutWhere (fun c => c == ' ' || c == '\n') cs).filter fun w => !w.isEmpty).map entry).toArray⟩

theorem ofTable_ofList (cs : List Char) : ofTable (String.ofList cs) = ofChars cs := by
  rw [ofTable, tableWords, String.toList_ofList, ofChars]

end CodeMap

/-! ### Capital letters -/

/-- The capital letters of names in the environment, and the underscore between the words. -/
def nameLetters : List Char := "ABCDEFGHIJKLMNOPQRSTUVWXYZ_".toList

theorem lowerForms_nameLetters :
    nameLetters.all (fun c => (lowerForms.find? c).getD [c] = [c.toLower]) = true := by
  unfold lowerForms
  rw [CodeMap.ofTable_ofList]
  decide +kernel

/-- Such a letter has the same form wherever it stands. -/
theorem lowerAt_nameLetter {c : Char} (h : c ∈ nameLetters) (before after : List Char) :
    lowerAt before c after = [c.toLower] := by
  have hsigma : c ≠ '\u03a3' := by
    rintro rfl
    revert h
    decide
  have hform := List.all_eq_true.mp lowerForms_nameLetters c h
  rw [lowerAt, if_neg hsigma, of_decide_eq_true hform]

theorem lowerFrom_nameLetters {cs : List Char} (h : cs.all (· ∈ nameLetters) = true)
    (before rest : List Char) :
    lowerFrom before (cs ++ rest) =
      cs.map Char.toLower ++ lowerFrom (cs.reverse ++ before) rest := by
  induction cs generalizing before with
  | nil => rfl
  | cons c cs ih =>
    rw [List.all_cons, Bool.and_eq_true, decide_eq_true_eq] at h
    have hrest := ih h.2 (c :: before)
    rw [List.cons_append, lowerFrom, hrest, lowerAt_nameLetter h.1,
      List.reverse_cons, List.append_assoc]
    rfl

/-- A text that begins with such letters has a lower-case form that begins with their small
letters. -/
theorem lowerCase_of_nameLetters {s : String} {cs rest : List Char} (hs : s.toList = cs ++ rest)
    (h : cs.all (· ∈ nameLetters) = true) :
    (lowerCase s).toList = cs.map Char.toLower ++ lowerFrom cs.reverse rest := by
  rw [lowerCase, String.toList_ofList, hs, lowerFrom_nameLetters h, List.append_nil]

end Stagehand
