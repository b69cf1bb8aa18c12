import Stagehand.Json.Printer
import Stagehand.Proofs.Text.Numeral

/-!
# The text of a value stands on one line
Strings are printed with escapes for all characters below the space, and nothing else that is
printed has any. So the text of a value breaks no line, whatever the value holds.
-/

namespace Stagehand.Json

/-- Whether characters stand on one line: none of them is below the space. -/
def OneLine (cs : List Char) : Prop := ∀ c ∈ cs, ' ' ≤ c

@[simp] theorem oneLine_nil : OneLine [] := nofun

@[simp] theorem oneLine_cons {c : Char} {cs : List Char} :
    OneLine (c :: cs) ↔ ' ' ≤ c ∧ OneLine cs :=
  List.forall_mem_cons

@[simp] theorem oneLine_append {cs ds : List Char} :
    OneLine (cs ++ ds) ↔ OneLine cs ∧ OneLine ds :=
  List.forall_mem_append

theorem OneLine.flatMap {f : Char → List Char} (h : ∀ c, OneLine (f c)) (cs : List Char) :
    OneLine (cs.flatMap f) := by
  intro d hd
  obtain ⟨c, -, hc⟩ := List.mem_flatMap.mp hd
  exact h c d hc

/-! ### Numbers -/

theorem le_of_isDigit {c : Char} (h : isDigit c = true) : ' ' ≤ c :=
  Char.le_trans (by decide) (of_decide_eq_true h).1

theorem oneLine_of_digits {ds : List Char} (h : ∀ c ∈ ds, isDigit c = true) : OneLine ds :=
  fun c hc => le_of_isDigit (h c hc)

theorem oneLine_ofNat (n : Nat) : OneLine (Numeral.ofNat n) :=
  oneLine_of_digits fun _ => Numeral.isDigit_of_mem_ofNat

theorem oneLine_ofInt (n : Int) : OneLine (Numeral.ofInt n) := by
  cases n with
  | ofNat n => exact oneLine_ofNat n
  | negSucc n => exact oneLine_cons.mpr ⟨by decide, oneLine_ofNat (n + 1)⟩

theorem oneLine_zeros (n : Nat) : OneLine (List.replicate n '0') := by
  intro c hc
  rw [List.eq_of_mem_replicate hc]
  decide

theorem oneLine_decimalText {ds : List Char} (h : OneLine ds) (p : Int) :
    OneLine (Number.decimalText ds p) := by
  have htake (n : Nat) : OneLine (ds.take n) := fun c hc => h c (List.mem_of_mem_take hc)
  have hdrop (n : Nat) : OneLine (ds.drop n) := fun c hc => h c (List.mem_of_mem_drop hc)
  simp only [Number.decimalText]
  split
  · simp [h, oneLine_zeros]
  split
  · simp [htake, hdrop]
  split
  · simp [h, oneLine_zeros]
  · simp only [oneLine_append, oneLine_cons]
    refine ⟨⟨?_, by decide, ?_⟩, oneLine_ofNat _⟩
    · split
      · exact h
      · rw [oneLine_cons] at h
        simp [h]
      · exact oneLine_nil
    · split <;> simp

theorem oneLine_realText (x : Binary64) : OneLine (Number.realText x) := by
  cases x with
  | finite negative m e =>
    rw [Number.realText, oneLine_append]
    constructor
    · cases negative <;> simp
    · split
      · simp
      · exact oneLine_decimalText (oneLine_ofNat _) _
  | _ => simp [Number.realText]

theorem oneLine_number (n : Number) : OneLine n.chars := by
  cases n with
  | integer n => exact oneLine_ofInt n
  | real x => exact oneLine_realText x

/-! ### Strings -/

theorem le_hexChar {n : Nat} (h : n < 16) : ' ' ≤ hexChar n := by
  have hall : ∀ m : Fin 16, ' ' ≤ hexChar m := by decide
  exact hall ⟨n, h⟩

/-- Every character below the space is written as an escape. -/
theorem oneLine_stringChar (c : Char) : OneLine (stringChar c) := by
  rw [stringChar]
  iterate 7
    split
    · simp
  split
  · rename_i hc
    have hlt : c.toNat < 32 := hc
    have hhigh : ' ' ≤ hexChar (c.toNat / 16) := le_hexChar (by omega)
    have hlow : ' ' ≤ hexChar (c.toNat % 16) := le_hexChar (by omega)
    simp [hhigh, hlow]
  · rename_i hc
    simp [Char.not_lt.mp hc]

theorem oneLine_stringChars (s : String) : OneLine (stringChars s) := by
  simp [stringChars, OneLine.flatMap oneLine_stringChar]

/-! ### Values -/

mutual

/-- The text of a value has no character below the space. -/
theorem oneLine_chars (v : Json) : OneLine v.chars := by
  match v with
  | null => simp [chars]
  | bool true => simp [chars]
  | bool false => simp [chars]
  | number n => exact oneLine_number n
  | string s => exact oneLine_stringChars s
  | array [] => simp [chars]
  | array (v :: vs) => simp [chars, oneLine_chars v, oneLine_itemsChars vs]
  | object [] => simp [chars]
  | object ((k, v) :: ms) =>
    simp [chars, oneLine_stringChars k, oneLine_chars v, oneLine_membersChars ms]

theorem oneLine_itemsChars (vs : List Json) : OneLine (itemsChars vs) := by
  match vs with
  | [] => simp [itemsChars]
  | v :: vs => simp [itemsChars, oneLine_chars v, oneLine_itemsChars vs]

theorem oneLine_membersChars (ms : List (String × Json)) : OneLine (membersChars ms) := by
  match ms with
  | [] => simp [membersChars]
  | (k, v) :: ms =>
    simp [membersChars, oneLine_stringChars k, oneLine_chars v, oneLine_membersChars ms]

end

end Stagehand.Json
