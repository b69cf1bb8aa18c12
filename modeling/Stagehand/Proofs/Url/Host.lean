import Stagehand.Proofs.Text.Numeral
import Stagehand.Proofs.Text.Quoted
import Stagehand.Proofs.Url.Punycode
import Stagehand.Proofs.Url.Shape

/-!
# What a host is written with
A domain name that is looked up has none of the characters that are forbidden in one, and an address
is written in digits and marks. So whatever is read as a host, there is no `@` in its text, which
would end user information.
-/

namespace Stagehand

theorem mem_of_mem_intercalate {c s : Char} {ls : List (List Char)}
    (h : c ∈ [s].intercalate ls) : c = s ∨ ∃ l ∈ ls, c ∈ l := by
  induction ls with
  | nil => cases h
  | cons l ls ih =>
    cases ls with
    | nil =>
      rw [List.intercalate_singleton] at h
      exact .inr ⟨l, .head _, h⟩
    | cons l' ls =>
      rw [List.intercalate_cons_cons, List.mem_append, List.mem_append, List.mem_singleton] at h
      rcases h with (h | h) | h
      · exact .inr ⟨l, .head _, h⟩
      · exact .inl h
      · exact (ih h).imp_right fun ⟨k, hk, hc⟩ => ⟨k, .tail _ hk, hc⟩

theorem exists_of_mem_mapM {α β : Type} {f : α → Option β} {xs : List α} {ys : List β} {y : β}
    (h : xs.mapM f = some ys) (hy : y ∈ ys) : ∃ x ∈ xs, f x = some y := by
  induction xs generalizing ys with
  | nil =>
    cases h
    cases hy
  | cons x xs ih =>
    rw [List.mapM_cons] at h
    obtain ⟨z, hz, h⟩ := Option.bind_eq_some_iff.mp h
    obtain ⟨zs, hzs, h⟩ := Option.bind_eq_some_iff.mp h
    cases h
    rcases List.mem_cons.mp hy with rfl | hy
    · exact ⟨x, .head _, hz⟩
    · obtain ⟨w, hw, hf⟩ := ih hzs hy
      exact ⟨w, .tail _ hw, hf⟩

/-- A piece of a text has none but its characters, and none at which the text is cut. -/
theorem mem_of_mem_cutWhere {p : Char → Bool} {cs piece : List Char} {c : Char}
    (h : piece ∈ cutWhere p cs) (hc : c ∈ piece) : c ∈ cs ∧ p c = false := by
  induction cs generalizing piece with
  | nil =>
    rw [List.mem_singleton.mp h] at hc
    cases hc
  | cons d cs ih =>
    rw [cutWhere] at h
    split at h
    · rcases List.mem_cons.mp h with rfl | h
      · cases hc
      · exact (ih h hc).imp_left (.tail _)
    rename_i hd
    split at h
    · rw [List.mem_singleton.mp h, List.mem_singleton] at hc
      subst hc
      exact ⟨.head _, Bool.eq_false_iff.mpr hd⟩
    · rename_i piece' pieces hcut
      rw [hcut] at ih
      rcases List.mem_cons.mp h with rfl | h
      · rcases List.mem_cons.mp hc with rfl | hc
        · exact ⟨.head _, Bool.eq_false_iff.mpr hd⟩
        · exact (ih (.head _) hc).imp_left (.tail _)
      · exact (ih (.tail _ h) hc).imp_left (.tail _)

/-! ### Domain names -/

namespace Domain

theorem lt_of_isForbidden {c : Char} (h : isForbidden c = true) : c < '\u0080' := by
  rw [isForbidden, decide_eq_true_eq] at h
  rcases h with h | rfl | h
  · exact Std.lt_of_le_of_lt h (by decide)
  · decide
  · simp only [List.mem_cons, List.not_mem_nil, or_false] at h
    rcases h with rfl | rfl | rfl | rfl | rfl | rfl | rfl | rfl | rfl | rfl | rfl | rfl | rfl
    all_goals decide

/-- What may stand in a name as it is, is not forbidden. -/
theorem isForbidden_of_isValid {c : Char} (h : isValid c = true) : isForbidden c = false := by
  rw [Bool.eq_false_iff]
  intro hf
  rw [isValid, if_pos (lt_of_isForbidden hf), hf] at h
  revert h
  simp

theorem isForbidden_of_digit {c : Char} (h : (Punycode.digit? c).isSome) :
    isForbidden c = false := by
  rw [Bool.eq_false_iff]
  intro hf
  have hall : ∀ n : Fin 128, isForbidden (Char.ofNat n) = true →
      (Punycode.digit? (Char.ofNat n)).isSome = false := by
    decide
  have hc := hall ⟨c.toNat, lt_of_isForbidden hf⟩
  rw [Char.ofNat_toNat, h] at hc
  cases hc hf

theorem normal?_allowed {name cs : List Char} (h : normal? name = some cs) :
    ∀ c ∈ cs, isForbidden c = false := by
  obtain ⟨-, hall⟩ := Option.filter_eq_some_iff.mp h
  intro c hc
  have hfree := List.all_eq_true.mp hall c hc
  rwa [Bool.not_eq_true'] at hfree

theorem shown?_allowed {label shown : List Char} (hl : ∀ c ∈ label, isForbidden c = false)
    (h : shown? label = some shown) : ∀ c ∈ shown, isForbidden c = false := by
  rw [shown?] at h
  split at h
  · rw [decoded?] at h
    split at h
    · obtain ⟨-, hvalid⟩ := Option.filter_eq_some_iff.mp h
      rw [Bool.and_eq_true, Bool.and_eq_true] at hvalid
      intro c hc
      exact isForbidden_of_isValid (List.all_eq_true.mp hvalid.1.2 c hc)
    · cases h
  · cases h
    exact hl

theorem written?_allowed {label written : List Char} (hl : ∀ c ∈ label, isForbidden c = false)
    (h : written? label = some written) : ∀ c ∈ written, isForbidden c = false := by
  rw [written?] at h
  split at h
  · cases h
    exact hl
  split at h
  · cases h
    intro c hc
    rcases List.mem_append.mp hc with hc | hc
    · have hmark : punycodeMark.all (fun d => !isForbidden d) = true := by decide
      have hfree := List.all_eq_true.mp hmark c hc
      rwa [Bool.not_eq_true'] at hfree
    · rcases Punycode.encode_written label c hc with hc | rfl | hc
      · exact hl c hc
      · decide
      · exact isForbidden_of_digit hc
  · cases h

/-- A name that is looked up has no forbidden characters. -/
theorem lookup?_allowed {name ds : List Char} (h : lookup? name = some ds) :
    ∀ c ∈ ds, isForbidden c = false := by
  obtain ⟨labels, hlabels, h⟩ := Option.bind_eq_some_iff.mp h
  obtain ⟨written, hwritten, h⟩ := Option.bind_eq_some_iff.mp h
  cases h
  obtain ⟨cs, hcs, hlabels⟩ := Option.bind_eq_some_iff.mp hlabels
  obtain ⟨shown, hshown, hlabels⟩ := Option.bind_eq_some_iff.mp hlabels
  have hsame : shown = labels := by
    split at hlabels
    · cases hlabels
      rfl
    · cases hlabels
  subst hsame
  intro c hc
  rcases mem_of_mem_intercalate hc with rfl | ⟨l, hl, hc⟩
  · decide
  · obtain ⟨label, hlabel, hl⟩ := exists_of_mem_mapM hwritten hl
    obtain ⟨piece, hpiece, hlabel⟩ := exists_of_mem_mapM hshown hlabel
    have hallowed : ∀ d ∈ piece, isForbidden d = false := fun d hd =>
      normal?_allowed hcs d (mem_of_mem_cutWhere hpiece hd).1
    exact written?_allowed (shown?_allowed hallowed hlabel) hl c hc

end Domain

/-! ### Addresses -/

theorem Ip4.mem_chars {n : Nat} {c : Char} (h : c ∈ chars n) : c = '.' ∨ isDigit c = true := by
  refine (mem_of_mem_intercalate h).imp_right ?_
  rintro ⟨l, hl, hc⟩
  obtain ⟨b, -, rfl⟩ := List.mem_map.mp hl
  exact Numeral.isDigit_of_mem_ofNat hc

namespace Ip6

theorem isHexDigit_of_mem_toDigits {n : Nat} {c : Char} (h : c ∈ Nat.toDigits 16 n) :
    Percent.isHexDigit c = true := by
  have hdigit : ∀ d : Fin 16, Percent.isHexDigit (Nat.digitChar d) = true := by decide
  obtain ⟨d, rfl⟩ := mem_hexDigits h
  exact hdigit d

theorem mem_wordsChars {ws : List Nat} {c : Char} (h : c ∈ wordsChars ws) :
    c = ':' ∨ Percent.isHexDigit c = true := by
  refine (mem_of_mem_intercalate h).imp_right ?_
  rintro ⟨l, hl, hc⟩
  obtain ⟨w, -, rfl⟩ := List.mem_map.mp hl
  exact isHexDigit_of_mem_toDigits hc

theorem mem_chars {ws : List Nat} {c : Char} (h : c ∈ chars ws) :
    c = ':' ∨ Percent.isHexDigit c = true := by
  rw [chars] at h
  split at h
  · exact mem_wordsChars h
  · rcases List.mem_append.mp h with h | h
    · rcases List.mem_append.mp h with h | h
      · exact mem_wordsChars h
      · simp only [List.mem_cons, List.not_mem_nil, or_false, or_self] at h
        exact .inl h
    · exact mem_wordsChars h

end Ip6

/-! ### Hosts -/

namespace Host

variable {cs : List Char} {h : Host}

theorem at_notMem_ip6 (ws : List Nat) : '@' ∉ (ip6 ws).chars := by
  intro hm
  rw [chars] at hm
  rcases List.mem_append.mp hm with hm | hm
  · rcases List.mem_cons.mp hm with hm | hm
    · cases hm
    · rcases Ip6.mem_chars hm with hm | hm
      · cases hm
      · revert hm
        decide
  · cases List.mem_singleton.mp hm

theorem at_notMem_of_parse (hp : parse cs = .ok h) : '@' ∉ h.chars := by
  rcases parse_eq_ok hp with ⟨ws, rfl⟩ | ⟨n, rfl⟩ | ⟨name, ds, -, hds, rfl⟩
  · exact at_notMem_ip6 ws
  · intro hm
    rcases Ip4.mem_chars hm with hm | hm
    · cases hm
    · revert hm
      decide
  · intro hm
    have hallowed := Domain.lookup?_allowed hds '@' hm
    revert hallowed
    decide

theorem at_notMem_of_parseOpaque (hp : parseOpaque cs = .ok h) : '@' ∉ h.chars := by
  rcases parseOpaque_eq_ok hp with ⟨ws, rfl⟩ | ⟨hfree, rfl⟩
  · exact at_notMem_ip6 ws
  · intro hm
    have hcs : '@' ∈ cs := Percent.mem_of_mem_encode hm (by decide) (by decide)
    have hforbidden := List.any_eq_false.mp hfree '@' hcs
    revert hforbidden
    decide

end Host

end Stagehand
