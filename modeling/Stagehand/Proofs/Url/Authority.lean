import Stagehand.Proofs.Url.Host

/-!
# The authority in the text of a URL
In the text of a URL that was read, the user information stands between the two slashes and the
host, and it is the only part of the authority that has an `@`. A URL without a host has no
authority in its text.
-/

namespace Stagehand.Url

variable {u : Url} {cs : List Char}

/-- The authority in the text of a URL: what two slashes lead in behind the scheme and its colon, up
to the path, the query or the fragment. -/
def authorityOf (cs : List Char) : List Char :=
  match cs.dropWhile (· != ':') with
  | ':' :: '/' :: '/' :: rest => rest.takeWhile fun c => !endsAuthority .other c
  | _ => []

theorem dropWhile_scheme {scheme : List Char} (hs : ':' ∉ scheme) (cs : List Char) :
    (scheme ++ ':' :: cs).dropWhile (· != ':') = ':' :: cs := by
  rw [List.dropWhile_append_of_pos]
  · rfl
  · intro c hc
    rw [bne_iff_ne]
    rintro rfl
    exact hs hc

theorem authorityOf_slashes {scheme : List Char} (hs : ':' ∉ scheme) (cs : List Char) :
    authorityOf (scheme ++ ':' :: '/' :: '/' :: cs) =
      cs.takeWhile fun c => !endsAuthority .other c := by
  rw [authorityOf, dropWhile_scheme hs]
  rfl

theorem authorityOf_eq_nil {scheme : List Char} (hs : ':' ∉ scheme)
    (h : ∀ rest, cs ≠ '/' :: '/' :: rest) : authorityOf (scheme ++ ':' :: cs) = [] := by
  rw [authorityOf, dropWhile_scheme hs]
  split
  · rename_i rest heq
    cases heq
    exact absurd rfl (h rest)
  · rfl

/-! ### What comes after a host -/

/-- The query and the fragment in the text of a URL. -/
def tailChars (u : Url) : List Char := partChars '?' u.query ++ partChars '#' u.fragment

theorem chars_of_host {h : Host} (hh : u.host = some h) :
    u.chars = u.scheme ++ ':' :: '/' :: '/' :: (u.userinfoChars ++
      (h.chars ++ (portChars u.port ++ (pathChars u.path ++ u.tailChars)))) := by
  have hguard : u.pathGuard = [] := by
    rw [pathGuard, hh]
  have hauthority : u.authorityChars = '/' :: '/' :: u.userinfoChars ++ h.chars ++
      portChars u.port := by
    rw [authorityChars, hh]
  rw [chars, hguard, hauthority, tailChars]
  simp only [List.append_assoc, List.cons_append, List.nil_append]

theorem chars_of_hostless (hh : u.host = none) :
    u.chars = u.scheme ++ ':' :: (u.pathGuard ++ (pathChars u.path ++ u.tailChars)) := by
  have hauthority : u.authorityChars = [] := by
    rw [authorityChars, hh]
  rw [chars, hauthority, tailChars]
  simp only [List.append_assoc, List.cons_append, List.nil_append]

theorem head?_tailChars (u : Url) : u.tailChars.head? ≠ some '/' := by
  rw [tailChars]
  cases u.query with
  | some q => simp [partChars]
  | none => cases u.fragment <;> simp [partChars]

theorem mem_takeWhile_append {p : Char → Bool} {c : Char} {as bs : List Char}
    (h : c ∈ (as ++ bs).takeWhile p) : c ∈ as ∨ c ∈ bs.takeWhile p := by
  induction as with
  | nil => exact .inr h
  | cons a as ih =>
    rw [List.cons_append, List.takeWhile_cons] at h
    split at h
    · rcases List.mem_cons.mp h with rfl | h
      · exact .inl (.head _)
      · exact (ih h).imp_left (.tail _)
    · cases h

/-- An authority ends where a path of segments begins, or what follows the path. -/
theorem takeWhile_path (ss : List (List Char)) (u : Url) :
    (pathChars (.segments ss) ++ u.tailChars).takeWhile (fun c => !endsAuthority .other c) =
      [] := by
  cases ss with
  | cons s ss => rfl
  | nil =>
    rw [tailChars]
    cases u.query with
    | some q => rfl
    | none => cases u.fragment <;> rfl

/-! ### URLs with a host -/

theorem at_notMem_portChars (port : Option Nat) : '@' ∉ portChars port := by
  intro h
  cases port with
  | none => cases h
  | some n =>
    rcases List.mem_cons.mp h with h | h
    · cases h
    · have hdigit := Numeral.isDigit_of_mem_ofNat h
      revert hdigit
      decide

/-- Without user information, there is no `@` in an authority. -/
theorem at_notMem_authorityOf_of_host {h : Host} {ss : List (List Char)} (hs : ':' ∉ u.scheme)
    (hu : u.hasUserinfo = false) (hh : u.host = some h) (hat : '@' ∉ h.chars)
    (hp : u.path = .segments ss) : '@' ∉ authorityOf u.chars := by
  have hempty : u.userinfoChars = [] := by
    rw [userinfoChars, if_pos (hasUserinfo_eq_false_iff.mp hu)]
  rw [chars_of_host hh, hempty, List.nil_append, authorityOf_slashes hs]
  intro hm
  rcases mem_takeWhile_append hm with hm | hm
  · exact hat hm
  rcases mem_takeWhile_append hm with hm | hm
  · exact at_notMem_portChars u.port hm
  · rw [hp, takeWhile_path] at hm
    cases hm

/-! ### URLs without a host -/

/-- There is no slash in the segments of a path. -/
def Unslashed (ss : List (List Char)) : Prop := ∀ s ∈ ss, '/' ∉ s

theorem Unslashed.append {ss ss' : List (List Char)} (h : Unslashed ss) (h' : Unslashed ss') :
    Unslashed (ss ++ ss') :=
  List.forall_mem_append.mpr ⟨h, h'⟩

theorem Unslashed.parent {done : List (List Char)} (h : Unslashed done) :
    Unslashed (parent done) := by
  rw [Url.parent]
  split
  · split
    · exact h
    · exact fun s hs => h s ((List.dropLast_sublist done).subset hs)
  · exact nofun

theorem Unslashed.addSegment {done : List (List Char)} {s : List Char} (h : Unslashed done)
    (hs : '/' ∉ s) (final : Bool) : Unslashed (addSegment done final s) := by
  have hclosed {ss : List (List Char)} (hss : Unslashed ss) :
      Unslashed (if final then ss ++ [[]] else ss) := by
    split
    · exact hss.append (List.forall_mem_singleton.mpr List.not_mem_nil)
    · exact hss
  rw [Url.addSegment]
  dsimp only
  split
  · exact hclosed h
  split
  · exact hclosed h.parent
  · refine h.append (List.forall_mem_singleton.mpr ?_)
    intro hm
    exact hs (Percent.mem_of_mem_encode hm (by decide) (by decide))

theorem Unslashed.addSegments {done ss : List (List Char)} (h : Unslashed done)
    (hss : Unslashed ss) : Unslashed (addSegments done ss) := by
  induction ss generalizing done with
  | nil => exact h
  | cons s ss ih =>
    have hs : '/' ∉ s := hss s (.head _)
    cases ss with
    | nil => exact h.addSegment hs true
    | cons s' ss => exact ih (h.addSegment hs false) fun s hs => hss s (.tail _ hs)

theorem unslashed_cutPath (kind : Kind) (cs : List Char) : Unslashed (cutPath kind cs) := by
  intro s hs hm
  have hslash := (mem_of_mem_cutWhere hs hm).2
  revert hslash
  simp [isSlash]

/-- A path of segments without slashes never seems to be an authority. -/
theorem path_ne_slashes {ss : List (List Char)} (hh : u.host = none) (hp : u.path = .segments ss)
    (hss : Unslashed ss) (rest : List Char) :
    u.pathGuard ++ (pathChars u.path ++ u.tailChars) ≠ '/' :: '/' :: rest := by
  have hhead {c : Char} {s : List Char} {ss : List (List Char)} (hss : Unslashed ((c :: s) :: ss))
      (cs : List Char) : '/' :: c :: cs ≠ '/' :: '/' :: rest := by
    intro he
    cases he
    exact hss _ (.head _) (.head _)
  rw [pathGuard, hh, hp]
  rcases ss with - | ⟨s, ss⟩
  · intro he
    apply head?_tailChars u
    rw [show u.tailChars = '/' :: '/' :: rest from he]
    rfl
  rcases s with - | ⟨c, s⟩
  · cases ss with
    | nil =>
      intro he
      apply head?_tailChars u
      rw [show u.tailChars = '/' :: rest from List.tail_eq_of_cons_eq he]
      rfl
    | cons s' ss => exact nofun
  · exact hhead hss _

/-- Nor does a text without structure, which does not begin with a slash. -/
theorem text_ne_slashes (hh : u.host = none) (hc : cs.head? ≠ some '/')
    (hp : u.path = .opaqueText (Percent.encode Percent.isControl cs)) (rest : List Char) :
    u.pathGuard ++ (pathChars u.path ++ u.tailChars) ≠ '/' :: '/' :: rest := by
  rw [pathGuard, hh, hp]
  intro he
  have hslash : (Percent.encode Percent.isControl cs ++ u.tailChars).head? = some '/' := by
    rw [show Percent.encode Percent.isControl cs ++ u.tailChars = '/' :: '/' :: rest from he]
    rfl
  rw [List.head?_append] at hslash
  cases hcs : (Percent.encode Percent.isControl cs).head? with
  | none =>
    rw [hcs, Option.none_or] at hslash
    exact head?_tailChars u hslash
  | some c =>
    rw [hcs, Option.some_or] at hslash
    exact hc (Percent.head?_of_head?_encode (by decide) (hcs.trans hslash))

/-! ### URLs that are read -/

/-- Without user information, there is no `@` in the authority of a URL that was read. -/
theorem Shape.at_notMem_authorityOf (h : Shape u) (hs : ':' ∉ u.scheme)
    (hu : u.hasUserinfo = false) : '@' ∉ authorityOf u.chars := by
  cases h with
  | file _ _ hh hr hp =>
    refine at_notMem_authorityOf_of_host hs hu hh ?_ hp
    rcases hr with rfl | ⟨cs, hr⟩
    · exact List.not_mem_nil
    · exact Host.at_notMem_of_parse hr
  | authority _ _ hh hr hp =>
    refine at_notMem_authorityOf_of_host hs hu hh ?_ hp
    rcases hr with hr | hr
    · exact Host.at_notMem_of_parse hr
    · exact Host.at_notMem_of_parseOpaque hr
  | @hostless cs _ hh hp =>
    have hss : Unslashed (addSegments [] (cutPath .other cs)) :=
      Unslashed.addSegments nofun (unslashed_cutPath .other cs)
    rw [chars_of_hostless hh, authorityOf_eq_nil hs (path_ne_slashes hh hp hss)]
    exact List.not_mem_nil
  | unstructured _ hh hc hp =>
    rw [chars_of_hostless hh, authorityOf_eq_nil hs (text_ne_slashes hh hc hp)]
    exact List.not_mem_nil

theorem Shape.withoutUserinfo (h : Shape u) : Shape u.withoutUserinfo := by
  cases h with
  | file hs _ hh hr hp => exact .file hs rfl hh hr hp
  | authority hs _ hh hr hp => exact .authority hs nofun hh hr hp
  | hostless _ hh hp => exact .hostless rfl hh hp
  | unstructured _ hh hc hp => exact .unstructured rfl hh hc hp

/-- User information stands behind the slashes, and taking it out leaves all the rest. -/
theorem Shape.chars_eq (h : Shape u) (hu : u.hasUserinfo = true) :
    ∃ rest, u.chars = u.scheme ++ ':' :: '/' :: '/' :: (u.userinfoChars ++ rest) ∧
      u.withoutUserinfo.chars = u.scheme ++ ':' :: '/' :: '/' :: rest := by
  have hhost : u.host ≠ none := by
    have htakes := h.takesUserinfo hu
    rw [Url.takesUserinfo, decide_eq_true_eq] at htakes
    exact htakes.2.1
  obtain ⟨host, hh⟩ := Option.ne_none_iff_exists'.mp hhost
  exact ⟨_, chars_of_host hh, chars_of_host (u := u.withoutUserinfo) hh⟩

end Stagehand.Url
