import Stagehand.Proofs.Url.Percent
import Stagehand.Url.Parser

/-!
# The shapes of URLs that are read
A URL that is read is one of files, one with an authority, or one without a host. Only an authority
brings user information, and it does so only with a host that is not empty. So the user information
of a URL that was read can always be set to none.
-/

namespace Stagehand

/-! ### Hosts -/

namespace Host

variable {cs : List Char} {h : Host}

theorem parseBracketed_eq_ok (hp : parseBracketed cs = .ok h) : ∃ ws, h = .ip6 ws := by
  rw [parseBracketed] at hp
  split at hp
  · split at hp
    · cases hp
      exact ⟨_, rfl⟩
    · cases hp
  · cases hp

/-- A host under a special scheme is an address or a domain name, which is not empty. -/
theorem parse_eq_ok (hp : parse cs = .ok h) :
    (∃ ws, h = .ip6 ws) ∨ (∃ n, h = .ip4 n) ∨
      ∃ name ds, ds ≠ [] ∧ Domain.lookup? name = some ds ∧ h = .name ds := by
  rw [parse.eq_def] at hp
  split at hp
  · exact .inl (parseBracketed_eq_ok hp)
  split at hp
  · cases hp
  · cases hp
  rename_i ds hne hds
  split at hp
  · split at hp
    · cases hp
      exact .inr (.inl ⟨_, rfl⟩)
    · cases hp
  · cases hp
    exact .inr (.inr ⟨_, ds, hne, hds, rfl⟩)

/-- A host under another scheme is an address or a text without anything forbidden, encoded. -/
theorem parseOpaque_eq_ok (hp : parseOpaque cs = .ok h) :
    (∃ ws, h = .ip6 ws) ∨
      cs.any isForbidden = false ∧ h = .name (Percent.encode Percent.isControl cs) := by
  rw [parseOpaque.eq_def] at hp
  split at hp
  · exact .inl (parseBracketed_eq_ok hp)
  split at hp
  · cases hp
  · rename_i hf
    cases hp
    exact .inr ⟨Bool.eq_false_iff.mpr hf, rfl⟩

theorem ne_empty_of_parse (hp : parse cs = .ok h) : h ≠ .name [] := by
  rintro rfl
  rcases parse_eq_ok hp with ⟨ws, hw⟩ | ⟨n, hn⟩ | ⟨name, ds, hne, -, hd⟩
  · cases hw
  · cases hn
  · cases hd
    exact hne rfl

theorem ne_empty_of_parseOpaque (hne : cs ≠ []) (hp : parseOpaque cs = .ok h) : h ≠ .name [] := by
  rintro rfl
  rcases parseOpaque_eq_ok hp with ⟨ws, hw⟩ | ⟨-, hd⟩
  · cases hw
  · rw [Host.name.injEq] at hd
    exact hne (Percent.encode_eq_nil_iff.mp hd.symm)

end Host

namespace Url

variable {u : Url} {scheme cs rest : List Char}

/-! ### Schemes -/

theorem kind_eq_file_iff : kind scheme = .file ↔ scheme = fileScheme := by
  rw [kind]
  split
  · rename_i h
    simp only [h]
  · rename_i h
    split <;> simp [h]

theorem eq_colon_of_toLower {c : Char} (h : c.toLower = ':') : c = ':' := by
  delta Char.toLower at h
  split at h
  · rename_i hc
    obtain ⟨hlo, hhi⟩ := hc
    replace hlo : 65 ≤ c.val.toNat := hlo
    replace hhi : c.val.toNat ≤ 90 := hhi
    have hval : (c.val + 32).toNat = 58 := congrArg Char.toNat h
    rw [UInt32.toNat_add] at hval
    replace hval : (c.val.toNat + 32) % 2 ^ 32 = 58 := hval
    omega
  · exact h

theorem colon_notMem_of_schemeOf? (h : schemeOf? cs = some (scheme, rest)) : ':' ∉ scheme := by
  rw [schemeOf?] at h
  split at h
  · split at h
    · cases h
      intro hm
      obtain ⟨c, hc, he⟩ := List.mem_map.mp hm
      have hin : inScheme c = true := List.all_eq_true.mp List.all_takeWhile c hc
      rw [eq_colon_of_toLower he] at hin
      revert hin
      decide
    · cases h
  · cases h

/-! ### Queries and fragments -/

/-- What follows the path decides on nothing but the query and the fragment. -/
theorem withTail_eq (u : Url) (cs : List Char) :
    ∃ query fragment, withTail u cs = { u with query := query, fragment := fragment } := by
  unfold withTail
  cases cs with
  | nil => exact ⟨_, _, rfl⟩
  | cons c cs =>
    by_cases hc : c = '?'
    · subst hc
      exact ⟨_, _, rfl⟩
    · dsimp only
      split
      · exact ⟨_, _, rfl⟩
      · exact ⟨_, _, rfl⟩

theorem withTail_scheme (u : Url) (cs : List Char) : (withTail u cs).scheme = u.scheme := by
  obtain ⟨query, fragment, he⟩ := withTail_eq u cs
  rw [he]

/-! ### Shapes -/

/-- What a URL that is read looks like. -/
inductive Shape (u : Url) : Prop
  | file {h : Host} {ss : List (List Char)} (hs : u.scheme = fileScheme)
    (hu : u.hasUserinfo = false) (hh : u.host = some h)
    (hr : h = .name [] ∨ ∃ cs, Host.parse cs = .ok h) (hp : u.path = .segments ss)
  | authority {cs : List Char} {h : Host} {ss : List (List Char)} (hs : u.scheme ≠ fileScheme)
    (hu : u.hasUserinfo = true → cs ≠ []) (hh : u.host = some h)
    (hr : Host.parse cs = .ok h ∨ Host.parseOpaque cs = .ok h) (hp : u.path = .segments ss)
  | hostless {cs : List Char} (hu : u.hasUserinfo = false) (hh : u.host = none)
    (hp : u.path = pathSegments .other [] cs)
  | unstructured {cs : List Char} (hu : u.hasUserinfo = false) (hh : u.host = none)
    (hc : cs.head? ≠ some '/')
    (hp : u.path = .opaqueText (Percent.encode Percent.isControl cs))

/-- A shape does not depend on what follows the path. -/
theorem Shape.withTail (h : Shape u) (cs : List Char) : Shape (withTail u cs) := by
  obtain ⟨query, fragment, he⟩ := withTail_eq u cs
  rw [he]
  cases h with
  | file hs hu hh hr hp => exact .file hs hu hh hr hp
  | authority hs hu hh hr hp => exact .authority hs hu hh hr hp
  | hostless hu hh hp => exact .hostless hu hh hp
  | unstructured hu hh hc hp => exact .unstructured hu hh hc hp

theorem parseFile_eq_ok (h : parseFile cs = .ok u) : u.scheme = fileScheme ∧ Shape u := by
  -- whatever the host, the path is one of segments
  have hfile {host : Option Host}
      (hr : host = some (.name []) ∨ ∃ name h, host = some h ∧ Host.parse name = .ok h)
      (ss : List (List Char)) (tail : List Char) :
      let v := Url.withTail { scheme := fileScheme, host := host, path := filePath ss } tail
      v.scheme = fileScheme ∧ Shape v := by
    have hshape : Shape { scheme := fileScheme, host := host, path := filePath ss } := by
      rcases hr with hh | ⟨name, h, hh, hn⟩
      · exact .file rfl rfl hh (.inl rfl) rfl
      · exact .file rfl rfl hh (.inr ⟨name, hn⟩) rfl
    exact ⟨withTail_scheme .., hshape.withTail tail⟩
  unfold parseFile at h
  dsimp only at h
  split at h
  · rename_i a b cs
    generalize (if isDrive (cs.takeWhile fun c => !endsAuthority .file c) = true then []
      else cs.takeWhile fun c => !endsAuthority .file c) = host at h
    split at h
    · split at h
      · cases h
        exact hfile (.inl rfl) _ _
      split at h
      · cases h
      rename_i name hname
      split at h
      · cases h
        exact hfile (.inl rfl) _ _
      · cases h
        have hdropped (drive : Bool) :
            let kept := if drive = true then some (.name []) else some name
            kept = some (.name []) ∨ ∃ name h, kept = some h ∧ Host.parse name = .ok h := by
          cases drive with
          | true => exact .inl rfl
          | false => exact .inr ⟨host, name, rfl, hname⟩
        exact hfile (hdropped _) _ _
    · cases h
      exact hfile (.inl rfl) _ _
  · cases h
    exact hfile (.inl rfl) _ _

/-- An authority has a host, which is not empty if there is user information. -/
theorem authority_eq_ok (h : authority scheme cs = .ok (u, rest)) :
    u.scheme = scheme ∧ ∃ name h, (u.hasUserinfo = true → name ≠ []) ∧ u.host = some h ∧
      (Host.parse name = .ok h ∨ Host.parseOpaque name = .ok h) := by
  unfold authority at h
  extract_lets kind whole tail after info name next at h
  -- whatever follows the host, the port is all that it decides on
  clear_value next
  cases hinfo : userinfo info with
  | mk username password =>
    rw [hinfo] at h
    dsimp only at h
    split at h
    · cases h
    split at h
    · cases h
    rename_i hempty
    have hne : username ≠ [] ∨ password ≠ [] → name ≠ [] := by
      intro hu hn
      exact hempty ⟨hn, .inr (.inr hu)⟩
    split at h
    · cases h
    rename_i host hhost
    have hread : Host.parse name = .ok host ∨ Host.parseOpaque name = .ok host := by
      split at hhost
      · exact .inr hhost
      · exact .inl hhost
    have hshape (port : Option Nat) :
        let v : Url := ⟨scheme, username, password, some host, port, .segments [], none, none⟩
        v.scheme = scheme ∧ ∃ name h, (v.hasUserinfo = true → name ≠ []) ∧ v.host = some h ∧
          (Host.parse name = .ok h ∨ Host.parseOpaque name = .ok h) :=
      ⟨rfl, name, host, fun hu => hne (of_decide_eq_true hu), rfl, hread⟩
    split at h
    · split at h
      · cases h
      · cases h
        exact hshape _
    · cases h
      exact hshape _

theorem pathAfterAuthority_eq_segments (kind : Kind) (cs : List Char) :
    ∃ ss, pathAfterAuthority kind cs = .segments ss := by
  cases cs with
  | nil =>
    rw [pathAfterAuthority]
    split
    · exact ⟨_, rfl⟩
    · exact ⟨_, rfl⟩
  | cons c cs => exact ⟨_, rfl⟩

theorem parseAuthority_eq_ok (hs : scheme ≠ fileScheme) (h : parseAuthority scheme cs = .ok u) :
    u.scheme = scheme ∧ Shape u := by
  rw [parseAuthority] at h
  split at h
  · cases h
  rename_i v rest hv
  cases h
  obtain ⟨rfl, name, host, hu, hh, hr⟩ := authority_eq_ok hv
  obtain ⟨ss, hss⟩ := pathAfterAuthority_eq_segments (kind v.scheme) (cutTail rest).1
  have hshape : Shape { v with path := pathAfterAuthority (kind v.scheme) (cutTail rest).1 } :=
    .authority hs hu hh hr hss
  exact ⟨withTail_scheme .., hshape.withTail _⟩

theorem parseOther_eq_ok (hs : scheme ≠ fileScheme) (h : parseOther scheme cs = .ok u) :
    u.scheme = scheme ∧ Shape u := by
  rw [parseOther.eq_def] at h
  split at h
  · exact parseAuthority_eq_ok hs h
  · rename_i cs _
    cases h
    have hshape : Shape { scheme := scheme, path := pathSegments .other [] (cutTail cs).1 } :=
      .hostless rfl rfl rfl
    exact ⟨withTail_scheme .., hshape.withTail _⟩
  · rename_i hslashes hslash
    cases h
    have hhead : (cutTail cs).1.head? ≠ some '/' := by
      intro hhead
      rw [cutTail, List.head?_takeWhile, Option.filter_eq_some_iff] at hhead
      obtain ⟨rest, hrest⟩ := List.head?_eq_some_iff.mp hhead.1
      exact hslash rest hrest
    have hshape : Shape
        { scheme := scheme
          path := .opaqueText (Percent.encode Percent.isControl (cutTail cs).1) } :=
      .unstructured rfl rfl hhead rfl
    exact ⟨withTail_scheme .., hshape.withTail _⟩

/-- A URL that is read has one of the shapes, and there is no colon in its scheme. -/
theorem parse_eq_ok {text : String} (h : parse text = .ok u) : ':' ∉ u.scheme ∧ Shape u := by
  rw [parse] at h
  split at h
  · cases h
  rename_i scheme rest hscheme
  have hcolon := colon_notMem_of_schemeOf? hscheme
  rw [parseAfterScheme] at h
  have hread : u.scheme = scheme ∧ Shape u := by
    split at h
    · rename_i hk
      obtain ⟨hs, hshape⟩ := parseFile_eq_ok h
      exact ⟨hs.trans (kind_eq_file_iff.mp hk).symm, hshape⟩
    · rename_i hk
      apply parseAuthority_eq_ok _ h
      intro hf
      rw [kind_eq_file_iff.mpr hf] at hk
      cases hk
    · rename_i hk
      apply parseOther_eq_ok _ h
      intro hf
      rw [kind_eq_file_iff.mpr hf] at hk
      cases hk
  obtain ⟨rfl, hshape⟩ := hread
  exact ⟨hcolon, hshape⟩

/-! ### User information -/

theorem hasUserinfo_eq_false_iff :
    u.hasUserinfo = false ↔ u.username = [] ∧ u.password = [] := by
  rw [hasUserinfo, decide_eq_false_iff_not, not_or, Classical.not_not, Classical.not_not]

theorem withoutUserinfo_eq (h : u.hasUserinfo = false) : u.withoutUserinfo = u := by
  obtain ⟨scheme, username, password, host, port, path, query, fragment⟩ := u
  obtain ⟨rfl, rfl⟩ : username = [] ∧ password = [] := hasUserinfo_eq_false_iff.mp h
  rfl

/-- Where there is user information, there is a place for it. -/
theorem Shape.takesUserinfo (h : Shape u) (hu : u.hasUserinfo = true) : u.takesUserinfo = true := by
  cases h with
  | file _ hnone => cases hu.symm.trans hnone
  | authority hs hne hh hr _ =>
    rw [Url.takesUserinfo, decide_eq_true_eq, hh]
    refine ⟨hs, Option.some_ne_none _, ?_⟩
    rw [Ne, Option.some.injEq]
    rcases hr with hr | hr
    · exact Host.ne_empty_of_parse hr
    · exact Host.ne_empty_of_parseOpaque (hne hu) hr
  | hostless hnone => cases hu.symm.trans hnone
  | unstructured hnone => cases hu.symm.trans hnone

theorem stripped?_of_takesUserinfo (h : u.hasUserinfo = true → u.takesUserinfo = true) :
    u.stripped? = some u.withoutUserinfo := by
  by_cases hu : u.hasUserinfo = true
  · have hset : u.setUsername? [] = some { u with username := [] } := by
      rw [setUsername?, if_pos (h hu)]
      rfl
    have htakes : takesUserinfo { u with username := [] } = true := h hu
    rw [stripped?, if_pos hu, hset, Option.bind_some, setPassword?, if_pos htakes]
    rfl
  · rw [stripped?, if_neg hu, withoutUserinfo_eq (Bool.eq_false_iff.mpr hu)]

/-- User information can be taken out of every URL that is read. -/
theorem stripped?_of_parse {text : String} (h : parse text = .ok u) :
    u.stripped? = some u.withoutUserinfo :=
  stripped?_of_takesUserinfo (parse_eq_ok h).2.takesUserinfo

end Url

end Stagehand
