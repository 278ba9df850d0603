import Mathlib.Data.List.TakeDrop
import Mathlib.Data.List.TakeWhile
import Transcoding.Proofs.Outcome
import Transcoding.Proofs.Text.Ascii
import Transcoding.Proofs.Text.Trim
import Transcoding.Proofs.Url.Escape

/-!
URLs made of a plain host, which is a scheme and a name, and a path. They are read as what they are
made of: nothing of the path becomes part of the host, and there is neither user nor port.
-/

namespace Transcoding.Url

open Text

/-- The characters that mean nothing but themselves anywhere in a URL. -/
def isUnreserved (c : Char) : Bool :=
  c.isAlphanum || c == '-' || c == '.' || c == '_' || c == '~'

/-- A host of a scheme and a name. -/
structure PlainHost (scheme name : List Char) : Prop where
  letter : scheme.head?.any Char.isAlpha = true
  scheme : ∀ c ∈ scheme, isSchemeChar c = true
  nonempty : name ≠ []
  name : ∀ c ∈ name, isUnreserved c = true

/-- Whether a name that looks like four numbers is the address of four numbers. -/
def NumbersFine (name : List Char) : Prop :=
  isDotted 3 false name = true → isIpv4 name = true

instance : DecidablePred NumbersFine :=
  fun _ => inferInstanceAs (Decidable (_ → _))

section Characters

theorem toNat_lt_of_isAlphanum {c : Char} (h : c.isAlphanum = true) : c.toNat < 0x80 :=
  Nat.lt_of_le_of_lt (bounds_of_isAlphanum h).2 (by decide)

theorem toNat_lt_of_isSchemeChar {c : Char} (h : isSchemeChar c = true) : c.toNat < 0x80 := by
  simp only [isSchemeChar, Bool.or_eq_true, beq_iff_eq] at h
  obtain ((h | rfl) | rfl) | rfl := h
  · exact toNat_lt_of_isAlphanum h
  all_goals decide

theorem toNat_lt_of_isUnreserved {c : Char} (h : isUnreserved c = true) : c.toNat < 0x80 := by
  simp only [isUnreserved, Bool.or_eq_true, beq_iff_eq] at h
  obtain (((h | rfl) | rfl) | rfl) | rfl := h
  · exact toNat_lt_of_isAlphanum h
  all_goals decide

theorem isControl_of_isSchemeChar {c : Char} (h : isSchemeChar c = true) : isControl c = false :=
  forall_ascii (p := fun c => isSchemeChar c = true → isControl c = false) (by decide)
    (toNat_lt_of_isSchemeChar h) h

theorem isControl_of_isUnreserved {c : Char} (h : isUnreserved c = true) : isControl c = false :=
  forall_ascii (p := fun c => isUnreserved c = true → isControl c = false) (by decide)
    (toNat_lt_of_isUnreserved h) h

theorem isHostSafe_toLower {c : Char} (h : isUnreserved c = true) : isHostSafe c.toLower = true :=
  forall_ascii (p := fun c => isUnreserved c = true → isHostSafe c.toLower = true) (by decide)
    (toNat_lt_of_isUnreserved h) h

theorem toLower_ne_colon {c : Char} (h : isUnreserved c = true) : c.toLower ≠ ':' :=
  forall_ascii (p := fun c => isUnreserved c = true → c.toLower ≠ ':') (by decide)
    (toNat_lt_of_isUnreserved h) h

theorem toLower_of_isDecimal {c : Char} (h : isDecimal c = true) : c.toLower = c :=
  forall_ascii (p := fun c => isDecimal c = true → c.toLower = c) (by decide)
    (by
      simp only [isDecimal, Bool.and_eq_true, decide_eq_true_eq, Char.le_def,
        UInt32.le_iff_toNat_le] at h
      exact Nat.lt_of_le_of_lt h.2 (by decide)) h

theorem keepsEscapes_isPathSafe : KeepsEscapes isPathSafe where
  percent := rfl
  hex c h := by
    have ascii : c.toNat < 0x80 := by
      simp only [isHex, isDecimal, Bool.or_eq_true, Bool.and_eq_true, decide_eq_true_eq,
        Char.le_def, UInt32.le_iff_toNat_le] at h
      change ((0x30 ≤ c.toNat ∧ c.toNat ≤ 0x39) ∨ 0x61 ≤ c.toNat ∧ c.toNat ≤ 0x66) ∨
        0x41 ≤ c.toNat ∧ c.toNat ≤ 0x46 at h
      omega
    exact forall_ascii (p := fun c => isHex c = true → isPathSafe c = true) (by decide) ascii h

theorem ne_of_isUnreserved {c d : Char} (h : isUnreserved c = true) (hd : isUnreserved d = false) :
    c ≠ d := by
  rintro rfl
  rw [h] at hd
  cases hd

end Characters

theorem span_append {p : Char → Bool} {cs rest : List Char} (hcs : ∀ c ∈ cs, p c = true)
    (hrest : ∀ d ∈ rest.head?, p d = false) : (cs ++ rest).span p = (cs, rest) := by
  rw [List.span_eq_takeWhile_dropWhile, List.takeWhile_append_of_pos hcs,
    List.dropWhile_append_of_pos hcs]
  cases rest with
  | nil => rw [List.takeWhile_nil, List.dropWhile_nil, List.append_nil]
  | cons d rest =>
      have hd : ¬p d = true := Bool.eq_false_iff.1 (hrest d rfl)
      rw [List.takeWhile_cons_of_neg hd, List.dropWhile_cons_of_neg hd, List.append_nil]

variable {scheme name path : List Char}

namespace PlainHost

theorem exists_cons (h : PlainHost scheme name) :
    ∃ c cs, scheme = c :: cs ∧ c.isAlpha = true := by
  cases scheme with
  | nil => cases h.letter
  | cons c cs => exact ⟨c, cs, rfl, h.letter⟩

theorem isEmpty_lower (h : PlainHost scheme name) : (name.map Char.toLower).isEmpty = false := by
  rw [List.isEmpty_eq_false_iff]
  exact fun hnil => h.nonempty (List.map_eq_nil_iff.1 hnil)

theorem splitScheme (h : PlainHost scheme name) (rest : List Char) :
    splitScheme (scheme ++ ':' :: rest) = (scheme, rest) := by
  rw [Url.splitScheme, span_append h.scheme (by rintro _ ⟨⟩; rfl)]
  obtain ⟨c, cs, rfl, hc⟩ := h.exists_cons
  exact if_pos hc

theorem splitAuthority (h : PlainHost scheme name) (hpath : path.head? = some '/') :
    splitAuthority ('/' :: '/' :: (name ++ path)) = (name, path) := by
  rw [Url.splitAuthority]
  refine span_append (fun c hc => ?_) (fun d hd => ?_)
  · have unreserved := h.name c hc
    simp only [Bool.and_eq_true, bne_iff_ne, ne_eq]
    exact ⟨⟨ne_of_isUnreserved unreserved rfl, ne_of_isUnreserved unreserved rfl⟩,
      ne_of_isUnreserved unreserved rfl⟩
  · rw [hpath] at hd
    cases hd
    rfl

theorem splitUserinfo (h : PlainHost scheme name) : splitUserinfo name = ([], name) := by
  have noAt : name.reverse.takeWhile (· != '@') = name.reverse :=
    List.takeWhile_eq_self_iff.2 fun c hc =>
      bne_iff_ne.2 (ne_of_isUnreserved (h.name c (List.mem_reverse.1 hc)) rfl)
  rw [Url.splitUserinfo, noAt, List.reverse_reverse]
  exact if_pos (beq_self_eq_true _)

theorem head?_ne_bracket (h : PlainHost scheme name) : (name.head? == some '[') = false := by
  rw [beq_eq_false_iff_ne]
  intro hhead
  exact ne_of_isUnreserved (h.name _ (List.mem_of_mem_head? hhead)) (d := '[') rfl rfl

theorem splitHost (h : PlainHost scheme name) : splitHost name = (name, []) := by
  have noColon : name.span (· != ':') = (name, []) := by
    rw [List.span_eq_takeWhile_dropWhile]
    have all : ∀ c ∈ name, (c != ':') = true :=
      fun c hc => bne_iff_ne.2 (ne_of_isUnreserved (h.name c hc) rfl)
    rw [List.takeWhile_eq_self_iff.2 all, List.dropWhile_eq_nil_iff.2 all]
  rw [Url.splitHost]
  simp only [h.head?_ne_bracket, Bool.false_and, Bool.false_eq_true, if_false, noColon]

end PlainHost

theorem mem_of_mem_intercalate {separator : List Char} {parts : List (List Char)} {c : Char}
    (h : c ∈ separator.intercalate parts) : c ∈ separator ∨ ∃ part ∈ parts, c ∈ part := by
  induction parts with
  | nil => cases h
  | cons part parts ih =>
      cases parts with
      | nil => exact .inr ⟨part, List.mem_singleton_self _, by simpa using h⟩
      | cons next parts =>
          rw [List.intercalate_cons_cons, List.mem_append, List.mem_append] at h
          obtain (h | h) | h := h
          · exact .inr ⟨part, List.mem_cons_self, h⟩
          · exact .inl h
          · exact (ih h).imp_right fun ⟨p, hp, hc⟩ => ⟨p, List.mem_cons_of_mem _ hp, hc⟩

theorem map_toLower_of_isIpv4 {cs : List Char} (h : isIpv4 cs = true) :
    cs.map Char.toLower = cs := by
  rw [isIpv4, Bool.and_eq_true, List.all_eq_true] at h
  refine List.map_congr_left (fun c hc => ?_) |>.trans (List.map_id cs)
  have joined : ['.'].intercalate (cs.splitOn '.') = cs := List.intercalate_splitOn '.'
  rw [← joined] at hc
  obtain dot | ⟨part, hpart, hc⟩ := mem_of_mem_intercalate hc
  · obtain rfl := List.mem_singleton.1 dot
    rfl
  · have octet := h.2 part hpart
    simp only [isOctet, Bool.and_eq_true, List.all_eq_true] at octet
    exact toLower_of_isDecimal (octet.1.1.1.2 c hc)

/-- A name that does not only look like four numbers is accepted in lower case. -/
theorem PlainHost.encodeHost_eq_ok_iff (h : PlainHost scheme name) {host : List Char} :
    encodeHost name = .ok host ↔ NumbersFine name ∧ host = name.map Char.toLower := by
  have nonempty : ¬name.isEmpty = true := fun he => h.nonempty (List.isEmpty_iff.1 he)
  rw [encodeHost, if_neg nonempty, NumbersFine]
  by_cases hdotted : isDotted 3 false name = true
  · rw [if_pos hdotted]
    by_cases haddress : isIpv4 name = true
    · rw [if_pos haddress, map_toLower_of_isIpv4 haddress]
      exact ⟨fun h => by cases h; exact ⟨fun _ => haddress, rfl⟩, fun h => by rw [h.2]⟩
    · rw [if_neg haddress]
      exact ⟨nofun, fun h => absurd (h.1 hdotted) haddress⟩
  · have ascii : name.all (·.toNat < 0x80) = true :=
      List.all_eq_true.2 fun c hc => decide_eq_true (toNat_lt_of_isUnreserved (h.name c hc))
    have safe : escape isHostSafe (name.map Char.toLower) = name.map Char.toLower :=
      escape_of_forall fun c hc => by
        obtain ⟨d, hd, rfl⟩ := List.mem_map.1 hc
        exact isHostSafe_toLower (h.name d hd)
    simp only [hdotted, h.head?_ne_bracket, ascii, safe, Bool.false_and, Bool.false_eq_true,
      if_true, if_false]
    exact ⟨fun h => by cases h; exact ⟨nofun, rfl⟩, fun h => by rw [h.2]⟩

theorem splitFirst_fst (p : Char → Bool) (cs : List Char) :
    (splitFirst p cs).1 = cs.takeWhile (!p ·) := by
  rw [splitFirst, List.span_eq_takeWhile_dropWhile]
  cases cs.dropWhile (!p ·) with
  | nil | cons _ _ => rfl

theorem splitFirst_snd_eq_none_iff {p : Char → Bool} {cs : List Char} :
    (splitFirst p cs).2 = none ↔ ∀ c ∈ cs, p c = false := by
  have whole : (splitFirst p cs).2 = none ↔ cs.dropWhile (!p ·) = [] := by
    rw [splitFirst, List.span_eq_takeWhile_dropWhile]
    cases cs.dropWhile (!p ·) with
    | nil => exact ⟨fun _ => rfl, fun _ => rfl⟩
    | cons _ _ => exact ⟨nofun, nofun⟩
  rw [whole, List.dropWhile_eq_nil_iff]
  simp only [Bool.not_eq_true']

theorem control?_eq_none_iff {cs : List Char} {index : Nat} :
    control? index cs = none ↔ ∀ c ∈ cs, isControl c = false := by
  induction cs generalizing index with
  | nil => exact ⟨fun _ => nofun, fun _ => rfl⟩
  | cons c cs ih =>
      rw [control?, List.forall_mem_cons]
      by_cases hc : isControl c = true
      · rw [if_pos hc, hc]
        exact ⟨nofun, fun h => nomatch h.1⟩
      · rw [if_neg hc, ih, Bool.eq_false_iff.2 hc]
        exact ⟨fun h => ⟨rfl, h⟩, fun h => h.2⟩

theorem normalPath_intercalate {segments : List (List Char)}
    (h : ∀ segment ∈ segments, '/' ∉ segment) (nonempty : segments ≠ []) :
    normalPath (['/'].intercalate segments) = ['/'].intercalate (dropDots [] segments) := by
  rw [normalPath, List.splitOn_intercalate '/' h nonempty]

/-- What of a path below a host stands before its query and its fragment. -/
def pathPart (cs : List Char) : List Char :=
  (cs.takeWhile (· != '#')).takeWhile (· != '?')

theorem head?_pathPart (h : path.head? = some '/') : (pathPart path).head? = some '/' := by
  cases path with
  | nil => cases h
  | cons c rest =>
      cases h
      rfl

theorem pathPart_eq_self {cs : List Char} (hquery : '?' ∉ cs) (hfragment : '#' ∉ cs) :
    pathPart cs = cs := by
  have noFragment : cs.takeWhile (· != '#') = cs :=
    List.takeWhile_eq_self_iff.2 fun c hc => bne_iff_ne.2 fun h => hfragment (h ▸ hc)
  rw [pathPart, noFragment]
  exact List.takeWhile_eq_self_iff.2 fun c hc => bne_iff_ne.2 fun h => hquery (h ▸ hc)

/-- A path below a plain host as a URL. -/
def below (scheme name path : List Char) : Url where
  scheme := scheme.map Char.toLower
  userinfo := []
  host := name.map Char.toLower
  port := none
  path := escape isPathSafe (normalPath (pathPart path))
  query := (splitFirst (· == '?') (path.takeWhile (· != '#'))).2.map (escape isQuerySafe)
  fragment := (splitFirst (· == '#') path).2.map (escape isFragmentSafe)

theorem PlainHost.isControl_of_mem (h : PlainHost scheme name) {c : Char}
    (hc : c ∈ scheme ++ "://".toList ++ name) : isControl c = false := by
  rw [List.mem_append, List.mem_append] at hc
  obtain (hc | hc) | hc := hc
  · exact isControl_of_isSchemeChar (h.scheme c hc)
  · exact Text.forall_of_all (by decide : "://".toList.all (isControl · = false) = true) c hc
  · exact isControl_of_isUnreserved (h.name c hc)

theorem eq_none_of_not_mem_introduced {mark : Char} {part : Option (List Char)}
    (h : mark ∉ introduced mark part) : part = none := by
  cases part with
  | none => rfl
  | some cs => exact absurd List.mem_cons_self h

theorem below_query_eq_none_iff (hfragment : '#' ∉ path) :
    (below scheme name path).query = none ↔ '?' ∉ path := by
  have noFragment : path.takeWhile (· != '#') = path :=
    List.takeWhile_eq_self_iff.2 fun c hc => bne_iff_ne.2 fun h => hfragment (h ▸ hc)
  rw [below, noFragment, Option.map_eq_none_iff, splitFirst_snd_eq_none_iff]
  simp only [beq_eq_false_iff_ne, ne_eq]
  exact ⟨fun h hc => h _ hc rfl, fun h c hc heq => h (heq ▸ hc)⟩

theorem below_fragment_eq_none_iff : (below scheme name path).fragment = none ↔ '#' ∉ path := by
  rw [below, Option.map_eq_none_iff, splitFirst_snd_eq_none_iff]
  simp only [beq_eq_false_iff_ne, ne_eq]
  exact ⟨fun h hc => h _ hc rfl, fun h c hc heq => h (heq ▸ hc)⟩

/-- Whether a path is its own normal form and needs no escapes. -/
structure IsSettled (path : List Char) : Prop where
  rooted : path.head? = some '/'
  safe : path.all isPathSafe = true
  normal : normalPath path = path

namespace PlainHost

/-- When a path below a plain host can be read, and as what. -/
theorem parse_eq_ok_iff (h : PlainHost scheme name) (hpath : path.head? = some '/')
    {u : Url} : parse (scheme ++ "://".toList ++ name ++ path) = .ok u ↔
      (((scheme ++ "://".toList ++ name ++ path).length ≤ maxLength ∧
        ∀ c ∈ path, isControl c = false) ∧ NumbersFine name) ∧ u = below scheme name path := by
  have control : control? 0 (scheme ++ "://".toList ++ name ++ path) = none ↔
      ∀ c ∈ path, isControl c = false := by
    rw [control?_eq_none_iff, List.forall_mem_append]
    exact ⟨fun hall => hall.2, fun hall => ⟨fun c => h.isControl_of_mem, hall⟩⟩
  rw [← control]
  have shape : scheme ++ "://".toList ++ name ++ path =
      scheme ++ ':' :: '/' :: '/' :: (name ++ path) := by
    simp
  rw [shape, parse]
  by_cases hlong : maxLength < (scheme ++ ':' :: '/' :: '/' :: (name ++ path)).length
  · rw [if_pos hlong]
    exact ⟨nofun, fun hu => absurd hlong (Nat.not_lt.2 hu.1.1.1)⟩
  rw [if_neg hlong]
  cases hcontrol : control? 0 (scheme ++ ':' :: '/' :: '/' :: (name ++ path)) with
  | some fault => exact ⟨nofun, fun hu => nomatch hu.1.1.2⟩
  | none =>
      obtain ⟨c, cs, hscheme, _⟩ := h.exists_cons
      have hasScheme : (!scheme.isEmpty) = true := by rw [hscheme]; rfl
      have hasHost : (!(name.map Char.toLower).isEmpty) = true := by rw [h.isEmpty_lower]; rfl
      have rooted : checkPath (pathPart path) true true = .ok () := by
        unfold checkPath
        rw [if_pos rfl, head?_pathPart hpath]
        exact if_pos (Bool.or_true _)
      simp only [h.splitScheme, h.splitAuthority hpath, h.splitUserinfo, h.splitHost,
        splitFirst_fst]
      rw [bind_eq_ok_iff_of fun _ => h.encodeHost_eq_ok_iff, hasScheme, hasHost]
      change _ ∧ (do checkPath (pathPart path) true true; pure (below scheme name path)) = .ok u ↔ _
      rw [rooted]
      change _ ∧ pure (below scheme name path) = Except.ok u ↔ _
      rw [pure_eq_ok_iff, and_iff_left trivial, and_iff_right (Nat.not_lt.1 hlong)]

theorem target_below (h : PlainHost scheme name) :
    (below scheme name path).target = below scheme name path := by
  obtain ⟨c, cs, rfl, _⟩ := h.exists_cons
  have hasHost : (!(name.map Char.toLower).isEmpty) = true := by rw [h.isEmpty_lower]; rfl
  exact if_pos hasHost

theorem text_below (h : PlainHost scheme name) :
    (below scheme name path).text =
      (scheme ++ "://".toList ++ name).map Char.toLower ++
        ((below scheme name path).path ++ (introduced '?' (below scheme name path).query ++
          introduced '#' (below scheme name path).fragment)) := by
  obtain ⟨c, cs, rfl, _⟩ := h.exists_cons
  have noColon : ¬(name.map Char.toLower).contains ':' = true := by
    rw [List.contains_iff_mem, List.mem_map]
    rintro ⟨d, hd, hcolon⟩
    exact toLower_ne_colon (h.name d hd) hcolon
  have authority : (below (c :: cs) name path).authority = name.map Char.toLower := by
    rw [Url.authority]
    change [] ++ ((if (name.map Char.toLower).contains ':' = true then _ else _) ++ []) = _
    rw [if_neg noColon, List.append_nil]
    rfl
  rw [text, authority, if_neg (Bool.eq_false_iff.1 h.isEmpty_lower)]
  simp [below]

/-- A settled path below a plain host is asked for as it is. -/
theorem target_text (h : PlainHost scheme name) (hpath : IsSettled path) {u : Url}
    (hu : parse (scheme ++ "://".toList ++ name ++ path) = .ok u) :
    u.target.text = (scheme ++ "://".toList ++ name).map Char.toLower ++ path := by
  have safe : ∀ c ∈ path, isPathSafe c = true := List.all_eq_true.1 hpath.safe
  have noQuery : '?' ∉ path := fun hc => absurd (safe _ hc) (by decide)
  have noFragment : '#' ∉ path := fun hc => absurd (safe _ hc) (by decide)
  obtain ⟨-, rfl⟩ := (h.parse_eq_ok_iff hpath.rooted).1 hu
  have whole : (below scheme name path).path = path := by
    rw [below, pathPart_eq_self noQuery noFragment, hpath.normal]
    exact escape_of_forall safe
  rw [h.target_below, h.text_below, (below_query_eq_none_iff noFragment).2 noQuery,
    below_fragment_eq_none_iff.2 noFragment, whole]
  simp [introduced]

/-- What has neither a query nor a fragment was made of a path without their marks. -/
theorem not_mem_of_text_below (h : PlainHost scheme name) {rest : List Char}
    (htext : (below scheme name path).text =
      (scheme ++ "://".toList ++ name).map Char.toLower ++ rest)
    (hquery : '?' ∉ rest) (hfragment : '#' ∉ rest) : '?' ∉ path ∧ '#' ∉ path := by
  rw [h.text_below] at htext
  have hrest := List.append_cancel_left htext
  have fragment : (below scheme name path).fragment = none :=
    eq_none_of_not_mem_introduced fun hmem =>
      hfragment (hrest ▸ List.mem_append_right _ (List.mem_append_right _ hmem))
  have query : (below scheme name path).query = none :=
    eq_none_of_not_mem_introduced fun hmem =>
      hquery (hrest ▸ List.mem_append_right _ (List.mem_append_left _ hmem))
  have noFragment := below_fragment_eq_none_iff.1 fragment
  exact ⟨(below_query_eq_none_iff noFragment).1 query, noFragment⟩

end PlainHost

end Transcoding.Url
