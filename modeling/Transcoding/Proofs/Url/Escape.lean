import Transcoding.Proofs.Text.Utf8
import Transcoding.Service.Route
import Transcoding.Url

/-!
Percent escapes written and read. Escaping leaves the escapes of a text as they are, so whoever
reads the result gets what the escapes of the text itself stand for: the text if and only if it has
none.
-/

namespace Transcoding.Url

open Service Text

/-- Whether a text has something in it that reads as an escape. -/
def HasEscape (cs : List Char) : Prop :=
  ∃ a b, isHex a = true ∧ isHex b = true ∧ ['%', a, b] <:+: cs

/-- Whether a text begins with two hexadecimal digits. -/
def hexAhead : List Char → Bool
  | a :: b :: _ => isHex a && isHex b
  | _ => false

theorem not_hasEscape_nil : ¬HasEscape [] := by
  rintro ⟨a, b, -, -, h⟩
  cases List.infix_nil.1 h

theorem hasEscape_cons_iff {c : Char} {rest : List Char} :
    HasEscape (c :: rest) ↔ (c = '%' ∧ hexAhead rest = true) ∨ HasEscape rest := by
  simp only [HasEscape, List.infix_cons_iff, List.cons_prefix_cons]
  constructor
  · rintro ⟨a, b, ha, hb, ⟨hc, h⟩ | h⟩
    · obtain ⟨tail, rfl⟩ := h
      exact .inl ⟨hc.symm, by simp [hexAhead, ha, hb]⟩
    · exact .inr ⟨a, b, ha, hb, h⟩
  · rintro (⟨rfl, h⟩ | ⟨a, b, ha, hb, h⟩)
    · match rest, h with
      | a :: b :: tail, h =>
          rw [hexAhead, Bool.and_eq_true] at h
          exact ⟨a, b, h.1, h.2, .inl ⟨rfl, tail, rfl⟩⟩
    · exact ⟨a, b, ha, hb, .inr h⟩

instance decidableHasEscape : (cs : List Char) → Decidable (HasEscape cs)
  | [] => .isFalse not_hasEscape_nil
  | _ :: rest =>
      have := decidableHasEscape rest
      decidable_of_iff _ hasEscape_cons_iff.symm

theorem isSome_hexWorth? (c : Char) : (hexWorth? c).isSome = isHex c := by
  simp only [hexWorth?, isHex, isDecimal]
  split
  · next h => simp [h]
  · next h =>
      split
      · next h' => simp [h']
      · next h' =>
          split
          · next h'' => simp [h'']
          · next h'' => simp [h, h', h'']

theorem unescapedBytes_escaped {a b : Char} {x y : Nat} (ha : hexWorth? a = some x)
    (hb : hexWorth? b = some y) (rest : List Char) :
    unescapedBytes ('%' :: a :: b :: rest) = (x * 16 + y).toUInt8 :: unescapedBytes rest := by
  rw [unescapedBytes, ha, hb]

theorem unescapedBytes_cons {c : Char} {rest : List Char} (h : c = '%' → hexAhead rest = false) :
    unescapedBytes (c :: rest) = utf8Bytes c ++ unescapedBytes rest := by
  rw [unescapedBytes.eq_def]
  split
  · next a b tail heq =>
      cases heq
      have noEscape := h rfl
      rw [hexAhead, ← isSome_hexWorth?, ← isSome_hexWorth?] at noEscape
      split
      · next x y hx hy => simp [hx, hy] at noEscape
      · rfl
  · next heq => cases heq; rfl
  · next heq => cases heq

theorem hexAhead_eq_false {a b : Char} {rest : List Char}
    (h : ∀ x y, hexWorth? a = some x → hexWorth? b = some y → False) :
    hexAhead (a :: b :: rest) = false := by
  rw [hexAhead, ← isSome_hexWorth?, ← isSome_hexWorth?]
  cases ha : hexWorth? a with
  | none => rfl
  | some x =>
      cases hb : hexWorth? b with
      | none => rfl
      | some y => exact (h x y ha hb).elim

/-- A text is a run of escapes and of characters that begin none. -/
theorem escapes_induction {motive : List Char → Prop} (nil : motive [])
    (escaped : ∀ a b x y rest, hexWorth? a = some x → hexWorth? b = some y → motive rest →
      motive ('%' :: a :: b :: rest))
    (plain : ∀ c rest, (c = '%' → hexAhead rest = false) → motive rest → motive (c :: rest))
    (cs : List Char) : motive cs := by
  induction cs using unescapedBytes.induct with
  | case1 a b rest x y hy hx ih => exact escaped a b x y rest hx hy ih
  | case2 a b rest other ih => exact plain '%' _ (fun _ => hexAhead_eq_false other) ih
  | case3 c rest short ih =>
      refine plain c rest (fun hc => ?_) ih
      match rest with
      | [] | [_] => rfl
      | a :: b :: tail => exact (short a b tail hc rfl).elim
  | case4 => exact nil

theorem unescapedBytes_of_not_hasEscape {cs : List Char} (h : ¬HasEscape cs) :
    unescapedBytes cs = toUtf8 cs := by
  induction cs using escapes_induction with
  | nil => rfl
  | escaped a b x y rest hx hy ih =>
      refine absurd ⟨a, b, ?_, ?_, [], rest, rfl⟩ h
      · rw [← isSome_hexWorth?, hx, Option.isSome_some]
      · rw [← isSome_hexWorth?, hy, Option.isSome_some]
  | plain c rest hc ih =>
      have further : ¬HasEscape rest := fun hr => h (hasEscape_cons_iff.2 (.inr hr))
      rw [unescapedBytes_cons hc, ih further, toUtf8, toUtf8, List.flatMap_cons]

/-- Of an escape at most one character is left. -/
theorem length_flush_unescapedBytes {s : Utf8State} (hs : s.Sound) (cs : List Char) :
    ((unescapedBytes cs).foldl utf8Step s).flush.length ≤ s.flush.length + cs.length ∧
      (HasEscape cs →
        ((unescapedBytes cs).foldl utf8Step s).flush.length < s.flush.length + cs.length) := by
  induction cs using escapes_induction generalizing s with
  | nil => exact ⟨Nat.le_refl _, fun h => absurd h not_hasEscape_nil⟩
  | escaped a b x y rest hx hy ih =>
      have first := length_flush_utf8Step_le s (x * 16 + y).toUInt8
      have others := (ih (sound_utf8Step s (x * 16 + y).toUInt8)).1
      rw [unescapedBytes_escaped hx hy, List.foldl_cons]
      simp only [List.length_cons]
      exact ⟨by omega, fun _ => by omega⟩
  | plain c rest hc ih =>
      obtain ⟨le, lt⟩ := ih (Utf8State.sound_none (c :: s.flush))
      rw [Utf8State.flush_none, List.length_cons] at le lt
      rw [unescapedBytes_cons hc, List.foldl_append, foldl_utf8Bytes c hs]
      simp only [List.length_cons]
      refine ⟨by omega, fun h => ?_⟩
      obtain ⟨rfl, ahead⟩ | h := hasEscape_cons_iff.1 h
      · rw [hc rfl] at ahead
        cases ahead
      · have := lt h
        omega

/-- Reading escapes leaves a text as it is if and only if there are none. -/
theorem unescape_eq_self_iff {cs : List Char} : unescape cs = cs ↔ ¬HasEscape cs := by
  constructor
  · intro same h
    have shorter := (length_flush_unescapedBytes (Utf8State.sound_none []) cs).2 h
    rw [unescape, ofUtf8_eq] at same
    have length := congrArg List.length same
    rw [List.length_reverse] at length
    rw [length, Utf8State.flush_none, List.length_nil, Nat.zero_add] at shorter
    exact Nat.lt_irrefl _ shorter
  · intro h
    rw [unescape, unescapedBytes_of_not_hasEscape h, ofUtf8_toUtf8]

/-- What it takes of characters that are not escaped for escapes to stay as they are. -/
structure KeepsEscapes (safe : Char → Bool) : Prop where
  percent : safe '%' = true
  hex : ∀ c, isHex c = true → safe c = true

theorem escape_append (safe : Char → Bool) (cs ds : List Char) :
    escape safe (cs ++ ds) = escape safe cs ++ escape safe ds :=
  List.flatMap_append

theorem escape_cons_of_safe {safe : Char → Bool} {c : Char} (h : safe c = true) (cs : List Char) :
    escape safe (c :: cs) = c :: escape safe cs := by
  rw [escape, List.flatMap_cons, if_pos h, ← escape]
  rfl

theorem escape_of_forall {safe : Char → Bool} {cs : List Char} (h : ∀ c ∈ cs, safe c = true) :
    escape safe cs = cs := by
  induction cs with
  | nil => rfl
  | cons c cs ih =>
      obtain ⟨hc, hcs⟩ := List.forall_mem_cons.1 h
      rw [escape_cons_of_safe hc, ih hcs]

theorem escape_cons_of_not_safe {safe : Char → Bool} {c : Char} (h : ¬safe c = true)
    (cs : List Char) :
    escape safe (c :: cs) = (utf8Bytes c).flatMap escapeByte ++ escape safe cs := by
  rw [escape, List.flatMap_cons, if_neg h, ← escape]

theorem exists_hexDigits (b : UInt8) :
    ∃ x y c d, escapeByte b = ['%', c, d] ∧ hexWorth? c = some x ∧ hexWorth? d = some y ∧
      (x * 16 + y).toUInt8 = b := by
  have digit : ∀ n < 16, hexWorth? (hexDigit n).toUpper = some n := by decide
  have hb : b.toNat < 256 := b.toNat_lt
  refine ⟨_, _, _, _, rfl, digit _ (Nat.mod_lt _ (by decide)),
    digit _ (Nat.mod_lt _ (by decide)), ?_⟩
  have worth : b.toNat / Nat.pow 16 1 % 16 * 16 + b.toNat / Nat.pow 16 0 % 16 = b.toNat := by
    simp only [Nat.pow_eq, Nat.pow_one, Nat.pow_zero]
    omega
  rw [worth]
  exact UInt8.ofNat_toNat

theorem unescapedBytes_flatMap_escapeByte (bs : List UInt8) (rest : List Char) :
    unescapedBytes (bs.flatMap escapeByte ++ rest) = bs ++ unescapedBytes rest := by
  induction bs with
  | nil => rfl
  | cons b bs ih =>
      obtain ⟨x, y, c, d, hb, hc, hd, worth⟩ := exists_hexDigits b
      rw [List.flatMap_cons, hb, List.append_assoc]
      change unescapedBytes ('%' :: c :: d :: (bs.flatMap escapeByte ++ rest)) = _
      rw [unescapedBytes_escaped hc hd, worth, ih]
      rfl

theorem exists_escape_cons_of_not_safe {safe : Char → Bool} {c : Char} (h : ¬safe c = true)
    (cs : List Char) : ∃ tail, escape safe (c :: cs) = '%' :: tail := by
  rw [escape_cons_of_not_safe h]
  have nonempty : ∃ b bs, utf8Bytes c = b :: bs := by
    rw [utf8Bytes]
    repeat' split
    all_goals exact ⟨_, _, rfl⟩
  obtain ⟨b, bs, hbs⟩ := nonempty
  obtain ⟨_, _, x, y, hb, _⟩ := exists_hexDigits b
  rw [hbs, List.flatMap_cons, hb]
  exact ⟨_, rfl⟩

theorem escape_ne_nil {safe : Char → Bool} {cs : List Char} (h : cs ≠ []) :
    escape safe cs ≠ [] := by
  cases cs with
  | nil => exact absurd rfl h
  | cons c cs =>
      by_cases hc : safe c = true
      · rw [escape_cons_of_safe hc]
        exact List.cons_ne_nil _ _
      · obtain ⟨tail, htail⟩ := exists_escape_cons_of_not_safe hc cs
        rw [htail]
        exact List.cons_ne_nil _ _

theorem mem_escape {safe : Char → Bool} {cs : List Char} {c : Char} (h : c ∈ escape safe cs) :
    (c ∈ cs ∧ safe c = true) ∨ c = '%' ∨ isHex c = true := by
  rw [escape, List.mem_flatMap] at h
  obtain ⟨d, hd, h⟩ := h
  split at h
  · next hsafe =>
      obtain rfl := List.mem_singleton.1 h
      exact .inl ⟨hd, hsafe⟩
  · obtain ⟨b, -, hc⟩ := List.mem_flatMap.1 h
    obtain ⟨x, y, first, second, hb, hx, hy, -⟩ := exists_hexDigits b
    rw [hb, List.mem_cons, List.mem_cons, List.mem_singleton] at hc
    obtain rfl | rfl | rfl := hc
    · exact .inr (.inl rfl)
    · exact .inr (.inr (by rw [← isSome_hexWorth?, hx, Option.isSome_some]))
    · exact .inr (.inr (by rw [← isSome_hexWorth?, hy, Option.isSome_some]))

/-- What stands neither in a text unescaped nor in an escape is not in what is written. -/
theorem not_mem_escape {safe : Char → Bool} {cs : List Char} {c : Char}
    (h : c ∈ cs → safe c = false) (hpercent : c ≠ '%') (hhex : isHex c = false) :
    c ∉ escape safe cs := by
  intro hc
  obtain ⟨hmem, hsafe⟩ | hp | hx := mem_escape hc
  · rw [h hmem] at hsafe
    cases hsafe
  · exact hpercent hp
  · rw [hhex] at hx
    cases hx

theorem hexAhead_escape {safe : Char → Bool} (keeps : KeepsEscapes safe) (cs : List Char) :
    hexAhead (escape safe cs) = hexAhead cs := by
  -- A hexadecimal digit stays, and what does not stay turns into something that is none.
  have first (c : Char) (cs : List Char) :
      (escape safe (c :: cs)).head?.any isHex = isHex c ∧
        (isHex c = true → escape safe (c :: cs) = c :: escape safe cs) := by
    by_cases hc : safe c = true
    · rw [escape_cons_of_safe hc]
      exact ⟨rfl, fun _ => rfl⟩
    · obtain ⟨tail, htail⟩ := exists_escape_cons_of_not_safe hc cs
      have notHex : isHex c = false := Bool.eq_false_iff.2 fun h => hc (keeps.hex c h)
      rw [htail, notHex]
      exact ⟨rfl, nofun⟩
  have ahead (ds : List Char) :
      hexAhead ds = (ds.head?.any isHex && ds.tail.head?.any isHex) := by
    match ds with
    | [] => rfl
    | [c] => exact (Bool.and_false _).symm
    | c :: d :: ds => rfl
  match cs with
  | [] => rfl
  | [c] =>
      rw [ahead, (first c []).1]
      cases hc : isHex c with
      | false => rfl
      | true => rw [(first c []).2 hc]; rfl
  | c :: d :: cs =>
      rw [ahead, (first c _).1, hexAhead]
      cases hc : isHex c with
      | false => rfl
      | true => rw [(first c _).2 hc, List.tail_cons, (first d cs).1]

theorem unescapedBytes_escape {safe : Char → Bool} (keeps : KeepsEscapes safe) (cs : List Char) :
    unescapedBytes (escape safe cs) = unescapedBytes cs := by
  induction cs using escapes_induction with
  | nil => rfl
  | escaped a b x y rest hx hy ih =>
      have safeDigit {c : Char} {n : Nat} (h : hexWorth? c = some n) : safe c = true :=
        keeps.hex c (by rw [← isSome_hexWorth?, h, Option.isSome_some])
      rw [escape_cons_of_safe keeps.percent, escape_cons_of_safe (safeDigit hx),
        escape_cons_of_safe (safeDigit hy), unescapedBytes_escaped hx hy,
        unescapedBytes_escaped hx hy, ih]
  | plain c rest hc ih =>
      rw [unescapedBytes_cons hc]
      by_cases hsafe : safe c = true
      · rw [escape_cons_of_safe hsafe,
          unescapedBytes_cons (fun h => by rw [hexAhead_escape keeps, hc h]), ih]
      · rw [escape_cons_of_not_safe hsafe, unescapedBytes_flatMap_escapeByte, ih]

/-- Who reads a text with escapes that was escaped itself reads the text. -/
theorem unescape_escape {safe : Char → Bool} (keeps : KeepsEscapes safe) (cs : List Char) :
    unescape (escape safe cs) = unescape cs := by
  rw [unescape, unescapedBytes_escape keeps, unescape]

/-- If escapes are escaped too, all of a text can be read back. -/
theorem unescape_escape_of_percent {safe : Char → Bool} (h : safe '%' = false) (cs : List Char) :
    unescape (escape safe cs) = cs := by
  have bytes : unescapedBytes (escape safe cs) = toUtf8 cs := by
    induction cs with
    | nil => rfl
    | cons c cs ih =>
        rw [toUtf8, List.flatMap_cons, ← toUtf8, ← ih]
        by_cases hc : safe c = true
        · rw [escape_cons_of_safe hc]
          refine unescapedBytes_cons ?_
          rintro rfl
          rw [h] at hc
          cases hc
        · rw [escape_cons_of_not_safe hc, unescapedBytes_flatMap_escapeByte]
  rw [unescape, bytes, ofUtf8_toUtf8]

end Transcoding.Url
