import EventIntake.Access.PublicKey
import Mathlib.Data.List.SplitLengths

/-!
# The spellings of a key

A text is read as a key exactly if it is 32 hexadecimal digits in either case, plain or with hyphens
between groups of 8, 4, 4, 4 and 12 (`exists_parse_iff`). What is read is the digits, so two such texts
give the same key exactly if they agree without their hyphens and in lower case (`eq_iff_bare_eq`). The
text of a key is one of its spellings (`parse_text`), so keys are told apart by their texts
(`text_inj`).
-/

namespace EventIntake

/-! ## Digits -/

namespace HexDigit

variable {c : Char} {d e : HexDigit} {cs : List Char} {ds : List HexDigit}

/-- A hexadecimal digit in either case. -/
def IsHex (c : Char) : Prop :=
  ('0' ≤ c ∧ c ≤ '9') ∨ ('a' ≤ c ∧ c ≤ 'f') ∨ ('A' ≤ c ∧ c ≤ 'F')

instance (c : Char) : Decidable (IsHex c) :=
  inferInstanceAs (Decidable (_ ∨ _))

theorem isHex_iff_toNat :
    IsHex c ↔ (48 ≤ c.toNat ∧ c.toNat ≤ 57) ∨ (97 ≤ c.toNat ∧ c.toNat ≤ 102) ∨
      (65 ≤ c.toNat ∧ c.toNat ≤ 70) := by
  simp only [IsHex, Char.le_def, UInt32.le_iff_toNat_le]
  rfl

/-- The hexadecimal digits are the characters that stand for a digit. -/
theorem isHex_iff : IsHex c ↔ ∃ d, ofChar? c = some d := by
  rw [isHex_iff_toNat, ← Option.isSome_iff_exists, ofChar?]
  split_ifs <;> simp <;> omega

theorem toNat_toChar (d : HexDigit) :
    d.toChar.toNat = if d.val < 10 then 48 + d.val else 87 + d.val := by
  revert d
  decide

theorem toNat_toLower (c : Char) :
    c.toLower.toNat = if 65 ≤ c.toNat ∧ c.toNat ≤ 90 then c.toNat + 32 else c.toNat := by
  have hupper : (c.val ≥ 'A'.val ∧ c.val ≤ 'Z'.val) ↔ 65 ≤ c.toNat ∧ c.toNat ≤ 90 := by
    rw [ge_iff_le, UInt32.le_iff_toNat_le, UInt32.le_iff_toNat_le]
    rfl
  by_cases h : c.val ≥ 'A'.val ∧ c.val ≤ 'Z'.val
  · have hlower : c.toLower.val = c.val + ('a'.val - 'A'.val) := congrArg Char.val (dif_pos h)
    have hcode : c.toNat + 32 < UInt32.size := by
      have hle := (hupper.mp h).2
      rw [UInt32.size]
      omega
    rw [if_pos (hupper.mp h), Char.toNat, hlower, UInt32.toNat_add]
    exact Nat.mod_eq_of_lt hcode
  · have hsame : c.toLower = c := dif_neg h
    rw [if_neg fun hcode => h (hupper.mpr hcode), hsame]

/-- A character stands for the digit that it is in lower case. -/
theorem ofChar?_eq_some_iff : ofChar? c = some d ↔ c.toLower = d.toChar := by
  have hdigit := d.isLt
  rw [← Char.toNat_inj, toNat_toLower, toNat_toChar, ofChar?]
  split_ifs <;> simp only [Option.some.injEq, Fin.ext_iff, false_iff] <;> omega

theorem toLower_toChar (d : HexDigit) : d.toChar.toLower = d.toChar := by
  revert d
  decide

/-- Different digits are written differently. -/
theorem toChar_inj : d.toChar = e.toChar ↔ d = e := by
  refine ⟨fun h => ?_, congrArg toChar⟩
  have hd := ofChar?_eq_some_iff.mpr (toLower_toChar d)
  have he := ofChar?_eq_some_iff.mpr (toLower_toChar e)
  exact Option.some.inj (hd.symm.trans (h ▸ he))

theorem map_toChar_inj {ds es : List HexDigit} : ds.map toChar = es.map toChar ↔ ds = es :=
  List.map_inj_right fun _ _ => toChar_inj.mp

theorem mapM_ofChar?_cons :
    (c :: cs).mapM ofChar? = some ds ↔
      ∃ d rest, ofChar? c = some d ∧ cs.mapM ofChar? = some rest ∧ ds = d :: rest := by
  rw [List.mapM_cons]
  simp only [Option.bind_eq_bind, Option.bind_eq_some_iff, Option.pure_def, Option.some.injEq,
    exists_and_left, eq_comm (a := ds)]

/-- Characters stand for the digits that they are in lower case. -/
theorem mapM_ofChar?_eq_some_iff :
    cs.mapM ofChar? = some ds ↔ cs.map Char.toLower = ds.map toChar := by
  induction cs generalizing ds with
  | nil =>
    rw [List.mapM_nil, List.map_nil, eq_comm (a := []), List.map_eq_nil_iff]
    simp [eq_comm]
  | cons c cs ih =>
    rw [mapM_ofChar?_cons, List.map_cons, eq_comm, List.map_eq_cons_iff]
    simp only [ofChar?_eq_some_iff, ih]
    grind

/-- A text is one of hexadecimal digits exactly if all of it is read as digits. -/
theorem forall_isHex_iff : (∀ c ∈ cs, IsHex c) ↔ ∃ ds, cs.mapM ofChar? = some ds := by
  induction cs with
  | nil => simp
  | cons c cs ih =>
    rw [List.forall_mem_cons, isHex_iff, ih]
    simp only [mapM_ofChar?_cons]
    constructor
    · rintro ⟨⟨d, hd⟩, ds, hds⟩
      exact ⟨d :: ds, d, ds, hd, hds, rfl⟩
    · rintro ⟨-, d, ds, hd, hds, -⟩
      exact ⟨⟨d, hd⟩, ds, hds⟩

theorem IsHex.ascii (h : IsHex c) : c.toNat < 128 := by
  rw [isHex_iff_toNat] at h
  omega

theorem IsHex.ne_hyphen (h : IsHex c) : c ≠ '-' := by
  rintro rfl
  revert h
  decide

end HexDigit

/-! ## Groups -/

namespace PublicKey

open HexDigit

variable {n : Nat} {ns : List Nat} {s t : String} {cs ds : List Char} {parts : List (List Char)}
  {k l : PublicKey}

/-- Cutting a text at the lengths of its parts and joining them with hyphens gives the parts joined
with hyphens. -/
theorem hyphenate_flatten (parts : List (List Char)) :
    hyphenate (parts.map List.length) parts.flatten = ['-'].intercalate parts := by
  induction parts with
  | nil => rfl
  | cons part rest ih =>
    cases rest with
    | nil => simp [hyphenate]
    | cons next rest =>
      rw [List.intercalate_cons_cons, ← ih]
      simp [hyphenate]

/-- Before the last group, a hyphen has to follow the characters of the group, whatever characters
those are. -/
theorem unhyphenate?_cons_eq_some_iff (hns : ns ≠ []) :
    unhyphenate? (n :: ns) cs = some ds ↔
      ∃ part rest ds', cs = part ++ '-' :: rest ∧ part.length = n ∧
        unhyphenate? ns rest = some ds' ∧ ds = part ++ ds' := by
  obtain ⟨m, ns, rfl⟩ := List.exists_cons_of_ne_nil hns
  simp only [unhyphenate?]
  constructor
  · intro h
    split at h
    next rest hdrop =>
      obtain ⟨ds', hrest, rfl⟩ := Option.map_eq_some_iff.mp h
      have hsplit : cs = cs.take n ++ '-' :: rest := by rw [← hdrop, List.take_append_drop]
      have hlength : (cs.take n).length = n := by
        have hpos := congrArg List.length hdrop
        rw [List.length_drop, List.length_cons] at hpos
        rw [List.length_take]
        omega
      exact ⟨cs.take n, rest, ds', hsplit, hlength, hrest, rfl⟩
    next => cases h
  · rintro ⟨part, rest, ds', rfl, rfl, hrest, rfl⟩
    rw [List.drop_left, List.take_left]
    exact Option.map_eq_some_iff.mpr ⟨ds', hrest, rfl⟩

/-- As many characters as the groups have together are what is left of groups between which there
are hyphens. -/
theorem unhyphenate?_eq_some_iff (hns : ns ≠ []) :
    unhyphenate? ns cs = some ds ∧ ds.length = ns.foldr (· + ·) 0 ↔
      ∃ parts : List (List Char), parts.map List.length = ns ∧
        cs = ['-'].intercalate parts ∧ ds = parts.flatten := by
  induction ns generalizing cs ds with
  | nil => exact absurd rfl hns
  | cons n ns ih =>
    cases ns with
    | nil =>
      simp only [unhyphenate?, List.map_eq_singleton_iff]
      constructor
      · rintro ⟨hds, hlength⟩
        obtain rfl := Option.some.inj hds
        exact ⟨[cs], ⟨cs, rfl, by simpa using hlength⟩, by simp, by simp⟩
      · rintro ⟨_, ⟨part, rfl, rfl⟩, rfl, rfl⟩
        simp
    | cons m ns =>
      rw [unhyphenate?_cons_eq_some_iff (List.cons_ne_nil m ns)]
      constructor
      · rintro ⟨⟨part, rest, ds', rfl, rfl, hrest, rfl⟩, hlength⟩
        rw [List.length_append, List.foldr_cons] at hlength
        obtain ⟨parts, hparts, rfl, rfl⟩ :=
          (ih (List.cons_ne_nil m ns)).mp ⟨hrest, Nat.add_left_cancel hlength⟩
        obtain ⟨next, parts, rfl, -⟩ := List.map_eq_cons_iff.mp hparts
        refine ⟨part :: next :: parts, ?_, ?_, ?_⟩
        · rw [List.map_cons, hparts]
        · rw [List.intercalate_cons_cons, List.append_assoc, List.singleton_append]
        · exact List.flatten_cons.symm
      · rintro ⟨parts, hparts, rfl, rfl⟩
        obtain ⟨part, parts, rfl, rfl, hrest⟩ := List.map_eq_cons_iff.mp hparts
        obtain ⟨next, parts, rfl, -⟩ := List.map_eq_cons_iff.mp hrest
        obtain ⟨hread, hlength⟩ := (ih (List.cons_ne_nil m ns)).mpr ⟨_, hrest, rfl, rfl⟩
        refine ⟨⟨part, _, _, ?_, rfl, hread, rfl⟩, ?_⟩
        · rw [List.intercalate_cons_cons, List.append_assoc, List.singleton_append]
        · rw [List.flatten_cons, List.length_append, hlength]
          exact List.foldr_cons.symm

theorem length_intercalate_hyphen (hparts : parts ≠ []) :
    (['-'].intercalate parts).length + 1 = parts.flatten.length + parts.length := by
  induction parts with
  | nil => exact absurd rfl hparts
  | cons part rest ih =>
    cases rest with
    | nil => simp
    | cons next rest =>
      have hrest := ih (List.cons_ne_nil next rest)
      rw [List.intercalate_cons_cons, List.flatten_cons]
      simp only [List.length_append, List.length_cons, List.length_nil] at hrest ⊢
      omega

/-- Without the hyphens, the parts are what they were, since none of them has a hyphen in it. -/
theorem filter_intercalate_hyphen (h : ∀ part ∈ parts, '-' ∉ part) :
    (['-'].intercalate parts).filter (· != '-') = parts.flatten := by
  have hkeep {part : List Char} (hpart : '-' ∉ part) : part.filter (· != '-') = part :=
    List.filter_eq_self.mpr fun c hc => bne_iff_ne.mpr fun heq => hpart (heq ▸ hc)
  induction parts with
  | nil => rfl
  | cons part rest ih =>
    rw [List.forall_mem_cons] at h
    cases rest with
    | nil => simpa using hkeep h.1
    | cons next rest =>
      rw [List.intercalate_cons_cons, List.filter_append, List.filter_append, hkeep h.1, ih h.2]
      simp

/-! ## Spellings -/

/-- How 32 digits stand in a text. -/
inductive Arranged : List Char → List Char → Prop
  /-- without hyphens -/
  | plain {ds : List Char} (h : ds.length = 32) : Arranged ds ds
  /-- with hyphens between groups -/
  | grouped {parts : List (List Char)} (h : parts.map List.length = [8, 4, 4, 4, 12]) :
    Arranged (['-'].intercalate parts) parts.flatten

/-- The five groups have 32 digits, and with the hyphens between them 36 characters. So the number
of characters tells which of the spellings a text may be. -/
theorem length_grouped (h : parts.map List.length = [8, 4, 4, 4, 12]) :
    parts.flatten.length = 32 ∧ (['-'].intercalate parts).length = 36 := by
  have hflatten : parts.flatten.length = 32 := by
    rw [List.length_flatten, h]
    rfl
  have hfive : parts.length = 5 := by simpa using congrArg List.length h
  have hne : parts ≠ [] := by
    rintro rfl
    cases hfive
  have hjoined := length_intercalate_hyphen hne
  omega

/-- However it is arranged, a key has 32 digits. -/
theorem Arranged.length (h : Arranged cs ds) : ds.length = 32 := by
  cases h with
  | plain h => exact h
  | grouped h => exact (length_grouped h).1

/-- The digits are what is left of the text without hyphens. -/
theorem Arranged.filter (h : Arranged cs ds) (hhex : ∀ c ∈ ds, IsHex c) :
    cs.filter (· != '-') = ds := by
  cases h with
  | plain => exact List.filter_eq_self.mpr fun c hc => bne_iff_ne.mpr (hhex c hc).ne_hyphen
  | grouped =>
    refine filter_intercalate_hyphen fun part hpart hmem => ?_
    exact (hhex '-' (List.mem_flatten.mpr ⟨part, hpart, hmem⟩)).ne_hyphen rfl

/-- A text of ASCII characters has as many bytes as characters. -/
theorem utf8ByteSize_ascii (h : ∀ c ∈ cs, c.toNat < 128) :
    (String.ofList cs).utf8ByteSize = cs.length := by
  induction cs with
  | nil => rfl
  | cons c cs ih =>
    rw [List.forall_mem_cons] at h
    have hone : c.utf8Size = 1 := Char.utf8Size_eq_one_iff.mpr (Nat.le_of_lt_succ h.1)
    rw [← List.singleton_append, String.ofList_append, String.utf8ByteSize_append, ih h.2]
    simp [hone, Nat.add_comm]

/-- What a text is read as, with the sizes that are asked for. -/
theorem parse_eq_some_iff_of_sizes :
    parse s = some k ↔
      ∃ ds, (s.utf8ByteSize = 32 ∧ s.toList = ds ∨
          s.utf8ByteSize = 36 ∧ unhyphenate? groups s.toList = some ds) ∧
        ds.mapM ofChar? = some k.digits := by
  have hdigits {digits : List HexDigit} : ofDigits? digits = some k ↔ digits = k.digits := by
    rw [ofDigits?]
    split
    next h => rw [Option.some.injEq, PublicKey.mk.injEq]
    next h => exact ⟨nofun, fun heq => absurd (heq ▸ k.length_eq) h⟩
  rw [parse]
  split_ifs with hplain hgrouped
  · simp [hplain, Option.bind_eq_some_iff, hdigits]
  · simp [hgrouped, Option.bind_eq_some_iff, hdigits]
  · simp [hplain, hgrouped]

/-- A text is read as the digits that stand in it, in lower case. The reader goes by the size in
bytes, which for digits and hyphens is the number of characters. -/
theorem parse_eq_some_iff :
    parse s = some k ↔
      ∃ ds, Arranged s.toList ds ∧ ds.map Char.toLower = k.digits.map toChar := by
  rw [parse_eq_some_iff_of_sizes]
  constructor
  · rintro ⟨ds, hsize, hread⟩
    have hdigits := mapM_ofChar?_eq_some_iff.mp hread
    have hlength : ds.length = 32 := by
      simpa [k.length_eq] using congrArg List.length hdigits
    refine ⟨ds, ?_, hdigits⟩
    rcases hsize with ⟨-, rfl⟩ | ⟨-, hgroups⟩
    · exact .plain hlength
    · obtain ⟨parts, hparts, htext, rfl⟩ :=
        (unhyphenate?_eq_some_iff (by decide)).mp ⟨hgroups, hlength⟩
      rw [htext]
      exact .grouped hparts
  · rintro ⟨ds, harranged, hdigits⟩
    have hread := mapM_ofChar?_eq_some_iff.mpr hdigits
    have hhex := forall_isHex_iff.mpr ⟨_, hread⟩
    have hascii : ∀ c ∈ s.toList, c.toNat < 128 := by
      intro c hc
      by_cases hhyphen : c = '-'
      · subst hhyphen
        decide
      · refine (hhex c ?_).ascii
        rw [← harranged.filter hhex]
        exact List.mem_filter.mpr ⟨hc, bne_iff_ne.mpr hhyphen⟩
    have hsize : s.utf8ByteSize = s.toList.length := by
      rw [← utf8ByteSize_ascii hascii, String.ofList_toList]
    refine ⟨ds, ?_, hread⟩
    generalize s.toList = cs at harranged hsize
    cases harranged with
    | plain h => exact .inl ⟨hsize.trans h, rfl⟩
    | grouped h =>
      have htaken := (unhyphenate?_eq_some_iff (by decide)).mpr ⟨_, h, rfl, rfl⟩
      exact .inr ⟨hsize.trans (length_grouped h).2, htaken.1⟩

/-- The texts that are read are the spellings of 32 hexadecimal digits: with hyphens between the
groups or without any, and in either case of letters. -/
theorem exists_parse_iff :
    (∃ k, parse s = some k) ↔ ∃ ds, Arranged s.toList ds ∧ ∀ c ∈ ds, IsHex c := by
  constructor
  · rintro ⟨k, hk⟩
    obtain ⟨ds, harranged, hdigits⟩ := parse_eq_some_iff.mp hk
    exact ⟨ds, harranged, forall_isHex_iff.mpr ⟨_, mapM_ofChar?_eq_some_iff.mpr hdigits⟩⟩
  · rintro ⟨ds, harranged, hhex⟩
    obtain ⟨digits, hread⟩ := forall_isHex_iff.mp hhex
    have hdigits := mapM_ofChar?_eq_some_iff.mp hread
    have hlength : digits.length = 32 := by
      rw [← List.length_map (f := toChar), ← hdigits, List.length_map, harranged.length]
    exact ⟨⟨digits, hlength⟩, parse_eq_some_iff.mpr ⟨ds, harranged, hdigits⟩⟩

/-- What is left of a text without hyphens and in lower case. -/
def bare (s : String) : List Char :=
  (s.toList.filter (· != '-')).map Char.toLower

/-- Without hyphens and in lower case, a spelling of a key is its digits. -/
theorem bare_of_parse (h : parse s = some k) : bare s = k.digits.map toChar := by
  obtain ⟨ds, harranged, hdigits⟩ := parse_eq_some_iff.mp h
  have hhex := forall_isHex_iff.mpr ⟨_, mapM_ofChar?_eq_some_iff.mpr hdigits⟩
  rw [bare, harranged.filter hhex, hdigits]

/-- Spellings are of the same key exactly if they agree without hyphens and in lower case. -/
theorem eq_iff_bare_eq (hs : parse s = some k) (ht : parse t = some l) :
    k = l ↔ bare s = bare t := by
  rw [bare_of_parse hs, bare_of_parse ht, map_toChar_inj, PublicKey.mk.injEq]

/-- The digits of a key stand in its text in groups. -/
theorem arranged_text (k : PublicKey) : Arranged k.text.toList (k.digits.map toChar) := by
  have hlength : groups.sum = (k.digits.map toChar).length := by
    rw [List.length_map, k.length_eq]
    rfl
  have hgroups := List.map_splitLengths_length (k.digits.map toChar) groups hlength.le
  have hflatten := List.flatten_splitLengths (k.digits.map toChar) groups hlength.ge
  have htext : k.text.toList = ['-'].intercalate (groups.splitLengths (k.digits.map toChar)) := by
    rw [text, String.toList_ofList, ← hyphenate_flatten, hgroups, hflatten]
  have harranged := Arranged.grouped hgroups
  rwa [hflatten, ← htext] at harranged

/-- The text of a key is a spelling of it. -/
theorem parse_text (k : PublicKey) : parse k.text = some k := by
  refine parse_eq_some_iff.mpr ⟨_, arranged_text k, ?_⟩
  rw [List.map_map]
  exact List.map_congr_left fun d _ => toLower_toChar d

/-- Keys are told apart by their texts. -/
theorem text_inj : k.text = l.text ↔ k = l := by
  refine ⟨fun h => ?_, congrArg text⟩
  exact Option.some.inj ((parse_text k).symm.trans (h ▸ parse_text l))

end PublicKey

end EventIntake
