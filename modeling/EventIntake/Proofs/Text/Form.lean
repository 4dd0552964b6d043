import EventIntake.Proofs.Lists
import EventIntake.Proofs.Text.ByteOrder
import EventIntake.Text.Form

/-!
# Forms of plain characters

An ASCII character that is neither a plus sign nor a percent sign stands for itself in a form
(`decode_literal`). Names and values of such characters, with no separator among them, are read from a
form as they were written, in their order and with all repetitions (`pairs_intercalate`).
-/

namespace EventIntake.Text

/-! ## Bytes -/

namespace Utf8

theorem encodeChar_ascii {c : Char} (h : c.toNat < 128) : encodeChar c = [c.toNat.toUInt8] :=
  if_pos h

/-- The bytes of a text of ASCII characters are their codes, one for each. -/
theorem encode_ascii {cs : List Char} (h : ∀ c ∈ cs, c.toNat < 128) :
    encode cs = cs.map (·.toNat.toUInt8) := by
  induction cs with
  | nil => rfl
  | cons c cs ih =>
    rw [List.forall_mem_cons] at h
    rw [encode_cons, encodeChar_ascii h.1, ih h.2, List.map_cons, List.singleton_append]

theorem foldl_next_ascii {bs : List UInt8} (h : ∀ b ∈ bs, b < 128) (done : List (Option Char)) :
    bs.foldl Progress.next ⟨done, none⟩ =
      ⟨(bs.map fun b => some (Char.ofNat b.toNat)).reverse ++ done, none⟩ := by
  induction bs generalizing done with
  | nil => rfl
  | cons b bs ih =>
    rw [List.forall_mem_cons] at h
    have hnext : Progress.next ⟨done, none⟩ b = ⟨some (Char.ofNat b.toNat) :: done, none⟩ := by
      simp only [Progress.next, Progress.start, lead]
      rw [if_pos h.1]
    rw [List.foldl_cons, hnext, ih h.2, List.map_cons, List.reverse_cons, List.append_assoc,
      List.singleton_append]

/-- Bytes of ASCII are read as the characters with their numbers, and none of them is replaced. -/
theorem decodeLossy_ascii {bs : List UInt8} (h : ∀ b ∈ bs, b < 128) :
    decodeLossy bs = bs.map fun b => Char.ofNat b.toNat := by
  rw [decodeLossy, read, foldl_next_ascii h, Progress.finish]
  simp

/-- ASCII text is read back from its bytes. -/
theorem decodeLossy_encode_ascii {cs : List Char} (h : ∀ c ∈ cs, c.toNat < 128) :
    decodeLossy (encode cs) = cs := by
  have hvalue {c : Char} (hc : c ∈ cs) : c.toNat.toUInt8.toNat = c.toNat :=
    UInt8.toNat_ofNat_of_lt' (Nat.lt_trans (h c hc) (by decide))
  have hbytes : ∀ b ∈ cs.map (·.toNat.toUInt8), b < 128 := by
    intro b hb
    obtain ⟨c, hc, rfl⟩ := List.mem_map.mp hb
    rw [UInt8.lt_iff_toNat_lt, hvalue hc]
    exact h c hc
  rw [encode_ascii h, decodeLossy_ascii hbytes, List.map_map]
  refine (List.map_congr_left fun c hc => ?_).trans (List.map_id cs)
  rw [Function.comp_apply, hvalue hc, Char.ofNat_toNat, id]

end Utf8

namespace Form

/-- Bytes without a percent sign are decoded to themselves. -/
theorem percentDecode_plain {bs : List UInt8} (h : ∀ b ∈ bs, b ≠ 37) : percentDecode bs = bs := by
  fun_induction percentDecode bs with
  | case1 | case2 => exact absurd rfl (h 37 List.mem_cons_self)
  | case3 b rest _ ih => rw [ih (List.forall_mem_cons.mp h).2]
  | case4 => rfl

/-! ## Names and values -/

/-- A character that stands for itself in a form. -/
structure IsLiteral (c : Char) : Prop where
  ascii : c.toNat < 128
  ne_plus : c ≠ '+'
  ne_percent : c ≠ '%'
  ne_ampersand : c ≠ '&'
  ne_equals : c ≠ '='

/-- A text of literal characters is read as it is written. -/
theorem decode_literal {cs : List Char} (h : ∀ c ∈ cs, IsLiteral c) : decode cs = cs := by
  have hplus : cs.map (fun c => if c = '+' then ' ' else c) = cs :=
    (List.map_congr_left fun c hc => if_neg (h c hc).ne_plus).trans (List.map_id cs)
  have hpercent : ∀ b ∈ Utf8.encode cs, b ≠ 37 := by
    rw [Utf8.encode_ascii fun c hc => (h c hc).ascii]
    rintro b hb rfl
    obtain ⟨c, hc, hbyte⟩ := List.mem_map.mp hb
    have hvalue : c.toNat.toUInt8.toNat = c.toNat :=
      UInt8.toNat_ofNat_of_lt' (Nat.lt_trans (h c hc).ascii (by decide))
    rw [hbyte] at hvalue
    exact (h c hc).ne_percent (Char.toNat_inj.mp hvalue.symm)
  rw [decode, hplus, percentDecode_plain hpercent,
    Utf8.decodeLossy_encode_ascii fun c hc => (h c hc).ascii]

/-- A pair is split where its equality sign was written. -/
theorem splitPair_append {name : List Char} (h : '=' ∉ name) (value : List Char) :
    splitPair (name ++ '=' :: value) = (name, value) := by
  rw [splitPair, dropWhile_bne_append h, takeWhile_bne_append h]

/-- A name and a value as they are written in a form. -/
def pairText (pair : List Char × List Char) : List Char :=
  pair.1 ++ '=' :: pair.2

/-- Names and values that stand for themselves are read as they were written. -/
theorem pairs_intercalate {ps : List (List Char × List Char)}
    (h : ∀ pair ∈ ps, (∀ c ∈ pair.1, IsLiteral c) ∧ ∀ c ∈ pair.2, IsLiteral c) :
    pairs (['&'].intercalate (ps.map pairText)) = ps := by
  cases ps with
  | nil => rfl
  | cons p rest =>
    have hne : (p :: rest).map pairText ≠ [] := List.cons_ne_nil _ _
    have hseparator : ∀ piece ∈ (p :: rest).map pairText, '&' ∉ piece := by
      intro piece hpiece hmem
      obtain ⟨pair, hpair, rfl⟩ := List.mem_map.mp hpiece
      rcases List.mem_append.mp hmem with hmem | hmem
      · exact ((h pair hpair).1 _ hmem).ne_ampersand rfl
      · rcases List.mem_cons.mp hmem with heq | hmem
        · exact absurd heq (by decide)
        · exact ((h pair hpair).2 _ hmem).ne_ampersand rfl
    have hkept : ∀ piece ∈ (p :: rest).map pairText, (!piece.isEmpty) = true := by
      intro piece hpiece
      obtain ⟨pair, -, rfl⟩ := List.mem_map.mp hpiece
      simp [pairText]
    rw [pairs, List.splitOn_intercalate '&' hseparator hne, List.filter_eq_self.mpr hkept,
      List.map_map]
    refine (List.map_congr_left fun pair hpair => ?_).trans (List.map_id _)
    have hname : '=' ∉ pair.1 := fun hmem => ((h pair hpair).1 _ hmem).ne_equals rfl
    rw [Function.comp_apply, pairText, splitPair_append hname]
    exact Prod.ext (decode_literal (h pair hpair).1) (decode_literal (h pair hpair).2)

end Form

end EventIntake.Text
