import EventIntake.Text.Utf8
import Mathlib.Tactic.SplitIfs

/-!
# The order of texts in bytes

Texts compare character by character. UTF-8 was made so that this is how their bytes compare: of two
different characters, the lesser one has a lesser byte at the first place where their bytes differ
(`encodeChar_append_lt`). So strings are in order if and only if their bytes are
(`lt_iff_encode_lt`).
-/

namespace EventIntake.Text.Utf8

/-- Numbers compare by all their base-64 digits but the last, and by the last if these are the same. -/
theorem lt_by_digits {m n : Nat} (h : m < n) :
    m / 64 < n / 64 ∨ m / 64 = n / 64 ∧ m % 64 < n % 64 := by
  omega

theorem toNat_lt (c : Char) : c.toNat < 0x110000 := by
  rcases c.valid with hc | ⟨-, hc⟩
  · exact Nat.lt_trans hc (by decide)
  · exact hc

/-- The bytes of different characters compare as the characters do, whatever follows them. -/
theorem encodeChar_append_lt {c d : Char} (h : c < d) (bs es : List UInt8) :
    encodeChar c ++ bs < encodeChar d ++ es := by
  have hlt : c.toNat < d.toNat := h
  have hd := toNat_lt d
  -- what the bytes hold are the digits of the character
  have hlast := lt_by_digits hlt
  have hthird := @lt_by_digits (c.toNat / 64) (d.toNat / 64)
  have hsecond := @lt_by_digits (c.toNat / 64 / 64) (d.toNat / 64 / 64)
  have hdigits (n : Nat) : n / 4096 = n / 64 / 64 ∧ n / 262144 = n / 64 / 64 / 64 := by
    simp only [Nat.div_div_eq_div_mul, and_self]
  have hbyte {n : Nat} (h : n < 256) : n.toUInt8.toNat = n := UInt8.toNat_ofNat_of_lt' h
  simp only [encodeChar, hdigits]
  split_ifs <;>
    simp (disch := omega) only [List.cons_append, List.nil_append, List.cons_lt_cons_iff,
      UInt8.lt_iff_toNat_lt, ← UInt8.toNat_inj, hbyte] <;>
    omega

theorem encode_cons (c : Char) (cs : List Char) : encode (c :: cs) = encodeChar c ++ encode cs :=
  List.flatMap_cons

/-- No character is written without bytes, so no text is written as the beginning of itself. -/
theorem encodeChar_ne_nil (c : Char) : encodeChar c ≠ [] := by
  simp only [encodeChar]
  split
  · exact List.cons_ne_nil _ _
  · split
    · exact List.cons_ne_nil _ _
    · split <;> exact List.cons_ne_nil _ _

/-- Texts that come one before the other are written in bytes that do, too. By induction, the first
characters that differ decide. -/
theorem encode_lt_encode {cs ds : List Char} (h : cs < ds) : encode cs < encode ds := by
  induction cs generalizing ds with
  | nil =>
    cases ds with
    | nil => exact absurd h (List.lt_irrefl [])
    | cons d ds =>
      rw [encode_cons]
      obtain ⟨b, bs, hb⟩ := List.exists_cons_of_ne_nil (encodeChar_ne_nil d)
      rw [hb]
      exact List.nil_lt_cons _ _
  | cons c cs ih =>
    cases ds with
    | nil => exact absurd h (List.not_lt_nil _)
    | cons d ds =>
      rw [encode_cons, encode_cons]
      rcases List.cons_lt_cons_iff.mp h with hcd | ⟨rfl, hrest⟩
      · exact encodeChar_append_lt hcd _ _
      · exact List.append_left_lt (ih hrest)

/-- No two texts come before each other in the order of their bytes. -/
instance asymm_encode_lt : Std.Asymm fun cs ds : List Char => encode cs < encode ds :=
  ⟨fun _ _ => List.lt_asymm⟩

/-- Strings are in order if and only if their bytes are. So the order of lexemes in a vector is byte
order, though strings are compared by characters. -/
theorem lt_iff_encode_lt {x y : String} : x < y ↔ encode x.toList < encode y.toList := by
  rw [String.lt_iff]
  constructor
  · exact encode_lt_encode
  · intro h
    rcases Std.lt_trichotomy x.toList y.toList with hlt | heq | hgt
    · exact hlt
    · rw [heq] at h
      exact absurd h (List.lt_irrefl _)
    · exact absurd h (List.lt_asymm (encode_lt_encode hgt))

end EventIntake.Text.Utf8
