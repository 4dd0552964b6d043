import EventIntake.Proofs.Text.ByteOrder

/-!
# Where characters end

Of the bytes of a text only some make a text again: those up to a place where a character ends. The
bytes tell where that is, for each character begins with a byte that does not continue one, and its
other bytes all do (`exists_bytesOf`). So the bytes can be cut behind any characters
(`sliceTo?_append`), the place of a character is found by counting (`truncateBytes?_encode`), and
the place of a blank by looking for its byte, which is part of no other character
(`lastBlank?_encode`).
-/

namespace EventIntake.Text.Utf8

variable {cs ds : List Char}

/-! ## The size of a text -/

theorem size_cons (c : Char) (cs : List Char) : size (c :: cs) = c.utf8Size + size cs := rfl

theorem size_append (cs ds : List Char) : size (cs ++ ds) = size cs + size ds := by
  induction cs with
  | nil => exact (Nat.zero_add _).symm
  | cons c cs ih => rw [List.cons_append, size_cons, size_cons, ih, Nat.add_assoc]

/-- No character takes more than four bytes. -/
theorem size_le_length (cs : List Char) : size cs ≤ 4 * cs.length := by
  induction cs with
  | nil => exact Nat.le_refl 0
  | cons c cs ih =>
    have hfour := c.utf8Size_le_four
    rw [size_cons, List.length_cons]
    omega

theorem size_le_of_sublist (h : cs.Sublist ds) : size cs ≤ size ds := by
  induction h with
  | slnil => exact Nat.le_refl 0
  | cons c _ ih => exact Nat.le_trans ih (Nat.le_add_left _ _)
  | cons_cons c _ ih => exact Nat.add_le_add_left ih _

/-- What is taken of a text is a beginning of it. -/
theorem takeBytes_prefix (limit : Nat) (cs : List Char) : takeBytes limit cs <+: cs := by
  induction cs generalizing limit with
  | nil => exact List.nil_prefix
  | cons c cs ih =>
    rw [takeBytes_cons]
    split
    · exact List.cons_prefix_cons.mpr ⟨rfl, ih _⟩
    · exact List.nil_prefix

/-- What is taken takes no more bytes than the limit, even where the limit is inside a character. -/
theorem size_takeBytes_le (limit : Nat) (cs : List Char) : size (takeBytes limit cs) ≤ limit := by
  induction cs generalizing limit with
  | nil => exact Nat.zero_le _
  | cons c cs ih =>
    rw [takeBytes_cons]
    split
    · have hrest := ih (limit - c.utf8Size)
      rw [size_cons]
      omega
    · exact Nat.zero_le _

/-! ## The bytes of a character -/

/-- Whether a byte continues a character that another byte has begun. -/
def continues (b : UInt8) : Bool :=
  0x80 ≤ b && b < 0xC0

theorem continues_toUInt8 {n : Nat} (h : n < 256) :
    continues n.toUInt8 = decide (128 ≤ n ∧ n < 192) := by
  rw [continues, ← Bool.decide_and, decide_eq_decide, UInt8.le_iff_toNat_le, UInt8.lt_iff_toNat_lt,
    UInt8.toNat_ofNat_of_lt' h]
  rfl

/-- How many bytes a character takes goes by its code. -/
theorem utf8Size_eq (c : Char) : c.utf8Size =
    if c.toNat < 0x80 then 1 else if c.toNat < 0x800 then 2 else if c.toNat < 0x10000 then 3
    else 4 := by
  have hle (n : Nat) (hn : n < UInt32.size) :
      (c.val ≤ UInt32.ofNatLT n hn) = (c.toNat < n + 1) := by
    rw [UInt32.le_iff_toNat_le, UInt32.toNat_ofNatLT, Nat.lt_succ_iff]
    rfl
  simp only [Char.utf8Size, hle, Nat.reduceAdd]

/-- What is known of the bytes of a character, the first one and the others. -/
structure BytesOf (c : Char) (first : UInt8) (more : List UInt8) : Prop where
  bytes : encodeChar c = first :: more
  /-- the first byte continues no character -/
  begins : continues first = false
  /-- all others do -/
  continued : ∀ b ∈ more, continues b = true
  length : more.length + 1 = c.utf8Size
  /-- if the first byte is an ASCII character, it is this one -/
  ascii : first < 0x80 → first.toNat = c.toNat

/-- A character has a first byte, and others that continue it. Only these can be told from the
beginning of a character. -/
theorem exists_bytesOf (c : Char) : ∃ first more, BytesOf c first more := by
  have hlt := toNat_lt c
  -- two bytes and more begin with one that says how many
  have hwide {n : Nat} {more : List UInt8} (hbytes : encodeChar c = n.toUInt8 :: more)
      (hlow : 192 ≤ n) (hhigh : n < 256) (hmore : ∀ b ∈ more, continues b = true)
      (hlength : more.length + 1 = c.utf8Size) : ∃ first more, BytesOf c first more := by
    refine ⟨_, _, hbytes, ?_, hmore, hlength, fun hascii => ?_⟩
    · rw [continues_toUInt8 hhigh]
      exact decide_eq_false (by omega)
    · rw [UInt8.lt_iff_toNat_lt, UInt8.toNat_ofNat_of_lt' hhigh] at hascii
      have hascii : n < 128 := hascii
      omega
  have hcontinued (n : Nat) : continues (0x80 + n % 64).toUInt8 = true := by
    rw [continues_toUInt8 (by omega)]
    exact decide_eq_true (by omega)
  have hsize := utf8Size_eq c
  have hbytes := encodeChar.eq_def c
  dsimp only at hbytes
  split_ifs at hsize hbytes with h1 h2 h3
  · have hfits : c.toNat < 256 := Nat.lt_trans h1 (by decide)
    refine ⟨_, _, hbytes, ?_, List.forall_mem_nil _, hsize.symm, fun _ =>
      UInt8.toNat_ofNat_of_lt' hfits⟩
    rw [continues_toUInt8 hfits]
    exact decide_eq_false (by omega)
  · refine hwide hbytes (by omega) (by omega) ?_ hsize.symm
    exact List.forall_mem_singleton.mpr (hcontinued _)
  · refine hwide hbytes (by omega) (by omega) ?_ hsize.symm
    simp only [List.forall_mem_cons, hcontinued, true_and]
    exact List.forall_mem_nil _
  · refine hwide hbytes (by omega) (by omega) ?_ hsize.symm
    simp only [List.forall_mem_cons, hcontinued, true_and]
    exact List.forall_mem_nil _

theorem length_encodeChar (c : Char) : (encodeChar c).length = c.utf8Size := by
  obtain ⟨first, more, hc⟩ := exists_bytesOf c
  rw [hc.bytes, List.length_cons, hc.length]

/-- The byte of a blank is part of no other character. -/
theorem eq_blank_of_mem {c : Char} (h : 0x20 ∈ encodeChar c) : c = ' ' := by
  obtain ⟨first, more, hc⟩ := exists_bytesOf c
  rw [hc.bytes] at h
  rcases List.mem_cons.mp h with rfl | h
  · exact Char.toNat_inj.mp (hc.ascii (by decide)).symm
  · exact absurd (hc.continued _ h) (by decide)

theorem encode_append (cs ds : List Char) : encode (cs ++ ds) = encode cs ++ encode ds :=
  List.flatMap_append

/-- The size of a text is the number of its bytes. -/
theorem length_encode (cs : List Char) : (encode cs).length = size cs := by
  induction cs with
  | nil => rfl
  | cons c cs ih => rw [encode_cons, List.length_append, length_encodeChar, ih, size_cons]

/-! ## Cutting bytes -/

/-- The first `n` bytes of a text, if they end where a character does. -/
def sliceTo? (n : Nat) (bs : List UInt8) : Option (List UInt8) :=
  if n ≤ bs.length ∧ (bs.drop n).head?.any continues = false then some (bs.take n) else none

/-- A text can be cut behind any of its characters. -/
theorem sliceTo?_append (cs ds : List Char) :
    sliceTo? (size cs) (encode (cs ++ ds)) = some (encode cs) := by
  rw [sliceTo?, encode_append, ← length_encode, List.drop_left, List.take_left, if_pos]
  refine ⟨by rw [List.length_append]; exact Nat.le_add_right _ _, ?_⟩
  cases ds with
  | nil => rfl
  | cons d ds =>
    obtain ⟨first, more, hd⟩ := exists_bytesOf d
    rw [encode_cons, hd.bytes]
    exact hd.begins

example : sliceTo? 2 (encode ['é', 'é']) = some (encode ['é']) ∧
    sliceTo? 3 (encode ['é', 'é']) = none := by
  decide

/-- The place of the byte that begins the character with this number, counted from zero. -/
def charStart? : Nat → List UInt8 → Option Nat
  | _, [] => none
  | n, b :: bs =>
    if continues b then (charStart? n bs).map (· + 1)
    else if n = 0 then some 0
    else (charStart? (n - 1) bs).map (· + 1)

/-- The bytes of the first `n` characters of a text. -/
def truncateBytes? (n : Nat) (bs : List UInt8) : Option (List UInt8) :=
  match charStart? n bs with
  | some place => sliceTo? place bs
  | none => some bs

/-- Bytes that continue a character are passed over in the search for the start of one. -/
theorem charStart?_append {more : List UInt8} (h : ∀ b ∈ more, continues b = true) (n : Nat)
    (bs : List UInt8) : charStart? n (more ++ bs) = (charStart? n bs).map (more.length + ·) := by
  induction more with
  | nil => simp
  | cons b more ih =>
    obtain ⟨hb, hmore⟩ := List.forall_mem_cons.mp h
    rw [List.cons_append, charStart?, if_pos hb, ih hmore, Option.map_map]
    refine congrFun (congrArg Option.map (funext fun k => ?_)) _
    simp only [Function.comp_apply, List.length_cons]
    omega

/-- In a written text, the start of a character is behind the bytes of the characters before it. -/
theorem charStart?_encode (n : Nat) (cs : List Char) :
    charStart? n (encode cs) = if n < cs.length then some (size (cs.take n)) else none := by
  induction cs generalizing n with
  | nil => rfl
  | cons c cs ih =>
    obtain ⟨first, more, hc⟩ := exists_bytesOf c
    rw [encode_cons, hc.bytes, List.cons_append, charStart?,
      if_neg (by rw [hc.begins]; exact Bool.false_ne_true)]
    cases n with
    | zero => rfl
    | succ n =>
      rw [if_neg (Nat.succ_ne_zero n), Nat.add_sub_cancel, charStart?_append hc.continued, ih,
        List.length_cons, List.take_succ_cons, size_cons, ← hc.length]
      by_cases hn : n < cs.length
      · rw [if_pos hn, if_pos (Nat.succ_lt_succ hn), Option.map_some, Option.map_some,
          Nat.add_right_comm]
      · rw [if_neg hn, if_neg (mt Nat.lt_of_succ_lt_succ hn), Option.map_none, Option.map_none]

/-- Cutting the bytes of a text behind some characters leaves the bytes of these. -/
theorem truncateBytes?_encode (n : Nat) (cs : List Char) :
    truncateBytes? n (encode cs) = some (encode (cs.take n)) := by
  rw [truncateBytes?, charStart?_encode]
  by_cases hn : n < cs.length
  · rw [if_pos hn]
    have hslice := sliceTo?_append (cs.take n) (cs.drop n)
    rwa [List.take_append_drop] at hslice
  · rw [if_neg hn, List.take_of_length_le (Nat.le_of_not_lt hn)]

/-! ## The last blank -/

/-- The place of the last blank among some bytes. -/
def lastBlank? : List UInt8 → Option Nat
  | [] => none
  | b :: bs => ((lastBlank? bs).map (· + 1)).or (if b = 0x20 then some 0 else none)

/-- There is no last blank where there is no blank at all. -/
theorem lastBlank?_eq_none {bs : List UInt8} (h : 0x20 ∉ bs) : lastBlank? bs = none := by
  induction bs with
  | nil => rfl
  | cons b bs ih =>
    obtain ⟨hb, hbs⟩ := List.ne_and_not_mem_of_not_mem_cons h
    rw [lastBlank?, ih hbs, if_neg (Ne.symm hb)]
    rfl

/-- The last blank is found where only other bytes come behind it. -/
theorem lastBlank?_append (as : List UInt8) {bs : List UInt8} (h : 0x20 ∉ bs) :
    lastBlank? (as ++ 0x20 :: bs) = some as.length := by
  induction as with
  | nil => rw [List.nil_append, lastBlank?, lastBlank?_eq_none h]; rfl
  | cons a as ih => rw [List.cons_append, lastBlank?, ih]; rfl

/-- If no blank is among the characters that fit, none is among the bytes. -/
theorem not_mem_take_encode {limit : Nat} (h : ' ' ∉ takeBytes limit cs) :
    0x20 ∉ (encode cs).take limit := by
  induction cs generalizing limit with
  | nil => simp [encode]
  | cons c cs ih =>
    rw [encode_cons, List.take_append, length_encodeChar, List.mem_append, not_or]
    rw [takeBytes_cons] at h
    split at h
    · obtain ⟨hc, hcs⟩ := List.ne_and_not_mem_of_not_mem_cons h
      exact ⟨fun hmem => hc (eq_blank_of_mem (List.mem_of_mem_take hmem)).symm, ih hcs⟩
    · rename_i hlarge
      refine ⟨fun hmem => ?_, by simp [Nat.sub_eq_zero_of_le (Nat.le_of_not_le hlarge)]⟩
      -- a blank that does not fit leaves no room for a byte
      obtain rfl := eq_blank_of_mem (List.mem_of_mem_take hmem)
      obtain rfl : limit = 0 := Nat.lt_one_iff.mp (Nat.lt_of_not_le hlarge)
      exact List.not_mem_nil hmem

/-- The last blank among the first bytes is the last one among the characters that fit. Where the
limit is inside a character, the bytes of that character are no blanks. -/
theorem lastBlank?_encode {limit : Nat} {before word : List Char}
    (h : takeBytes limit cs = before ++ ' ' :: word) (hword : ' ' ∉ word) :
    lastBlank? ((encode cs).take limit) = some (size before) := by
  obtain ⟨rest, rfl⟩ : ∃ rest, before ++ ' ' :: (word ++ rest) = cs := by
    obtain ⟨rest, hcs⟩ := takeBytes_prefix limit cs
    exact ⟨rest, by rw [← hcs, h, List.append_assoc, List.cons_append]⟩
  have hone : ' '.utf8Size = 1 := rfl
  obtain ⟨room, rfl⟩ : ∃ room, limit = size before + (room + 1) := by
    have hsize := size_takeBytes_le limit (before ++ ' ' :: (word ++ rest))
    rw [h, size_append, size_cons, hone] at hsize
    exact ⟨limit - size before - 1, by omega⟩
  -- the word is what still fits behind the blank
  have hfits : takeBytes room (word ++ rest) = word := by
    rw [takeBytes_append, if_pos (Nat.le_add_right _ _), Nat.add_sub_cancel_left, takeBytes_cons,
      hone, if_pos (Nat.le_add_left 1 room)] at h
    exact (List.cons.inj (List.append_cancel_left h)).2
  have hbytes : encode (before ++ ' ' :: (word ++ rest)) =
      encode before ++ 0x20 :: encode (word ++ rest) := by
    rw [encode_append, encode_cons]
    rfl
  rw [hbytes, ← length_encode, List.take_length_add_append, List.take_succ_cons,
    lastBlank?_append _ (not_mem_take_encode (by rwa [hfits]))]

end EventIntake.Text.Utf8
