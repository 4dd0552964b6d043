/-!
# UTF-8

Reading characters out of bytes that need not be well formed. A byte sequence is split into
characters and faults, where a fault is the longest run of bytes that begins a character and does
not complete one, or a single byte that begins none. From this one reading come both the strict
decoding, which refuses any fault, and the lossy one, which writes U+FFFD for each.
-/

namespace EventIntake.Text.Utf8

/-- A character of which some bytes have been read. -/
structure Unfinished where
  /-- the bits read so far -/
  bits : Nat
  /-- how many continuation bytes are still owed -/
  owed : Nat
  /-- the least value the next byte may have -/
  low : UInt8
  /-- the greatest value the next byte may have -/
  high : UInt8

/-- What the first byte of a character says about the rest of it. -/
inductive Lead where
  /-- the byte is a character -/
  | whole (c : Char)
  /-- continuation bytes follow -/
  | begins (u : Unfinished)
  /-- no character begins with this byte -/
  | none

/-- Reads the first byte of a character. The bounds on the second byte leave out overlong forms,
surrogates and what lies past U+10FFFF. -/
def lead (b : UInt8) : Lead :=
  if b < 0x80 then .whole (Char.ofNat b.toNat)
  else if b < 0xC2 then .none
  else if b < 0xE0 then .begins ⟨b.toNat - 0xC0, 1, 0x80, 0xBF⟩
  else if b < 0xF0 then
    .begins ⟨b.toNat - 0xE0, 2, if b == 0xE0 then 0xA0 else 0x80, if b == 0xED then 0x9F else 0xBF⟩
  else if b < 0xF5 then
    .begins ⟨b.toNat - 0xF0, 3, if b == 0xF0 then 0x90 else 0x80, if b == 0xF4 then 0x8F else 0xBF⟩
  else .none

/-- What has been read of a byte sequence: the characters and faults so far, last first, and the
character that is begun, if one is. -/
structure Progress where
  /-- the characters and faults so far, last first; a fault is `none` -/
  done : List (Option Char)
  /-- the character that is begun -/
  pending : Option Unfinished

/-- Reads a byte that begins a character. -/
def Progress.start (done : List (Option Char)) (b : UInt8) : Progress :=
  match lead b with
  | .whole c => ⟨some c :: done, none⟩
  | .begins u => ⟨done, some u⟩
  | .none => ⟨none :: done, none⟩

/-- Reads one byte more. A byte that does not continue the begun character is a fault of that
character, and begins the next. -/
def Progress.next (p : Progress) (b : UInt8) : Progress :=
  match p.pending with
  | none => .start p.done b
  | some u =>
    if u.low ≤ b ∧ b ≤ u.high then
      let bits := u.bits * 64 + (b.toNat - 0x80)
      if u.owed ≤ 1 then ⟨some (Char.ofNat bits) :: p.done, none⟩
      else ⟨p.done, some ⟨bits, u.owed - 1, 0x80, 0xBF⟩⟩
    else .start (none :: p.done) b

/-- The characters and faults in order, when no byte follows. -/
def Progress.finish (p : Progress) : List (Option Char) :=
  match p.pending with
  | none => p.done.reverse
  | some _ => (none :: p.done).reverse

/-- The characters and faults of a byte sequence. -/
def read (bs : List UInt8) : List (Option Char) :=
  (bs.foldl Progress.next ⟨[], none⟩).finish

/-- The characters, if there is no fault. -/
def decode? (bs : List UInt8) : Option (List Char) :=
  (read bs).mapM id

/-- The characters, with U+FFFD for each fault. -/
def decodeLossy (bs : List UInt8) : List Char :=
  (read bs).map (·.getD '\uFFFD')

/-- The bytes of one character. -/
def encodeChar (c : Char) : List UInt8 :=
  let n := c.toNat
  if n < 0x80 then [n.toUInt8]
  else if n < 0x800 then [(0xC0 + n / 64).toUInt8, (0x80 + n % 64).toUInt8]
  else if n < 0x10000 then
    [(0xE0 + n / 4096).toUInt8, (0x80 + n / 64 % 64).toUInt8, (0x80 + n % 64).toUInt8]
  else
    [(0xF0 + n / 262144).toUInt8, (0x80 + n / 4096 % 64).toUInt8, (0x80 + n / 64 % 64).toUInt8,
      (0x80 + n % 64).toUInt8]

/-- The bytes of a text. -/
def encode (cs : List Char) : List UInt8 :=
  cs.flatMap encodeChar

/-- How many bytes a text takes. -/
def size (cs : List Char) : Nat :=
  cs.foldr (fun c n => c.utf8Size + n) 0

/-- Adds the characters of a text to `taken`, which holds them last first, as long as they fit into
`limit` bytes. -/
def takeOnto (taken : List Char) (limit : Nat) : List Char → List Char
  | [] => taken.reverse
  | c :: cs =>
    if c.utf8Size ≤ limit then takeOnto (c :: taken) (limit - c.utf8Size) cs else taken.reverse

/-- The longest beginning of a text that takes at most `limit` bytes. -/
def takeBytes (limit : Nat) (cs : List Char) : List Char :=
  takeOnto [] limit cs

/-! ## Beginnings of texts -/

/-- What is taken comes after what was taken before. -/
theorem takeOnto_eq (taken : List Char) (limit : Nat) (cs : List Char) :
    takeOnto taken limit cs = taken.reverse ++ takeBytes limit cs := by
  rw [takeBytes]
  induction cs generalizing taken limit with
  | nil => exact (List.append_nil _).symm
  | cons c cs ih =>
    rw [takeOnto, takeOnto]
    split
    · rw [ih (c :: taken), ih [c], List.reverse_cons, List.reverse_singleton, List.append_assoc]
    · exact (List.append_nil _).symm

theorem takeBytes_nil (limit : Nat) : takeBytes limit [] = [] := rfl

theorem takeBytes_cons (limit : Nat) (c : Char) (cs : List Char) :
    takeBytes limit (c :: cs) =
      if c.utf8Size ≤ limit then c :: takeBytes (limit - c.utf8Size) cs else [] := by
  rw [takeBytes, takeOnto, takeOnto_eq [c]]
  rfl

/-- Of a text that follows another, nothing is taken before the other is taken as a whole. -/
theorem takeBytes_append (limit : Nat) (cs ds : List Char) :
    takeBytes limit (cs ++ ds) =
      if size cs ≤ limit then cs ++ takeBytes (limit - size cs) ds else takeBytes limit cs := by
  induction cs generalizing limit with
  | nil => rfl
  | cons c cs ih =>
    have hsize : size (c :: cs) = c.utf8Size + size cs := rfl
    rw [List.cons_append, takeBytes_cons, takeBytes_cons, ih, hsize]
    by_cases hc : c.utf8Size ≤ limit
    · rw [if_pos hc, if_pos hc, Nat.sub_add_eq]
      by_cases hcs : size cs ≤ limit - c.utf8Size
      · rw [if_pos hcs, if_pos (by omega)]
        rfl
      · rw [if_neg hcs, if_neg (by omega)]
    · rw [if_neg hc, if_neg hc, if_neg (by omega)]

/-- A text that is not too long is taken as a whole. -/
theorem takeBytes_of_size_le {limit : Nat} {cs : List Char} (h : size cs ≤ limit) :
    takeBytes limit cs = cs := by
  have hall := takeBytes_append limit cs []
  rwa [if_pos h, takeBytes_nil, List.append_nil] at hall

end EventIntake.Text.Utf8
