import EventIntake.Proofs.SearchVector.WellFormed
import EventIntake.SearchVector.Parser
import EventIntake.SearchVector.Printer

/-!
# Reading what was written

A well-formed vector in writing is read back as it was, whatever characters its lexemes have, and
whatever can be read is well-formed. So writing is injective, and writing what was read gives a normal
form that reads and writes as itself.

Each reader is shown to stop where its part of the writing ends, for any continuation that cannot
belong to it: a closing quote is not followed by a quote (`scanQuoted_render`), a place not by a digit
(`scanPosition_render`), positions not by a comma (`scanPositions_render`), and an entry is followed by
a blank or by nothing (`scanEntry_render`).
-/

namespace EventIntake.SearchVector

open EventIntake.Text (isBlank trimLeft)

/-! ## Where an entry stops -/

/-- What follows can follow an entry: a blank comes, or nothing at all. -/
def Stops (cs : List Char) : Prop :=
  cs.head?.all isBlank = true

/-- A character that is not blank cannot come first in what follows an entry. -/
theorem Stops.ne_cons {cs rest : List Char} {c : Char} (h : Stops cs) (hc : isBlank c = false) :
    cs ≠ c :: rest := by
  rintro rfl
  have hb : isBlank c = true := h
  rw [hc] at hb
  cases hb

theorem isBlank_eq_false_of_isDigit {c : Char} (h : c.isDigit = true) : isBlank c = false := by
  simp only [Char.isDigit, Bool.and_eq_true, decide_eq_true_eq, ge_iff_le] at h
  have h1 : 48 ≤ c.toNat := h.1
  have h2 : c.toNat ≤ 57 := h.2
  simp only [isBlank, Bool.or_eq_false_iff, Bool.and_eq_false_iff, decide_eq_false_iff_not,
    beq_eq_false_iff_ne]
  omega

/-! ## Lexemes -/

theorem scanQuoted_cons {c : Char} (h1 : c ≠ '\\') (h2 : c ≠ '\x27') (taken rest : List Char) :
    scanQuoted taken (c :: rest) = scanQuoted (c :: taken) rest := by
  rw [scanQuoted]
  all_goals grind

/-- A quote that is not doubled ends the quoted lexeme. -/
theorem scanQuoted_quote {rest : List Char} (h : rest.head? ≠ some '\x27') (taken : List Char) :
    scanQuoted taken ('\x27' :: rest) = some (taken.reverse, rest) := by
  rw [scanQuoted]
  all_goals grind

/-- Quoted characters are read up to their closing quote. -/
theorem scanQuoted_render (cs taken : List Char) {rest : List Char}
    (h : rest.head? ≠ some '\x27') :
    scanQuoted taken (cs.flatMap renderQuotedChar ++ '\x27' :: rest) =
      some (taken.reverse ++ cs, rest) := by
  induction cs generalizing taken with
  | nil =>
    rw [List.flatMap_nil, List.nil_append, scanQuoted_quote h, List.append_nil]
  | cons c cs ih =>
    -- a quote or a backslash is written twice and read once
    have hread : scanQuoted taken (renderQuotedChar c ++ (cs.flatMap renderQuotedChar ++
        '\x27' :: rest)) = scanQuoted (c :: taken) (cs.flatMap renderQuotedChar ++
        '\x27' :: rest) := by
      by_cases hq : c = '\x27'
      · subst hq
        rfl
      · by_cases hb : c = '\\'
        · subst hb
          rfl
        · rw [renderQuotedChar, if_neg (not_or.mpr ⟨hq, hb⟩)]
          exact scanQuoted_cons hb hq _ _
    rw [List.flatMap_cons, List.append_assoc, hread, ih]
    simp

/-! ## Positions -/

/-- The place of some digits is their value, as far as there are places. -/
theorem placeOf_eq_min (cs : List Char) : placeOf cs = min (Nat.ofDigitChars 10 cs 0) maxPlace := by
  have hfold : ∀ (cs : List Char) (a : Nat),
      cs.foldl (fun n c => min (n * 10 + (c.toNat - '0'.toNat)) maxPlace) (min a maxPlace) =
        min (Nat.ofDigitChars 10 cs a) maxPlace := by
    intro cs
    induction cs with
    | nil =>
      intro a
      rw [List.foldl_nil, Nat.ofDigitChars_nil]
    | cons c cs ih =>
      intro a
      rw [List.foldl_cons, Nat.ofDigitChars_cons, ← ih]
      congr 1
      simp only [maxPlace]
      omega
  exact hfold cs 0

/-- A place in the range is read back from its digits. Only beyond the range do digits say something
else than the place that is taken. -/
theorem placeOf_toDigits {n : Nat} (h : n ≤ maxPlace) : placeOf (Nat.toDigits 10 n) = n := by
  rw [placeOf_eq_min, Nat.ofDigitChars_ten_toDigits, Nat.min_eq_left h]

/-- What follows cannot belong to a position: neither a digit comes nor the letter of a weight. -/
def EndsPosition (cs : List Char) : Prop :=
  ∀ c, cs.head? = some c → c.isDigit = false ∧ weight? c = none

theorem EndsPosition.comma (cs : List Char) : EndsPosition (',' :: cs) := by
  intro c hc
  obtain rfl := Option.some.inj hc
  exact ⟨rfl, rfl⟩

/-- No blank is the letter of a weight, so a position may end before a blank. -/
theorem weight?_eq_none_of_isBlank {c : Char} (h : isBlank c = true) : weight? c = none := by
  unfold weight?
  split <;> first | rfl | exact absurd h (by decide)

theorem Stops.endsPosition {cs : List Char} (h : Stops cs) : EndsPosition cs := by
  intro c hc
  have hb : isBlank c = true := by
    rw [Stops, hc] at h
    exact h
  refine ⟨?_, weight?_eq_none_of_isBlank hb⟩
  rcases hd : c.isDigit with _ | _
  · rfl
  · rw [isBlank_eq_false_of_isDigit hd] at hb
    cases hb

/-- A reader of digits stops where none comes. -/
theorem span_digits {ds rest : List Char} (hds : ∀ c ∈ ds, c.isDigit = true)
    (hrest : ∀ c, rest.head? = some c → c.isDigit = false) :
    (ds ++ rest).takeWhile Char.isDigit = ds ∧ (ds ++ rest).dropWhile Char.isDigit = rest := by
  rw [List.takeWhile_append_of_pos hds, List.dropWhile_append_of_pos hds]
  cases rest with
  | nil => exact ⟨List.append_nil ds, rfl⟩
  | cons c rest =>
    have hc : ¬c.isDigit = true := by rw [hrest c rfl]; exact Bool.false_ne_true
    rw [List.takeWhile_cons_of_neg hc, List.dropWhile_cons_of_neg hc, List.append_nil]
    exact ⟨rfl, rfl⟩

/-- A weight is read back from its letter, which cannot be taken for a digit of the place. -/
theorem weight?_letter? {w : Weight} {c : Char} (h : w.letter? = some c) :
    weight? c = some w ∧ c.isDigit = false := by
  cases w with
  | d => cases h
  | _ => obtain rfl := Option.some.inj h; exact ⟨rfl, rfl⟩

/-- A position is read back from its writing. The weight that is not written is the one that is
taken where there is no letter. -/
theorem scanPosition_render {p : Position} (h1 : 1 ≤ p.place) (h2 : p.place ≤ maxPlace)
    {rest : List Char} (hrest : EndsPosition rest) :
    scanPosition (p.render ++ rest) = some (p, rest) := by
  have hplace : ¬placeOf (Nat.toDigits 10 p.place) = 0 := by rw [placeOf_toDigits h2]; omega
  -- the digits end at the letter or, where there is none, at what follows the position
  have hstop : ∀ c, (p.weight.letter?.toList ++ rest).head? = some c → c.isDigit = false := by
    intro c hc
    rcases hw : p.weight.letter? with _ | d
    · rw [hw] at hc
      exact (hrest c hc).1
    · rw [hw] at hc
      obtain rfl := Option.some.inj hc
      exact (weight?_letter? hw).2
  have hdigits : ∀ c ∈ Nat.toDigits 10 p.place, c.isDigit = true := fun _ hc =>
    Nat.isDigit_of_mem_toDigits (by decide) (by decide) hc
  obtain ⟨htake, hdrop⟩ := span_digits hdigits hstop
  rw [Position.render, List.append_assoc, scanPosition, htake, hdrop, if_neg hplace,
    placeOf_toDigits h2, Position.ofPlace_eq h1 h2]
  rcases hw : p.weight.letter? with _ | c
  · -- the weakest weight has no letter
    have hd : p.weight = .d := by
      rcases hpw : p.weight <;> rw [hpw] at hw <;> first | rfl | cases hw
    rcases rest with _ | ⟨c, rest⟩
    · rw [← hd]
      rfl
    · simp only [Option.toList_none, List.nil_append, (hrest c rfl).2]
      rw [← hd]
  · simp only [Option.toList_some, List.cons_append, List.nil_append, (weight?_letter? hw).1]
    exact congrArg some (by rw [Position.ofPlace_eq h1 h2])

/-- One more position after a comma. -/
theorem scanPositions_comma {cs rest : List Char} {p : Position} (taken : List Position)
    (h : scanPosition cs = some (p, ',' :: rest)) :
    scanPositions taken cs = scanPositions (p :: taken) rest := by
  rw [scanPositions]
  split
  · rename_i hnone
    rw [hnone] at h
    cases h
  · rename_i q rest' hsome
    rw [hsome] at h
    obtain ⟨rfl, hrest⟩ := Prod.mk.inj (Option.some.inj h)
    rw [List.tail_eq_of_cons_eq hrest]
  · rename_i q rest' hno hsome
    rw [hsome] at h
    obtain ⟨rfl, rfl⟩ := Prod.mk.inj (Option.some.inj h)
    exact absurd rfl (hno rest)

/-- No more positions without a comma. -/
theorem scanPositions_end {cs rest : List Char} {p : Position} (taken : List Position)
    (h : scanPosition cs = some (p, rest)) (hrest : Stops rest) :
    scanPositions taken cs = some ((p :: taken).reverse, rest) := by
  rw [scanPositions]
  split
  · rename_i hnone
    rw [hnone] at h
    cases h
  · rename_i q rest' hsome
    rw [hsome] at h
    obtain ⟨-, hcomma⟩ := Prod.mk.inj (Option.some.inj h)
    exact absurd hcomma.symm (hrest.ne_cons (by decide))
  · rename_i q rest' _ hsome
    rw [hsome] at h
    obtain ⟨rfl, rfl⟩ := Prod.mk.inj (Option.some.inj h)
    rfl

/-- Positions are read back from their writing. -/
theorem scanPositions_render {p : Position} {ps taken : List Position} {rest : List Char}
    (hps : InRange (p :: ps)) (hrest : Stops rest) :
    scanPositions taken (p.render ++ (ps.flatMap (fun q => ',' :: q.render) ++ rest)) =
      some (taken.reverse ++ p :: ps, rest) := by
  -- a position is read before it is known whether a comma follows, so the first stands apart
  induction ps generalizing p taken with
  | nil =>
    obtain ⟨h1, h2⟩ := hps p List.mem_cons_self
    rw [List.flatMap_nil, List.nil_append,
      scanPositions_end taken (scanPosition_render h1 h2 hrest.endsPosition) hrest,
      List.reverse_cons]
  | cons q ps ih =>
    obtain ⟨h1, h2⟩ := hps p List.mem_cons_self
    rw [List.flatMap_cons, List.cons_append, List.cons_append, List.append_assoc,
      scanPositions_comma taken (scanPosition_render h1 h2 (EndsPosition.comma _)),
      ih fun r hr => hps r (List.mem_cons_of_mem p hr)]
    simp

/-- The positions of an entry are read back from what is printed behind its lexeme, whatever entry
follows. -/
theorem scanSuffix_render {ps : List Position} {rest : List Char} (lexeme : String)
    (hps : InRange ps) (hrest : Stops rest) :
    scanSuffix lexeme (Entry.renderPositions ps ++ rest) = .ok (ps, rest) := by
  cases ps with
  | nil =>
    rw [Entry.renderPositions, List.nil_append, scanSuffix]
    exact fun rest' hcolon => hrest.ne_cons (by decide) hcolon
  | cons p ps =>
    rw [Entry.renderPositions, List.cons_append, List.cons_append, List.append_assoc, scanSuffix,
      scanPositions_render hps hrest]
    rfl

/-! ## Entries -/

/-- What follows a quoted lexeme is no quote, so the closing quote is not taken
for a doubled one. -/
theorem head?_renderPositions {ps : List Position} {rest : List Char} (hrest : Stops rest) :
    (Entry.renderPositions ps ++ rest).head? ≠ some '\x27' := by
  cases ps with
  | nil =>
    intro h
    obtain ⟨rest', hcons⟩ := List.head?_eq_some_iff.mp h
    exact hrest.ne_cons (by decide) hcons
  | cons p ps => exact fun h => absurd (Option.some.inj h) (by decide)

/-- An entry is read back from its writing, up to a blank or the end. -/
theorem scanEntry_render {e : Entry} (he : e.WellFormed) {rest : List Char} (hrest : Stops rest) :
    scanEntry (e.render ++ rest) = .ok (e, rest) := by
  obtain ⟨hne, hshort⟩ := he.lexeme_ok
  have hread : scanLexeme (e.render ++ rest) =
      .ok (e.lexeme.toList, Entry.renderPositions e.positions ++ rest) := by
    rw [Entry.render, List.cons_append, List.cons_append, List.append_assoc, List.cons_append,
      scanLexeme, scanQuoted_render _ _ (head?_renderPositions hrest)]
    rfl
  rcases hl : e.lexeme.toList with _ | ⟨c, cs⟩
  · exact absurd (String.toList_eq_nil_iff.mp hl) hne
  · have hlex : String.ofList (c :: cs) = e.lexeme := by rw [← hl, String.ofList_toList]
    rw [hl] at hread
    rw [scanEntry, hread]
    simp only [hlex]
    rw [if_neg (Nat.not_lt.mpr hshort), scanSuffix_render e.lexeme he.inRange hrest]
    exact if_pos hrest

/-- The writing of entries that follow others. -/
def renderTail (es : List Entry) : List Char :=
  es.flatMap fun e => ' ' :: e.render

/-- The text of a vector is that of its first entry, and then the others with a
blank before each. -/
theorem render_cons (e : Entry) (es : List Entry) :
    render ⟨e :: es⟩ = e.render ++ renderTail es := by
  induction es generalizing e with
  | nil => simp [render, renderTail]
  | cons f es ih =>
    have hf := ih f
    simp only [render, renderTail, List.map_cons, List.flatMap_cons] at hf ⊢
    rw [List.intercalate_cons_cons, hf]
    simp

theorem stops_renderTail (es : List Entry) : Stops (renderTail es) := by
  cases es with
  | nil => rfl
  | cons e es => rfl

/-- The text of an entry begins with a quote, so no blank is passed over there. -/
theorem trimLeft_render (e : Entry) (rest : List Char) :
    trimLeft (e.render ++ rest) = e.render ++ rest :=
  List.dropWhile_cons_of_neg (by decide)

theorem scanEntries_done (taken : List Entry) {cs : List Char} (h : trimLeft cs = []) :
    scanEntries taken cs = .ok taken.reverse := by
  rw [scanEntries, if_pos h]

theorem scanEntries_next (taken : List Entry) {cs rest : List Char} {e : Entry}
    (h : scanEntry (trimLeft cs) = .ok (e, rest)) :
    scanEntries taken cs = scanEntries (e :: taken) rest := by
  have hne : trimLeft cs ≠ [] := by
    intro hnil
    rw [hnil] at h
    cases h
  rw [scanEntries, if_neg hne]
  split
  · rename_i herror
    rw [herror] at h
    cases h
  · rename_i hok
    rw [hok] at h
    obtain ⟨rfl, rfl⟩ := Prod.mk.inj (Except.ok.inj h)
    rfl

/-- By induction on the entries, all of them are read back from their texts, behind any that have
been read. -/
theorem scanEntries_renderTail {es : List Entry} (hes : ∀ e ∈ es, e.WellFormed)
    (taken : List Entry) : scanEntries taken (renderTail es) = .ok (taken.reverse ++ es) := by
  induction es generalizing taken with
  | nil => rw [scanEntries_done taken rfl, List.append_nil]
  | cons e es ih =>
    have hblank : trimLeft (renderTail (e :: es)) = e.render ++ renderTail es := by
      rw [renderTail, List.flatMap_cons, List.cons_append]
      exact trimLeft_render e (renderTail es)
    have he := scanEntry_render (hes e List.mem_cons_self) (stops_renderTail es)
    rw [scanEntries_next taken (by rw [hblank]; exact he),
      ih fun f hf => hes f (List.mem_cons_of_mem e hf)]
    simp

/-- Entries are read back from the writing of their vector. -/
theorem scanEntries_render {v : SearchVector} (hv : ∀ e ∈ v.entries, e.WellFormed) :
    scanEntries [] v.render = .ok v.entries := by
  obtain ⟨es⟩ := v
  cases es with
  | nil => exact scanEntries_done [] rfl
  | cons e es =>
    have he := scanEntry_render (hv e List.mem_cons_self) (stops_renderTail es)
    rw [render_cons, scanEntries_next [] (by rw [trimLeft_render]; exact he),
      scanEntries_renderTail fun f hf => hv f (List.mem_cons_of_mem e hf)]
    rfl

/-- A well-formed vector is read back from its writing. -/
theorem WellFormed.parse_text {v : SearchVector} (hv : v.WellFormed) : parse v.text = .ok v := by
  rw [parse, text, String.toList_ofList, parseChars,
    scanEntries_render fun e he => hv.entry he]
  exact congrArg Except.ok (ofEntries_entries hv)

/-! ## What is read is well-formed -/

/-- A place that is read is moved into the range, however many digits it has. -/
theorem scanPosition_inRange {cs rest : List Char} {p : Position}
    (h : scanPosition cs = some (p, rest)) : 1 ≤ p.place ∧ p.place ≤ maxPlace := by
  rw [scanPosition] at h
  split at h
  · cases h
  · have hmade : ∃ n w, p = Position.ofPlace n w := by
      split at h
      · exact ⟨_, _, (Prod.mk.inj (Option.some.inj h)).1.symm⟩
      · split at h
        · exact ⟨_, _, (Prod.mk.inj (Option.some.inj h)).1.symm⟩
        · exact ⟨_, _, (Prod.mk.inj (Option.some.inj h)).1.symm⟩
    obtain ⟨n, w, rfl⟩ := hmade
    exact Position.place_ofPlace n w

theorem scanPositions_inRange {taken ps : List Position} {cs rest : List Char}
    (h : scanPositions taken cs = some (ps, rest)) (htaken : InRange taken) : InRange ps := by
  fun_induction scanPositions taken cs with
  | case1 taken cs hp => cases h
  | case2 taken cs p rest' hp ih =>
    exact ih h (List.forall_mem_cons.mpr ⟨scanPosition_inRange hp, htaken⟩)
  | case3 taken cs p rest' _ hp =>
    obtain ⟨rfl, -⟩ := Prod.mk.inj (Option.some.inj h)
    intro q hq
    rcases List.mem_cons.mp (List.mem_reverse.mp hq) with rfl | hq
    · exact scanPosition_inRange hp
    · exact htaken q hq

theorem scanSuffix_inRange {lexeme : String} {ps : List Position} {cs rest : List Char}
    (h : scanSuffix lexeme cs = .ok (ps, rest)) : InRange ps := by
  rw [scanSuffix.eq_def] at h
  split at h
  · split at h
    · rename_i hscan
      obtain rfl := Except.ok.inj h
      exact scanPositions_inRange hscan fun _ hp => absurd hp List.not_mem_nil
    · cases h
  · obtain ⟨rfl, -⟩ := Prod.mk.inj (Except.ok.inj h)
    exact fun _ hp => absurd hp List.not_mem_nil

/-- An entry that was read has a lexeme of a fitting length, and its places are in range. -/
theorem scanEntry_ok {cs rest : List Char} {e : Entry} (h : scanEntry cs = .ok (e, rest)) :
    (e.lexeme ≠ "" ∧ e.lexeme.utf8ByteSize ≤ maxLexemeBytes) ∧ InRange e.positions := by
  rw [scanEntry] at h
  split at h
  · cases h
  · cases h
  · rename_i c chars rest' hlex
    dsimp only at h
    split at h
    · cases h
    · rename_i hshort
      split at h
      · cases h
      · rename_i ps rest'' hsuffix
        split at h
        · obtain ⟨rfl, -⟩ := Prod.mk.inj (Except.ok.inj h)
          refine ⟨⟨fun hempty => ?_, Nat.not_lt.mp hshort⟩, scanSuffix_inRange hsuffix⟩
          exact List.cons_ne_nil c chars (String.ofList_eq_empty_iff.mp hempty)
        · cases h

/-- Every entry that is read has a lexeme that may be kept and places in the range. The induction
goes over the entries that are still to be read. -/
theorem scanEntries_ok {taken es : List Entry} {cs : List Char}
    (h : scanEntries taken cs = .ok es)
    (htaken : ∀ e ∈ taken, (e.lexeme ≠ "" ∧ e.lexeme.utf8ByteSize ≤ maxLexemeBytes) ∧
      InRange e.positions) :
    ∀ e ∈ es, (e.lexeme ≠ "" ∧ e.lexeme.utf8ByteSize ≤ maxLexemeBytes) ∧
      InRange e.positions := by
  fun_induction scanEntries taken cs with
  | case1 taken cs hblank =>
    obtain rfl := Except.ok.inj h
    exact fun e he => htaken e (List.mem_reverse.mp he)
  | case2 taken cs _ error herror => cases h
  | case3 taken cs _ e rest he ih =>
    exact ih h (List.forall_mem_cons.mpr ⟨scanEntry_ok he, htaken⟩)

/-- Whatever can be read is well-formed, also a text that was never printed: lexemes of a wrong
length are refused, places are moved into the range, and the rest is sorted and settled. -/
theorem wellFormed_of_parse {s : String} {v : SearchVector} (h : parse s = .ok v) :
    v.WellFormed := by
  rw [parse, parseChars] at h
  rcases hes : scanEntries [] s.toList with error | es
  · rw [hes] at h
    cases h
  · rw [hes] at h
    obtain rfl : ofEntries es = v := Except.ok.inj h
    exact wellFormed_ofEntries (scanEntries_ok hes fun _ he => absurd he List.not_mem_nil)

/-- Writing is injective on well-formed vectors. -/
theorem WellFormed.text_inj {v w : SearchVector} (hv : v.WellFormed) (hw : w.WellFormed)
    (h : v.text = w.text) : v = w := by
  have hread : parse v.text = .ok w := by rw [h]; exact hw.parse_text
  rw [hv.parse_text] at hread
  exact Except.ok.inj hread

/-- The writing of what a text says, if it says anything. -/
def normalForm (s : String) : Except VectorError String :=
  text <$> parse s

/-- **Round trip.** Every well-formed vector is read back from its writing; what is read from any text
is well-formed, and so is read back from its writing too; different well-formed vectors are written
differently; and the normal form of a text says the same as the text and is its own normal form. -/
theorem parse_text_round_trip :
    (∀ v : SearchVector, v.WellFormed → parse v.text = .ok v) ∧
    (∀ (s : String) (w : SearchVector), parse s = .ok w →
      w.WellFormed ∧ parse w.text = .ok w) ∧
    (∀ v w : SearchVector, v.WellFormed → w.WellFormed → v.text = w.text → v = w) ∧
    ∀ s t : String, normalForm s = .ok t → parse t = parse s ∧ normalForm t = .ok t := by
  refine ⟨fun v hv => hv.parse_text, fun s w hw => ?_, fun v w hv hw => hv.text_inj hw, ?_⟩
  · have hwf : w.WellFormed := wellFormed_of_parse hw
    exact ⟨hwf, hwf.parse_text⟩
  · intro s t ht
    rw [normalForm] at ht
    rcases hs : parse s with error | v
    · rw [hs] at ht
      cases ht
    · rw [hs] at ht
      obtain rfl : v.text = t := Except.ok.inj ht
      have hread : parse v.text = .ok v := (wellFormed_of_parse hs).parse_text
      rw [normalForm, hread]
      exact ⟨rfl, rfl⟩

/-- A vector whose lexemes hold everything that means something in writing, and positions at both ends
of the range. -/
def awkward : SearchVector :=
  ⟨[⟨"\x00 :,\x27\\", [⟨1, .a⟩, ⟨16383, .d⟩]⟩, ⟨"\x27", []⟩, ⟨"b:1", [⟨2, .c⟩]⟩]⟩

theorem wellFormed_awkward : awkward.WellFormed := by
  decide

/-- A text that is not in normal form: blanks at both ends, a lexeme without quotes, a place with a
leading zero, a weight in lower case, and a quote behind a backslash. -/
def loose : String :=
  "  bare:1,03a \x27it\\\x27s\x27 "

/-- What the loose text says. -/
def tidy : SearchVector :=
  ⟨[⟨"bare", [⟨1, .d⟩, ⟨3, .a⟩]⟩, ⟨"it\x27s", []⟩]⟩

theorem parse_loose : parse loose = .ok tidy := by
  have hscan : (scanEntries [] loose.toList).toOption = some tidy.entries := by
    decide +kernel
  have hwf : tidy.WellFormed := by decide
  rcases hes : scanEntries [] loose.toList with error | es
  · rw [hes] at hscan
    cases hscan
  · rw [hes] at hscan
    obtain rfl := Option.some.inj hscan
    rw [parse, parseChars, hes]
    exact congrArg Except.ok (ofEntries_entries hwf)

/-- The round trip at an awkward vector and at a loose text. The loose text is read, and the vector
it says is printed in another way. -/
theorem parse_text_round_trip_awkward :
    parse awkward.text = .ok awkward ∧
    parse loose = .ok tidy ∧ tidy.WellFormed ∧ parse tidy.text = .ok tidy ∧
    awkward.text ≠ tidy.text ∧
    normalForm loose = .ok tidy.text ∧ normalForm tidy.text = .ok tidy.text := by
  obtain ⟨hwf, hread⟩ := parse_text_round_trip.2.1 loose tidy parse_loose
  have hnormal : normalForm loose = .ok tidy.text := by
    rw [normalForm, parse_loose]
    rfl
  refine ⟨parse_text_round_trip.1 awkward wellFormed_awkward, parse_loose, hwf, hread, ?_,
    hnormal, (parse_text_round_trip.2.2.2 loose tidy.text hnormal).2⟩
  intro htext
  have heq : awkward = tidy :=
    parse_text_round_trip.2.2.1 awkward tidy wellFormed_awkward hwf htext
  exact absurd heq (by decide)

end EventIntake.SearchVector
