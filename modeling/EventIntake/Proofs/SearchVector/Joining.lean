import EventIntake.Proofs.SearchVector.RoundTrip
import EventIntake.Proofs.SearchVector.Settled
import Mathlib.Data.List.Perm.Basic

/-!
# Joining texts

Texts that can be read can be joined by blanks, in any order, and what is then read is the union of
what they say. Nothing an entry is read from goes past the blank that follows it, so the readers do the
same with more text behind that blank (`scanEntry_append`), and the entries of joined texts are those
of the texts, one after another (`Joined.scanEntries`).

One character does reach further. A backslash makes the next character part of a lexeme, whatever it
is, and the reader of lexemes without quotes lets a text end in a backslash that has no next character.
Joined to another text, that backslash takes the blank, and two lexemes are read as one
(`joined_escape`). So only the last text of a join may end in such a backslash.
-/

namespace EventIntake.SearchVector

open EventIntake.Text (isBlank trimLeft)

/-! ## Texts that end in an escape -/

/-- The text ends in a backslash that is not itself escaped. -/
def endsInEscape : List Char → Bool
  | [] => false
  | ['\\'] => true
  | '\\' :: _ :: rest => endsInEscape rest
  | _ :: rest => endsInEscape rest

variable {cs rest tail chars : List Char} {c : Char} {e : Entry}

/-- A character that is read alone is no backslash: that would be read with the next character, or be
the last one. -/
theorem ne_backslash_of_alone (hlone : c = '\\' → rest = [] → False)
    (hpair : ∀ d more, c = '\\' → rest = d :: more → False) : c ≠ '\\' := by
  rintro rfl
  cases rest with
  | nil => exact hlone rfl rfl
  | cons d more => exact hpair d more rfl rfl

/-- A character other than a backslash takes no part in escapes, so the text behind it decides. -/
theorem endsInEscape_cons (h : c ≠ '\\') (cs : List Char) :
    endsInEscape (c :: cs) = endsInEscape cs := by
  rw [endsInEscape]
  all_goals grind

/-- Whether a text ends in an escape shows behind any character but a backslash. -/
theorem endsInEscape_append_cons (h : c ≠ '\\') (front cs : List Char) :
    endsInEscape (front ++ c :: cs) = endsInEscape cs := by
  fun_induction endsInEscape front with
  | case1 => exact endsInEscape_cons h cs
  | case2 => rfl
  | case3 d front ih => exact ih
  | case4 d front hlone hpair ih =>
    rw [List.cons_append, endsInEscape_cons (ne_backslash_of_alone hlone hpair), ih]

theorem ne_backslash_of_isBlank (h : isBlank c = true) : c ≠ '\\' := by
  rintro rfl
  cases h

/-- Blanks before a text do not matter to whether it ends in an escape. -/
theorem endsInEscape_trimLeft (cs : List Char) : endsInEscape (trimLeft cs) = endsInEscape cs := by
  induction cs with
  | nil => rfl
  | cons c cs ih =>
    rw [trimLeft] at ih ⊢
    rcases hc : isBlank c with _ | _
    · rw [List.dropWhile_cons_of_neg (by rw [hc]; exact Bool.false_ne_true)]
    · rw [List.dropWhile_cons_of_pos hc, ih, endsInEscape_cons (ne_backslash_of_isBlank hc)]

/-! ## What follows an entry -/

theorem Stops.head?_ne (h : Stops cs) (hc : isBlank c = false) : cs.head? ≠ some c := by
  intro hhead
  obtain ⟨more, hmore⟩ := List.head?_eq_some_iff.mp hhead
  exact h.ne_cons hc hmore

theorem Stops.append (h : Stops cs) (ht : Stops tail) : Stops (cs ++ tail) := by
  cases cs with
  | nil => exact ht
  | cons c cs => exact h

/-- What stops before the end of a text ends as the text does. -/
theorem Stops.endsInEscape_of_suffix (h : Stops rest) (hsuffix : rest <:+ cs)
    (hcs : endsInEscape cs = false) : endsInEscape rest = false := by
  obtain ⟨front, rfl⟩ := hsuffix
  cases rest with
  | nil => rfl
  | cons c rest =>
    have hc : c ≠ '\\' := ne_backslash_of_isBlank h
    rwa [endsInEscape_append_cons hc, ← endsInEscape_cons hc] at hcs

/-! ## Lexemes -/

/-- A closing quote is found where it was, whatever blank follows the text. -/
theorem scanQuoted_append {taken : List Char} (h : scanQuoted taken cs = some (chars, rest))
    (ht : Stops tail) : scanQuoted taken (cs ++ tail) = some (chars, rest ++ tail) ∧ rest <:+ cs := by
  fun_induction scanQuoted taken cs with
  | case1 taken => cases h
  | case2 taken c cs ih =>
    obtain ⟨hread, hsuffix⟩ := ih h
    exact ⟨hread, hsuffix.trans ⟨['\\', c], rfl⟩⟩
  | case3 taken => cases h
  | case4 taken cs ih =>
    obtain ⟨hread, hsuffix⟩ := ih h
    exact ⟨hread, hsuffix.trans ⟨['\x27', '\x27'], rfl⟩⟩
  | case5 taken cs hone =>
    obtain ⟨rfl, rfl⟩ := Prod.mk.inj (Option.some.inj h)
    refine ⟨scanQuoted_quote ?_ taken, List.suffix_cons _ _⟩
    cases cs with
    | nil => exact ht.head?_ne (by decide)
    | cons d cs =>
      rintro ⟨⟩
      exact hone cs rfl
  | case6 taken d cs hpair hlone _ hquote ih =>
    obtain ⟨hread, hsuffix⟩ := ih h
    have hd : d ≠ '\\' := ne_backslash_of_alone hlone hpair
    exact ⟨by rw [List.cons_append, scanQuoted_cons hd hquote, hread],
      hsuffix.trans (List.suffix_cons d cs)⟩

/-- Outside of quotes a lexeme goes on up to a blank or a colon. A backslash takes the next
character with it, whichever that is. -/
theorem scanBare_cons (h1 : c ≠ '\\') (taken rest : List Char) :
    scanBare taken (c :: rest) =
      if isBlank c || c == ':' then (taken.reverse, c :: rest)
      else scanBare (c :: taken) rest := by
  rw [scanBare.eq_def]
  split
  · rename_i hcs
    cases hcs
  · rename_i hcs
    exact absurd (List.cons.inj hcs).1 h1
  · rename_i hcs
    exact absurd (List.cons.inj hcs).1 h1
  · rename_i hcs
    obtain ⟨rfl, rfl⟩ := List.cons.inj hcs
    rfl

theorem scanBare_stops (ht : Stops tail) (taken : List Char) :
    scanBare taken tail = (taken.reverse, tail) := by
  cases tail with
  | nil => rfl
  | cons c tail =>
    have hc : isBlank c = true := ht
    rw [scanBare_cons (ne_backslash_of_isBlank hc), if_pos (by rw [hc]; rfl)]

/-- A lexeme without quotes ends where it did, unless a backslash was left without a character. -/
theorem scanBare_append {taken : List Char} (h : scanBare taken cs = (chars, rest))
    (hcs : endsInEscape cs = false) (ht : Stops tail) :
    scanBare taken (cs ++ tail) = (chars, rest ++ tail) ∧ rest <:+ cs := by
  fun_induction scanBare taken cs with
  | case1 taken =>
    obtain ⟨rfl, rfl⟩ := Prod.mk.inj h
    exact ⟨scanBare_stops ht taken, List.suffix_rfl⟩
  | case2 taken => cases hcs
  | case3 taken c cs ih =>
    obtain ⟨hread, hsuffix⟩ := ih h hcs
    exact ⟨hread, hsuffix.trans ⟨['\\', c], rfl⟩⟩
  | case4 taken d cs hlone hpair hd =>
    obtain ⟨rfl, rfl⟩ := Prod.mk.inj h
    rw [List.cons_append, scanBare_cons (ne_backslash_of_alone hlone hpair), if_pos hd]
    exact ⟨rfl, List.suffix_rfl⟩
  | case5 taken d cs hlone hpair hd ih =>
    have hd1 : d ≠ '\\' := ne_backslash_of_alone hlone hpair
    rw [endsInEscape_cons hd1] at hcs
    obtain ⟨hread, hsuffix⟩ := ih h hcs
    rw [List.cons_append, scanBare_cons hd1, if_neg hd]
    exact ⟨hread, hsuffix.trans (List.suffix_cons d cs)⟩

theorem scanLexeme_bare (h : cs.head? ≠ some '\x27') : scanLexeme cs = .ok (scanBare [] cs) := by
  rw [scanLexeme]
  rintro rest rfl
  exact h rfl

/-- A lexeme is read in the same way with another text behind, unless the first text ends in an
escape. -/
theorem scanLexeme_append (h : scanLexeme cs = .ok (chars, rest)) (hcs : endsInEscape cs = false)
    (ht : Stops tail) : scanLexeme (cs ++ tail) = .ok (chars, rest ++ tail) ∧ rest <:+ cs := by
  by_cases hquote : cs.head? = some '\x27'
  · obtain ⟨inner, rfl⟩ := List.head?_eq_some_iff.mp hquote
    rw [scanLexeme] at h
    rcases hq : scanQuoted [] inner with _ | r
    · rw [hq] at h
      cases h
    · rw [hq] at h
      obtain rfl := Except.ok.inj h
      obtain ⟨hread, hsuffix⟩ := scanQuoted_append hq ht
      rw [List.cons_append, scanLexeme, hread]
      exact ⟨rfl, hsuffix.trans (List.suffix_cons _ inner)⟩
  · rw [scanLexeme_bare hquote] at h
    have hbare : (cs ++ tail).head? ≠ some '\x27' := by
      cases cs with
      | nil => exact ht.head?_ne (by decide)
      | cons c cs => exact hquote
    obtain ⟨hread, hsuffix⟩ := scanBare_append (Except.ok.inj h) hcs ht
    rw [scanLexeme_bare hbare, hread]
    exact ⟨rfl, hsuffix⟩

/-! ## Positions -/

variable {p : Position} {ps : List Position} {lexeme : String}

/-- The digits at the beginning of a text are the same with a blank behind it. -/
theorem digits_append (ht : Stops tail) (cs : List Char) :
    (cs ++ tail).takeWhile Char.isDigit = cs.takeWhile Char.isDigit ∧
      (cs ++ tail).dropWhile Char.isDigit = cs.dropWhile Char.isDigit ++ tail := by
  induction cs with
  | nil => exact span_digits (fun _ hd => absurd hd List.not_mem_nil) fun d hd =>
      (ht.endsPosition d hd).1
  | cons c cs ih =>
    rw [List.cons_append]
    rcases hc : c.isDigit with _ | _
    · have hno : ¬c.isDigit = true := by rw [hc]; exact Bool.false_ne_true
      simp only [List.takeWhile_cons_of_neg hno, List.dropWhile_cons_of_neg hno, List.cons_append,
        and_self]
    · rw [List.takeWhile_cons_of_pos hc, List.dropWhile_cons_of_pos hc, ih.1, ih.2,
        List.takeWhile_cons_of_pos hc, List.dropWhile_cons_of_pos hc]
      exact ⟨rfl, rfl⟩

/-- A position is read in the same way with another text behind it. -/
theorem scanPosition_append (h : scanPosition cs = some (p, rest)) (ht : Stops tail) :
    scanPosition (cs ++ tail) = some (p, rest ++ tail) ∧ rest <:+ cs := by
  have hdrop : cs.dropWhile Char.isDigit <:+ cs := List.dropWhile_suffix _
  rw [scanPosition] at h ⊢
  rw [(digits_append ht cs).1, (digits_append ht cs).2]
  by_cases hzero : placeOf (cs.takeWhile Char.isDigit) = 0
  · rw [if_pos hzero] at h
    cases h
  · rw [if_neg hzero] at h ⊢
    rcases hl : cs.dropWhile Char.isDigit with _ | ⟨b, more⟩
    · -- the digits end the text, and the blank behind it is no weight
      rw [hl] at h
      obtain ⟨rfl, rfl⟩ := Prod.mk.inj (Option.some.inj h)
      refine ⟨?_, List.nil_suffix⟩
      rw [List.nil_append]
      cases tail with
      | nil => rfl
      | cons d tail =>
        have hd : weight? d = none := weight?_eq_none_of_isBlank ht
        simp only [hd]
    · rw [hl] at h hdrop
      rw [List.cons_append]
      rcases hw : weight? b with _ | w
      · simp only [hw] at h ⊢
        obtain ⟨rfl, rfl⟩ := Prod.mk.inj (Option.some.inj h)
        exact ⟨rfl, hdrop⟩
      · simp only [hw] at h ⊢
        obtain ⟨rfl, rfl⟩ := Prod.mk.inj (Option.some.inj h)
        exact ⟨rfl, (List.suffix_cons b more).trans hdrop⟩

theorem scanPositions_append {taken : List Position}
    (h : scanPositions taken cs = some (ps, rest)) (hrest : Stops rest) (ht : Stops tail) :
    scanPositions taken (cs ++ tail) = some (ps, rest ++ tail) ∧ rest <:+ cs := by
  fun_induction scanPositions taken cs with
  | case1 taken cs hnone => cases h
  | case2 taken cs p cs' hp ih =>
    obtain ⟨hposition, hcomma⟩ := scanPosition_append hp ht
    obtain ⟨hread, hsuffix⟩ := ih h
    rw [scanPositions_comma taken hposition]
    exact ⟨hread, hsuffix.trans ((List.suffix_cons _ cs').trans hcomma)⟩
  | case3 taken cs p rest' _ hp =>
    obtain ⟨rfl, rfl⟩ := Prod.mk.inj (Option.some.inj h)
    obtain ⟨hposition, hsuffix⟩ := scanPosition_append hp ht
    exact ⟨scanPositions_end taken hposition (hrest.append ht), hsuffix⟩

theorem scanSuffix_append (h : scanSuffix lexeme cs = .ok (ps, rest)) (hrest : Stops rest)
    (ht : Stops tail) : scanSuffix lexeme (cs ++ tail) = .ok (ps, rest ++ tail) ∧ rest <:+ cs := by
  by_cases hcolon : cs.head? = some ':'
  · obtain ⟨inner, rfl⟩ := List.head?_eq_some_iff.mp hcolon
    rw [scanSuffix] at h
    rcases hp : scanPositions [] inner with _ | r
    · rw [hp] at h
      cases h
    · rw [hp] at h
      obtain rfl := Except.ok.inj h
      obtain ⟨hread, hsuffix⟩ := scanPositions_append hp hrest ht
      rw [List.cons_append, scanSuffix, hread]
      exact ⟨rfl, hsuffix.trans (List.suffix_cons _ inner)⟩
  · rw [scanSuffix] at h
    · obtain ⟨rfl, rfl⟩ := Prod.mk.inj (Except.ok.inj h)
      refine ⟨?_, List.suffix_rfl⟩
      rw [scanSuffix]
      exact fun more hmore => (hrest.append ht).ne_cons (by decide) hmore
    · rintro more rfl
      exact hcolon rfl

/-! ## Entries -/

/-- What it takes to read an entry. -/
theorem scanEntry_eq_ok_iff : scanEntry cs = .ok (e, rest) ↔
    ∃ c chars mid, scanLexeme cs = .ok (c :: chars, mid) ∧ e.lexeme = String.ofList (c :: chars) ∧
      e.lexeme.utf8ByteSize ≤ maxLexemeBytes ∧
      scanSuffix e.lexeme mid = .ok (e.positions, rest) ∧ Stops rest := by
  constructor
  · intro h
    rw [scanEntry] at h
    split at h
    · cases h
    · cases h
    · rename_i c chars mid hlex
      dsimp only at h
      split at h
      · cases h
      · rename_i hshort
        split at h
        · cases h
        · rename_i ps rest' hsuffix
          split at h
          · rename_i hstops
            obtain ⟨rfl, rfl⟩ := Prod.mk.inj (Except.ok.inj h)
            exact ⟨c, chars, mid, hlex, rfl, Nat.not_lt.mp hshort, hsuffix, hstops⟩
          · cases h
  · rintro ⟨c, chars, mid, hlex, hname, hshort, hsuffix, hstops⟩
    obtain ⟨lexeme, ps⟩ := e
    obtain rfl : lexeme = String.ofList (c :: chars) := hname
    rw [scanEntry, hlex]
    dsimp only at hshort hsuffix ⊢
    rw [if_neg (Nat.not_lt.mpr hshort), hsuffix]
    exact if_pos hstops

/-- An entry is read as before, whatever comes behind the blank that follows it. -/
theorem scanEntry_append (h : scanEntry cs = .ok (e, rest)) (hcs : endsInEscape cs = false)
    (ht : Stops tail) :
    scanEntry (cs ++ tail) = .ok (e, rest ++ tail) ∧ endsInEscape rest = false := by
  obtain ⟨c, chars, mid, hlex, hname, hshort, hsuffix, hrest⟩ := scanEntry_eq_ok_iff.mp h
  obtain ⟨hlex', hmid⟩ := scanLexeme_append hlex hcs ht
  obtain ⟨hsuffix', hend⟩ := scanSuffix_append hsuffix hrest ht
  exact ⟨scanEntry_eq_ok_iff.mpr
    ⟨c, chars, mid ++ tail, hlex', hname, hshort, hsuffix', hrest.append ht⟩,
    hrest.endsInEscape_of_suffix (hend.trans hmid) hcs⟩

theorem trimLeft_append (cs ds : List Char) :
    trimLeft (cs ++ ds) = if trimLeft cs = [] then trimLeft ds else trimLeft cs ++ ds := by
  rw [trimLeft, List.dropWhile_append]
  by_cases h : trimLeft cs = []
  · rw [if_pos h]
    exact if_pos (List.isEmpty_iff.mpr h)
  · rw [if_neg h]
    exact if_neg fun hempty => h (List.isEmpty_iff.mp hempty)

/-- An entry that cannot be read makes the whole text unreadable. -/
theorem scanEntries_error (taken : List Entry) {error : VectorError} (hne : trimLeft cs ≠ [])
    (h : scanEntry (trimLeft cs) = .error error) : scanEntries taken cs = .error error := by
  rw [scanEntries, if_neg hne]
  split
  · rename_i herror
    rw [herror] at h
    exact congrArg Except.error (Except.error.inj h)
  · rename_i hok
    rw [hok] at h
    cases h

/-- Blanks before an entry do not matter. -/
theorem scanEntries_congr {ds : List Char} (h : trimLeft cs = trimLeft ds) (taken : List Entry) :
    scanEntries taken cs = scanEntries taken ds := by
  by_cases hblank : trimLeft cs = []
  · rw [scanEntries_done taken hblank, scanEntries_done taken (h ▸ hblank)]
  · rcases he : scanEntry (trimLeft cs) with error | ⟨e, rest⟩
    · rw [scanEntries_error taken hblank he, scanEntries_error taken (h ▸ hblank) (h ▸ he)]
    · rw [scanEntries_next taken he, scanEntries_next taken (h ▸ he)]

/-- What is read does not depend on what was read before. -/
theorem scanEntries_taken {taken es : List Entry} (h : scanEntries taken cs = .ok es) :
    ∃ new, es = taken.reverse ++ new ∧
      ∀ before, scanEntries before cs = .ok (before.reverse ++ new) := by
  fun_induction scanEntries taken cs with
  | case1 taken cs hblank =>
    obtain rfl := Except.ok.inj h
    exact ⟨[], (List.append_nil _).symm, fun before => by
      rw [scanEntries_done before hblank, List.append_nil]⟩
  | case2 taken cs _ error herror => cases h
  | case3 taken cs _ e rest he ih =>
    obtain ⟨new, rfl, hread⟩ := ih h
    refine ⟨e :: new, by simp, fun before => ?_⟩
    rw [scanEntries_next before he, hread]
    simp

/-- Behind a text that can be read and a blank, reading goes on with the entries of the text. -/
theorem scanEntries_append {taken es : List Entry} (h : scanEntries taken cs = .ok es)
    (hcs : endsInEscape cs = false) (ht : Stops tail) :
    scanEntries taken (cs ++ tail) = scanEntries es.reverse tail := by
  fun_induction scanEntries taken cs with
  | case1 taken cs hblank =>
    obtain rfl := Except.ok.inj h
    rw [List.reverse_reverse]
    exact scanEntries_congr (by rw [trimLeft_append, if_pos hblank]) taken
  | case2 taken cs _ error herror => cases h
  | case3 taken cs hne e rest he ih =>
    have htrim : endsInEscape (trimLeft cs) = false := by rw [endsInEscape_trimLeft, hcs]
    obtain ⟨hread, hrest⟩ := scanEntry_append he htrim ht
    rw [scanEntries_next taken (by rw [trimLeft_append, if_neg hne]; exact hread), ih h hrest]

/-! ## Joined texts -/

/-- The text is made of the given ones in their order, with blanks between them. -/
inductive Joined : List String → String → Prop
  | none : Joined [] ""
  | one (s : String) : Joined [s] s
  | more (s gap : String) {whole : String} {texts : List String} (hgap : gap ≠ "")
      (hblank : ∀ c ∈ gap.toList, isBlank c = true) (htexts : texts ≠ [])
      (hjoined : Joined texts whole) : Joined (s :: texts) (s ++ gap ++ whole)

/-- The entries of joined texts are those of the texts, one after another. -/
theorem Joined.scanEntries {texts : List String} {whole : String} {ess : List (List Entry)}
    (h : Joined texts whole) (hescape : ∀ s ∈ texts.dropLast, endsInEscape s.toList = false)
    (hread : List.Forall₂ (fun s es => scanEntries [] s.toList = .ok es) texts ess) :
    SearchVector.scanEntries [] whole.toList = .ok ess.flatten := by
  induction h generalizing ess with
  | none =>
    cases hread
    exact scanEntries_done [] rfl
  | one s =>
    obtain _ | ⟨hs, hnil⟩ := hread
    cases hnil
    rw [hs]
    simp
  | @more s gap whole texts hgap hblank htexts hjoined ih =>
    obtain _ | ⟨hs, hrest⟩ := hread
    rename_i es ess
    rw [List.dropLast_cons_of_ne_nil htexts, List.forall_mem_cons] at hescape
    have hstops : Stops (gap.toList ++ whole.toList) := by
      rcases hg : gap.toList with _ | ⟨b, more⟩
      · exact absurd (String.toList_eq_nil_iff.mp hg) hgap
      · exact hblank b (by rw [hg]; exact List.mem_cons_self)
    have htrim : trimLeft (gap.toList ++ whole.toList) = trimLeft whole.toList :=
      List.dropWhile_append_of_pos hblank
    obtain ⟨new, hnew, hbefore⟩ := scanEntries_taken (ih hescape.2 hrest)
    obtain rfl : ess.flatten = new := hnew
    rw [String.toList_append, String.toList_append, List.append_assoc,
      scanEntries_append hs hescape.1 hstops, scanEntries_congr htrim, hbefore,
      List.reverse_reverse, List.flatten_cons]

/-! ## Unions -/

/-- The vector is the union of the given ones. It has their lexemes; and of all positions that a lexeme
has in them, it has the strongest at each place, the first ones, as many as there may be. -/
structure UnionOf (vs : List SearchVector) (v : SearchVector) : Prop where
  wellFormed : v.WellFormed
  lexemes (x : String) : x ∈ v.lexemes ↔ ∃ u ∈ vs, x ∈ u.lexemes
  positions (x : String) : ∃ all, Increasing all ∧
    (∀ p, p ∈ all ↔ StrongestIn (vs.flatMap (·.positionsOf x)) p) ∧
    v.positionsOf x = all.take maxPositions

variable {v w : SearchVector} {vs ws : List SearchVector}

/-- There is only one union, whatever order the vectors come in. -/
theorem UnionOf.eq (hv : UnionOf vs v) (hw : UnionOf ws w) (h : vs.Perm ws) : v = w := by
  refine hv.wellFormed.ext_positionsOf hw.wellFormed ?_ ?_
  · intro x
    rw [hv.lexemes, hw.lexemes]
    simp only [h.mem_iff]
  · intro x
    obtain ⟨all, hinc, hall, hpositions⟩ := hv.positions x
    obtain ⟨all', hinc', hall', hpositions'⟩ := hw.positions x
    rw [hpositions, hpositions']
    congr 1
    refine hinc.ext hinc' fun p => ?_
    rw [hall, hall']
    exact StrongestIn.congr fun q => (h.flatMap_right _).mem_iff

/-- Positions from several lists of entries can be settled list by list first, as each text that is
read by itself does. -/
theorem positionsOf_ofEntries_flatten (ess : List (List Entry)) (x : String) :
    (ofEntries ess.flatten).positionsOf x =
      settle ((ess.map ofEntries).flatMap (·.positionsOf x)) := by
  have hflatten : (ess.flatten.filter (·.lexeme = x)).flatMap Entry.positions =
      ess.flatMap fun es => (es.filter (·.lexeme = x)).flatMap Entry.positions := by
    induction ess with
    | nil => rfl
    | cons es ess ih =>
      rw [List.flatten_cons, List.filter_append, List.flatMap_append, ih, List.flatMap_cons]
  rw [positionsOf_ofEntries, hflatten, List.flatMap_map, ← settle_flatMap_settle]
  simp only [positionsOf_ofEntries]

theorem mem_lexemes_ofEntries_flatten {ess : List (List Entry)} {x : String} :
    x ∈ (ofEntries ess.flatten).lexemes ↔ ∃ u ∈ ess.map ofEntries, x ∈ u.lexemes := by
  rw [mem_lexemes_ofEntries]
  constructor
  · intro hx
    obtain ⟨e, he, rfl⟩ := List.mem_map.mp hx
    obtain ⟨es, hes, hmem⟩ := List.mem_flatten.mp he
    exact ⟨ofEntries es, List.mem_map_of_mem hes,
      mem_lexemes_ofEntries.mpr (List.mem_map_of_mem hmem)⟩
  · rintro ⟨u, hu, hx⟩
    obtain ⟨es, hes, rfl⟩ := List.mem_map.mp hu
    obtain ⟨e, he, rfl⟩ := List.mem_map.mp (mem_lexemes_ofEntries.mp hx)
    exact List.mem_map_of_mem (List.mem_flatten.mpr ⟨es, hes, he⟩)

/-- What all entries say is the union of what each list of them says. -/
theorem unionOf_ofEntries {ess : List (List Entry)}
    (h : ∀ e ∈ ess.flatten, (e.lexeme ≠ "" ∧ e.lexeme.utf8ByteSize ≤ maxLexemeBytes) ∧
      InRange e.positions) : UnionOf (ess.map ofEntries) (ofEntries ess.flatten) where
  wellFormed := wellFormed_ofEntries h
  lexemes _ := mem_lexemes_ofEntries_flatten
  positions x := by
    refine ⟨_, increasing_onePerPlace _, fun p => mem_onePerPlace_iff, ?_⟩
    rw [positionsOf_ofEntries_flatten, settle_eq]

/-! ## What joined texts say -/

/-- A text says a vector if and only if its entries can be read and make up that vector. -/
theorem parse_eq_ok_iff {s : String} : parse s = .ok v ↔
    ∃ es, scanEntries [] s.toList = .ok es ∧ ofEntries es = v := by
  rw [parse, parseChars]
  constructor
  · intro h
    rcases hes : scanEntries [] s.toList with error | es
    · rw [hes] at h
      cases h
    · rw [hes] at h
      exact ⟨es, rfl, Except.ok.inj h⟩
  · rintro ⟨es, hes, rfl⟩
    rw [hes]
    rfl

/-- Each text that can be read has entries, and the vectors are made of them. -/
theorem exists_entries {texts : List String}
    (h : List.Forall₂ (fun s v => parse s = .ok v) texts vs) :
    ∃ ess, List.Forall₂ (fun s es => scanEntries [] s.toList = .ok es) texts ess ∧
      vs = ess.map ofEntries ∧
      ∀ e ∈ ess.flatten, (e.lexeme ≠ "" ∧ e.lexeme.utf8ByteSize ≤ maxLexemeBytes) ∧
        InRange e.positions := by
  induction h with
  | nil => exact ⟨[], .nil, rfl, fun _ he => absurd he List.not_mem_nil⟩
  | cons hs _ ih =>
    obtain ⟨es, hread, rfl⟩ := parse_eq_ok_iff.mp hs
    obtain ⟨ess, hall, rfl, hok⟩ := ih
    refine ⟨es :: ess, .cons hread hall, rfl, fun e he => ?_⟩
    rcases List.mem_append.mp he with he | he
    · exact scanEntries_ok hread (fun _ hf => absurd hf List.not_mem_nil) e he
    · exact hok e he

/-- Joined texts say the union of what they say. -/
theorem Joined.parse {texts : List String} {whole : String} (h : Joined texts whole)
    (hescape : ∀ s ∈ texts.dropLast, endsInEscape s.toList = false)
    (hparse : List.Forall₂ (fun s v => parse s = .ok v) texts vs) :
    ∃ v, SearchVector.parse whole = .ok v ∧ UnionOf vs v := by
  obtain ⟨ess, hread, rfl, hok⟩ := exists_entries hparse
  exact ⟨ofEntries ess.flatten, parse_eq_ok_iff.mpr ⟨_, h.scanEntries hescape hread, rfl⟩,
    unionOf_ofEntries hok⟩

/-- **Joining.** Texts that can be read each on its own can be joined in any order, with blanks between
them, as long as no text but the last ends in an escape. Every such join can be read and says the
same, the union of what the texts say. -/
theorem parse_joined {texts : List String}
    (hparse : List.Forall₂ (fun s v => parse s = .ok v) texts vs) :
    ∃ v, UnionOf vs v ∧ ∀ (order : List String) (whole : String), order.Perm texts →
      Joined order whole → (∀ s ∈ order.dropLast, endsInEscape s.toList = false) →
      parse whole = .ok v := by
  obtain ⟨ess, -, rfl, hok⟩ := exists_entries hparse
  refine ⟨ofEntries ess.flatten, unionOf_ofEntries hok, ?_⟩
  intro order whole hperm hjoined hescape
  -- the vectors of the texts come in the order of the texts
  obtain ⟨ws, horder, hws⟩ := List.perm_comp_forall₂ hperm hparse
  obtain ⟨w, hwhole, hw⟩ := hjoined.parse hescape horder
  rw [hwhole, hw.eq (unionOf_ofEntries hok) hws]

/-- A text says what its entries say. -/
theorem parse_of_entries {s : String} {es : List Entry} (hv : ofEntries es = v)
    (h : (scanEntries [] s.toList).toOption = some es) : parse s = .ok v := by
  rcases hes : scanEntries [] s.toList with error | fs
  · rw [hes] at h
    cases h
  · rw [hes] at h
    obtain rfl : fs = es := Option.some.inj h
    exact parse_eq_ok_iff.mpr ⟨_, hes, hv⟩

/-- Three texts in two orders with different blanks. The last of them, which ends in an escape, stays
last. -/
theorem parse_joined_escape_last :
    ∃ v, UnionOf [⟨[⟨"a", []⟩, ⟨"b", [⟨1, .a⟩, ⟨3, .d⟩]⟩]⟩, ⟨[⟨"a", [⟨2, .d⟩]⟩, ⟨"b", [⟨1, .c⟩]⟩]⟩,
        ⟨[⟨"c", []⟩]⟩] v ∧
      parse "a \x27b\x27:1A,3 \n\ta:2 b:1c c\\" = .ok v ∧
      parse "\ta:2 b:1c\u3000a \x27b\x27:1A,3 c\\" = .ok v := by
  have hparse : List.Forall₂ (fun s v => parse s = .ok v)
      ["a \x27b\x27:1A,3", "\ta:2 b:1c", "c\\"]
      [⟨[⟨"a", []⟩, ⟨"b", [⟨1, .a⟩, ⟨3, .d⟩]⟩]⟩, ⟨[⟨"a", [⟨2, .d⟩]⟩, ⟨"b", [⟨1, .c⟩]⟩]⟩,
        ⟨[⟨"c", []⟩]⟩] := by
    refine .cons ?_ (.cons ?_ (.cons ?_ .nil))
    · exact parse_of_entries (ofEntries_entries (by decide)) (by decide +kernel)
    · exact parse_of_entries (ofEntries_entries (by decide)) (by decide +kernel)
    · exact parse_of_entries (ofEntries_entries (by decide)) (by decide +kernel)
  obtain ⟨v, hv, hjoin⟩ := parse_joined hparse
  refine ⟨v, hv, ?_, ?_⟩
  · refine hjoin ["a \x27b\x27:1A,3", "\ta:2 b:1c", "c\\"] _ (List.Perm.refl _) ?_
      (by decide)
    exact .more _ " \n" (by decide) (List.all_eq_true.mp rfl) (by decide)
      (.more _ " " (by decide) (List.all_eq_true.mp rfl) (by decide) (.one "c\\"))
  · refine hjoin ["\ta:2 b:1c", "a \x27b\x27:1A,3", "c\\"] _ (List.Perm.swap _ _ _) ?_
      (by decide)
    exact .more _ "\u3000" (by decide) (List.all_eq_true.mp rfl) (by decide)
      (.more _ " " (by decide) (List.all_eq_true.mp rfl) (by decide) (.one "c\\"))

/-- A text that ends in an escape cannot come first: the backslash takes the blank behind it. -/
theorem joined_escape :
    parse "a\\" = .ok ⟨[⟨"a", []⟩]⟩ ∧ parse "b" = .ok ⟨[⟨"b", []⟩]⟩ ∧
    Joined ["b", "a\\"] "b a\\" ∧ parse "b a\\" = .ok ⟨[⟨"a", []⟩, ⟨"b", []⟩]⟩ ∧
    Joined ["a\\", "b"] "a\\ b" ∧ parse "a\\ b" = .ok ⟨[⟨"a b", []⟩]⟩ := by
  have hsort : ([⟨"b", []⟩, ⟨"a", []⟩] : List Entry).mergeSort Entry.before =
      [⟨"a", []⟩, ⟨"b", []⟩] := by
    simp [List.mergeSort, Entry.before]
  have hboth : ofEntries [⟨"b", []⟩, ⟨"a", []⟩] = ⟨[⟨"a", []⟩, ⟨"b", []⟩]⟩ := by
    rw [ofEntries, hsort]
    simp [gather]
  refine ⟨?_, ?_, ?_, ?_, ?_, ?_⟩
  · exact parse_of_entries (ofEntries_entries (by decide)) (by decide +kernel)
  · exact parse_of_entries (ofEntries_entries (by decide)) (by decide +kernel)
  · exact .more _ " " (by decide) (List.all_eq_true.mp rfl) (by decide) (.one "a\\")
  · exact parse_of_entries hboth (by decide +kernel)
  · exact .more _ " " (by decide) (List.all_eq_true.mp rfl) (by decide) (.one "b")
  · exact parse_of_entries (ofEntries_entries (by decide)) (by decide +kernel)

end EventIntake.SearchVector
