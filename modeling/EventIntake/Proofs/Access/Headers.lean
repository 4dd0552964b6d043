import EventIntake.Access.Credentials
import EventIntake.Proofs.Lists
import EventIntake.Proofs.Text.Trimming

/-!
# The key in a header

A header is a list of parameters between commas, perhaps behind a scheme. Whether its first word is a
scheme is guessed: it is if no equality sign stands in it. The guess is right, as a parameter has one
before its first blank. So the parameters are those that were written, whatever scheme and blanks are
around them (`parameters_header`), and of these the first `sentry_key` counts, or else the first
`glitchtip_key` (`keyOfHeader?_written`).
-/

namespace EventIntake.Credentials

open EventIntake.Text

variable {cs before after item name word gap : List Char}

/-! ## One parameter -/

/-- An item is split at its first equals sign, and the blanks around both parts are cut off. Further
equals signs belong to the value. -/
theorem parameter?_of_split (hname : '=' ∉ name) (value : List Char) :
    parameter? (name ++ '=' :: value) = some (trim name, trim value) := by
  rw [parameter?, dropWhile_bne_append hname, takeWhile_bne_append hname]

theorem parameter?_eq_none (h : '=' ∉ item) : parameter? item = none := by
  have hall : item.dropWhile (· != '=') = [] :=
    List.dropWhile_eq_nil_iff.mpr fun c hc => bne_iff_ne.mpr fun heq => h (heq ▸ hc)
  rw [parameter?, hall]

/-- Blanks before a parameter are not part of its name. -/
theorem parameter?_append_left (h : Blanks before) (item : List Char) :
    parameter? (before ++ item) = parameter? item := by
  have hbefore : '=' ∉ before := h.not_mem (by decide)
  by_cases hitem : '=' ∈ item
  · obtain ⟨name, value, rfl, hname⟩ := List.eq_append_cons_of_mem hitem
    rw [← List.append_assoc, parameter?_of_split (List.not_mem_append hbefore hname),
      parameter?_of_split hname, trim_append_left h]
  · rw [parameter?_eq_none hitem, parameter?_eq_none (List.not_mem_append hbefore hitem)]

/-- Blanks behind a parameter are not part of its value. -/
theorem parameter?_append_right (item : List Char) (h : Blanks after) :
    parameter? (item ++ after) = parameter? item := by
  have hafter : '=' ∉ after := h.not_mem (by decide)
  by_cases hitem : '=' ∈ item
  · obtain ⟨name, value, rfl, hname⟩ := List.eq_append_cons_of_mem hitem
    rw [List.append_assoc, List.cons_append, parameter?_of_split hname, parameter?_of_split hname,
      trim_append_right _ h]
  · rw [parameter?_eq_none hitem, parameter?_eq_none (List.not_mem_append hitem hafter)]

/-! ## All parameters -/

/-- The parameters between the commas of a text, as names and values. -/
def parameters (cs : List Char) : List (List Char × List Char) :=
  (cs.splitOn ',').filterMap parameter?

/-- A text is a single item, or an item, a comma and a text. Parameters are found item by item, so
this is the induction for everything that is said of all of them. -/
theorem comma_induction {motive : List Char → Prop} (single : ∀ item, ',' ∉ item → motive item)
    (comma : ∀ item rest, ',' ∉ item → motive rest → motive (item ++ ',' :: rest))
    (cs : List Char) : motive cs := by
  induction hlen : cs.length using Nat.strongRecOn generalizing cs with
  | ind n ih =>
    by_cases hcs : ',' ∈ cs
    · obtain ⟨item, rest, rfl, hitem⟩ := List.eq_append_cons_of_mem hcs
      refine comma item rest hitem (ih rest.length ?_ rest rfl)
      rw [← hlen, List.length_append, List.length_cons]
      omega
    · exact single cs hcs

theorem parameters_comma (cs ds : List Char) :
    parameters (cs ++ ',' :: ds) = parameters cs ++ parameters ds := by
  rw [parameters, List.splitOn_append_cons_self, List.filterMap_append, parameters, parameters]

theorem parameters_single (h : ',' ∉ item) : parameters item = (parameter? item).toList := by
  rw [parameters, List.splitOn_eq_singleton h]
  rcases hitem : parameter? item with _ | p
  · exact List.filterMap_cons_none hitem
  · exact List.filterMap_cons_some hitem

theorem parameters_eq_nil (h : '=' ∉ cs) : parameters cs = [] := by
  induction cs using comma_induction with
  | single item hitem => rw [parameters_single hitem, parameter?_eq_none h, Option.toList_none]
  | comma item rest hitem ih =>
    simp only [List.mem_append, List.mem_cons, not_or] at h
    rw [parameters_comma, parameters_single hitem, parameter?_eq_none h.1, ih h.2.2,
      Option.toList_none, List.append_nil]

theorem parameters_append_left (h : Blanks before) (cs : List Char) :
    parameters (before ++ cs) = parameters cs := by
  have hsingle {item : List Char} (hitem : ',' ∉ item) :
      parameters (before ++ item) = parameters item := by
    have hjoined : ',' ∉ before ++ item := List.not_mem_append (h.not_mem (by decide)) hitem
    rw [parameters_single hjoined, parameters_single hitem, parameter?_append_left h]
  induction cs using comma_induction with
  | single item hitem => exact hsingle hitem
  | comma item rest hitem _ =>
    rw [← List.append_assoc, parameters_comma, parameters_comma, hsingle hitem]

theorem parameters_append_right (cs : List Char) (h : Blanks after) :
    parameters (cs ++ after) = parameters cs := by
  induction cs using comma_induction with
  | single item hitem =>
    have hjoined : ',' ∉ item ++ after := List.not_mem_append hitem (h.not_mem (by decide))
    rw [parameters_single hjoined, parameters_single hitem, parameter?_append_right _ h]
  | comma item rest _ ih =>
    rw [List.append_assoc, List.cons_append, parameters_comma, parameters_comma, ih]

/-- Blanks around a header change none of its parameters. -/
theorem parameters_trim (cs : List Char) : parameters (trim cs) = parameters cs := by
  obtain ⟨before, after, hbefore, hafter, hcs⟩ := exists_trim cs
  rw [← parameters_append_right _ hafter, ← parameters_append_left hbefore, hcs]

/-! ## The scheme -/

theorem keepsUnbroken (h : Unbroken word) : ∀ c ∈ word, (!isBlank c) = true := by
  intro c hc
  rw [h c hc]
  rfl

/-- There is no scheme if the first word has an equality sign: then it is a parameter already, and
nothing is cut off. -/
theorem headerParameters_of_parameter {header rest : List Char} (hword : Unbroken word)
    (hmem : '=' ∈ word) (htrim : trim header = word ++ rest) :
    headerParameters header = word ++ rest := by
  have hfirst : ((word ++ rest).takeWhile (!isBlank ·)).contains '=' = true := by
    rw [List.takeWhile_append_of_pos (keepsUnbroken hword), List.contains_iff_mem]
    exact List.mem_append_left _ hmem
  rw [headerParameters, htrim]
  split
  · exact if_pos hfirst
  · rfl

/-- A first word without an equality sign is a scheme, if anything follows it. -/
theorem headerParameters_of_scheme {header rest : List Char} {c : Char} (hword : Unbroken word)
    (hmem : '=' ∉ word) (hc : isBlank c = true) (htrim : trim header = word ++ c :: rest) :
    headerParameters header = rest := by
  have hstop : ¬(!isBlank c) = true := by rw [hc]; decide
  have hfirst : (word ++ c :: rest).takeWhile (!isBlank ·) = word := by
    rw [List.takeWhile_append_of_pos (keepsUnbroken hword),
      List.takeWhile_cons_of_neg (p := fun c => !isBlank c) hstop, List.append_nil]
  have hrest : (word ++ c :: rest).dropWhile (!isBlank ·) = c :: rest := by
    rw [List.dropWhile_append_of_pos (keepsUnbroken hword),
      List.dropWhile_cons_of_neg (p := fun c => !isBlank c) hstop]
  rw [headerParameters, htrim]
  rw [hfirst, hrest]
  exact if_neg fun h => hmem (List.contains_iff_mem.mp h)

/-- A header of a single word has no scheme to be cut off, so the word may be a parameter. -/
theorem headerParameters_of_word {header : List Char} (hword : Unbroken word)
    (htrim : trim header = word) : headerParameters header = word := by
  have hrest : word.dropWhile (!isBlank ·) = [] :=
    List.dropWhile_eq_nil_iff.mpr (keepsUnbroken hword)
  rw [headerParameters, htrim]
  rw [hrest]

/-- A header without a scheme has all its parameters, whatever blanks are before
the first of them. -/
theorem parameters_headerParameters_bare (hbefore : Blanks before) (hname : Unbroken name)
    (rest : List Char) :
    parameters (headerParameters (before ++ (name ++ '=' :: rest))) =
      parameters (before ++ (name ++ '=' :: rest)) := by
  have hword : Unbroken (name ++ ['=']) := by
    intro c hc
    rcases List.mem_append.mp hc with hc | hc
    · exact hname c hc
    · rw [List.mem_singleton.mp hc]
      decide
  have htrim : trim (before ++ (name ++ '=' :: rest)) = name ++ ['='] ++ trimRight rest := by
    rw [trim_append_left hbefore, List.append_cons,
      hword.trim_append (List.append_ne_nil_of_right_ne_nil _ (List.cons_ne_nil _ _))]
  have hmem : '=' ∈ name ++ ['='] := List.mem_append_right _ List.mem_cons_self
  rw [headerParameters_of_parameter hword hmem htrim, ← htrim, parameters_trim]

/-- A scheme takes none of the parameters behind it, and adds none. -/
theorem parameters_headerParameters_scheme (hbefore : Blanks before) (hword : Unbroken word)
    (hne : word ≠ []) (hmem : '=' ∉ word) (hgap : Blanks gap) (hgapne : gap ≠ [])
    (cs : List Char) :
    parameters (headerParameters (before ++ (word ++ (gap ++ cs)))) = parameters cs := by
  have htrim : trim (before ++ (word ++ (gap ++ cs))) = word ++ trimRight (gap ++ cs) := by
    rw [trim_append_left hbefore, hword.trim_append hne]
  generalize before ++ (word ++ (gap ++ cs)) = header at htrim ⊢
  obtain ⟨after, hafter, hright⟩ := exists_trimRight (gap ++ cs)
  have hparameters : parameters (trimRight (gap ++ cs)) = parameters cs := by
    rw [← parameters_append_right _ hafter, hright, parameters_append_left hgap]
  rw [← hparameters]
  rcases hshort : trimRight (gap ++ cs) with _ | ⟨c, rest⟩
  -- nothing but blanks follows the scheme, so it is taken for a parameter, but it is none
  · rw [hshort, List.append_nil] at htrim
    rw [headerParameters_of_word hword htrim, parameters_eq_nil hmem]
    rfl
  · obtain ⟨g, gaps, rfl⟩ := List.exists_cons_of_ne_nil hgapne
    rw [hshort] at htrim hright
    obtain ⟨rfl, -⟩ := List.cons.inj hright
    have hblank : isBlank c = true := hgap c List.mem_cons_self
    rw [headerParameters_of_scheme hword hmem hblank htrim, ← List.singleton_append,
      parameters_append_left fun d hd => List.mem_singleton.mp hd ▸ hblank]

/-! ## Headers as they are written -/

/-- A parameter as it is written: a name and a value, and blanks around them. -/
structure Parameter where
  before : List Char
  name : List Char
  value : List Char
  after : List Char
  before_blanks : Blanks before := by decide
  after_blanks : Blanks after := by decide
  /-- the name has no blanks, equality signs and commas -/
  name_unbroken : Unbroken name := by decide
  name_eq : '=' ∉ name := by decide
  name_comma : ',' ∉ name := by decide
  /-- the value has no commas, and blanks only between other characters -/
  value_comma : ',' ∉ value := by decide
  value_trimmed : Trimmed value := by decide

/-- A scheme as it is written: a word with blanks before and at least one behind. -/
structure Scheme where
  before : List Char
  word : List Char
  gap : List Char
  before_blanks : Blanks before := by decide
  gap_blanks : Blanks gap := by decide
  gap_ne_nil : gap ≠ [] := by decide
  /-- the word has no blanks and equality signs -/
  word_unbroken : Unbroken word := by decide
  word_eq : '=' ∉ word := by decide
  word_ne_nil : word ≠ [] := by decide

/-- A header as it is written. -/
structure Header where
  scheme : Option Scheme
  parameters : List Parameter

/-- The text of a parameter. -/
def Parameter.text (p : Parameter) : List Char :=
  p.before ++ (p.name ++ '=' :: (p.value ++ p.after))

/-- The name and the value of a parameter. -/
def Parameter.pair (p : Parameter) : List Char × List Char :=
  (p.name, p.value)

/-- The text of a scheme. -/
def Scheme.text (s : Scheme) : List Char :=
  s.before ++ (s.word ++ s.gap)

/-- The text of a header: its parameters with commas between them, behind its scheme if it has one. -/
def Header.text (h : Header) : List Char :=
  (h.scheme.map Scheme.text).getD [] ++ [','].intercalate (h.parameters.map Parameter.text)

/-- The names and the values of a header. -/
def Header.pairs (h : Header) : List (List Char × List Char) :=
  h.parameters.map Parameter.pair

theorem Parameter.parameter?_text (p : Parameter) : parameter? p.text = some p.pair := by
  rw [text, parameter?_append_left p.before_blanks, parameter?_of_split p.name_eq,
    trim_append_right _ p.after_blanks, p.name_unbroken.trimmed.trim_eq, p.value_trimmed.trim_eq]
  rfl

theorem Parameter.comma_not_mem_text (p : Parameter) : ',' ∉ p.text := by
  have hbefore : ',' ∉ p.before := p.before_blanks.not_mem (by decide)
  have hafter : ',' ∉ p.after := p.after_blanks.not_mem (by decide)
  simp only [text, List.mem_append, List.mem_cons, not_or]
  exact ⟨hbefore, p.name_comma, by decide, p.value_comma, hafter⟩

/-- The parameters are read back from their texts, in the same order and with no name left out. -/
theorem parameters_intercalate (ps : List Parameter) :
    parameters ([','].intercalate (ps.map Parameter.text)) = ps.map Parameter.pair := by
  cases ps with
  | nil => rfl
  | cons p ps =>
    have hne : (p :: ps).map Parameter.text ≠ [] := List.cons_ne_nil _ _
    rw [parameters, List.splitOn_intercalate ',' ?_ hne, List.filterMap_map]
    · rw [← List.filterMap_eq_map]
      exact congrArg (List.filterMap · (p :: ps)) (funext Parameter.parameter?_text)
    · intro item hitem
      obtain ⟨q, -, rfl⟩ := List.mem_map.mp hitem
      exact q.comma_not_mem_text

/-- The parameters of a header are those that were written, whatever is around them. With a scheme
and without one, this comes down to the parameters between commas. -/
theorem parameters_header (h : Header) : parameters (headerParameters h.text) = h.pairs := by
  obtain ⟨scheme, ps⟩ := h
  cases scheme with
  | some s =>
    have htext : Header.text ⟨some s, ps⟩ =
        s.before ++ (s.word ++ (s.gap ++ [','].intercalate (ps.map Parameter.text))) := by
      simp [Header.text, Scheme.text]
    rw [htext, parameters_headerParameters_scheme s.before_blanks s.word_unbroken s.word_ne_nil
      s.word_eq s.gap_blanks s.gap_ne_nil, parameters_intercalate]
    rfl
  | none =>
    rw [Header.pairs, ← parameters_intercalate, Header.text, Option.map_none, Option.getD_none,
      List.nil_append]
    cases ps with
    | nil => rfl
    | cons p ps =>
      -- the name of the first parameter and its equality sign come before any blank
      obtain ⟨rest, hrest⟩ := exists_intercalate_cons [','] p.text (ps.map Parameter.text)
      have htext : [','].intercalate ((p :: ps).map Parameter.text) =
          p.before ++ (p.name ++ '=' :: (p.value ++ p.after ++ rest)) := by
        rw [List.map_cons, hrest, Parameter.text]
        simp only [List.append_assoc, List.cons_append]
      rw [htext, parameters_headerParameters_bare p.before_blanks p.name_unbroken]

/-! ## The key -/

/-- The key among the parameters of a header: the value of the first that is named `sentry_key`, or
else of the first that is named `glitchtip_key`. -/
def keyOfPairs? (pairs : List (List Char × List Char)) : Option (List Char) :=
  (pairs.lookup "sentry_key".toList).or (pairs.lookup "glitchtip_key".toList)

/-- The value of a parameter is that of the first one with its name. -/
theorem map_find?_eq_lookup (pairs : List (List Char × List Char)) (name : List Char) :
    (pairs.find? (·.1 == name)).map (·.2) = pairs.lookup name := by
  induction pairs with
  | nil => rfl
  | cons pair pairs ih =>
    rw [List.lookup_cons, List.find?_cons, BEq.comm]
    cases name == pair.1 with
    | true => rfl
    | false => exact ih

/-- The key in a header is the key among its parameters. -/
theorem keyOfHeader?_eq (header : List Char) :
    keyOfHeader? header = keyOfPairs? (parameters (headerParameters header)) := by
  rw [keyOfHeader?, ← parameters, keyNames]
  simp only [map_find?_eq_lookup, List.findSome?_cons, List.findSome?_nil, keyOfPairs?]
  cases List.lookup "sentry_key".toList (parameters (headerParameters header)) with
  | none => cases List.lookup "glitchtip_key".toList (parameters (headerParameters header)) <;> rfl
  | some key => rfl

/-- However a header is written, its key is the key among the pairs it was written from. -/
theorem keyOfHeader?_text (h : Header) : keyOfHeader? h.text = keyOfPairs? h.pairs := by
  rw [keyOfHeader?_eq, parameters_header]

/-- **The key in a header.** Whatever parameters are written in a header, with whatever blanks around
the commas and around the header, behind a scheme or not, the key is the value of the first that is
named `sentry_key`, or if there is none, of the first that is named `glitchtip_key`, or else there is
none. So headers with the same names and values have the same key. -/
theorem keyOfHeader?_written (h : Header) :
    keyOfHeader? h.text =
      (h.pairs.lookup "sentry_key".toList).or (h.pairs.lookup "glitchtip_key".toList) ∧
    ∀ other : Header, other.pairs = h.pairs → keyOfHeader? other.text = keyOfHeader? h.text := by
  refine ⟨keyOfHeader?_text h, fun other hpairs => ?_⟩
  rw [keyOfHeader?_text, keyOfHeader?_text, hpairs]

/-- Parameters with nothing around them: one without a name, one without a value, and one with blanks
and an equality sign in its value. -/
def tight : Header where
  scheme := none
  parameters := [
    { before := [], name := [], value := "a b".toList, after := [] },
    { before := [], name := "glitchtip_key".toList, value := [], after := [] },
    { before := [], name := "sentry_key".toList, value := "x = y".toList, after := [] }]

/-- The same behind a scheme with a comma, with blanks wherever there can be some. -/
def spaced : Header where
  scheme := some { before := [' '], word := "DSN,v7".toList, gap := ['\t', ' '] }
  parameters := [
    { before := [], name := [], value := "a b".toList, after := [' '] },
    { before := ['\t'], name := "glitchtip_key".toList, value := [], after := [' ', ' '] },
    { before := [], name := "sentry_key".toList, value := "x = y".toList, after := ['\u3000'] }]

/-- The same pairs are written once with as few blanks as may be and once with many, behind a
scheme. Among them are an empty name, an empty value, and a value with blanks and an equality sign
in it. -/
theorem keyOfHeader?_written_spaced :
    tight.text = "=a b,glitchtip_key=,sentry_key=x = y".toList ∧
    spaced.text = " DSN,v7\t =a b ,\tglitchtip_key=  ,sentry_key=x = y\u3000".toList ∧
    spaced.pairs = tight.pairs ∧
    keyOfHeader? tight.text = some "x = y".toList ∧
    keyOfHeader? spaced.text = keyOfHeader? tight.text := by
  have hpairs : spaced.pairs = tight.pairs := rfl
  obtain ⟨hkey, hsame⟩ := keyOfHeader?_written tight
  exact ⟨by decide, by decide, hpairs, hkey.trans (by decide), hsame spaced hpairs⟩

end EventIntake.Credentials
