import EventIntake.Proofs.Access.Headers
import EventIntake.Proofs.Text.Form

/-!
# The same parameters in a query and in a header

A list of plain names and values is read back from a query and from a header alike. What is made of it
differs: in a query the first parameter with the name of a key counts, while in a header a
`sentry_key` comes before a `glitchtip_key`, wherever it stands. So the two disagree on a list exactly
if its first key is a `glitchtip_key` and its first `sentry_key` has another value
(`key?_query_header`); the shortest such lists have two parameters (`key?_query_ne_header`).
-/

namespace EventIntake.Credentials

open EventIntake.Text

variable {c : Char} {pairs : List (List Char × List Char)} {value : List Char}

/-! ## Plain names and values -/

/-- A letter or a digit in ASCII, a hyphen or an underscore. -/
def isPlain (c : Char) : Bool :=
  c.isAlphanum || c == '-' || c == '_'

/-- Names and values of plain characters. -/
def Plain (pairs : List (List Char × List Char)) : Prop :=
  ∀ pair ∈ pairs, (∀ c ∈ pair.1, isPlain c = true) ∧ ∀ c ∈ pair.2, isPlain c = true

instance : Decidable (Plain pairs) :=
  decidable_of_iff (pairs.all fun pair => pair.1.all isPlain && pair.2.all isPlain) (by
    simp [Plain])

/-- The code of a plain character is that of a letter or a digit, or one of two others. -/
theorem toNat_of_isPlain (h : isPlain c = true) :
    65 ≤ c.toNat ∧ c.toNat ≤ 90 ∨ 97 ≤ c.toNat ∧ c.toNat ≤ 122 ∨ 48 ≤ c.toNat ∧ c.toNat ≤ 57 ∨
      c.toNat = 45 ∨ c.toNat = 95 := by
  simp only [isPlain, Bool.or_eq_true, beq_iff_eq] at h
  rcases h with (halphanum | rfl) | rfl
  · have hcode := toNat_of_isAlphanum halphanum
    omega
  · decide
  · decide

/-- A plain character is no blank, so nothing is trimmed off plain names and values in a header. -/
theorem isBlank_of_isPlain (h : isPlain c = true) : isBlank c = false := by
  have hcode := toNat_of_isPlain h
  simp only [isBlank, Bool.or_eq_false_iff, Bool.and_eq_false_iff, decide_eq_false_iff_not,
    beq_eq_false_iff_ne]
  omega

/-- A plain character stands for itself in a query, so nothing is decoded there. -/
theorem isLiteral_of_isPlain (h : isPlain c = true) : Form.IsLiteral c := by
  have hcode := toNat_of_isPlain h
  refine ⟨by omega, ?_, ?_, ?_, ?_⟩ <;> rintro rfl <;> exact absurd h (by decide)

/-! ## The two ways to send a list -/

/-- A request with parameters in its query. -/
def inQuery (pairs : List (List Char × List Char)) : Credentials where
  query := some (['&'].intercalate (pairs.map Form.pairText))
  sentryAuth := none
  authorization := none

/-- A request with parameters in its header. -/
def inHeader (pairs : List (List Char × List Char)) : Credentials where
  query := none
  sentryAuth := some ("Sentry ".toList ++ [','].intercalate (pairs.map Form.pairText))
  authorization := none

/-- Plain parameters can be written in a header with nothing around them. So the parameters of such
a header are given, without regard to scheme or blanks. -/
theorem Plain.exists_parameters (h : Plain pairs) :
    ∃ ps : List Parameter, ps.map Parameter.text = pairs.map Form.pairText ∧
      ps.map Parameter.pair = pairs := by
  induction pairs with
  | nil => exact ⟨[], rfl, rfl⟩
  | cons pair pairs ih =>
    obtain ⟨⟨hname, hvalue⟩, hrest⟩ := List.forall_mem_cons.mp h
    obtain ⟨ps, htexts, hpairs⟩ := ih hrest
    have hunbroken {cs : List Char} (hcs : ∀ c ∈ cs, isPlain c = true) : Unbroken cs :=
      fun c hc => isBlank_of_isPlain (hcs c hc)
    have hnot {cs : List Char} (hcs : ∀ c ∈ cs, isPlain c = true) {d : Char}
        (hd : isPlain d = false) : d ∉ cs :=
      fun hmem => Bool.false_ne_true (hd.symm.trans (hcs d hmem))
    let p : Parameter := {
      before := [], name := pair.1, value := pair.2, after := []
      name_unbroken := hunbroken hname
      name_eq := hnot hname (by decide)
      name_comma := hnot hname (by decide)
      value_comma := hnot hvalue (by decide)
      value_trimmed := (hunbroken hvalue).trimmed }
    refine ⟨p :: ps, ?_, ?_⟩
    · rw [List.map_cons, List.map_cons, htexts]
      exact congrArg (· :: _) (by simp [p, Parameter.text, Form.pairText])
    · rw [List.map_cons, hpairs]
      rfl

/-- In a header, a `sentry_key` comes before a `glitchtip_key`, wherever it stands. -/
theorem key?_inHeader (h : Plain pairs) : (inHeader pairs).key? = keyOfPairs? pairs := by
  obtain ⟨ps, htexts, hpairs⟩ := h.exists_parameters
  let sentry : Scheme := { before := [], word := "Sentry".toList, gap := [' '] }
  have htext : Header.text ⟨some sentry, ps⟩ =
      "Sentry ".toList ++ [','].intercalate (pairs.map Form.pairText) := by
    rw [← htexts]
    rfl
  have hkey : keyOfHeader? (Header.text ⟨some sentry, ps⟩) = keyOfPairs? pairs := by
    rw [keyOfHeader?_text, Header.pairs, hpairs]
  rw [← hkey, htext]
  rfl

/-- The first parameter of a list with the name of a key. -/
def firstKey? (pairs : List (List Char × List Char)) : Option (List Char × List Char) :=
  pairs.find? fun pair => pair.1 = "sentry_key".toList ∨ pair.1 = "glitchtip_key".toList

/-- What is written of plain parameters does not begin with a question mark. -/
theorem Plain.head?_ne (h : Plain pairs) :
    (['&'].intercalate (pairs.map Form.pairText)).head? ≠ some '?' := by
  cases pairs with
  | nil => exact nofun
  | cons pair pairs =>
    obtain ⟨name, value⟩ := pair
    obtain ⟨⟨hname, -⟩, -⟩ := List.forall_mem_cons.mp h
    obtain ⟨rest, hrest⟩ := exists_intercalate_cons ['&'] (Form.pairText (name, value))
      (pairs.map Form.pairText)
    rw [List.map_cons, hrest, Form.pairText]
    cases name with
    | nil => exact fun hmark => absurd (Option.some.inj hmark) (by decide)
    | cons c name =>
      intro hmark
      have hc : c = '?' := Option.some.inj hmark
      exact absurd (hc ▸ hname c List.mem_cons_self) (by decide)

/-- In a query, the first parameter with either name counts. -/
theorem key?_inQuery (h : Plain pairs) : (inQuery pairs).key? = (firstKey? pairs).map Prod.snd := by
  have hliteral : ∀ pair ∈ pairs, (∀ c ∈ pair.1, Form.IsLiteral c) ∧ ∀ c ∈ pair.2, Form.IsLiteral c :=
    fun pair hpair => ⟨fun c hc => isLiteral_of_isPlain ((h pair hpair).1 c hc),
      fun c hc => isLiteral_of_isPlain ((h pair hpair).2 c hc)⟩
  have hnames : (fun pair : List Char × List Char => keyNames.contains pair.1) =
      fun pair => decide (pair.1 = "sentry_key".toList ∨ pair.1 = "glitchtip_key".toList) := by
    funext pair
    rw [Bool.eq_iff_iff, List.contains_iff_mem, keyNames, List.mem_cons, List.mem_singleton,
      decide_eq_true_eq]
  have hquery : keyOfQuery? (['&'].intercalate (pairs.map Form.pairText)) =
      (firstKey? pairs).map Prod.snd := by
    rw [keyOfQuery?, List.dropWhile_beq_eq_self_of_head?_ne h.head?_ne,
      Form.pairs_intercalate hliteral, hnames]
    rfl
  rw [← hquery]
  exact Option.or_none

/-! ## Which key counts -/

theorem keyOfPairs?_eq_none (h : firstKey? pairs = none) : keyOfPairs? pairs = none := by
  have hnone := List.find?_eq_none.mp h
  have hlookup {name : List Char} (hname : name = "sentry_key".toList ∨ name = "glitchtip_key".toList) :
      pairs.lookup name = none := by
    refine List.lookup_eq_none_iff.mpr fun pair hpair => bne_iff_ne.mpr fun heq => ?_
    exact hnone pair hpair (decide_eq_true (heq ▸ hname))
  rw [keyOfPairs?, hlookup (.inl rfl), hlookup (.inr rfl)]
  rfl

/-- The first parameter with the name of a key is the first with its name. -/
theorem lookup_of_firstKey? {name : List Char} (h : firstKey? pairs = some (name, value)) :
    (name = "sentry_key".toList ∨ name = "glitchtip_key".toList) ∧
      pairs.lookup name = some value := by
  obtain ⟨hname, before, after, rfl, hbefore⟩ := List.find?_eq_some_iff_append.mp h
  have hname := of_decide_eq_true hname
  refine ⟨hname, List.lookup_eq_some_iff.mpr ⟨before, after, rfl, fun pair hpair => ?_⟩⟩
  refine bne_iff_ne.mpr fun heq => ?_
  have hother : pair.1 = "sentry_key".toList ∨ pair.1 = "glitchtip_key".toList := heq ▸ hname
  exact of_decide_eq_false ((Bool.not_eq_true' _).mp (hbefore pair hpair)) hother

/-- The first key is the one that a header gives, unless it is a `glitchtip_key` and there is a
`sentry_key` with another value behind it. -/
theorem firstKey?_eq_keyOfPairs?_iff :
    (firstKey? pairs).map Prod.snd = keyOfPairs? pairs ↔
      ¬∃ a b, a ≠ b ∧ firstKey? pairs = some ("glitchtip_key".toList, a) ∧
        pairs.lookup "sentry_key".toList = some b := by
  have hdistinct : "sentry_key".toList ≠ "glitchtip_key".toList := by decide
  rcases hfirst : firstKey? pairs with _ | ⟨name, value⟩
  · rw [keyOfPairs?_eq_none hfirst]
    refine iff_of_true rfl ?_
    rintro ⟨_, _, -, hnone, -⟩
    cases hnone
  · obtain ⟨rfl | rfl, hvalue⟩ := lookup_of_firstKey? hfirst
    · rw [keyOfPairs?, hvalue]
      refine iff_of_true rfl ?_
      rintro ⟨_, _, -, hname, -⟩
      exact hdistinct (congrArg Prod.fst (Option.some.inj hname))
    · rw [keyOfPairs?, hvalue]
      rcases hsentry : pairs.lookup "sentry_key".toList with _ | b
      · refine iff_of_true rfl ?_
        rintro ⟨_, _, -, -, hnone⟩
        cases hnone
      · rw [Option.map_some, Option.some_or, Option.some.injEq]
        constructor
        · rintro rfl ⟨_, _, hne, hname, hb⟩
          exact hne ((congrArg Prod.snd (Option.some.inj hname)).symm.trans (Option.some.inj hb))
        · exact fun h => Classical.byContradiction fun hne => h ⟨value, b, hne, rfl, rfl⟩

/-- **The same parameters in a query and in a header.** Of plain parameters in a query, the key is the
value of the first that is named `sentry_key` or `glitchtip_key`. In a header it is the value of the
first that is named `sentry_key`, or if there is none, of the first that is named `glitchtip_key`. The
two are the same but where the first of both names is a `glitchtip_key` and the first `sentry_key` has
another value. -/
theorem key?_query_header (pairs : List (List Char × List Char)) (h : Plain pairs) :
    (inQuery pairs).key? = (firstKey? pairs).map Prod.snd ∧
    (inHeader pairs).key? =
      (pairs.lookup "sentry_key".toList).or (pairs.lookup "glitchtip_key".toList) ∧
    ((inQuery pairs).key? = (inHeader pairs).key? ↔
      ¬∃ a b, a ≠ b ∧ firstKey? pairs = some ("glitchtip_key".toList, a) ∧
        pairs.lookup "sentry_key".toList = some b) := by
  refine ⟨key?_inQuery h, key?_inHeader h, ?_⟩
  rw [key?_inQuery h, key?_inHeader h, firstKey?_eq_keyOfPairs?_iff]

/-- Both names in the order of the list of names, one of them twice, after another parameter. -/
def repeated : List (List Char × List Char) :=
  [("sentry_version".toList, "7".toList), ("sentry_key".toList, "a-b_1".toList),
    ("glitchtip_key".toList, "c".toList), ("sentry_key".toList, [])]

/-- With the same value under both names, the query and the header agree, though the `glitchtip_key`
comes first. -/
theorem key?_query_header_repeated :
    Plain repeated ∧ (inQuery repeated).key? = some "a-b_1".toList ∧
      (inHeader repeated).key? = some "a-b_1".toList ∧
      (inQuery repeated).key? = (inHeader repeated).key? := by
  have hplain : Plain repeated := by decide
  obtain ⟨hquery, hheader, -⟩ := key?_query_header repeated hplain
  have hkey : (inQuery repeated).key? = some "a-b_1".toList := hquery.trans (by decide)
  have hsame : (inHeader repeated).key? = some "a-b_1".toList := hheader.trans (by decide)
  exact ⟨hplain, hkey, hsame, hkey.trans hsame.symm⟩

/-- Both names in the other order. -/
def crossed : List (List Char × List Char) :=
  [("glitchtip_key".toList, ['g']), ("sentry_key".toList, ['s'])]

/-- Query and header do not agree on every list. In the query the `glitchtip_key` counts since it
comes first, and in the header the `sentry_key` does. -/
theorem key?_query_ne_header :
    (inQuery crossed).key? = some ['g'] ∧ (inHeader crossed).key? = some ['s'] ∧
      ¬∀ pairs, Plain pairs → (inQuery pairs).key? = (inHeader pairs).key? := by
  have hplain : Plain crossed := by decide
  have hquery : (inQuery crossed).key? = some ['g'] := (key?_inQuery hplain).trans (by decide)
  have hheader : (inHeader crossed).key? = some ['s'] := (key?_inHeader hplain).trans (by decide)
  refine ⟨hquery, hheader, fun h => ?_⟩
  have hsame := h crossed hplain
  rw [hquery, hheader] at hsame
  exact absurd hsame (by decide)

end EventIntake.Credentials
