import EventIntake.Proofs.Text.Trimming
import EventIntake.Proofs.Url.Significant

/-!
# Credentials in URLs

What a URL says does not depend on the credentials in it. They end at the last at sign of the
authority, so the host behind them is the same for all (`splitCredentials_append`). They matter only
where there is no host: then a text with credentials is no URL, but one with an empty name may be one
(`readPlace?_eq_some_iff`). So two URLs that differ in their credentials say the same if both can be
read (`parse?_eq_of_some`), and where credentials that say something can be read, so can any others
(`parse?_of_saySomething`).

In a file URL an at sign belongs to the host, so these are left out here; and a text without a scheme is
no URL (`parse?_relative`).
-/

namespace EventIntake.Url

open EventIntake.Text (isBlank)

/-! ## URLs with credentials -/

/-- The characters may be a scheme: a letter, and then letters, digits and a few marks. -/
def IsScheme (s : List Char) : Prop :=
  (∃ first others, s = first :: others ∧ first.isAlpha = true) ∧ ∀ c ∈ s, isSchemeChar c = true

/-- The characters may stand for credentials: none of them ends the authority or is passed over. -/
def IsUserinfo (cs : List Char) : Prop :=
  ∀ c ∈ cs, c ≠ '/' ∧ c ≠ '\\' ∧ c ≠ '?' ∧ c ≠ '#' ∧ isBlank c = false

instance : DecidablePred IsUserinfo := fun cs =>
  List.decidableBAll (fun c => c ≠ '/' ∧ c ≠ '\\' ∧ c ≠ '?' ∧ c ≠ '#' ∧ isBlank c = false) cs

/-- The text after a prefix and two slashes that has some credentials and continues behind the at
sign. -/
def withUserinfo (front credentials rest : List Char) : List Char :=
  front ++ '/' :: '/' :: (credentials ++ '@' :: rest)

variable {s c c₁ c₂ rest : List Char} {kind : SchemeKind} {queried : Bool}

/-! ## The characters that count -/

theorem isOuterBlank_eq_false {x : Char} (h : 32 < x.toNat) : isOuterBlank x = false := by
  refine decide_eq_false fun hle => ?_
  have hcode : x.toNat ≤ 32 := hle
  omega

/-- The code of a character in a scheme is that of a letter or a digit, or one of three others. -/
theorem toNat_of_isSchemeChar {x : Char} (h : isSchemeChar x = true) :
    35 < x.toNat ∧ x.toNat ≠ 63 := by
  simp only [isSchemeChar, Bool.or_eq_true, beq_iff_eq] at h
  rcases h with ((halphanum | rfl) | rfl) | rfl
  · have hcode := Text.toNat_of_isAlphanum halphanum
    omega
  all_goals decide

/-- No character of a scheme is passed over or begins a query. -/
theorem isSchemeChar_ok {x : Char} (h : isSchemeChar x = true) :
    isOuterBlank x = false ∧ isInnerBlank x = false ∧ beginsQuery x = false := by
  obtain ⟨hlow, hquestion⟩ := toNat_of_isSchemeChar h
  refine ⟨isOuterBlank_eq_false (by omega), ?_, ?_⟩
  · simp only [isInnerBlank, Bool.or_eq_false_iff, beq_eq_false_iff_ne]
    refine ⟨⟨?_, ?_⟩, ?_⟩
    all_goals
      rintro rfl
      exact absurd hlow (by decide)
  · simp only [beginsQuery, Bool.or_eq_false_iff, beq_eq_false_iff_ne]
    constructor
    · rintro rfl
      exact absurd rfl hquestion
    · rintro rfl
      exact absurd hlow (by decide)

theorem isInnerBlank_eq_false {x : Char} (h : isBlank x = false) : isInnerBlank x = false := by
  simp only [isInnerBlank, Bool.or_eq_false_iff, beq_eq_false_iff_ne]
  refine ⟨⟨?_, ?_⟩, ?_⟩
  all_goals
    rintro rfl
    exact absurd h (by decide)

/-- Between two characters that are not passed over, all count but the inner blanks. -/
theorem significant_append {front rest : List Char} {first last : Char}
    (hfirst : isOuterBlank first = false) (hlast : isOuterBlank last = false)
    (hinner : ∀ x ∈ first :: (front ++ [last]), isInnerBlank x = false) :
    significant (first :: (front ++ last :: rest)) =
      first :: (front ++ last :: significantEnd rest) := by
  have hstart : significantStart (first :: front) = first :: front := by
    rw [significantStart, List.dropWhile_cons_of_neg (by rw [hfirst]; exact Bool.false_ne_true),
      List.filter_eq_self]
    intro x hx
    rw [hinner x (List.mem_append_left [last] hx)]
    rfl
  have hinnerLast : isInnerBlank last = false := hinner last (by simp)
  rw [← List.cons_append, significant_split hlast hinnerLast, hstart, List.cons_append]

/-! ## Up to the authority -/

theorem isScheme_ok (hs : IsScheme s) : ∀ x ∈ s ++ [':'],
    isInnerBlank x = false ∧ beginsQuery x = false := by
  intro x hx
  rcases List.mem_append.mp hx with hx | hx
  · exact (isSchemeChar_ok (hs.2 x hx)).2
  · obtain rfl := List.mem_singleton.mp hx
    exact ⟨rfl, rfl⟩

theorem isUserinfo_ok (hc : IsUserinfo c) : ∀ x ∈ '/' :: '/' :: (c ++ ['@']),
    isInnerBlank x = false ∧ beginsQuery x = false := by
  simp only [List.forall_mem_cons, List.forall_mem_append]
  refine ⟨⟨rfl, rfl⟩, ⟨rfl, rfl⟩, ?_, ⟨rfl, rfl⟩, List.forall_mem_nil _⟩
  intro x hx
  obtain ⟨-, -, hquestion, hhash, hblank⟩ := hc x hx
  refine ⟨isInnerBlank_eq_false hblank, ?_⟩
  simp only [beginsQuery, Bool.or_eq_false_iff, beq_eq_false_iff_ne]
  exact ⟨hquestion, hhash⟩

/-- Neither the scheme nor the credentials have characters that are passed over or begin a query. -/
theorem opening_ok (hs : IsScheme s) (hc : IsUserinfo c) :
    ∀ x ∈ (s ++ [':']) ++ '/' :: '/' :: (c ++ ['@']),
      isInnerBlank x = false ∧ beginsQuery x = false :=
  List.forall_mem_append.mpr ⟨isScheme_ok hs, isUserinfo_ok hc⟩

theorem withUserinfo_eq (front c rest : List Char) :
    withUserinfo front c rest = (front ++ '/' :: '/' :: (c ++ ['@'])) ++ rest := by
  simp [withUserinfo]

/-- What counts of a URL with credentials is the scheme, the credentials and what counts of the
rest. -/
theorem significant_withUserinfo (hs : IsScheme s) (hc : IsUserinfo c) (rest : List Char) :
    significant (withUserinfo (s ++ [':']) c rest) =
      withUserinfo (s ++ [':']) c (significantEnd rest) := by
  obtain ⟨first, others, rfl, -⟩ := hs.1
  have hshape (t : List Char) : withUserinfo (first :: others ++ [':']) c t =
      first :: ((others ++ ':' :: '/' :: '/' :: c) ++ '@' :: t) := by
    simp [withUserinfo]
  rw [hshape, hshape]
  refine significant_append (isSchemeChar_ok (hs.2 first List.mem_cons_self)).1 (by decide) ?_
  intro x hx
  refine (opening_ok hs hc x ?_).1
  simpa using hx

theorem any_beginsQuery_withUserinfo (hs : IsScheme s) (hc : IsUserinfo c) (rest : List Char) :
    (withUserinfo (s ++ [':']) c rest).any beginsQuery = rest.any beginsQuery := by
  have hnone : ((s ++ [':']) ++ '/' :: '/' :: (c ++ ['@'])).any beginsQuery = false := by
    rw [List.any_eq_false]
    intro x hx
    rw [(opening_ok hs hc x hx).2]
    exact Bool.false_ne_true
  rw [withUserinfo_eq, List.any_append, hnone, Bool.false_or]

/-- Neither the scheme nor the credentials begin a query, so what comes before the query is cut off
the rest only. -/
theorem takeWhile_withUserinfo (hs : IsScheme s) (hc : IsUserinfo c) (rest : List Char) :
    (withUserinfo (s ++ [':']) c rest).takeWhile (!beginsQuery ·) =
      withUserinfo (s ++ [':']) c (rest.takeWhile (!beginsQuery ·)) := by
  rw [withUserinfo_eq, withUserinfo_eq]
  refine List.takeWhile_append_of_pos fun x hx => ?_
  rw [(opening_ok hs hc x hx).2]
  rfl

/-- A scheme is split off at its colon, and made lower case. -/
theorem splitScheme?_append (hs : IsScheme s) (rest : List Char) :
    splitScheme? (s ++ ':' :: rest) = some (s.map Char.toLower, rest) := by
  obtain ⟨first, others, rfl, hfirst⟩ := hs.1
  have htake : (first :: others ++ ':' :: rest).takeWhile isSchemeChar = first :: others := by
    rw [List.takeWhile_append_of_pos hs.2, List.takeWhile_cons_of_neg (by decide), List.append_nil]
  have hdrop : (first :: others ++ ':' :: rest).dropWhile isSchemeChar = ':' :: rest := by
    rw [List.dropWhile_append_of_pos hs.2, List.dropWhile_cons_of_neg (by decide)]
  rw [splitScheme?, htake, hdrop]
  exact if_pos hfirst

/-- Credentials hold nothing that ends the authority. -/
theorem separates_eq_false (hc : IsUserinfo c) (kind : SchemeKind) :
    ∀ x ∈ c, kind.separates x = false := by
  intro x hx
  obtain ⟨hslash, hbackslash, -⟩ := hc x hx
  simp only [SchemeKind.separates, Bool.or_eq_false_iff, beq_eq_false_iff_ne, Bool.and_eq_false_iff]
  exact ⟨hslash, .inl hbackslash⟩

theorem separates_at (kind : SchemeKind) : kind.separates '@' = false := by
  cases kind <;> rfl

/-- The slashes before the authority of a scheme that browsers know end where the credentials begin. -/
theorem dropWhile_separates (hc : IsUserinfo c) (port : Nat) (rest : List Char) :
    ('/' :: '/' :: (c ++ '@' :: rest)).dropWhile (SchemeKind.web port).separates =
      c ++ '@' :: rest := by
  rw [List.dropWhile_cons_of_pos rfl, List.dropWhile_cons_of_pos rfl]
  cases c with
  | nil => rfl
  | cons x c =>
    refine List.dropWhile_cons_of_neg ?_
    rw [separates_eq_false hc _ x List.mem_cons_self]
    exact Bool.false_ne_true

/-- Reading a URL with credentials comes to reading its authority: scheme and significant characters
are the same with any credentials. -/
theorem parse?_withUserinfo (hs : IsScheme s)
    (hfile : SchemeKind.ofScheme (s.map Char.toLower) ≠ .file) (hc : IsUserinfo c)
    (rest : List Char) :
    parse? (withUserinfo (s ++ [':']) c rest) =
      ofPlace? (s.map Char.toLower) (.ofScheme (s.map Char.toLower))
        ((significantEnd rest).any beginsQuery)
        (c ++ '@' :: (significantEnd rest).takeWhile (!beginsQuery ·)) := by
  have hsplit (t : List Char) : splitScheme? (withUserinfo (s ++ [':']) c t) =
      some (s.map Char.toLower, '/' :: '/' :: (c ++ '@' :: t)) := by
    rw [withUserinfo, List.append_assoc]
    exact splitScheme?_append hs _
  rw [parse?]
  simp only [significant_withUserinfo hs hc, any_beginsQuery_withUserinfo hs hc,
    takeWhile_withUserinfo hs hc, hsplit, Option.bind_eq_bind, Option.bind_some]
  rcases hkind : SchemeKind.ofScheme (s.map Char.toLower) with _ | port | _
  · exact absurd hkind hfile
  · dsimp only
    rw [dropWhile_separates hc]
  · rfl

/-! ## The authority -/

/-- The host is what follows the last at sign of the authority. -/
def hostAfter (authority : List Char) : List Char :=
  (authority.reverse.takeWhile (· != '@')).reverse

/-- The credentials are all before the last at sign, the host all behind it. So at signs among the
credentials make no difference to the host. -/
theorem splitCredentials_append (c authority : List Char) :
    splitCredentials (c ++ '@' :: authority) =
      (some (c ++ ('@' :: authority).take (authority.length - (hostAfter authority).length)),
        hostAfter authority) := by
  have hat : (c ++ '@' :: authority).contains '@' = true := by simp
  have hhost : (c ++ '@' :: authority).reverse.takeWhile (· != '@') =
      authority.reverse.takeWhile (· != '@') := by
    rw [List.reverse_append, List.reverse_cons, List.append_assoc, List.takeWhile_append]
    split
    · -- no at sign comes behind that of the credentials
      rename_i hall
      rw [List.singleton_append, List.takeWhile_cons_of_neg (by decide), List.append_nil]
      exact ((List.takeWhile_sublist _).eq_of_length hall).symm
    · rfl
  have hlength : (hostAfter authority).length ≤ authority.length := by
    have hle : (authority.reverse.takeWhile (· != '@')).length ≤ authority.reverse.length :=
      (List.takeWhile_sublist _).length_le
    rw [List.length_reverse] at hle
    rw [hostAfter, List.length_reverse]
    exact hle
  have hcount : (c ++ '@' :: authority).length - (hostAfter authority).length - 1 =
      c.length + (authority.length - (hostAfter authority).length) := by
    rw [List.length_append, List.length_cons]
    omega
  rw [splitCredentials, if_pos hat, hhost]
  dsimp only
  rw [← hostAfter, hcount, List.take_length_add_append]

/-- The authority at the beginning of a text. -/
def authorityOf (kind : SchemeKind) (text : List Char) : List Char :=
  text.takeWhile (!kind.separates ·)

/-- What follows the authority of a text. -/
def pathOf (kind : SchemeKind) (text : List Char) : List Char :=
  text.dropWhile (!kind.separates ·)

/-- The authority goes on behind credentials, up to where it would have ended without them. -/
theorem authorityOf_append (hc : IsUserinfo c) (kind : SchemeKind) (text : List Char) :
    authorityOf kind (c ++ '@' :: text) = c ++ '@' :: authorityOf kind text ∧
      pathOf kind (c ++ '@' :: text) = pathOf kind text := by
  have hkeep : ∀ x ∈ c, (!kind.separates x) = true := by
    intro x hx
    rw [separates_eq_false hc kind x hx]
    rfl
  have hat : ¬kind.separates '@' = true := by
    rw [separates_at]
    exact Bool.false_ne_true
  rw [authorityOf, pathOf, List.takeWhile_append_of_pos hkeep, List.dropWhile_append_of_pos hkeep]
  simp [authorityOf, pathOf, hat]

/-- All credentials there are if these begin a text: more may come up to a later at sign. -/
def allCredentials (kind : SchemeKind) (c text : List Char) : List Char :=
  c ++ ('@' :: authorityOf kind text).take
    ((authorityOf kind text).length - (hostAfter (authorityOf kind text)).length)

/-- Credentials that say something: more than an empty name. -/
def SaySomething (credentials : List Char) : Prop :=
  credentials ≠ [] ∧ credentials ≠ [':']

/-- Credentials that say something still do with more of them behind. -/
theorem SaySomething.append (h : SaySomething c) (more : List Char) : SaySomething (c ++ more) := by
  constructor
  · intro hnil
    exact h.1 (List.append_eq_nil_iff.mp hnil).1
  · intro hcolon
    rcases List.append_eq_singleton_iff.mp hcolon with ⟨hnil, -⟩ | ⟨hone, -⟩
    · exact h.1 hnil
    · exact h.2 hone

/-- What it takes to read an authority with credentials: the host is read as it would be without them,
and where there is none, they say nothing. -/
theorem readPlace?_eq_some_iff (hc : IsUserinfo c) {text : List Char} {place : Place} :
    readPlace? kind queried (c ++ '@' :: text) = some place ↔
      ¬(allCredentials kind c text = [] ∧ hostAfter (authorityOf kind text) = [] ∧
        (queried = true ∨ pathOf kind text ≠ [])) ∧
      ∃ found, readHost? kind (hostAfter (authorityOf kind text)) = some found ∧
        ¬(found.host = none ∧ SaySomething (allCredentials kind c text)) ∧
        { found with rest := found.rest ++ pathOf kind text } = place := by
  obtain ⟨hauthority, hpath⟩ := authorityOf_append hc kind text
  rw [readPlace?, ← authorityOf, ← pathOf, hauthority, hpath, splitCredentials_append]
  dsimp only
  rw [← allCredentials]
  have hlone : ((some (allCredentials kind c text) == some []) &&
      (hostAfter (authorityOf kind text)).isEmpty &&
      (queried || !(pathOf kind text).isEmpty)) = true ↔
      allCredentials kind c text = [] ∧ hostAfter (authorityOf kind text) = [] ∧
        (queried = true ∨ pathOf kind text ≠ []) := by
    simp only [Bool.and_eq_true, Bool.or_eq_true, beq_iff_eq, Option.some.injEq, List.isEmpty_iff,
      Bool.not_eq_true', List.isEmpty_eq_false_iff, and_assoc]
  have hsay (found : Place) : (found.host.isNone &&
      (some (allCredentials kind c text)).any fun cs => cs != [] && cs != [':']) = true ↔
      found.host = none ∧ SaySomething (allCredentials kind c text) := by
    simp only [Bool.and_eq_true, Option.isNone_iff_eq_none, Option.any_some, bne_iff_ne,
      SaySomething]
  simp only [Option.bind_eq_bind, Option.ite_none_left_eq_some, Option.bind_eq_some_iff, hlone, hsay,
    Option.some.injEq]

/-- Without a name there is no host. -/
theorem host_of_readHost?_nil {found : Place} (h : readHost? kind [] = some found) :
    found.host = none := by
  cases kind with
  | other =>
    obtain rfl : (⟨none, none, []⟩ : Place) = found := Option.some.inj h
    rfl
  | file => cases h
  | web port => cases h

theorem isForbiddenInName_eq (x : Char) :
    Host.isForbiddenInName x = decide (x ∈ "\x00\t\n\r #/:<>?@[\\]^|".toList) := by
  rw [Host.isForbiddenInName, String.contains_char_eq]

/-- A name of characters that are allowed in it is a host. -/
theorem ofOpaque?_name {name : List Char} (hne : name ≠ [])
    (h : name.any Host.isForbiddenInName = false) :
    Host.ofOpaque? name = some (some (.name (percentEncode isControl name))) := by
  rw [Host.ofOpaque?]
  · rw [h]
    rfl
  · exact hne
  · rintro more rfl
    rw [List.any_cons, isForbiddenInName_eq] at h
    exact absurd (Bool.or_eq_false_iff.mp h).1 (by decide)

/-- Two authorities that differ in their credentials say the same if both can be read. -/
theorem readPlace?_eq (h₁ : IsUserinfo c₁) (h₂ : IsUserinfo c₂) {text : List Char}
    {place₁ place₂ : Place} (hr₁ : readPlace? kind queried (c₁ ++ '@' :: text) = some place₁)
    (hr₂ : readPlace? kind queried (c₂ ++ '@' :: text) = some place₂) : place₁ = place₂ := by
  obtain ⟨-, found₁, hf₁, -, rfl⟩ := (readPlace?_eq_some_iff h₁).mp hr₁
  obtain ⟨-, found₂, hf₂, -, rfl⟩ := (readPlace?_eq_some_iff h₂).mp hr₂
  rw [hf₁] at hf₂
  rw [Option.some.inj hf₂]

/-- Before a host any credentials are allowed. -/
theorem readPlace?_of_host (hc : IsUserinfo c) {text : List Char} {found : Place}
    (hf : readHost? kind (hostAfter (authorityOf kind text)) = some found)
    (hhost : found.host ≠ none) (queried : Bool) :
    readPlace? kind queried (c ++ '@' :: text) =
      some { found with rest := found.rest ++ pathOf kind text } := by
  refine (readPlace?_eq_some_iff hc).mpr ⟨?_, found, hf, fun hnone => hhost hnone.1, rfl⟩
  rintro ⟨-, hnil, -⟩
  rw [hnil] at hf
  exact hhost (host_of_readHost?_nil hf)

/-- Where credentials that say something are allowed, any are. -/
theorem readPlace?_of_saySomething (h₁ : IsUserinfo c₁) (h₂ : IsUserinfo c₂)
    (hsay : SaySomething c₁) {text : List Char} {place : Place}
    (hr : readPlace? kind queried (c₁ ++ '@' :: text) = some place) :
    readPlace? kind queried (c₂ ++ '@' :: text) = some place := by
  obtain ⟨-, found, hf, hallowed, rfl⟩ := (readPlace?_eq_some_iff h₁).mp hr
  exact readPlace?_of_host h₂ hf (fun hnone => hallowed ⟨hnone, hsay.append _⟩) queried

/-! ## Whole URLs -/

variable {scheme : List Char}

/-- A URL is read of a place if and only if the place can be read, and has its host, port and path
then. -/
theorem ofPlace?_eq_some_iff {text : List Char} {url : Url} :
    ofPlace? scheme kind queried text = some url ↔
      ∃ place, readPlace? kind queried text = some place ∧
        ⟨scheme, place.host, place.port, placePath kind place.rest⟩ = url := by
  rw [ofPlace?, Option.bind_eq_bind, Option.bind_eq_some_iff]
  simp only [Option.pure_def, Option.some.injEq]

/-- A URL with a host can be read, whatever its credentials are. -/
theorem parse?_of_host (hs : IsScheme s)
    (hkind : SchemeKind.ofScheme (s.map Char.toLower) = kind) (hfile : kind ≠ .file)
    (hc : IsUserinfo c) {found : Place}
    (hf : readHost? kind (hostAfter (authorityOf kind
      ((significantEnd rest).takeWhile (!beginsQuery ·)))) = some found)
    (hhost : found.host ≠ none) :
    (parse? (withUserinfo (s ++ [':']) c rest)).isSome = true := by
  subst hkind
  rw [parse?_withUserinfo hs hfile hc, Option.isSome_iff_exists]
  exact ⟨_, ofPlace?_eq_some_iff.mpr ⟨_, readPlace?_of_host hc hf hhost _, rfl⟩⟩

/-- Two URLs that differ in their credentials say the same if both can be read. Credentials decide
whether there is a URL at all only where there is no host. -/
theorem parse?_eq_of_some (hs : IsScheme s)
    (hfile : SchemeKind.ofScheme (s.map Char.toLower) ≠ .file) (h₁ : IsUserinfo c₁)
    (h₂ : IsUserinfo c₂) {url₁ url₂ : Url}
    (hr₁ : parse? (withUserinfo (s ++ [':']) c₁ rest) = some url₁)
    (hr₂ : parse? (withUserinfo (s ++ [':']) c₂ rest) = some url₂) : url₁ = url₂ := by
  rw [parse?_withUserinfo hs hfile h₁] at hr₁
  rw [parse?_withUserinfo hs hfile h₂] at hr₂
  obtain ⟨place₁, hp₁, rfl⟩ := ofPlace?_eq_some_iff.mp hr₁
  obtain ⟨place₂, hp₂, rfl⟩ := ofPlace?_eq_some_iff.mp hr₂
  rw [readPlace?_eq h₁ h₂ hp₁ hp₂]

/-- If a URL can be read whose credentials say something, it can be read with any others and says the
same. -/
theorem parse?_of_saySomething (hs : IsScheme s)
    (hfile : SchemeKind.ofScheme (s.map Char.toLower) ≠ .file) (h₁ : IsUserinfo c₁)
    (h₂ : IsUserinfo c₂) (hsay : SaySomething c₁) {url : Url}
    (hr : parse? (withUserinfo (s ++ [':']) c₁ rest) = some url) :
    parse? (withUserinfo (s ++ [':']) c₂ rest) = some url := by
  rw [parse?_withUserinfo hs hfile h₁] at hr
  rw [parse?_withUserinfo hs hfile h₂]
  obtain ⟨place, hp, hurl⟩ := ofPlace?_eq_some_iff.mp hr
  exact ofPlace?_eq_some_iff.mpr ⟨place, readPlace?_of_saySomething h₁ h₂ hsay hp, hurl⟩

/-- A text that begins with two slashes is no URL, for it has no scheme. -/
theorem parse?_relative (hc : IsUserinfo c) (rest : List Char) :
    parse? (withUserinfo [] c rest) = none := by
  have hsignificant : significant (withUserinfo [] c rest) =
      '/' :: '/' :: (c ++ '@' :: significantEnd rest) := by
    have hslash : isOuterBlank '/' = false := rfl
    have hat : isOuterBlank '@' = false := rfl
    refine (significant_append hslash hat ?_ : significant ('/' :: ('/' :: c ++ '@' :: rest)) = _)
    exact fun x hx => (isUserinfo_ok hc x hx).1
  have hscheme (cs : List Char) : splitScheme? ('/' :: cs) = none := by
    rw [splitScheme?, List.takeWhile_cons_of_neg (by decide)]
  rw [parse?, hsignificant, List.takeWhile_cons_of_pos rfl, hscheme]
  rfl

end EventIntake.Url
