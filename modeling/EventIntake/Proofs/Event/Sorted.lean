import EventIntake.Proofs.Event.Cutting

/-!
# The order of the search text

The search text is made of an event's excerpts: the different ones that are not empty, in the order of
their bytes, with blanks between them and cut. Only then are the NUL characters left out, so the text
is that of the excerpts without NUL characters if this is harmless (`searchText_sorted`).

It need not be. Excerpts that differ in a NUL character both get into the text (`searchText_repeated`).
-/

namespace EventIntake.Event

open EventIntake.Text.Utf8

variable {e : Event} {texts : List (List Char)} {text text₁ text₂ : List Char}

/-! ## The text of some excerpts -/

/-- The text is what some excerpts make: those that are not empty, in the order of their bytes and each
once, with blanks between them and cut. -/
def IsTextOf (texts : List (List Char)) (text : List Char) : Prop :=
  ∃ parts : List (List Char), parts.Pairwise (fun a b => encode a < encode b) ∧
    (∀ x, x ∈ parts ↔ x ∈ texts ∧ x ≠ []) ∧
    text = cutAtBlank maxSearchText ([' '].intercalate parts)

/-- Excerpts make one text. -/
theorem IsTextOf.unique (h₁ : IsTextOf texts text₁) (h₂ : IsTextOf texts text₂) : text₁ = text₂ := by
  obtain ⟨parts₁, hsorted₁, hmem₁, rfl⟩ := h₁
  obtain ⟨parts₂, hsorted₂, hmem₂, rfl⟩ := h₂
  have hparts : parts₁ = parts₂ :=
    hsorted₁.eq_of_mem_iff hsorted₂ fun x => (hmem₁ x).trans (hmem₂ x).symm
  rw [hparts]

/-- Before its NUL characters are left out, the search text is what the excerpts make. -/
theorem isTextOf_excerpts (e : Event) :
    IsTextOf e.excerpts (cutAtBlank maxSearchText e.joinedParts) :=
  ⟨e.searchParts, pairwise_searchParts e, fun _ => mem_searchParts, rfl⟩

/-! ## NUL characters -/

/-- A text without its NUL characters. -/
def withoutNul (cs : List Char) : List Char :=
  cs.filter (· != '\x00')

theorem withoutNul_eq_self (h : '\x00' ∉ text) : withoutNul text = text := by
  rw [withoutNul, List.filter_eq_self]
  intro c hc
  exact bne_iff_ne.mpr fun hcn => h (hcn ▸ hc)

/-- The parts are joined and cut first, and NUL characters are taken out of the result. -/
theorem searchText_eq (e : Event) :
    e.searchText = withoutNul (cutAtBlank maxSearchText e.joinedParts) := rfl

/-- Leaving out NUL characters does not touch the blanks between texts. -/
theorem withoutNul_intercalate (parts : List (List Char)) :
    withoutNul ([' '].intercalate parts) = [' '].intercalate (parts.map withoutNul) := by
  induction parts with
  | nil => rfl
  | cons x parts ih =>
    cases parts with
    | nil => rw [List.intercalate_singleton, List.map_singleton, List.intercalate_singleton]
    | cons y parts =>
      rw [List.map_cons] at ih ⊢
      rw [List.map_cons, List.intercalate_cons_cons, List.intercalate_cons_cons, ← ih]
      simp [withoutNul]

/-- The NUL characters in some texts can be left out without harm. -/
structure NulsHarmless (texts : List (List Char)) : Prop where
  /-- no text is made of them alone -/
  nonempty : ∀ x ∈ texts, x ≠ [] → withoutNul x ≠ []
  /-- the texts stay in order, and different ones stay different -/
  ordered : ∀ x ∈ texts, ∀ y ∈ texts,
    encode x < encode y → encode (withoutNul x) < encode (withoutNul y)

theorem nulsHarmless_of_not_mem (h : ∀ x ∈ texts, '\x00' ∉ x) : NulsHarmless texts := by
  constructor
  · intro x hx hne
    rwa [withoutNul_eq_self (h x hx)]
  · intro x hx y hy hlt
    rwa [withoutNul_eq_self (h x hx), withoutNul_eq_self (h y hy)]

/-- Where it does no harm, NUL characters may be left out of the excerpts instead of the parts: the
parts stay in order, and different ones stay different. -/
theorem NulsHarmless.of_excerpts (h : NulsHarmless e.excerpts) :
    (e.searchParts.map withoutNul).Pairwise (fun a b => encode a < encode b) ∧
      ∀ x, x ∈ e.searchParts.map withoutNul ↔ x ∈ e.excerpts.map withoutNul ∧ x ≠ [] := by
  constructor
  · rw [List.pairwise_map]
    refine (pairwise_searchParts e).imp_of_mem fun {a b} ha hb hlt => ?_
    exact h.ordered a (mem_searchParts.mp ha).1 b (mem_searchParts.mp hb).1 hlt
  · intro x
    rw [List.mem_map, List.mem_map]
    constructor
    · rintro ⟨y, hy, rfl⟩
      obtain ⟨hy, hne⟩ := mem_searchParts.mp hy
      exact ⟨⟨y, hy, rfl⟩, h.nonempty y hy hne⟩
    · rintro ⟨⟨y, hy, rfl⟩, hne⟩
      refine ⟨y, mem_searchParts.mpr ⟨hy, ?_⟩, rfl⟩
      rintro rfl
      exact hne rfl

theorem not_mem_joinedParts (h : ∀ x ∈ e.excerpts, '\x00' ∉ x) : '\x00' ∉ e.joinedParts := by
  have hparts : e.searchParts.map withoutNul = e.searchParts :=
    (List.map_congr_left fun x hx => withoutNul_eq_self (h x (mem_searchParts.mp hx).1)).trans
      (List.map_id _)
  intro hmem
  rw [joinedParts, ← hparts, ← withoutNul_intercalate] at hmem
  exact absurd (List.mem_filter.mp hmem).2 (by decide)

/-- It does not matter whether NUL characters are left out before the text is cut, if there are none or
if it is not cut. -/
theorem withoutNul_cutAtBlank (h : size e.joinedParts ≤ maxSearchText ∨ '\x00' ∉ e.joinedParts) :
    withoutNul (cutAtBlank maxSearchText e.joinedParts) =
      cutAtBlank maxSearchText (withoutNul e.joinedParts) := by
  rcases h with hfits | hnul
  · have hsize : size (withoutNul e.joinedParts) ≤ maxSearchText :=
      Nat.le_trans (size_le_of_sublist List.filter_sublist) hfits
    rw [cutAtBlank, cutAtBlank, if_pos hfits, if_pos hsize]
  · rw [withoutNul_eq_self hnul]
    refine withoutNul_eq_self fun hmem => hnul ?_
    rcases cutAtBlank_cases (fits_or_blank e) with ⟨-, heq⟩ | ⟨-, word, rest, -, -, htext⟩
    · rwa [heq] at hmem
    · rw [htext]
      exact List.mem_append_left _ hmem

/-! ## The text -/

/-- **Order.** The search text is what the excerpts make, without NUL characters. It is what the excerpts
without NUL characters make if they have none, or if these can be left out without harm and the text
need not be cut. -/
theorem searchText_sorted (e : Event) :
    (∃ text, IsTextOf e.excerpts text ∧ e.searchText = withoutNul text) ∧
      (NulsHarmless e.excerpts ∧ size e.joinedParts ≤ maxSearchText ∨
          (∀ x ∈ e.excerpts, '\x00' ∉ x) →
        IsTextOf (e.excerpts.map withoutNul) e.searchText) := by
  refine ⟨⟨_, isTextOf_excerpts e, searchText_eq e⟩, fun h => ?_⟩
  have hharmless : NulsHarmless e.excerpts := h.elim And.left nulsHarmless_of_not_mem
  have hcut : size e.joinedParts ≤ maxSearchText ∨ '\x00' ∉ e.joinedParts :=
    h.imp And.right not_mem_joinedParts
  obtain ⟨hsorted, hmem⟩ := hharmless.of_excerpts
  refine ⟨_, hsorted, hmem, ?_⟩
  rw [searchText_eq, withoutNul_cutAtBlank hcut, joinedParts, withoutNul_intercalate]

/-- An event with a title and a transaction. -/
def titled (title transaction : List Char) : Event :=
  { empty with title := some title, transaction := some transaction }

/-- A NUL character inside a title does no harm: without it the title still has its place among the
parts, and equals none of them. -/
theorem searchText_sorted_inner_nul :
    NulsHarmless (titled ['b', '\x00', 'c'] ['a']).excerpts ∧
      size (titled ['b', '\x00', 'c'] ['a']).joinedParts ≤ maxSearchText ∧
      IsTextOf ((titled ['b', '\x00', 'c'] ['a']).excerpts.map withoutNul)
        (titled ['b', '\x00', 'c'] ['a']).searchText := by
  have hparts : (titled ['b', '\x00', 'c'] ['a']).searchParts = [['a'], ['b', '\x00', 'c']] :=
    searchParts_eq_of_pairwise (by decide) (by decide) (by decide)
  have hharmless : NulsHarmless (titled ['b', '\x00', 'c'] ['a']).excerpts :=
    ⟨by decide, by decide⟩
  have hfits : size (titled ['b', '\x00', 'c'] ['a']).joinedParts ≤ maxSearchText := by
    rw [joinedParts, hparts]
    decide
  exact ⟨hharmless, hfits, (searchText_sorted _).2 (.inl ⟨hharmless, hfits⟩)⟩

/-- A transaction is repeated if the title differs from it only in a NUL character. The two are
different parts as long as the character is there. -/
theorem searchText_repeated :
    (titled ['a', '\x00'] ['a']).searchText = ['a', ' ', 'a'] ∧
      ¬IsTextOf ((titled ['a', '\x00'] ['a']).excerpts.map withoutNul)
        (titled ['a', '\x00'] ['a']).searchText := by
  have hparts : (titled ['a', '\x00'] ['a']).searchParts = [['a'], ['a', '\x00']] :=
    searchParts_eq_of_pairwise (by decide) (by decide) (by decide)
  have htext : (titled ['a', '\x00'] ['a']).searchText = ['a', ' ', 'a'] := by
    rw [searchText, hparts]
    decide
  have honce : IsTextOf ((titled ['a', '\x00'] ['a']).excerpts.map withoutNul) ['a'] := by
    have hsome : ∀ x ∈ [['a']], x ∈ (titled ['a', '\x00'] ['a']).excerpts.map withoutNul ∧
        x ≠ [] := by
      decide
    have hall : ∀ x ∈ (titled ['a', '\x00'] ['a']).excerpts.map withoutNul, x ≠ [] →
        x ∈ [['a']] := by
      decide
    exact ⟨[['a']], List.pairwise_singleton _ _,
      fun x => ⟨hsome x, fun hx => hall x hx.1 hx.2⟩, by decide⟩
  refine ⟨htext, fun htwice => ?_⟩
  rw [htext] at htwice
  exact absurd (htwice.unique honce) (by decide)

end EventIntake.Event
