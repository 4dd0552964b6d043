import EventIntake.Proofs.SearchVector.Entries
import EventIntake.Proofs.SearchVector.Positions

/-!
# What the operations do to a lexeme

Each operation on vectors is described by what a lexeme has afterwards (`positions?_ofEntries`,
`positions?_concat`, `positions?_compact`, `positions?_strip`), and each gives a well-formed vector,
from any entries or tokens or from well-formed vectors. A well-formed vector is entries in strict byte
order, every one of them well-formed by itself (`wellFormed_iff`), and its lexemes with the positions
of each (`positionsOf`) are all there is to it (`WellFormed.ext_positionsOf`).
-/

namespace EventIntake

/-- What every entry of a well-formed vector satisfies by itself. -/
structure Entry.WellFormed (e : Entry) : Prop where
  /-- the lexeme is neither empty nor too long -/
  lexeme_ok : e.lexeme ≠ "" ∧ e.lexeme.utf8ByteSize ≤ maxLexemeBytes
  /-- the places are in range -/
  inRange : InRange e.positions
  /-- the places are strictly increasing -/
  increasing : Increasing e.positions
  /-- there are no more positions than the limit -/
  few : e.positions.length ≤ maxPositions

/-- A lexeme that may be kept is a well-formed entry with any settled positions, as long as their
places are in the range. -/
theorem Entry.wellFormed_settle {x : String} {ps : List Position}
    (hx : x ≠ "" ∧ x.utf8ByteSize ≤ maxLexemeBytes) (hps : InRange ps) :
    Entry.WellFormed ⟨x, settle ps⟩ :=
  ⟨hx, fun p hp => hps p (mem_of_mem_settle hp), increasing_settle ps, length_settle_le ps⟩

theorem Entry.WellFormed.settle_positions {e : Entry} (h : e.WellFormed) :
    settle e.positions = e.positions :=
  settle_eq_self h.increasing h.few

namespace SearchVector

variable {v w : SearchVector} {x : String}

/-- Well-formedness has a part that each entry satisfies by itself, and the order of the entries,
which is about all of them together. -/
theorem wellFormed_iff :
    v.WellFormed ↔ Ascending v.entries ∧ ∀ e ∈ v.entries, e.WellFormed := by
  constructor
  · intro h
    exact ⟨h.sorted, fun e he =>
      ⟨h.lexeme_ok e he, h.place_ok e he, h.increasing e he, h.few e he⟩⟩
  · rintro ⟨hasc, h⟩
    exact ⟨fun e he => (h e he).lexeme_ok, hasc, fun e he => (h e he).inRange,
      fun e he => (h e he).increasing, fun e he => (h e he).few⟩

instance : DecidablePred Entry.WellFormed := fun e =>
  decidable_of_iff ((e.lexeme ≠ "" ∧ e.lexeme.utf8ByteSize ≤ maxLexemeBytes) ∧
      InRange e.positions ∧ Increasing e.positions ∧ e.positions.length ≤ maxPositions)
    ⟨fun ⟨hx, hrange, hinc, hfew⟩ => ⟨hx, hrange, hinc, hfew⟩, fun h => ⟨h.1, h.2, h.3, h.4⟩⟩

instance : DecidablePred WellFormed := fun _ =>
  decidable_of_iff _ wellFormed_iff.symm

theorem WellFormed.ascending (h : v.WellFormed) : Ascending v.entries :=
  h.sorted

theorem WellFormed.entry (h : v.WellFormed) {e : Entry} (he : e ∈ v.entries) : e.WellFormed :=
  (wellFormed_iff.mp h).2 e he

/-! ## Vectors by lexeme -/

theorem positions?_eq_lookup (v : SearchVector) (x : String) :
    v.positions? x = lookup v.entries x :=
  rfl

/-- What a lexeme of a well-formed vector has is well-formed. -/
theorem WellFormed.positions (h : v.WellFormed) {ps : List Position}
    (hx : v.positions? x = some ps) : Entry.WellFormed ⟨x, ps⟩ :=
  h.entry (mem_of_lookup hx)

/-- Entries in strict byte order are a well-formed vector if what each lexeme has is well-formed. -/
theorem wellFormed_of_positions (hasc : Ascending v.entries)
    (h : ∀ x ps, v.positions? x = some ps → Entry.WellFormed ⟨x, ps⟩) : v.WellFormed :=
  wellFormed_iff.mpr ⟨hasc, fun e he => h e.lexeme e.positions (hasc.lookup_of_mem he)⟩

/-- Two well-formed vectors are equal if each lexeme has the same in both. -/
theorem WellFormed.ext (hv : v.WellFormed) (hw : w.WellFormed)
    (h : ∀ x, v.positions? x = w.positions? x) : v = w := by
  obtain ⟨es⟩ := v
  obtain ⟨fs⟩ := w
  exact congrArg SearchVector.mk (hv.ascending.ext hw.ascending h)

/-- A lexeme is in the vector if and only if positions are found for it, be it none. -/
theorem mem_lexemes_iff : x ∈ v.lexemes ↔ (v.positions? x).isSome = true :=
  lookup_isSome_iff.symm

/-- The positions of a lexeme, none if it is not there. -/
def positionsOf (v : SearchVector) (x : String) : List Position :=
  (v.positions? x).getD []

theorem positionsOf_eq {ps : List Position} (hx : v.positions? x = some ps) :
    v.positionsOf x = ps := by
  rw [positionsOf, hx, Option.getD_some]

theorem positionsOf_eq_nil (hx : v.positions? x = none) : v.positionsOf x = [] := by
  rw [positionsOf, hx, Option.getD_none]

theorem positions?_eq_some_positionsOf (hx : x ∈ v.lexemes) :
    v.positions? x = some (v.positionsOf x) := by
  obtain ⟨ps, hps⟩ := Option.isSome_iff_exists.mp (mem_lexemes_iff.mp hx)
  rw [hps, positionsOf_eq hps]

theorem positions?_eq_none (hx : x ∉ v.lexemes) : v.positions? x = none :=
  Option.not_isSome_iff_eq_none.mp fun hsome => hx (mem_lexemes_iff.mpr hsome)

/-- What a lexeme has is well-formed, even if it is not there. -/
theorem WellFormed.positionsOf_ok (h : v.WellFormed) (x : String) :
    InRange (v.positionsOf x) ∧ Increasing (v.positionsOf x) ∧
      (v.positionsOf x).length ≤ maxPositions := by
  rcases hx : v.positions? x with _ | ps
  · rw [positionsOf_eq_nil hx]
    exact ⟨fun _ hp => absurd hp List.not_mem_nil, List.Pairwise.nil, Nat.zero_le _⟩
  · rw [positionsOf_eq hx]
    exact ⟨(h.positions hx).inRange, (h.positions hx).increasing, (h.positions hx).few⟩

/-- Two well-formed vectors are equal if they have the same lexemes with the same positions. -/
theorem WellFormed.ext_positionsOf (hv : v.WellFormed) (hw : w.WellFormed)
    (hlexemes : ∀ x, x ∈ v.lexemes ↔ x ∈ w.lexemes)
    (hpositions : ∀ x, v.positionsOf x = w.positionsOf x) : v = w := by
  refine hv.ext hw fun x => ?_
  by_cases hx : x ∈ v.lexemes
  · rw [positions?_eq_some_positionsOf hx, positions?_eq_some_positionsOf ((hlexemes x).mp hx),
      hpositions]
  · rw [positions?_eq_none hx, positions?_eq_none fun hmem => hx ((hlexemes x).mpr hmem)]

theorem lexemes_strictly_sorted (hasc : Ascending v.entries) : v.lexemes.Pairwise (· < ·) :=
  List.pairwise_map.mpr hasc

theorem size_eq_length_lexemes (v : SearchVector) : v.size = v.lexemes.length :=
  (List.length_map ..).symm

/-- Some of the entries of a well-formed vector, still in byte order, are a well-formed vector, and
a lexeme that is left has what it had. -/
theorem WellFormed.of_subset (h : v.WellFormed) (hasc : Ascending w.entries)
    (hsub : ∀ e ∈ w.entries, e ∈ v.entries) :
    w.WellFormed ∧ ∀ x ∈ w.lexemes, w.positions? x = v.positions? x := by
  refine ⟨wellFormed_iff.mpr ⟨hasc, fun e he => h.entry (hsub e he)⟩, fun x hx => ?_⟩
  obtain ⟨e, he, rfl⟩ := List.mem_map.mp hx
  rw [positions?_eq_lookup, positions?_eq_lookup, hasc.lookup_of_mem he,
    h.ascending.lookup_of_mem (hsub e he)]

/-- The vector without lexemes is well-formed, so a new issue has a well-formed one. -/
theorem wellFormed_empty : empty.WellFormed :=
  wellFormed_iff.mpr ⟨List.Pairwise.nil, fun _ he => absurd he List.not_mem_nil⟩

/-! ## Entries and tokens in any order -/

/-- Entries in any order, and with any lexemes twice, give a vector in strict byte order. -/
theorem ascending_ofEntries (es : List Entry) : Ascending (ofEntries es).entries :=
  (ascending_gather (inOrder_mergeSort es)).map fun e => settle e.positions

/-- A lexeme has all positions of its entries, settled. -/
theorem positions?_ofEntries (es : List Entry) (x : String) :
    (ofEntries es).positions? x =
      if es.filter (·.lexeme = x) = [] then none
      else some (settle ((es.filter (·.lexeme = x)).flatMap Entry.positions)) := by
  rw [positions?_eq_lookup, ofEntries, lookup_map (fun _ ps => settle ps),
    lookup_gather (inOrder_mergeSort es), filter_mergeSort, joined_append]
  by_cases h : es.filter (·.lexeme = x) = []
  · simp [h]
  · simp [h, List.flatMap_def]

/-- A lexeme has the settled positions of all entries that were given for it. -/
theorem positionsOf_ofEntries (es : List Entry) (x : String) :
    (ofEntries es).positionsOf x =
      settle ((es.filter (·.lexeme = x)).flatMap Entry.positions) := by
  rw [positionsOf, positions?_ofEntries]
  by_cases h : es.filter (·.lexeme = x) = []
  · rw [if_pos h, h, List.flatMap_nil, settle_nil, Option.getD_none]
  · rw [if_neg h, Option.getD_some]

/-- The lexemes are those of the entries that were given. No entry is left out, even if it has no
positions. -/
theorem mem_lexemes_ofEntries {es : List Entry} :
    x ∈ (ofEntries es).lexemes ↔ x ∈ es.map Entry.lexeme := by
  rw [mem_lexemes_iff, positions?_ofEntries, List.mem_map]
  by_cases h : es.filter (·.lexeme = x) = []
  · rw [if_pos h]
    simpa using h
  · rw [if_neg h]
    simpa using h

/-- Entries whose lexemes may be kept and whose places are in the range make a well-formed vector,
in whatever order they come. -/
theorem wellFormed_ofEntries {es : List Entry}
    (h : ∀ e ∈ es, (e.lexeme ≠ "" ∧ e.lexeme.utf8ByteSize ≤ maxLexemeBytes) ∧
      InRange e.positions) : (ofEntries es).WellFormed := by
  refine wellFormed_of_positions (ascending_ofEntries es) fun x ps hx => ?_
  rw [positions?_ofEntries] at hx
  by_cases hnil : es.filter (·.lexeme = x) = []
  · rw [if_pos hnil] at hx
    cases hx
  · rw [if_neg hnil] at hx
    obtain rfl := Option.some.inj hx
    have hall : ∀ e ∈ es.filter (·.lexeme = x), e ∈ es ∧ e.lexeme = x := by simp
    obtain ⟨e, he⟩ := List.exists_mem_of_ne_nil _ hnil
    refine Entry.wellFormed_settle ?_ fun p hp => ?_
    · rw [← (hall e he).2]
      exact (h e (hall e he).1).1
    · obtain ⟨f, hf, hpf⟩ := List.mem_flatMap.mp hp
      exact (h f (hall f hf).1).2 p hpf

/-- Words with places make a well-formed vector whatever the words and the places are: what may not
be kept is left out, and what is out of range is moved into it. -/
theorem wellFormed_ofTokens (tokens : List (String × Nat)) : (ofTokens tokens).WellFormed := by
  refine wellFormed_ofEntries fun e he => ?_
  obtain ⟨⟨word, place⟩, -, hword⟩ := List.mem_filterMap.mp he
  simp only [Option.ite_none_left_eq_some, Option.some.injEq] at hword
  obtain ⟨hfits, rfl⟩ := hword
  refine ⟨by simpa using hfits, fun p hp => ?_⟩
  rw [List.mem_singleton.mp hp]
  exact Position.place_ofPlace _ _

/-- A well-formed vector is made of its own entries. So what is printed entry by entry is the same
vector when it is read. -/
theorem ofEntries_entries (h : v.WellFormed) : ofEntries v.entries = v := by
  refine WellFormed.ext ?_ h fun x => ?_
  · exact wellFormed_ofEntries fun e he => ⟨(h.entry he).lexeme_ok, (h.entry he).inRange⟩
  · have hasc := h.ascending
    rw [positions?_ofEntries]
    rcases hx : v.positions? x with _ | ps
    · have hnil : v.entries.filter (·.lexeme = x) = [] := by
        simpa using lookup_eq_none_iff.mp hx
      exact if_pos hnil
    · have hmem : (⟨x, ps⟩ : Entry) ∈ v.entries := mem_of_lookup hx
      have hone : v.entries.filter (·.lexeme = x) = [⟨x, ps⟩] := by
        refine List.Perm.eq_singleton ?_
        refine (List.perm_ext_iff_of_nodup (hasc.nodup.filter _) (List.pairwise_singleton _ _)).mpr ?_
        rintro ⟨y, qs⟩
        rw [List.mem_filter, List.mem_singleton, decide_eq_true_eq]
        constructor
        · rintro ⟨hy, rfl : y = x⟩
          rw [← hasc.lookup_eq_some_iff] at hy hmem
          rw [hmem] at hy
          rw [Option.some.inj hy]
        · rintro heq
          rw [heq]
          exact ⟨hmem, rfl⟩
      rw [hone, if_neg (List.cons_ne_nil _ _), List.flatMap_singleton]
      exact congrArg some (h.entry hmem).settle_positions

end SearchVector

end EventIntake
