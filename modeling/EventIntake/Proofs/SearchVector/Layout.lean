import EventIntake.Proofs.SearchVector.ConcatHistory
import EventIntake.Proofs.SearchVector.LatestPlace
import EventIntake.Proofs.SearchVector.LeavingOut

/-!
# Less takes fewer bytes

The bytes of a vector are laid out one entry after the other, and positions begin at an even address, so
leaving out a lexeme can make a filler necessary further on. The filler never takes more than the lexeme
did: what an entry ends at grows with what it begins at (`dataAfter_mono`). So a vector that lies
`Within` another, lexeme by lexeme and number by number, takes no more bytes (`byteSize_monotone`), and
this holds of all that the ways of leaving something out give, and of a vector in a concatenation.
-/

namespace EventIntake.SearchVector

variable {v w : SearchVector} {e f : Entry} {es fs : List Entry} {m n : Nat}

/-! ## One entry after the other -/

theorem le_dataAfter (n : Nat) (e : Entry) : n ≤ dataAfter n e := by
  simp only [dataAfter]
  split <;> omega

theorem le_foldl_dataAfter (n : Nat) (es : List Entry) : n ≤ es.foldl dataAfter n := by
  induction es generalizing n with
  | nil => exact Nat.le_refl n
  | cons e es ih => exact Nat.le_trans (le_dataAfter n e) (ih (dataAfter n e))

/-- An entry that begins no later, with the same lexeme and no more positions, ends no later. -/
theorem dataAfter_mono (hlexeme : e.lexeme = f.lexeme)
    (hcount : e.positions.length ≤ f.positions.length) (hle : m ≤ n) :
    dataAfter m e ≤ dataAfter n f := by
  simp only [dataAfter, hlexeme, List.isEmpty_iff]
  by_cases he : e.positions = []
  · rw [if_pos he]
    split <;> omega
  · have hf : f.positions ≠ [] := by
      intro hnil
      rw [hnil, List.length_nil] at hcount
      exact he (List.length_eq_zero_iff.mp (Nat.le_zero.mp hcount))
    rw [if_neg he, if_neg hf]
    omega

/-- Entries end no later if each of them is among the others, with no fewer positions there. -/
theorem foldl_dataAfter_mono (hes : Ascending es) (hfs : Ascending fs)
    (h : ∀ e ∈ es, ∃ f ∈ fs, e.lexeme = f.lexeme ∧ e.positions.length ≤ f.positions.length)
    (hle : m ≤ n) : es.foldl dataAfter m ≤ fs.foldl dataAfter n := by
  induction fs generalizing es m n with
  | nil =>
    cases es with
    | nil => exact hle
    | cons e es =>
      obtain ⟨f, hf, -⟩ := h e List.mem_cons_self
      cases hf
  | cons f fs ih =>
    obtain ⟨hf, hfs'⟩ := List.pairwise_cons.mp hfs
    cases es with
    | nil => exact Nat.le_trans hle (le_foldl_dataAfter n (f :: fs))
    | cons e es =>
      obtain ⟨he, hes'⟩ := List.pairwise_cons.mp hes
      obtain ⟨f', hf', hlexeme, hcount⟩ := h e List.mem_cons_self
      rw [List.foldl_cons (l := fs)]
      rcases List.mem_cons.mp hf' with rfl | hlater
      · -- the first entries belong together, and so do those that follow
        rw [List.foldl_cons]
        refine ih hes' hfs' (fun e' he' => ?_) (dataAfter_mono hlexeme hcount hle)
        obtain ⟨g, hg, hsame, hmore⟩ := h e' (List.mem_cons_of_mem e he')
        rcases List.mem_cons.mp hg with rfl | hg
        · exact absurd (hlexeme.trans hsame.symm) (String.ne_of_lt (he e' he'))
        · exact ⟨g, hg, hsame, hmore⟩
      · -- the first of the others is not needed
        refine ih hes hfs' (fun e' he' => ?_) (Nat.le_trans hle (le_dataAfter n f))
        obtain ⟨g, hg, hsame, hmore⟩ := h e' he'
        rcases List.mem_cons.mp hg with rfl | hg
        · have hlt : g.lexeme < e.lexeme := hlexeme ▸ hf f' hlater
          rcases List.mem_cons.mp he' with rfl | he'
          · exact absurd hsame.symm (String.ne_of_lt hlt)
          · exact absurd hsame.symm (String.ne_of_lt (String.lt_trans hlt (he e' he')))
        · exact ⟨g, hg, hsame, hmore⟩

/-! ## Vectors within others -/

/-- Every lexeme of the first vector is one of the second, with no fewer positions there. -/
def Within (v w : SearchVector) : Prop :=
  ∀ x ∈ v.lexemes, x ∈ w.lexemes ∧ v.countOf x ≤ w.countOf x

theorem countOf_eq_length (v : SearchVector) (x : String) :
    v.countOf x = (v.positionsOf x).length :=
  rfl

theorem countOf_of_mem (hv : Ascending v.entries) (he : e ∈ v.entries) :
    v.countOf e.lexeme = e.positions.length :=
  countOf_eq (hv.lookup_of_mem he)

/-- A vector within another has no more lexemes, since its lexemes are among those of the other and
come once each. -/
theorem Within.size_le (h : v.Within w) (hv : Ascending v.entries) : v.size ≤ w.size := by
  rw [size_eq_length_lexemes, size_eq_length_lexemes]
  exact (nodup_lexemes hv).length_le_of_subset fun x hx => (h x hx).1

/-- A vector takes no more bytes than one it lies within, and four bytes less for each lexeme that it
does not have. -/
theorem Within.byteSize_le (h : v.Within w) (hv : Ascending v.entries) (hw : Ascending w.entries) :
    v.byteSize + 4 * (w.size - v.size) ≤ w.byteSize := by
  have hsize := h.size_le hv
  have hdata : v.entries.foldl dataAfter 0 ≤ w.entries.foldl dataAfter 0 := by
    refine foldl_dataAfter_mono hv hw (fun e he => ?_) (Nat.le_refl 0)
    obtain ⟨hmem, hcount⟩ := h e.lexeme (List.mem_map_of_mem he)
    obtain ⟨f, hf, hlexeme⟩ := List.mem_map.mp hmem
    rw [countOf_of_mem hv he, ← hlexeme, countOf_of_mem hw hf] at hcount
    exact ⟨f, hf, hlexeme.symm, hcount⟩
  rw [byteSize, byteSize]
  omega

/-- Without its positions, a vector has the same lexemes and no lexeme has more positions than
before. -/
theorem within_strip (v : SearchVector) : v.strip.Within v := by
  intro x hx
  rw [lexemes_strip] at hx
  refine ⟨hx, ?_⟩
  rw [countOf, positions?_strip]
  cases v.positions? x <;> exact Nat.zero_le _

/-- A vector that has some of the entries of another is within it. Deleted and kept lexemes are both
of this kind. -/
theorem within_of_subset (hv : v.WellFormed) (hw : Ascending w.entries)
    (hsub : ∀ e ∈ w.entries, e ∈ v.entries) : w.Within v := by
  intro x hx
  have hsame := (hv.of_subset hw hsub).2 x hx
  refine ⟨mem_lexemes_iff.mpr (hsame ▸ mem_lexemes_iff.mp hx), ?_⟩
  exact Nat.le_of_eq (by rw [countOf, countOf, hsame])

/-- A vector is within each concatenation that it begins, since what it has stays in front. -/
theorem within_concat (hv : v.WellFormed) (hw : w.WellFormed) : v.Within (v.concat w) := by
  intro x hx
  refine ⟨(mem_lexemes_concat hv.ascending hw.ascending).mpr (Or.inl hx), ?_⟩
  obtain ⟨kept, hkept, hboth⟩ := exists_upheld_concat hv hw x
  rw [countOf_eq_length, countOf_eq_length, hboth, List.length_append, hkept.length_eq]
  exact Nat.le_add_right _ _

/-- The lexemes that are deleted and those that are left are all there were. -/
theorem size_delete (v : SearchVector) (xs : List String) :
    (v.delete xs).size + (v.lexemes.filter xs.contains).length = v.size := by
  have hsplit := List.length_eq_countP_add_countP (fun e : Entry => xs.contains e.lexeme)
    (l := v.entries)
  rw [List.countP_eq_length_filter, List.countP_eq_length_filter] at hsplit
  rw [size, size, delete, lexemes, List.filter_map, List.length_map, hsplit, Nat.add_comm]
  simp [Function.comp_def]

/-- **Less takes fewer bytes.** A vector whose lexemes are all in another one, with no fewer positions
there, takes no more bytes, and four bytes less for each lexeme that is not in it. So a vector without
its positions, without some lexemes, or with only the first or the freshest, takes no more than before,
and saves four bytes for each lexeme that is left out; and a concatenation takes no less than the first
of its vectors. -/
theorem byteSize_monotone :
    (∀ v w : SearchVector, v.WellFormed → w.WellFormed → v.Within w →
      v.size ≤ w.size ∧ v.byteSize + 4 * (w.size - v.size) ≤ w.byteSize) ∧
    ∀ v : SearchVector, v.WellFormed →
      v.strip.byteSize ≤ v.byteSize ∧
      (∀ xs : List String,
        (v.delete xs).byteSize + 4 * (v.lexemes.filter xs.contains).length ≤ v.byteSize) ∧
      (∀ n : Nat, (v.takeFirst n).byteSize + 4 * (v.size - n) ≤ v.byteSize ∧
        (v.takeFreshest n).byteSize + 4 * (v.size - n) ≤ v.byteSize) ∧
      ∀ w : SearchVector, w.WellFormed → v.byteSize ≤ (v.concat w).byteSize := by
  constructor
  · intro v w hv hw h
    exact ⟨h.size_le hv.ascending, h.byteSize_le hv.ascending hw.ascending⟩
  · intro v hv
    refine ⟨?_, fun xs => ?_, fun n => ⟨?_, ?_⟩, fun w hw => ?_⟩
    · have hle := (within_strip v).byteSize_le hv.strip.ascending hv.ascending
      omega
    · have hdelete := (hv.delete xs).ascending
      have hwithin : (v.delete xs).Within v :=
        within_of_subset hv hdelete fun e he => (List.mem_filter.mp he).1
      have hle := hwithin.byteSize_le hdelete hv.ascending
      have hsize := size_delete v xs
      omega
    · have hfirst := (hv.takeFirst n).ascending
      have hwithin : (v.takeFirst n).Within v :=
        within_of_subset hv hfirst fun e he => List.mem_of_mem_take he
      have hle := hwithin.byteSize_le hfirst hv.ascending
      rw [size_takeFirst] at hle
      omega
    · have hfreshest := (hv.takeFreshest n).ascending
      have hwithin : (v.takeFreshest n).Within v :=
        within_of_subset hv hfreshest fun e he => mem_of_mem_takeFreshest he
      have hle := hwithin.byteSize_le hfreshest hv.ascending
      rw [size_takeFreshest] at hle
      omega
    · have hle := (within_concat hv hw).byteSize_le hv.ascending (hv.concat hw).ascending
      omega

/-- A vector in which the positions begin at an even address as it is. -/
def evenLayout : SearchVector := ⟨[⟨"a", []⟩, ⟨"b", [⟨1, .d⟩]⟩]⟩

theorem wellFormed_evenLayout : evenLayout.WellFormed := by
  decide

/-- Without the first lexeme there has to be a filler before the positions of the second, which takes
just the byte that was saved. -/
theorem byteSize_monotone_filler :
    (evenLayout.delete ["a", "z"]).byteSize = 18 ∧ evenLayout.byteSize = 22 ∧
    (evenLayout.lexemes.filter ["a", "z"].contains).length = 1 ∧
    (evenLayout.delete ["a", "z"]).byteSize + 4 * 1 ≤ evenLayout.byteSize ∧
    (evenLayout.delete ["a", "z"]).Within evenLayout ∧
    (evenLayout.delete ["a", "z"]).byteSize +
      4 * (evenLayout.size - (evenLayout.delete ["a", "z"]).size) ≤ evenLayout.byteSize := by
  obtain ⟨hwithin, hall⟩ := byteSize_monotone
  have hdelete := wellFormed_evenLayout.delete ["a", "z"]
  have hsub : (evenLayout.delete ["a", "z"]).Within evenLayout :=
    within_of_subset wellFormed_evenLayout hdelete.ascending fun e he => (List.mem_filter.mp he).1
  refine ⟨by decide, by decide, by decide, ?_, hsub, ?_⟩
  · exact (hall evenLayout wellFormed_evenLayout).2.1 ["a", "z"]
  · exact (hwithin _ evenLayout hdelete wellFormed_evenLayout hsub).2

end EventIntake.SearchVector
