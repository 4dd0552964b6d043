import EventIntake.Proofs.Maintenance.FirstLexemes
import EventIntake.Proofs.Maintenance.Ranked

/-!
# Recent truncation over a run

With recent truncation, what an online run of appends keeps is what can be told offline from all its
texts together (`recent_run`): the lexemes whose last occurrence is latest. That lexemes are left out
on the way, and that places are counted anew, makes no difference, as long as the texts are not too
long for that and the limit of bytes does not come into play (`Unhindered`).

The vector of a text has its lexemes in the order of their last occurrences (`ranked_toVector`), and an
append carries this order on (`Ranked.append`).
-/

namespace EventIntake

variable {xs ys : List String} {x : String} {n : Nat}

/-! ## The latest lexemes of a stream -/

/-- The different lexemes of a stream in the order of their last occurrences, the latest first. -/
def latestFirst (xs : List String) : List String :=
  xs.reverse.eraseDups

/-- Fewer than `n` different lexemes occur after the last occurrence of this one. -/
def AmongLatest (n : Nat) (xs : List String) (x : String) : Prop :=
  ∃ before after, xs = before ++ x :: after ∧ x ∉ after ∧ after.eraseDups.length < n

theorem mem_latestFirst : x ∈ latestFirst xs ↔ x ∈ xs := by
  rw [latestFirst, List.mem_eraseDups, List.mem_reverse]

/-- A lexeme counts with its last occurrence only. -/
theorem nodup_latestFirst (xs : List String) : (latestFirst xs).Nodup :=
  nodup_eraseDups _

/-- The lexemes of what comes later are first. -/
theorem latestFirst_append (xs ys : List String) :
    latestFirst (xs ++ ys) =
      latestFirst ys ++ (latestFirst xs).filter fun x => !(latestFirst ys).contains x := by
  rw [latestFirst, List.reverse_append, List.eraseDups_append, List.removeAll, eraseDups_filter]
  refine congrArg (latestFirst ys ++ ·) (List.filter_congr fun x _ => ?_)
  have hsame : ys.reverse.elem x = (latestFirst ys).contains x := by
    rw [Bool.eq_iff_iff, List.elem_iff, List.contains_iff_mem, mem_latestFirst, List.mem_reverse]
  rw [hsame]

/-- The latest lexemes of a stream that goes on can be told from the latest so far. -/
theorem take_latestFirst_append (n : Nat) (xs ys : List String) :
    (latestFirst (xs ++ ys)).take n =
      (latestFirst ys ++ ((latestFirst xs).take n).filter
        fun x => !(latestFirst ys).contains x).take n := by
  rw [latestFirst_append, take_append_filter (nodup_latestFirst xs)]

theorem length_latestFirst (xs : List String) :
    (latestFirst xs).length = xs.eraseDups.length := by
  refine ((List.perm_ext_iff_of_nodup (nodup_latestFirst xs) (nodup_eraseDups xs)).mpr
    fun x => ?_).length_eq
  rw [mem_latestFirst, List.mem_eraseDups]

/-- In the order, a lexeme stands behind those that occur after its last occurrence. -/
theorem latestFirst_split (before : List String) {after : List String} (hx : x ∉ after) :
    ∃ rest, latestFirst (before ++ x :: after) = latestFirst after ++ x :: rest := by
  have hkeep : (!(latestFirst after).contains x) = true := by
    simpa [mem_latestFirst] using hx
  have hlast : latestFirst (before ++ [x]) =
      x :: (before.reverse.filter fun y => !y == x).eraseDups := by
    rw [latestFirst, List.reverse_append, List.reverse_singleton, List.singleton_append,
      List.eraseDups_cons]
  rw [List.append_cons, latestFirst_append, hlast]
  exact ⟨_, congrArg (latestFirst after ++ ·) (List.filter_cons_of_pos hkeep)⟩

/-- The first in the order are the lexemes after which few others occur. The condition is about the
stream alone, and does not mention the order. -/
theorem mem_take_latestFirst : x ∈ (latestFirst xs).take n ↔ AmongLatest n xs x := by
  constructor
  · intro hx
    have hmem : x ∈ xs := mem_latestFirst.mp (List.mem_of_mem_take hx)
    -- the first occurrence from the end is the last one
    obtain ⟨after, before, hxs, hafter⟩ :=
      List.eq_append_cons_of_mem (List.mem_reverse.mpr hmem)
    have hsplit : xs = before.reverse ++ x :: after.reverse := by
      have hrev := congrArg List.reverse hxs
      rw [List.reverse_reverse, List.reverse_append, List.reverse_cons, List.append_assoc] at hrev
      exact hrev
    have hnot : x ∉ after.reverse := fun h => hafter (List.mem_reverse.mp h)
    refine ⟨before.reverse, after.reverse, hsplit, hnot, ?_⟩
    obtain ⟨rest, horder⟩ := latestFirst_split before.reverse hnot
    rw [hsplit, horder] at hx
    refine Nat.lt_of_not_le fun hle => hnot ?_
    rw [← length_latestFirst] at hle
    rw [List.take_append_of_le_length hle] at hx
    exact mem_latestFirst.mp (List.mem_of_mem_take hx)
  · rintro ⟨before, after, rfl, hnot, hfew⟩
    obtain ⟨rest, horder⟩ := latestFirst_split before hnot
    rw [← length_latestFirst] at hfew
    obtain ⟨k, hk⟩ : ∃ k, n - (latestFirst after).length = k + 1 :=
      ⟨n - (latestFirst after).length - 1, by omega⟩
    rw [horder, List.take_append, hk, List.take_succ_cons]
    exact List.mem_append_right _ List.mem_cons_self

/-! ## The vector of a text -/

/-- The place of the first of some occurrences of a lexeme, 0 if there is none. -/
def firstPlace (ts : List (String × Nat)) (x : String) : Nat :=
  ((ts.find? fun t => t.1 = x).map Prod.snd).getD 0

theorem firstPlace_cons (t : String × Nat) (ts : List (String × Nat)) (x : String) :
    firstPlace (t :: ts) x = if t.1 = x then t.2 else firstPlace ts x := by
  by_cases h : t.1 = x
  · simp [firstPlace, h]
  · simp [firstPlace, h]

theorem exists_mem_firstPlace {ts : List (String × Nat)} (hx : x ∈ ts.map Prod.fst) :
    ∃ t ∈ ts, t.2 = firstPlace ts x := by
  induction ts with
  | nil => cases hx
  | cons t ts ih =>
    rw [firstPlace_cons]
    by_cases h : t.1 = x
    · exact ⟨t, List.mem_cons_self, (if_pos h).symm⟩
    · obtain ⟨u, hu, hplace⟩ := ih ((List.mem_cons.mp hx).resolve_left (Ne.symm h))
      exact ⟨u, List.mem_cons_of_mem t hu, hplace.trans (if_neg h).symm⟩

/-- Where places decrease, so do the first places of the different lexemes. -/
theorem pairwise_firstPlace {ts : List (String × Nat)} (h : ts.Pairwise fun t u => u.2 < t.2) :
    (ts.map Prod.fst).eraseDups.Pairwise fun x y => firstPlace ts y < firstPlace ts x := by
  induction ts with
  | nil => exact List.Pairwise.nil
  | cons t ts ih =>
    obtain ⟨ht, hts⟩ := List.pairwise_cons.mp h
    have hrest {y : String} (hy : y ∈ (ts.map Prod.fst).eraseDups.filter fun y => !y == t.1) :
        y ∈ ts.map Prod.fst ∧ firstPlace (t :: ts) y = firstPlace ts y := by
      obtain ⟨hmem, hne⟩ := List.mem_filter.mp hy
      have hne : y ≠ t.1 := by simpa using hne
      exact ⟨List.mem_eraseDups.mp hmem, by rw [firstPlace_cons, if_neg hne.symm]⟩
    rw [List.map_cons, List.eraseDups_cons, eraseDups_filter]
    refine List.pairwise_cons.mpr ⟨fun y hy => ?_, ?_⟩
    · obtain ⟨u, hu, hplace⟩ := exists_mem_firstPlace (hrest hy).1
      rw [(hrest hy).2, firstPlace_cons, if_pos rfl, ← hplace]
      exact ht u hu
    · refine ((ih hts).filter _).imp_of_mem fun hx hy hlt => ?_
      rw [(hrest hx).2, (hrest hy).2]
      exact hlt

namespace Profile

variable {p : Profile} {cs : List Char}

/-- No place of a lexeme is after its last occurrence. -/
theorem lastOf_toVector_le (p : Profile) (cs : List Char) (x : String) :
    (p.toVector cs).lastOf x ≤ p.lastPlaceOf cs x := by
  refine SearchVector.lastOf_le fun q hq => ?_
  rw [positionsOf_toVector] at hq
  obtain ⟨n, hn, rfl⟩ := List.mem_map.mp (mem_of_mem_settle hq)
  have hrange := range_of_mem_placesOf hn
  have hle := le_lastPlaceOf hn
  simp only [Position.ofPlace]
  omega

/-- A lexeme that does not occur too often has a place at its last occurrence. -/
theorem le_lastOf_toVector (hx : x ∈ p.stream cs) (hfew : (p.stream cs).count x ≤ maxPositions) :
    min (p.lastPlaceOf cs x) maxPlace ≤ (p.toVector cs).lastOf x := by
  have hlength : (placed (p.placesOf cs x)).length ≤ maxPositions := by
    rwa [placed, List.length_map, length_placesOf]
  obtain ⟨q, hq, hplace⟩ := exists_mem_settle hlength
    (List.mem_map_of_mem (f := fun n => Position.ofPlace n .d) (lastPlaceOf_mem hx))
  rw [← positionsOf_toVector] at hq
  have hle := SearchVector.le_lastOf (wellFormed_toVector p cs) hq
  simp only [Position.ofPlace] at hplace
  omega

/-- Every lexeme of the text has a place. -/
theorem lastOf_toVector_pos (hx : x ∈ p.stream cs) : 1 ≤ (p.toVector cs).lastOf x := by
  have hne : placed (p.placesOf cs x) ≠ [] := fun hnil =>
    placesOf_eq_nil_iff.mp (List.map_eq_nil_iff.mp hnil) hx
  obtain ⟨q, hq⟩ := List.exists_mem_of_ne_nil _ (settle_ne_nil hne)
  rw [← positionsOf_toVector] at hq
  have hwf := wellFormed_toVector p cs
  exact Nat.le_trans ((hwf.positionsOf_ok x).1 q hq).1 (SearchVector.le_lastOf hwf hq)

/-- In a text that is not too long, the latest place of a lexeme that does not occur too often is where
it occurs last. -/
theorem lastOf_toVector (hlen : (Analysis.words cs).length ≤ maxPlace)
    (hfew : (p.stream cs).count x ≤ maxPositions) :
    (p.toVector cs).lastOf x = p.lastPlaceOf cs x := by
  have hle := p.lastOf_toVector_le cs x
  by_cases hx : x ∈ p.stream cs
  · have hge := le_lastOf_toVector hx hfew
    have hrange := range_of_mem_placesOf (lastPlaceOf_mem hx)
    omega
  · have hzero : p.lastPlaceOf cs x = 0 := by
      rw [lastPlaceOf, placesOf_eq_nil_iff.mpr hx]
      rfl
    omega

/-- The last place is the first from the end. -/
theorem lastPlaceOf_eq_firstPlace (p : Profile) (cs : List Char) (x : String) :
    p.lastPlaceOf cs x = firstPlace (p.occurrences cs).reverse x := by
  rw [lastPlaceOf, placesOf, List.getLast?_map, List.getLast?_eq_head?_reverse,
    ← List.filter_reverse, List.head?_filter, firstPlace]

/-- The vector of a text has its lexemes in the order of their last occurrences. There must be a
place for every word, and no lexeme may occur more often than it may have positions. -/
theorem ranked_toVector (hlen : (Analysis.words cs).length ≤ maxPlace)
    (hfew : ∀ x, (p.stream cs).count x ≤ maxPositions) :
    (p.toVector cs).Ranked (latestFirst (p.stream cs)) := by
  have horder : latestFirst (p.stream cs) =
      ((p.occurrences cs).reverse.map Prod.fst).eraseDups := by
    rw [latestFirst, stream, List.map_reverse]
  refine ⟨fun x => ?_, fun x hx => ?_, ?_⟩
  · rw [mem_latestFirst, mem_lexemes_toVector]
  · exact lastOf_toVector_pos (mem_latestFirst.mp hx)
  · have hdecreasing : (p.occurrences cs).reverse.Pairwise fun t u => u.2 < t.2 :=
      List.pairwise_reverse.mpr (pairwise_occurrences p cs)
    rw [horder]
    refine (pairwise_firstPlace hdecreasing).imp fun {x y} hlt => ?_
    rw [lastOf_toVector hlen (hfew x), lastOf_toVector hlen (hfew y), lastPlaceOf_eq_firstPlace,
      lastPlaceOf_eq_firstPlace]
    exact hlt

/-- No place in the vector of a text exceeds the number of its words. -/
theorem maxPosition_toVector_le (p : Profile) (cs : List Char) :
    (p.toVector cs).maxPosition ≤ (Analysis.words cs).length := by
  refine SearchVector.maxPosition_le_of_lastOf (wellFormed_toVector p cs).ascending fun x => ?_
  have hle := p.lastOf_toVector_le cs x
  by_cases hx : x ∈ p.stream cs
  · exact Nat.le_trans hle (range_of_mem_placesOf (lastPlaceOf_mem hx)).2
  · rw [SearchVector.lastOf_eq_zero_of_not_mem fun hmem => hx (mem_lexemes_toVector.mp hmem)]
    exact Nat.zero_le _

/-- A lexeme has no more positions than it occurs. -/
theorem countOf_toVector_le (p : Profile) (cs : List Char) (x : String) :
    (p.toVector cs).countOf x ≤ (p.stream cs).count x := by
  have hle := length_settle_le_length (placed (p.placesOf cs x))
  rw [← positionsOf_toVector, placed, List.length_map, length_placesOf] at hle
  exact hle

end Profile

/-! ## Runs -/

namespace SearchVector

/-- The lexemes of what is read of a text. -/
def readStream (limits : IndexLimits) (call : Profile × List Char) : List String :=
  call.1.stream (Text.Utf8.takeBytes limits.maxInputBytes call.2)

/-- The vector after appending texts one after another, each with a profile. -/
def appendAll (n : Nat) (limits : IndexLimits) (v : SearchVector)
    (calls : List (Profile × List Char)) : SearchVector :=
  calls.foldl (fun v call => (v.append call.2 n call.1 limits).vector) v

/-- Nothing keeps an append from telling which lexemes are the latest. -/
structure Unhindered (n : Nat) (limits : IndexLimits) (v : SearchVector)
    (call : Profile × List Char) : Prop where
  /-- the words that are read, with as many lexemes as are kept, do not exceed the range of places -/
  short : (Analysis.words (Text.Utf8.takeBytes limits.maxInputBytes call.2)).length + n ≤ maxPlace
  /-- no lexeme occurs as often as a lexeme may have positions -/
  few : ∀ x, (readStream limits call).count x < maxPositions
  /-- the vector does not take too many bytes before the append -/
  before : v.byteSize ≤ limits.maxVectorBytes
  /-- the lexemes that are kept do not take too many bytes with their positions -/
  after : (v.kept call.2 n call.1 limits).byteSize ≤ limits.maxVectorBytes

variable {v : SearchVector} {limits : IndexLimits} {call : Profile × List Char}

/-- An append carries on the order of the latest lexemes. The text follows the existing vector or
the compacted one, which are ranked alike, and truncation keeps the beginning. -/
theorem Ranked.append (hr : v.Ranked ((latestFirst xs).take n)) (hv : v.WellFormed)
    (hrecent : limits.truncation = .recent) (h : Unhindered n limits v call) :
    (v.append call.2 n call.1 limits).vector.Ranked
      ((latestFirst (xs ++ readStream limits call)).take n) := by
  have hshort := h.short
  have hlen : (Analysis.words (Text.Utf8.takeBytes limits.maxInputBytes call.2)).length ≤
      maxPlace := by omega
  have hfew (x : String) : (readStream limits call).count x ≤ maxPositions :=
    Nat.le_of_lt (h.few x)
  have hin : (incoming call.2 call.1 limits).Ranked (latestFirst (readStream limits call)) :=
    call.1.ranked_toVector hlen hfew
  have hwf : (incoming call.2 call.1 limits).WellFormed := call.1.wellFormed_toVector _
  have hmax : (incoming call.2 call.1 limits).maxPosition ≤ _ := call.1.maxPosition_toVector_le _
  have hsize : v.size ≤ n := by
    rw [← hr.length_eq hv]
    exact List.length_take_le n _
  -- a vector that is compacted keeps one position of each lexeme, which leaves room for the others
  have hroom (x : String) : (incoming call.2 call.1 limits).countOf x < maxPositions :=
    Nat.lt_of_le_of_lt (call.1.countOf_toVector_le _ x) (h.few x)
  have hfollow := hr.follow hin hv hwf (by omega) hroom
  rw [(appending v call.2 n call.1 limits).eq_kept h.before h.after, kept, combined, hrecent,
    take_latestFirst_append]
  exact hfollow.truncate (hv.follow hwf _) n

/-- Appends carry on the order of the latest lexemes one after another. By induction on the calls,
the stream so far is what the order is about. -/
theorem Ranked.appendAll (hr : v.Ranked ((latestFirst xs).take n)) (hv : v.WellFormed)
    (hrecent : limits.truncation = .recent) {calls : List (Profile × List Char)}
    (h : ∀ before call after, calls = before ++ call :: after →
      Unhindered n limits (v.appendAll n limits before) call) :
    (v.appendAll n limits calls).Ranked
      ((latestFirst (xs ++ calls.flatMap (readStream limits))).take n) := by
  -- the order after some texts is the invariant, for whatever was read before them
  induction calls generalizing v xs with
  | nil =>
    rw [List.flatMap_nil, List.append_nil]
    exact hr
  | cons call calls ih =>
    have hfirst : Unhindered n limits v call := h [] call calls rfl
    have hstep := hr.append hv hrecent hfirst
    have hwf := (appending v call.2 n call.1 limits).wellFormed hv
    rw [List.flatMap_cons, ← List.append_assoc]
    refine ih hstep hwf fun before call' after hcalls => ?_
    exact h (call :: before) call' after (congrArg (call :: ·) hcalls)

/-- What every append keeps, appends keep one after another. -/
theorem appendAll_keeps {P : SearchVector → Prop} (hv : P v)
    (hkeep : ∀ v (call : Profile × List Char), P v → P (v.append call.2 n call.1 limits).vector)
    (calls : List (Profile × List Char)) : P (v.appendAll n limits calls) := by
  induction calls generalizing v with
  | nil => exact hv
  | cons call calls ih => exact ih (hkeep v call hv)

theorem wellFormed_appendAll (hv : v.WellFormed) (n : Nat) (limits : IndexLimits)
    (calls : List (Profile × List Char)) : (v.appendAll n limits calls).WellFormed :=
  appendAll_keeps (P := WellFormed) hv
    (fun v call hv => (appending v call.2 n call.1 limits).wellFormed hv) calls

theorem ranked_empty (n : Nat) : empty.Ranked ((latestFirst []).take n) := by
  have hnil : (latestFirst []).take n = [] := List.take_nil
  rw [hnil]
  exact ⟨fun _ => Iff.rfl, fun _ hx => absurd hx List.not_mem_nil, List.Pairwise.nil⟩

/-- **The latest lexemes stay.** With recent truncation to `n` lexemes, as long as nothing hinders the
appends, the vector has after every text the `n` different lexemes whose last occurrence in all that
was read so far is latest, or all if there are no more. However often the places were counted anew
does not matter. -/
theorem recent_run (n : Nat) (limits : IndexLimits) (hrecent : limits.truncation = .recent)
    (calls : List (Profile × List Char))
    (h : ∀ before call after, calls = before ++ call :: after →
      Unhindered n limits (empty.appendAll n limits before) call) :
    ∀ before after, calls = before ++ after →
      (empty.appendAll n limits before).lexemes =
        inByteOrder ((latestFirst (before.flatMap (readStream limits))).take n) ∧
      ∀ x, x ∈ (empty.appendAll n limits before).lexemes ↔
        AmongLatest n (before.flatMap (readStream limits)) x := by
  rintro before after rfl
  have hbefore : ∀ before' call after', before = before' ++ call :: after' →
      Unhindered n limits (empty.appendAll n limits before') call := by
    intro before' call after' heq
    refine h before' call (after' ++ after) ?_
    rw [heq, List.append_assoc, List.cons_append]
  have hranked := (ranked_empty n).appendAll wellFormed_empty hrecent hbefore
  rw [List.nil_append] at hranked
  have hwf := wellFormed_appendAll wellFormed_empty n limits before
  refine ⟨?_, fun x => ?_⟩
  · refine (lexemes_strictly_sorted hwf.ascending).eq_of_mem_iff (pairwise_inByteOrder _)
      fun x => ?_
    rw [mem_inByteOrder, hranked.mem]
  · rw [← mem_take_latestFirst, hranked.mem]

/-- A run of appends keeps the limit of lexemes. -/
theorem size_appendAll_le (hv : v.size ≤ n) (limits : IndexLimits)
    (calls : List (Profile × List Char)) : (v.appendAll n limits calls).size ≤ n :=
  appendAll_keeps (P := fun v => v.size ≤ n) hv
    (fun v call hv => (appending v call.2 n call.1 limits).size_le hv) calls

/-- A run of appends keeps the limit of bytes. -/
theorem byteSize_appendAll_le (hv : v.byteSize ≤ limits.maxVectorBytes) (n : Nat)
    (calls : List (Profile × List Char)) :
    (v.appendAll n limits calls).byteSize ≤ limits.maxVectorBytes :=
  appendAll_keeps (P := fun v => v.byteSize ≤ limits.maxVectorBytes) hv
    (fun v call hv => ((appending v call.2 n call.1 limits).byteSize_le hv).1) calls

/-- Where the limit of bytes leaves room for as many lexemes as are kept, a text of few words does not
hinder anything. -/
theorem unhindered_of_room (hv : v.WellFormed) (hsize : v.size ≤ n)
    (hroom : 8 + maxEntryBytes * n ≤ limits.maxVectorBytes)
    (hshort : (Analysis.words (Text.Utf8.takeBytes limits.maxInputBytes call.2)).length + n ≤
      maxPlace)
    (hfew : (Analysis.words (Text.Utf8.takeBytes limits.maxInputBytes call.2)).length <
      maxPositions) : Unhindered n limits v call := by
  refine ⟨hshort, fun x => ?_, hv.byteSize_le_of_room hsize hroom,
    (wellFormed_kept hv).byteSize_le_of_room (size_kept_le v call.2 n call.1 limits) hroom⟩
  exact Nat.lt_of_le_of_lt (Nat.le_trans List.count_le_length (call.1.length_stream_le _)) hfew

/-- Two lexemes, those that occurred last. -/
def recentLimits : IndexLimits := { IndexLimits.standard with truncation := .recent }

/-- A text, another, and the beginning of the first again. -/
def comeback : List (Profile × List Char) :=
  ["alpha beta".toList, "gamma".toList, "alpha".toList].map (Configuration.simple.profile, ·)

/-- What comes back stays longer than what does not: of the two lexemes of the first text, the one
that occurs again is kept. -/
theorem recent_run_comeback :
    (∀ before call after, comeback = before ++ call :: after →
      Unhindered 2 recentLimits (empty.appendAll 2 recentLimits before) call) ∧
    "alpha" ∈ (empty.appendAll 2 recentLimits comeback).lexemes ∧
    "beta" ∉ (empty.appendAll 2 recentLimits comeback).lexemes ∧
    "gamma" ∈ (empty.appendAll 2 recentLimits comeback).lexemes := by
  have hshort : ∀ call ∈ comeback,
      (Analysis.words (Text.Utf8.takeBytes recentLimits.maxInputBytes call.2)).length ≤ 2 := by
    decide
  have hcalls : ∀ before call after, comeback = before ++ call :: after →
      Unhindered 2 recentLimits (empty.appendAll 2 recentLimits before) call := by
    intro before call after heq
    have hcall : call ∈ comeback := heq ▸ List.mem_append_right _ List.mem_cons_self
    have hwords := hshort call hcall
    refine unhindered_of_room (wellFormed_appendAll wellFormed_empty _ _ _)
      (size_appendAll_le (Nat.zero_le 2) _ _) (by decide) ?_ ?_
    · exact Nat.le_trans (Nat.add_le_add_right hwords 2) (by decide)
    · exact Nat.lt_of_le_of_lt hwords (by decide)
  obtain ⟨-, hmem⟩ := recent_run 2 recentLimits rfl comeback hcalls comeback []
    (List.append_nil _).symm
  refine ⟨hcalls, ?_, ?_, ?_⟩
  · rw [hmem, ← mem_take_latestFirst]
    decide
  · rw [hmem, ← mem_take_latestFirst]
    decide
  · rw [hmem, ← mem_take_latestFirst]
    decide

end SearchVector

end EventIntake
