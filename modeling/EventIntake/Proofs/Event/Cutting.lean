import EventIntake.Proofs.Event.Parts
import EventIntake.Proofs.Text.Boundaries

/-!
# Cutting the search text

Every part of the search text is short (`size_le_of_mem_searchParts`). So if the whole text is too
long, it has more than one part, and the first blank between them is among the bytes that are kept
(`fits_or_blank`): the text can always be cut at a blank, and no word is split. The same cut can be
made on the bytes of the text, and never falls inside a character (`cutBytes?_encode`).
-/

namespace EventIntake.Event

open EventIntake.Text.Utf8

variable {e : Event} {x : List Char} {limit : Nat} {text : List Char}

/-! ## Cutting at a blank -/

/-- A text that does not fit is cut at the last blank among the characters that do. The search goes
over bytes, but a blank is never a part of another character. -/
theorem cutAtBlank_eq (hlong : limit < size text) (hblank : ' ' ∈ takeBytes limit text) :
    ∃ word, takeBytes limit text = cutAtBlank limit text ++ ' ' :: word ∧ ' ' ∉ word := by
  obtain ⟨word, before, hsplit, hword⟩ :=
    List.eq_append_cons_of_mem (List.mem_reverse.mpr hblank)
  have hskip : ∀ c ∈ word, (c != ' ') = true := by
    intro c hc
    exact bne_iff_ne.mpr fun hcc => hword (hcc ▸ hc)
  rw [cutAtBlank, if_neg (Nat.not_le.mpr hlong)]
  dsimp only
  rw [hsplit, List.dropWhile_append_of_pos hskip, List.dropWhile_cons_of_neg (by decide)]
  refine ⟨word.reverse, ?_, by rwa [List.mem_reverse]⟩
  rw [← List.reverse_reverse (takeBytes limit text), hsplit, List.reverse_append, List.reverse_cons,
    List.append_assoc, List.singleton_append]

/-- A text stays as it is, or what is left out of it comes behind the last blank among the characters
that fit. -/
theorem cutAtBlank_cases (h : size text ≤ limit ∨ ' ' ∈ takeBytes limit text) :
    size text ≤ limit ∧ cutAtBlank limit text = text ∨
      limit < size text ∧ ∃ word rest, ' ' ∉ word ∧
        takeBytes limit text = cutAtBlank limit text ++ ' ' :: word ∧
        text = cutAtBlank limit text ++ ' ' :: (word ++ rest) := by
  rcases Nat.lt_or_ge limit (size text) with hlong | hfits
  · obtain ⟨word, hcut, hword⟩ := cutAtBlank_eq hlong (h.resolve_left (Nat.not_le.mpr hlong))
    obtain ⟨rest, htext⟩ := takeBytes_prefix limit text
    refine .inr ⟨hlong, word, rest, hword, hcut, ?_⟩
    rw [← List.cons_append, ← List.append_assoc, ← hcut, htext]
  · refine .inl ⟨hfits, ?_⟩
    rw [cutAtBlank, if_pos hfits]

/-- A text is cut to the limit if it is short enough, or has a blank within the limit at which it
can be cut. -/
theorem size_cutAtBlank_le (h : size text ≤ limit ∨ ' ' ∈ takeBytes limit text) :
    size (cutAtBlank limit text) ≤ limit := by
  rcases cutAtBlank_cases h with ⟨hfits, heq⟩ | ⟨-, word, rest, -, hcut, -⟩
  · rwa [heq]
  · have hsize := size_takeBytes_le limit text
    rw [hcut, size_append] at hsize
    exact Nat.le_trans (Nat.le_add_right _ _) hsize

/-- The bytes of a text up to the last blank among the first ones, unless all of them fit. There is no
answer if no blank is among them, or if it is inside a character. -/
def cutBytes? (limit : Nat) (bs : List UInt8) : Option (List UInt8) :=
  if bs.length ≤ limit then some bs
  else (lastBlank? (bs.take limit)).bind (sliceTo? · bs)

/-- Where a text fits or has a blank to be cut at, its bytes can be cut as its characters are. -/
theorem cutBytes?_encode (h : size text ≤ limit ∨ ' ' ∈ takeBytes limit text) :
    cutBytes? limit (encode text) = some (encode (cutAtBlank limit text)) := by
  rw [cutBytes?, length_encode]
  rcases cutAtBlank_cases h with ⟨hfits, heq⟩ | ⟨hlong, word, rest, hword, hcut, htext⟩
  · rw [if_pos hfits, heq]
  · have hslice := sliceTo?_append (cutAtBlank limit text) (' ' :: (word ++ rest))
    rw [← htext] at hslice
    rw [if_neg (Nat.not_le.mpr hlong), lastBlank?_encode hcut hword, Option.bind_some, hslice]

example : cutBytes? 9 (encode "aaa bbb ccc".toList) = some (encode "aaa bbb".toList) ∧
    cutBytes? 4 (encode "aaaaaaaaaa".toList) = none := by
  decide

/-! ## The parts are short -/

theorem length_le_of_mem_basenames {exceptions : List RaisedException}
    (h : x ∈ basenames exceptions) : x.length ≤ maxFilename := by
  obtain ⟨names, hnames, hx⟩ := List.mem_flatten.mp (List.mem_of_mem_take h)
  obtain ⟨exception, -, rfl⟩ :=
    List.mem_map.mp (List.mem_filter.mp (List.mem_of_mem_take hnames)).1
  obtain ⟨frame, -, hframe⟩ :=
    List.mem_filterMap.mp (List.mem_filter.mp (List.mem_of_mem_take hx)).1
  obtain ⟨filename, -, rfl⟩ := Option.map_eq_some_iff.mp hframe
  exact List.length_take_le _ _

theorem length_simplifyUrl_le (url : List Char) : (simplifyUrl url).length ≤ maxPart := by
  rw [simplifyUrl]
  cases Url.parse? url with
  | none => exact List.length_take_le _ _
  | some parsed => exact List.length_take_le _ _

/-- No excerpt is longer than a part may be. As parts are joined with blanks, there is one within
the limit of the text wherever the text is too long. -/
theorem length_le_of_mem_excerpts (h : x ∈ e.excerpts) : x.length ≤ maxPart := by
  simp only [excerpts, List.mem_append, Option.mem_toList, Option.map_eq_some_iff] at h
  rcases h with ((⟨title, -, rfl⟩ | ⟨transaction, -, rfl⟩) | ⟨url, -, rfl⟩) | hname
  · exact List.length_take_le _ _
  · exact List.length_take_le _ _
  · exact length_simplifyUrl_le url
  · exact Nat.le_trans (length_le_of_mem_basenames hname) (by decide)

/-- No part takes half of the bytes that the text may have. -/
theorem size_le_of_mem_searchParts (h : x ∈ e.searchParts) : size x ≤ 4 * maxPart :=
  Nat.le_trans (size_le_length x)
    (Nat.mul_le_mul_left 4 (length_le_of_mem_excerpts (mem_searchParts.mp h).1))

/-! ## The text -/

/-- The parts of the search text with blanks between them, before anything is cut. -/
def joinedParts (e : Event) : List Char :=
  [' '].intercalate e.searchParts

/-- All parts fit into the search text, or the blank behind the first one does. Parts are much
shorter than the limit, so there is always a blank at which the text can be cut. -/
theorem fits_or_blank (e : Event) :
    size e.joinedParts ≤ maxSearchText ∨ ' ' ∈ takeBytes maxSearchText e.joinedParts := by
  have hshort : ∀ x ∈ e.searchParts, size x ≤ 4 * maxPart :=
    fun _ => size_le_of_mem_searchParts
  rw [joinedParts]
  generalize e.searchParts = parts at hshort
  rcases parts with _ | ⟨first, _ | ⟨second, others⟩⟩
  · exact .inl (Nat.zero_le _)
  · rw [List.intercalate_singleton]
    exact .inl (Nat.le_trans (hshort first List.mem_cons_self) (by decide))
  · have hfirst : size first ≤ 4 * maxPart := hshort first List.mem_cons_self
    have hroom : ' '.utf8Size ≤ maxSearchText - size first := by
      have hone : ' '.utf8Size = 1 := rfl
      have hparts : 4 * maxPart + 1 ≤ maxSearchText := by decide
      omega
    right
    rw [List.intercalate_cons_cons, List.append_assoc, List.singleton_append, takeBytes_append,
      if_pos (Nat.le_trans hfirst (by decide)), takeBytes_cons, if_pos hroom]
    exact List.mem_append_right _ List.mem_cons_self

/-- **Cutting.** The search text is short and has no NUL character. But for those, it is the text of all
parts or the beginning of it up to a blank, which is always among the bytes that fit. Its bytes, and
those of each part, can be cut as the characters are: never inside a character. -/
theorem searchText_cut (e : Event) :
    (∀ (field : List Char) (n : Nat),
      truncateBytes? n (encode field) = some (encode (field.take n))) ∧
    (size e.joinedParts ≤ maxSearchText ∨ ' ' ∈ takeBytes maxSearchText e.joinedParts) ∧
    size e.searchText ≤ maxSearchText ∧ '\x00' ∉ e.searchText ∧
    ∃ kept, e.searchText = kept.filter (· != '\x00') ∧
      cutBytes? maxSearchText (encode e.joinedParts) = some (encode kept) ∧
      (kept = e.joinedParts ∨ ∃ rest, e.joinedParts = kept ++ ' ' :: rest) := by
  have hblank := fits_or_blank e
  refine ⟨fun field n => truncateBytes?_encode n field, hblank, ?_, ?_, ?_⟩
  · exact Nat.le_trans (size_le_of_sublist List.filter_sublist) (size_cutAtBlank_le hblank)
  · intro hmem
    exact absurd (List.mem_filter.mp hmem).2 (by decide)
  · refine ⟨_, rfl, cutBytes?_encode hblank, ?_⟩
    rcases cutAtBlank_cases hblank with ⟨-, heq⟩ | ⟨-, word, rest, -, -, htext⟩
    · exact .inl heq
    · exact .inr ⟨word ++ rest, htext⟩

end EventIntake.Event
