import EventIntake.Proofs.Event.Parts
import EventIntake.Proofs.Url.Credentials

/-!
# No credentials in the search text

Of a URL the search text has the scheme, the host, the port and the path, so the credentials in a URL
that can be read are not in it, and other credentials give the same text (`searchText_credentials`).

What cannot be read as a URL goes into the search text as it is, up to its query. So do its
credentials: a reference without a scheme keeps them (`searchText_relative`).
-/

namespace EventIntake.Event

open EventIntake.Text (Utf8.size)
open EventIntake.Url (IsScheme IsUserinfo SaySomething withUserinfo parse?)

/-- What may stand before the two slashes: nothing, or a scheme and a colon. -/
def IsUrlPrefix (p : List Char) : Prop :=
  p = [] ∨ ∃ s, IsScheme s ∧ p = s ++ [':']

variable {p c c₁ c₂ : List Char}

/-! ## One part of the text -/

/-- The beginning of a URL ends in a slash only if what follows the credentials does. -/
theorem getLast?_withoutQuery {s : List Char} (hs : IsScheme s) (hc : IsUserinfo c)
    (rest : List Char) :
    (withoutQuery (withUserinfo (s ++ [':']) c rest)).getLast? =
      (withoutQuery rest).getLast?.or (some '@') := by
  rw [withoutQuery, Url.takeWhile_withUserinfo hs hc, Url.withUserinfo_eq, List.getLast?_append]
  congr 1
  rw [← List.cons_append, ← List.cons_append, ← List.append_assoc, List.getLast?_concat]

/-- URLs that say the same become the same part, if they both end in a slash or both do not. -/
theorem simplifyUrl_congr {url₁ url₂ : List Char} {url : Url} (h₁ : parse? url₁ = some url)
    (h₂ : parse? url₂ = some url)
    (hlast : (withoutQuery url₁).getLast? = (withoutQuery url₂).getLast?) :
    simplifyUrl url₁ = simplifyUrl url₂ := by
  rw [simplifyUrl, simplifyUrl, h₁, h₂, hlast]

theorem ne_file {s : List Char} (h : (s ++ [':']).map Char.toLower ≠ "file:".toList) :
    Url.SchemeKind.ofScheme (s.map Char.toLower) ≠ .file := by
  intro hkind
  have hname : String.ofList (s.map Char.toLower) = "file" := by
    rw [Url.SchemeKind.ofScheme] at hkind
    split at hkind
    · assumption
    all_goals cases hkind
  refine h ?_
  rw [List.map_append, ← String.toList_ofList (l := s.map Char.toLower), hname]
  rfl

/-- An event of which only the URL is known has that part as its whole search text. With this a fact
about URLs is one about search texts. -/
theorem searchText_of_url {url part : List Char} (h : simplifyUrl url = part) (hne : part ≠ [])
    (hshort : Utf8.size part ≤ maxSearchText) (hnul : '\x00' ∉ part) :
    { empty with url := some url }.searchText = part := by
  have hparts : { empty with url := some url }.searchParts = [part] := by
    have hkeep : (!part.isEmpty) = true := by simpa using hne
    simp [searchParts, empty, basenames, h, hkeep, List.eraseDups_cons]
  rw [searchText, hparts, List.intercalate_singleton, cutAtBlank, if_pos hshort,
    List.filter_eq_self]
  intro c hc
  exact bne_iff_ne.mpr fun hc' => hnul (hc' ▸ hc)

/-! ## The text -/

/-- **Credentials.** If the URL of an event can be read, then whatever stands for its credentials does
not show in the search text: with other credentials it can be read too and gives the same text. Only if
the credentials say nothing does it have to be known that the other URL can be read as well. A file URL
has no credentials. -/
theorem searchText_credentials (e : Event) (rest : List Char) (hp : IsUrlPrefix p)
    (hfile : p.map Char.toLower ≠ "file:".toList) (h₁ : IsUserinfo c₁) (h₂ : IsUserinfo c₂)
    (hread : (parse? (withUserinfo p c₁ rest)).isSome = true)
    (hother : SaySomething c₁ ∨ (parse? (withUserinfo p c₂ rest)).isSome = true) :
    (parse? (withUserinfo p c₂ rest)).isSome = true ∧
      { e with url := some (withUserinfo p c₁ rest) }.searchText =
        { e with url := some (withUserinfo p c₂ rest) }.searchText := by
  rcases hp with rfl | ⟨s, hs, rfl⟩
  · -- without a scheme nothing can be read
    rw [Url.parse?_relative h₁] at hread
    cases hread
  · obtain ⟨url, hurl⟩ := Option.isSome_iff_exists.mp hread
    have hsame : parse? (withUserinfo (s ++ [':']) c₂ rest) = some url := by
      rcases hother with hsay | hother
      · exact Url.parse?_of_saySomething hs (ne_file hfile) h₁ h₂ hsay hurl
      · obtain ⟨url₂, hurl₂⟩ := Option.isSome_iff_exists.mp hother
        rw [Url.parse?_eq_of_some hs (ne_file hfile) h₁ h₂ hurl hurl₂, hurl₂]
    refine ⟨by rw [hsame]; rfl, searchText_congr e (simplifyUrl_congr hurl hsame ?_)⟩
    rw [getLast?_withoutQuery hs h₁, getLast?_withoutQuery hs h₂]

/-- A cache behind a name and a password, and behind an empty name. The second URL can be parsed, so
both say the same. -/
theorem searchText_credentials_cache :
    (parse? (withUserinfo "redis:".toList [] "cache:6379/0?q".toList)).isSome = true ∧
    { empty with
        url := some (withUserinfo "redis:".toList "user:pw".toList
          "cache:6379/0?q".toList) }.searchText =
      { empty with
        url := some (withUserinfo "redis:".toList [] "cache:6379/0?q".toList) }.searchText := by
  have hscheme : IsScheme "redis".toList :=
    ⟨⟨'r', "edis".toList, rfl, rfl⟩, List.all_eq_true.mp rfl⟩
  have h₁ : IsUserinfo "user:pw".toList := by decide
  have h₂ : IsUserinfo [] := by decide
  have hkind : Url.SchemeKind.ofScheme ("redis".toList.map Char.toLower) = .other := by
    decide
  have hname : Url.Host.ofOpaque? "cache".toList =
      some (some (.name (Url.percentEncode Url.isControl "cache".toList))) := by
    refine Url.ofOpaque?_name (by decide) ?_
    rw [funext Url.isForbiddenInName_eq]
    decide
  have hsplit : Url.splitHost false [] "cache:6379".toList =
      ("cache".toList, ':' :: "6379".toList) := by
    decide
  have hport : Url.readPort? "6379".toList = some (some 6379, []) := by decide
  have hfound : Url.readHost? .other "cache:6379".toList =
      some ⟨some (.name (Url.percentEncode Url.isControl "cache".toList)), some 6379, []⟩ := by
    rw [Url.readHost?, hsplit]
    simp only [hname, hport, Option.bind_eq_bind, Option.bind_some, Option.isNone_some]
    rfl
  have hbehind : Url.hostAfter (Url.authorityOf .other ((Url.significantEnd
      "cache:6379/0?q".toList).takeWhile (!Url.beginsQuery ·))) = "cache:6379".toList := by
    decide
  rw [← hbehind] at hfound
  have hread := Url.parse?_of_host hscheme hkind (by decide) h₁ hfound (Option.some_ne_none _)
  exact searchText_credentials empty _ (.inr ⟨_, hscheme, rfl⟩) (by decide) h₁ h₂ hread
    (.inl ⟨by decide, by decide⟩)

/-- A reference without a scheme keeps its credentials. It cannot be parsed as a URL, and is then
cut only where a query begins. -/
theorem searchText_relative :
    { empty with
        url := some (withUserinfo [] "user:secret".toList "host/login".toList) }.searchText =
      "//user:secret@host/login".toList ∧
    { empty with url := some (withUserinfo [] "other".toList "host/login".toList) }.searchText =
      "//other@host/login".toList := by
  have hkept {c : List Char} (hc : IsUserinfo c) :
      simplifyUrl (withUserinfo [] c "host/login".toList) =
        (withoutQuery (withUserinfo [] c "host/login".toList)).take maxPart := by
    rw [simplifyUrl, Url.parse?_relative hc]
  have h₁ : IsUserinfo "user:secret".toList := by decide
  have h₂ : IsUserinfo "other".toList := by decide
  constructor
  · refine searchText_of_url ((hkept h₁).trans ?_) ?_ ?_ ?_ <;> decide
  · refine searchText_of_url ((hkept h₂).trans ?_) ?_ ?_ ?_ <;> decide

end EventIntake.Event
