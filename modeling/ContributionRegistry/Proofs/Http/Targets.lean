import ContributionRegistry.Http.Target
import ContributionRegistry.Proofs.Web.Appending
import ContributionRegistry.Service.Basic
import Mathlib.Data.List.TakeWhile

/-!
# URLs as targets of requests

What a client puts in the first line of a request is the path and the query of a URL, as text, and
the server takes the two apart again. Here the way there and back is put together: what a URL has
for its target is read as that path and that query (`Http.Target.parse?_target`), and the path is
cut into the segments that it was put together from (`Service.segments_spellPath`), so a service
finds in a request just the segments that the asker appended.

That a text survives this is a matter of its characters. What escaping leaves in a segment
(`PathChar`) and what a form puts into a query (`QueryChar`) is admitted there, and none of it ends
a path or a query early.
-/

namespace ContributionRegistry

open Web (escape)
open Web.Url (segmentKeeps spellPath spellQuery)

namespace Service

/-! ### Segments -/

/-- What has no slash lengthens the first segment. -/
theorem segments_append {segment text first : List Char} {rest : List (List Char)}
    (h : '/' ∉ segment) (htext : segments text = first :: rest) :
    segments (segment ++ text) = (segment ++ first) :: rest := by
  induction segment with
  | nil => exact htext
  | cons c segment ih =>
    have hc : c ≠ '/' := fun heq ↦ h (heq ▸ List.mem_cons_self)
    show segments (c :: (segment ++ text)) = _
    rw [segments, if_neg hc, ih fun hmem ↦ h (List.mem_cons_of_mem c hmem)]
    rfl

/-- **The segments of a path are found in it.** -/
theorem segments_spellPath {path : List (List Char)} (h : ∀ segment ∈ path, '/' ∉ segment) :
    segments (spellPath path) = [] :: path := by
  induction path with
  | nil => rfl
  | cons segment path ih =>
    have hpath := ih fun segment' hsegment' ↦ h segment' (List.mem_cons_of_mem segment hsegment')
    show segments ('/' :: (segment ++ spellPath path)) = _
    rw [segments, if_pos rfl, segments_append (h segment List.mem_cons_self) hpath,
      List.append_nil]

/-- An escaped text as a segment is the key that the text is. -/
theorem key?_escape (special : Bool) (text : List Char) :
    key? (escape (segmentKeeps special) text) = some (String.ofList text) := by
  rw [key?, Web.unescape_escape (Web.Url.keepsPlain_segmentKeeps special),
    Text.Utf8.decode?_encode]
  rfl

end Service

namespace Http.Target

/-! ### Targets -/

/-- A character of ASCII that may stand in a path of a target and does not end a segment. -/
structure PathChar (c : Char) : Prop where
  /-- It is an ASCII character. -/
  ascii : c.toNat < 0x80
  /-- A path may have it. -/
  admitted : pathAdmits c = true
  /-- The path goes on after it. -/
  inner : endsPath c = false
  /-- It does not end a segment. -/
  ne_slash : c ≠ '/'

instance (c : Char) : Decidable (PathChar c) :=
  decidable_of_iff (c.toNat < 0x80 ∧ pathAdmits c = true ∧ endsPath c = false ∧ c ≠ '/')
    ⟨fun h ↦ ⟨h.1, h.2.1, h.2.2.1, h.2.2.2⟩, fun h ↦ ⟨h.ascii, h.admitted, h.inner, h.ne_slash⟩⟩

/-- What escaping leaves of a segment may stand in a path. -/
theorem pathChar_of_mem_escape (special : Bool) (text : List Char) :
    ∀ c ∈ escape (segmentKeeps special) text, PathChar c :=
  Web.forall_mem_escape
    ((Web.Url.keepsPlain_segmentKeeps special).forall_keep (by cases special <;> decide +kernel))
    (by decide) (by decide) text

theorem pathChar_of_isAlphanum {c : Char} (h : c.isAlphanum = true) : PathChar c :=
  Text.Utf8.forall_ascii (P := fun c ↦ c.isAlphanum = true → PathChar c) (by decide +kernel)
    (Web.toNat_lt_of_isAlphanum h) h

/-- The characters of a path of such segments. -/
theorem forall_mem_spellPath {path : List (List Char)} {P : Char → Prop} (hslash : P '/')
    (h : ∀ segment ∈ path, ∀ c ∈ segment, P c) : ∀ c ∈ spellPath path, P c := by
  intro c hc
  obtain ⟨segment, hsegment, hc⟩ := List.mem_flatMap.1 hc
  rcases List.mem_cons.1 hc with rfl | hc
  · exact hslash
  · exact h segment hsegment c hc

/-- A character that may stand in a query of a target and does not end it. -/
structure QueryChar (c : Char) : Prop where
  /-- A query may have it. -/
  admitted : queryAdmits c = true
  /-- The query goes on after it. -/
  ne_hash : c ≠ '#'

instance (c : Char) : Decidable (QueryChar c) :=
  decidable_of_iff (queryAdmits c = true ∧ c ≠ '#')
    ⟨fun h ↦ ⟨h.1, h.2⟩, fun h ↦ ⟨h.admitted, h.ne_hash⟩⟩

/-- What a form makes of a name and its value may stand in a query. -/
theorem queryChar_of_mem_encodePair (name value : List Char) :
    ∀ c ∈ Web.Form.encodePair name value, QueryChar c := by
  have htext := Web.Form.forall_mem_encodeText (P := QueryChar) (by decide +kernel) (by decide)
    (by decide) (by decide)
  refine List.forall_mem_append.2 ⟨htext name, List.forall_mem_cons.2 ⟨by decide, htext value⟩⟩

/-- A path and a query of such characters are told apart. -/
theorem pathAndQuery?_of_admitted {path : List Char} {query : Option (List Char)}
    (hpath : ∀ c ∈ path, pathAdmits c = true ∧ endsPath c = false)
    (hquery : ∀ c ∈ query.getD [], QueryChar c) :
    pathAndQuery? (path ++ spellQuery query) = some ⟨path, query⟩ := by
  have hinner : ∀ c ∈ path, (!endsPath c) = true := fun c hc ↦ by rw [(hpath c hc).2]; rfl
  have htake : (path ++ spellQuery query).takeWhile (fun c ↦ !endsPath c) = path := by
    rw [List.takeWhile_append_of_pos hinner]
    cases query <;> exact List.append_nil path
  have hdrop : (path ++ spellQuery query).dropWhile (fun c ↦ !endsPath c) = spellQuery query := by
    rw [List.dropWhile_append_of_pos hinner]
    cases query <;> rfl
  have hadmitted : path.all pathAdmits = true := List.all_eq_true.2 fun c hc ↦ (hpath c hc).1
  simp only [pathAndQuery?, htake, hdrop]
  cases query with
  | none => exact if_pos ⟨hadmitted, rfl⟩
  | some query =>
    have hadmitted' : query.all queryAdmits = true :=
      List.all_eq_true.2 fun c hc ↦ (hquery c hc).admitted
    have hwhole : query.takeWhile (· ≠ '#') = query :=
      List.takeWhile_eq_self_iff.2 fun c hc ↦ decide_eq_true (hquery c hc).ne_hash
    show (if path.all pathAdmits = true ∧ (query.takeWhile (· ≠ '#')).all queryAdmits = true
      then some (⟨path, some (query.takeWhile (· ≠ '#'))⟩ : Target) else none) = _
    rw [hwhole, if_pos ⟨hadmitted, hadmitted'⟩]

/-- **The target of a URL is read as its path and query**, unless it is too long. -/
theorem parse?_target {path : List (List Char)} {query : Option (List Char)} (hpath : path ≠ [])
    (hchars : ∀ segment ∈ path, ∀ c ∈ segment, PathChar c)
    (hquery : ∀ c ∈ query.getD [], QueryChar c)
    (hsize : (String.ofList (spellPath path ++ spellQuery query)).utf8ByteSize ≤ largestSize) :
    parse? (String.ofList (spellPath path ++ spellQuery query)) =
      some ⟨spellPath path, query⟩ := by
  obtain ⟨segment, rest, rfl⟩ := List.exists_cons_of_ne_nil hpath
  have hadmitted := forall_mem_spellPath (P := fun c ↦ pathAdmits c = true ∧ endsPath c = false)
    (by decide) fun segment hsegment c hc ↦
      ⟨(hchars segment hsegment c hc).admitted, (hchars segment hsegment c hc).inner⟩
  rw [parse?, if_neg (Nat.not_lt.2 hsize), String.toList_ofList]
  exact pathAndQuery?_of_admitted hadmitted hquery

end Http.Target

end ContributionRegistry
