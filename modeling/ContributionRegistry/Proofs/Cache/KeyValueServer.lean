import ContributionRegistry.Cache.Server
import ContributionRegistry.Proofs.Cache.ExpiringMap
import ContributionRegistry.Proofs.Text.Numerals

/-!
# A server that keeps texts for so many seconds

What a cache server does with the commands that it is given. A text is kept for whole seconds and
gone when they are over. Keys are shown page by page: the cursor zero begins anew, any other must be
the one that came with the page before, and each page shows those of its keys that match the
pattern, perhaps none.

How a server lays its keys out in pages and numbers them, what its patterns can do beyond a star at
the end, and how far its clock goes, is its own affair (`Habits`). However that may be, a count asks
for page after page and comes to the number of keys that match (`count_serve`).

Two counts at a time do not occur here. The pages still to be shown are part of the server's state
(`KeyValues.pages`), and a new count begins them anew.
-/

namespace ContributionRegistry.Cache

/-! ### The server -/

/-- The characters that stand for something else in the patterns of a server. -/
def wildcards : List Char := ['*', '?', '[', '\\']

/-- A text in which every character stands for itself. -/
def Plain (start : String) : Prop := ∀ c ∈ start.toList, c ∉ wildcards

instance (start : String) : Decidable (Plain start) :=
  List.decidableBAll (fun c ↦ c ∉ wildcards) start.toList

/-- What is a server's own affair. -/
structure Habits where
  /-- The pages that keys are shown in, which need not be the same each time. -/
  layOut : Nat → List String → List (List String)
  /-- The pages have all keys, each once. -/
  perm : ∀ scan keys, (layOut scan keys).flatten.Perm keys
  /-- The cursor that is sent along when so many pages are left. -/
  cursor : Nat → Nat → Nat
  /-- Where pages are left, the cursor says so. -/
  cursor_ne_zero : ∀ scan left, cursor scan left ≠ 0
  /-- Cursors are numbers of 64 bits. -/
  cursor_le : ∀ scan left, cursor scan left ≤ Settings.largestLong
  /-- Whether a key matches a pattern. -/
  glob : String → String → Bool
  /-- A plain beginning with a star stands for any rest. -/
  glob_start : ∀ start key, Plain start →
    (glob (start ++ "*") key = true ↔ ∃ rest, key = start ++ rest)
  /-- The last reading of its clock. -/
  limit : Nat

/-- The cursor that is sent along when pages are left: zero when there is none. -/
def Habits.onward (h : Habits) (scan : Nat) (left : List (List String)) : Nat :=
  if left = [] then 0 else h.cursor scan left.length

/-- What is sent as a cursor is a number of 64 bits. -/
theorem Habits.onward_le (h : Habits) (scan : Nat) (left : List (List String)) :
    h.onward scan left ≤ Settings.largestLong := by
  unfold onward
  split
  · exact Nat.zero_le _
  · exact h.cursor_le ..

/-- What a server has: the reading of its clock, the texts that are not gone yet, how many times
keys have been shown, and the pages that are left from the last time. -/
structure KeyValues where
  /-- The reading of the clock, in milliseconds. -/
  now : Nat
  /-- The texts that are kept. -/
  entries : Entries
  /-- How many counts have been begun. -/
  scans : Nat := 0
  /-- The pages that are left of the last one. -/
  pages : List (List String) := []

namespace KeyValues

/-- Time passes; what has had its time is gone. -/
def advance (span : Nat) (s : KeyValues) : KeyValues :=
  { s with now := s.now + span, entries := s.entries.living (s.now + span) }

/-- The text under a key. -/
def text? (s : KeyValues) (key : String) : Option String :=
  Option.map Entry.text <| s.entries.entry? key

/-- Shows the first of some pages, with the cursor of the next one. -/
def turn (h : Habits) (pattern : String) (pages : List (List String)) (s : KeyValues) :
    ServerReply × KeyValues :=
  let keys := (pages.headD []).filter (h.glob pattern)
  (.list [.text (toString (h.onward s.scans pages.tail)), .list (keys.map .text)],
    { s with pages := pages.tail })

/-- What is replied to a command, and what it leaves behind. -/
def serve (h : Habits) : CacheServer KeyValues
  | .get key, s =>
    match s.text? key with
    | some text => (.text text, s)
    | none => (.nothing, s)
  | .setFor key seconds text, s =>
    if 0 < seconds ∧ s.now + 1000 * seconds ≤ h.limit then
      (.done, { s with
        entries := s.entries.drop key ++ [⟨key, text, s.now + 1000 * seconds⟩] })
    else (.failure "invalid expire time", s)
  | .scan cursor pattern, s =>
    if cursor = 0 then
      turn h pattern (h.layOut s.scans (s.entries.map Entry.key)) { s with scans := s.scans + 1 }
    else if s.pages ≠ [] ∧ cursor = h.cursor s.scans s.pages.length then turn h pattern s.pages s
    else (.failure "invalid cursor", s)

end KeyValues

/-! ### Replies as they are read -/

namespace ServerReply

@[simp]
theorem failure?_text (s : String) : (text s).failure? = none := by simp only [failure?]

@[simp]
theorem failure?_nothing : nothing.failure? = none := by simp only [failure?]

@[simp]
theorem failure?_done : done.failure? = none := by simp only [failure?]

theorem failure?_list {items : List ServerReply} (h : ∀ item ∈ items, item.failure? = none) :
    (list items).failure? = none := by
  rw [failure?, List.findSome?_eq_none_iff]
  rintro ⟨item, hitem⟩ -
  exact h item hitem

theorem toKeys_texts (keys : List String) : (list (keys.map text)).toKeys = .ok keys :=
  mapM_map_eq_ok fun _ _ ↦ rfl

/-- A page is read with its cursor. -/
theorem toPage_page {cursor : Nat} (hcursor : cursor ≤ Settings.largestLong) (keys : List String) :
    (list [text (toString cursor), list (keys.map text)]).toPage = .ok (cursor, keys) := by
  have hread : (text (toString cursor)).toCursor = .ok cursor := by
    rw [toCursor, Text.readNumber_toString hcursor]
    rfl
  rw [toPage, hread, toKeys_texts]
  rfl

theorem failure?_page (cursor : String) (keys : List String) :
    (list [text cursor, list (keys.map text)]).failure? = none := by
  have hkeys : (list (keys.map text)).failure? = none := by
    refine failure?_list fun item hitem ↦ ?_
    obtain ⟨key, -, rfl⟩ := List.mem_map.1 hitem
    exact failure?_text key
  refine failure?_list fun item hitem ↦ ?_
  rcases List.mem_cons.1 hitem with rfl | hitem
  · exact failure?_text cursor
  · rw [List.mem_singleton.1 hitem, hkeys]

end ServerReply

namespace CacheServer

/-- A reply that is no failure is read. -/
theorem ask_eq {σ α : Type} {server : CacheServer σ} {command : Command}
    {read : ServerReply → Except String α} {s s' : σ} {reply : ServerReply}
    (hreply : server command s = (reply, s')) (hfine : reply.failure? = none) :
    server.ask command read s = (Attempt.ofExcept ((read reply).mapError .cacheServer), s') := by
  simp only [ask, hreply, hfine]

end CacheServer

namespace KeyValues

open CacheServer

variable {h : Habits} {s : KeyValues}

/-! ### Counting page by page -/

/-- A question for a page is answered with the next page. -/
theorem ask_turn {pattern : String} {cursor : Nat} {pages : List (List String)} {s' : KeyValues}
    (hserve : serve h (.scan cursor pattern) s = turn h pattern pages s') :
    ask (serve h) (.scan cursor pattern) ServerReply.toPage s =
      (.ok (h.onward s'.scans pages.tail, (pages.headD []).filter (h.glob pattern)),
        { s' with pages := pages.tail }) := by
  rw [ask_eq hserve (ServerReply.failure?_page ..), ServerReply.toPage_page (h.onward_le ..)]
  rfl

/-- **From any page on, a count comes to the number of the keys to come that match.** -/
theorem countFrom_turn {pattern : String} {cursor sofar limit : Nat} {pages : List (List String)}
    {s' : KeyValues} (hserve : serve h (.scan cursor pattern) s = turn h pattern pages s')
    (hlimit : pages.length < limit) :
    countFrom (serve h) pattern limit cursor sofar s =
      (.ok (sofar + (pages.flatten.filter (h.glob pattern)).length), { s' with pages := [] }) := by
  induction pages generalizing s s' cursor sofar limit with
  | nil =>
    obtain ⟨limit, rfl⟩ := Nat.exists_eq_add_one_of_ne_zero (Nat.ne_of_gt hlimit)
    rw [countFrom, Action.next_ok (ask_turn hserve)]
    rfl
  | cons page pages ih =>
    have hpos : 0 < limit := Nat.zero_lt_of_lt hlimit
    obtain ⟨limit, rfl⟩ := Nat.exists_eq_add_one_of_ne_zero (Nat.ne_of_gt hpos)
    rw [countFrom, Action.next_ok (ask_turn hserve)]
    dsimp only [List.tail_cons, List.headD_cons]
    by_cases hlast : pages = []
    · subst hlast
      have hended : h.onward s'.scans [] = 0 := rfl
      rw [if_pos hended, List.flatten_cons, List.flatten_nil, List.append_nil]
      rfl
    · -- the next command has the cursor that came with this page
      have honward : h.onward s'.scans pages = h.cursor s'.scans pages.length := if_neg hlast
      have hnext : serve h (.scan (h.cursor s'.scans pages.length) pattern)
          { s' with pages := pages } = turn h pattern pages { s' with pages := pages } := by
        rw [serve, if_neg (h.cursor_ne_zero _ _), if_pos ⟨hlast, rfl⟩]
      rw [honward, if_neg (h.cursor_ne_zero _ _), List.flatten_cons, List.filter_append,
        List.length_append, ← Nat.add_assoc]
      exact ih hnext (Nat.lt_of_succ_lt_succ hlimit)

/-- **A count comes to the number of keys that match**, if it may ask for enough pages. -/
theorem count_serve (h : Habits) (pattern : String) (s : KeyValues) :
    ∃ enough s', s'.now = s.now ∧ s'.entries = s.entries ∧ ∀ limit, enough ≤ limit →
      (texts (serve h) limit).count pattern s =
        (.ok ((s.entries.map Entry.key).filter (h.glob pattern)).length, s') := by
  have hserve : serve h (.scan 0 pattern) s = turn h pattern
      (h.layOut s.scans (s.entries.map Entry.key)) { s with scans := s.scans + 1 } := by
    rw [serve, if_pos rfl]
  refine ⟨(h.layOut s.scans (s.entries.map Entry.key)).length + 1,
    { s with scans := s.scans + 1, pages := [] }, rfl, rfl, fun limit hlimit ↦ ?_⟩
  show countFrom (serve h) pattern limit 0 0 s = _
  rw [countFrom_turn hserve hlimit, Nat.zero_add]
  have hperm := (h.perm s.scans (s.entries.map Entry.key)).filter (h.glob pattern)
  rw [hperm.length_eq]

/-! ### Texts -/

/-- A lookup gives the text that is kept. -/
theorem get_serve (h : Habits) (limit : Nat) (key : String) (s : KeyValues) :
    (texts (serve h) limit).get key s = (.ok (s.text? key), s) := by
  rcases htext : s.text? key with _ | text
  · have hserve : serve h (.get key) s = (.nothing, s) := by simp only [serve, htext]
    exact ask_eq hserve ServerReply.failure?_nothing
  · have hserve : serve h (.get key) s = (.text text, s) := by simp only [serve, htext]
    exact ask_eq hserve (ServerReply.failure?_text text)

/-- A writing for whole seconds puts the text in place of the one under its key. -/
theorem set_serve {seconds : Nat} (hpos : 1 ≤ seconds)
    (hlimit : s.now + 1000 * seconds ≤ h.limit) (pages : Nat) (key text : String) :
    (texts (serve h) pages).set key text (1000 * seconds) s =
      (.ok (), { s with
        entries := s.entries.drop key ++ [⟨key, text, s.now + 1000 * seconds⟩] }) := by
  have hseconds : secondsOf (1000 * seconds) = seconds := by
    rw [secondsOf, Nat.mul_div_cancel_left _ (by decide), Nat.max_eq_right hpos]
  have hserve : serve h (.setFor key seconds text) s = (.done, { s with
      entries := s.entries.drop key ++ [⟨key, text, s.now + 1000 * seconds⟩] }) := by
    rw [serve, if_pos ⟨hpos, hlimit⟩]
  show ask (serve h) (.setFor key (secondsOf (1000 * seconds)) text) (fun _ ↦ .ok ()) s = _
  rw [hseconds]
  exact ask_eq hserve ServerReply.failure?_done

end KeyValues

end ContributionRegistry.Cache
