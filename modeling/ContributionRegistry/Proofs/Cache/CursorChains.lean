import ContributionRegistry.Cache.ContributionLists
import ContributionRegistry.Proofs.Cache.KeyValueServer

/-!
# Counting along a chain of cursors

A count asks a server for a page, and then for the next one with the cursor that came with the page,
until a cursor is zero. Which cursors a server sends is its own affair: they may shrink, come again,
or go along with empty pages. So a count is considered against a server that replies by a script,
whatever the script (`Script`): it gives one command for each reply that it takes, each with the
cursor of the reply before, and it is over at the first reply with a zero or without a page
(`count_script`).

What one reply does to a count is the same at every server (`countFrom_onward`, `countFrom_last`).
Along a script there are then three ways in which a count can go: it comes to a reply that ends it
(`count_of_final`), to the limit on pages (`count_of_limit`), or to neither, for which the script is
too short.

`count_script_circling` is a script whose cursors grow, come again and go along with an empty page.
-/

namespace ContributionRegistry.Cache

/-! ### Pages in replies -/

namespace ServerReply

/-- The cursor and the keys that a reply has, or what it has instead. -/
def page (r : ServerReply) : Except String (Nat × List String) :=
  match r.failure? with
  | some reason => .error reason
  | none => r.toPage

/-- A cursor and keys as a server sends them. -/
def ofPage (p : Nat × List String) : ServerReply :=
  .list [.text (toString p.1), .list (p.2.map .text)]

/-- Every page can be sent, whatever its keys. -/
theorem page_ofPage {p : Nat × List String} (hcursor : p.1 ≤ Settings.largestLong) :
    (ofPage p).page = .ok p := by
  have hfine : (ofPage p).failure? = none := failure?_page ..
  rw [page, hfine]
  exact toPage_page hcursor p.2

/-- So every script of pages can be played. -/
theorem map_page_ofPage {script : List (Nat × List String)}
    (hcursors : ∀ p ∈ script, p.1 ≤ Settings.largestLong) :
    (script.map ofPage).map page = script.map .ok := by
  rw [List.map_map]
  exact List.map_congr_left fun p hp ↦ page_ofPage (hcursors p hp)

theorem page_failure (reason : String) : (failure reason).page = .error reason := by
  have hfailure : (failure reason).failure? = some reason := by simp only [failure?]
  rw [page, hfailure]

/-- A reply with which a count is over: there is no cursor to go on from. -/
def Final (r : ServerReply) : Prop := ∀ p, r.page = .ok p → p.1 = 0

/-- What a count comes to with its last reply. -/
def total (sofar : Nat) (r : ServerReply) : Attempt StoreError Nat :=
  match r.page with
  | .ok p => .ok (sofar + p.2.length)
  | .error reason => .error (.refused (.cacheServer reason))

theorem final_of_ok {r : ServerReply} {p : Nat × List String} (h : r.page = .ok p)
    (hzero : p.1 = 0) : r.Final := by
  intro q hq
  rw [h] at hq
  cases hq
  exact hzero

theorem final_of_error {r : ServerReply} {reason : String} (h : r.page = .error reason) :
    r.Final := by
  intro p hp
  rw [h] at hp
  cases hp

theorem total_of_ok {r : ServerReply} {p : Nat × List String} (h : r.page = .ok p)
    (sofar : Nat) : r.total sofar = .ok (sofar + p.2.length) := by
  rw [total, h]

theorem total_of_error {r : ServerReply} {reason : String} (h : r.page = .error reason)
    (sofar : Nat) : r.total sofar = .error (.refused (.cacheServer reason)) := by
  rw [total, h]

end ServerReply

/-! ### What one reply does to a count -/

namespace CacheServer

section

variable {σ : Type} {server : CacheServer σ} {pattern : String} {cursor sofar limit : Nat}
  {s s' : σ} {reply : ServerReply}

/-- A question for a page comes out as the reply is read. -/
theorem ask_scan (hreply : server (.scan cursor pattern) s = (reply, s')) :
    server.ask (.scan cursor pattern) ServerReply.toPage s =
      (Attempt.ofExcept (reply.page.mapError .cacheServer), s') := by
  rcases hfailure : reply.failure? with _ | reason
  · rw [ask_eq hreply hfailure, ServerReply.page, hfailure]
  · simp only [ask, hreply, ServerReply.page, hfailure]
    rfl

/-- A page with a cursor is counted, and the count goes on from the cursor. -/
theorem countFrom_onward {p : Nat × List String}
    (hreply : server (.scan cursor pattern) s = (reply, s')) (hpage : reply.page = .ok p)
    (hcursor : p.1 ≠ 0) :
    countFrom server pattern (limit + 1) cursor sofar s =
      countFrom server pattern limit p.1 (sofar + p.2.length) s' := by
  have hask := ask_scan hreply
  rw [hpage] at hask
  rw [countFrom, Action.next_ok hask]
  exact congrFun (if_neg hcursor) s'

/-- A page with a zero is counted too; without a page there is no count, however much has been
counted. Either way nothing more is asked. -/
theorem countFrom_last (hreply : server (.scan cursor pattern) s = (reply, s'))
    (hfinal : reply.Final) :
    countFrom server pattern (limit + 1) cursor sofar s = (reply.total sofar, s') := by
  have hask := ask_scan hreply
  rcases hpage : reply.page with reason | p <;> rw [hpage] at hask
  · rw [countFrom, Action.next_error hask, ServerReply.total_of_error hpage]
  · rw [countFrom, Action.next_ok hask, ServerReply.total_of_ok hpage]
    exact congrFun (if_pos (hfinal p hpage)) s'

end

end CacheServer

/-! ### Replies by a script -/

/-- A server that replies by a script: the replies to come, and the commands it has been given. -/
structure Script where
  /-- The replies that are still to come. -/
  replies : List ServerReply
  /-- The commands that were given, in order. -/
  commands : List Command := []

namespace Script

open CacheServer (countFrom countFrom_onward countFrom_last texts)

/-- Whatever the command, the next reply of the script. -/
def server : CacheServer Script := fun command s ↦
  match s.replies with
  | [] => (.failure "end of script", { s with commands := s.commands ++ [command] })
  | reply :: later => (reply, ⟨later, s.commands ++ [command]⟩)

/-- The commands that ask for a page each, with these cursors. -/
def scans (pattern : String) (cursors : List Nat) : List Command :=
  cursors.map fun cursor ↦ .scan cursor pattern

/-- How many keys some pages have. -/
def size (pages : List (Nat × List String)) : Nat := (pages.flatMap Prod.snd).length

theorem size_cons (p : Nat × List String) (pages : List (Nat × List String)) :
    size (p :: pages) = p.2.length + size pages := by
  rw [size, List.flatMap_cons, List.length_append, size]

theorem size_concat (pages : List (Nat × List String)) (p : Nat × List String) :
    size (pages ++ [p]) = size pages + p.2.length := by
  rw [size, List.flatMap_append, List.length_append, List.flatMap_singleton, size]

variable {pages : List (Nat × List String)} {before : List ServerReply} {last : ServerReply}
  {limit : Nat}

/-- **A count goes past any pages without a zero.** It has then asked with the first cursor and with
those of all pages but the last, whose cursor is the one to ask with next. -/
theorem countFrom_before (hbefore : before.map ServerReply.page = pages.map .ok)
    (hcursors : ∀ p ∈ pages, p.1 ≠ 0) (pattern : String) (limit cursor sofar : Nat)
    (later : List ServerReply) (sent : List Command) :
    ∃ asked next, asked ++ [next] = cursor :: pages.map Prod.fst ∧
      countFrom server pattern (pages.length + limit) cursor sofar ⟨before ++ later, sent⟩ =
        countFrom server pattern limit next (sofar + size pages)
          ⟨later, sent ++ scans pattern asked⟩ := by
  induction pages generalizing before cursor sofar sent with
  | nil =>
    obtain rfl : before = [] := List.map_eq_nil_iff.1 hbefore
    refine ⟨[], cursor, rfl, ?_⟩
    rw [List.length_nil, Nat.zero_add]
    show countFrom server pattern limit cursor sofar ⟨later, sent⟩ = _
    rw [scans, List.map_nil, List.append_nil]
    rfl
  | cons p pages ih =>
    obtain ⟨reply, before, rfl⟩ := List.exists_cons_of_ne_nil (l := before) (by
      rintro rfl
      cases hbefore)
    rw [List.map_cons, List.map_cons, List.cons.injEq] at hbefore
    obtain ⟨hp, hpages⟩ := List.forall_mem_cons.1 hcursors
    -- the cursor of this page is the one that is asked for next
    obtain ⟨asked, next, hasked, hcount⟩ := ih hbefore.2 hpages p.1 (sofar + p.2.length)
      (sent ++ [.scan cursor pattern])
    refine ⟨cursor :: asked, next, by rw [List.cons_append, hasked, List.map_cons], ?_⟩
    have hscans : sent ++ scans pattern (cursor :: asked) =
        sent ++ [.scan cursor pattern] ++ scans pattern asked := by
      rw [List.append_assoc]
      rfl
    rw [List.length_cons, Nat.add_right_comm, size_cons, ← Nat.add_assoc, hscans, ← hcount]
    exact countFrom_onward rfl hbefore.1 hp

/-- The last command is one more question for a page. -/
theorem scans_concat (pattern : String) {asked cursors : List Nat} {next : Nat}
    (h : asked ++ [next] = cursors) :
    scans pattern asked ++ [.scan next pattern] = scans pattern cursors := by
  rw [← h, scans, scans, List.map_append]
  rfl

/-- **The first reply with a zero or without a page ends the count**, and nothing is asked after
it. -/
theorem count_of_final (hbefore : before.map ServerReply.page = pages.map .ok)
    (hcursors : ∀ p ∈ pages, p.1 ≠ 0) (hfinal : last.Final) (hlimit : pages.length < limit)
    (pattern : String) (later : List ServerReply) :
    (texts server limit).count pattern ⟨before ++ last :: later, []⟩ =
      (last.total (size pages), ⟨later, scans pattern (0 :: pages.map Prod.fst)⟩) := by
  obtain ⟨spare, rfl⟩ := Nat.exists_eq_add_of_lt hlimit
  obtain ⟨asked, next, hasked, hcount⟩ :=
    countFrom_before hbefore hcursors pattern (spare + 1) 0 0 (last :: later) []
  show countFrom server pattern (pages.length + (spare + 1)) 0 0 _ = _
  rw [hcount, countFrom_last rfl hfinal, Nat.zero_add, List.nil_append,
    scans_concat pattern hasked]

/-- A count that may ask for no more pages is abandoned; that is all that the bound does. -/
theorem count_of_limit (hbefore : before.map ServerReply.page = pages.map .ok)
    (hcursors : ∀ p ∈ pages, p.1 ≠ 0) (pattern : String) (later : List ServerReply) :
    (texts server pages.length).count pattern ⟨before ++ later, []⟩ =
      (.error .abandoned, ⟨later, (scans pattern (0 :: pages.map Prod.fst)).dropLast⟩) := by
  obtain ⟨asked, next, hasked, hcount⟩ :=
    countFrom_before hbefore hcursors pattern 0 0 0 later []
  show countFrom server pattern (pages.length + 0) 0 0 _ = _
  rw [hcount, List.nil_append, ← scans_concat pattern hasked, List.dropLast_concat]
  rfl

/-- The figures about a cache have what the count comes to, or its failure. -/
theorem stats_of_final {d : ListCounter Script} (hcache : d.cache = texts server limit)
    (hbefore : before.map ServerReply.page = pages.map .ok) (hcursors : ∀ p ∈ pages, p.1 ≠ 0)
    (hfinal : last.Final) (hlimit : pages.length < limit) (later : List ServerReply) :
    let left : Script := ⟨later, scans (listKeyStart ++ "*") (0 :: pages.map Prod.fst)⟩
    stats d ⟨before ++ last :: later, []⟩ =
      (Attempt.restate .store ((last.total (size pages)).map fun keys ↦
        Stats.mk (d.tally left).hits (d.tally left).misses keys), left) := by
  intro left
  have hcount : d.cache.count (listKeyStart ++ "*") ⟨before ++ last :: later, []⟩ =
      (last.total (size pages), left) := by
    rw [hcache]
    exact count_of_final hbefore hcursors hfinal hlimit _ later
  rw [stats, hcount]
  rcases last.total (size pages) with e | keys <;> rfl

/-! ### Scripts with a zero -/

section

variable {script : List (Nat × List String)} {replies : List ServerReply} {n : Nat}

/-- The first replies are the first pages of the script. -/
theorem map_take_page (hreplies : replies.map ServerReply.page = script.map .ok) (k : Nat) :
    (replies.take k).map ServerReply.page = (script.take k).map .ok := by
  rw [List.map_take, hreplies, List.map_take]

/-- Each reply is the page that the script has there. -/
theorem page_getElem (hreplies : replies.map ServerReply.page = script.map .ok)
    (hn : n < script.length) :
    ∃ hn' : n < replies.length, replies[n].page = .ok script[n] := by
  have hlength : replies.length = script.length := by
    simpa only [List.length_map] using congrArg List.length hreplies
  have hget : (replies.map ServerReply.page)[n]? = (script.map .ok)[n]? := by rw [hreplies]
  refine ⟨hlength ▸ hn, ?_⟩
  rw [List.getElem?_map, List.getElem?_map, List.getElem?_eq_getElem (hlength ▸ hn),
    List.getElem?_eq_getElem hn] at hget
  exact Option.some.inj hget

/-- No page before the first zero has a zero. -/
theorem ne_zero_of_mem_take (hzero : script.findIdx? (fun p ↦ p.1 == 0) = some n) {k : Nat}
    (hk : k ≤ n) {p : Nat × List String} (hp : p ∈ script.take k) : p.1 ≠ 0 := by
  obtain ⟨i, hi, rfl⟩ := List.mem_take_iff_getElem.1 hp
  obtain ⟨hn, -, hbefore⟩ := List.findIdx?_eq_some_iff_getElem.1 hzero
  have hne := hbefore i (by omega)
  rwa [beq_iff_eq] at hne

/-- **A count follows the chain of cursors of any script** whose first zero stands at `n`. It asks
for `n + 1` pages, first with a zero and then with the cursor of the page before, stops there, and
comes to the number of keys on these pages. Where a reply up to that one is no page, the count fails
with it and asks nothing more. A bound on the pages makes no difference unless it is reached. -/
theorem count_script (hreplies : replies.map ServerReply.page = script.map .ok)
    (hzero : script.findIdx? (fun p ↦ p.1 == 0) = some n) (pattern : String) (limit : Nat) :
    (n < limit → (texts server limit).count pattern ⟨replies, []⟩ =
      (.ok (size (script.take (n + 1))),
        ⟨replies.drop (n + 1), scans pattern (0 :: (script.take n).map Prod.fst)⟩)) ∧
    (∀ k ≤ n, k < limit → ∀ bad reason later, bad.page = .error reason →
      (texts server limit).count pattern ⟨replies.take k ++ bad :: later, []⟩ =
        (.error (.refused (.cacheServer reason)),
          ⟨later, scans pattern (0 :: (script.take k).map Prod.fst)⟩)) ∧
    (limit ≤ n → (texts server limit).count pattern ⟨replies, []⟩ =
      (.error .abandoned, ⟨replies.drop limit,
        (scans pattern (0 :: (script.take limit).map Prod.fst)).dropLast⟩)) := by
  obtain ⟨hn, hlast, -⟩ := List.findIdx?_eq_some_iff_getElem.1 hzero
  rw [beq_iff_eq] at hlast
  obtain ⟨hn', hpage⟩ := page_getElem hreplies hn
  have htaken {k : Nat} (hk : k ≤ n) : (script.take k).length = k := by
    rw [List.length_take]
    omega
  refine ⟨fun hlimit ↦ ?_, fun k hk hlimit bad reason later hbad ↦ ?_, fun hlimit ↦ ?_⟩
  · have hfinal : replies[n].Final := ServerReply.final_of_ok hpage hlast
    have hshort : (script.take n).length < limit := by rwa [htaken (Nat.le_refl n)]
    have hcount := count_of_final (map_take_page hreplies n)
      (fun p ↦ ne_zero_of_mem_take hzero (Nat.le_refl n)) hfinal hshort pattern
      (replies.drop (n + 1))
    rwa [← List.drop_eq_getElem_cons hn', List.take_append_drop, ServerReply.total_of_ok hpage,
      ← size_concat, ← List.take_succ_eq_append_getElem hn] at hcount
  · rw [count_of_final (map_take_page hreplies k) (fun p ↦ ne_zero_of_mem_take hzero hk)
      (ServerReply.final_of_error hbad) (by rwa [htaken hk]), ServerReply.total_of_error hbad]
  · have hcount := count_of_limit (map_take_page hreplies limit)
      (fun p ↦ ne_zero_of_mem_take hzero hlimit) pattern (replies.drop limit)
    rwa [htaken hlimit, List.take_append_drop] at hcount

/-- Cursors that come again, a page without keys and replies after the zero, which stay unasked; and
a server that refuses after two pages. -/
theorem count_script_circling :
    let script := [(17, ["contributions:1", "contributions:2"]), (5, []), (17, ["contributions:3"]),
      (0, ["contributions:4"]), (9, ["contributions:5"])]
    let replies := script.map ServerReply.ofPage
    let pattern := "contributions:*"
    (texts server 10).count pattern ⟨replies, []⟩ =
      (.ok 4, ⟨[ServerReply.ofPage (9, ["contributions:5"])],
        [.scan 0 pattern, .scan 17 pattern, .scan 5 pattern, .scan 17 pattern]⟩) ∧
    (texts server 10).count pattern ⟨replies.take 2 ++ [.failure "LOADING"], []⟩ =
      (.error (.refused (.cacheServer "LOADING")),
        ⟨[], [.scan 0 pattern, .scan 17 pattern, .scan 5 pattern]⟩) := by
  intro script replies pattern
  have hcursors : ∀ p ∈ script, p.1 ≤ Settings.largestLong := by decide
  have hzero : script.findIdx? (fun p ↦ p.1 == 0) = some 3 := by decide
  obtain ⟨hcount, hfailure, -⟩ :=
    count_script (ServerReply.map_page_ofPage hcursors) hzero pattern 10
  exact ⟨hcount (by decide),
    hfailure 2 (by decide) (by decide) _ _ [] (ServerReply.page_failure "LOADING")⟩

end

end Script

end ContributionRegistry.Cache
