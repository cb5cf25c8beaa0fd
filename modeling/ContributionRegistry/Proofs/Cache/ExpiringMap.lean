import ContributionRegistry.Proofs.Cache.Retention
import Mathlib.Logic.Function.Basic

/-!
# The map that a cache in memory stands for

A cache in memory answers as if it never dropped anything: under each key it has the text that was
written last, until its time is up (`MemoryCache.answers_last_writing`). Callers may use it in any
order, and a writer may have looked at the clock long before it gets hold of the cache.

What is in the cache differs from what was last written under each key by expired entries only, and
that is what every use of it keeps (`Entries.Reflects`). It drops entries at three places: the one
that is looked up if it has expired, at a count all that have, and at a writing all that had when
the writer looked at the clock. The clock does not go back, so those have expired in any case.

The map is a function from keys to entries and not a cache of its own, so what a cache tells can be
read off it directly: the text under a key (`Entries.Reflects.get_eq`) and the keys that match a
pattern. Patterns are what is left of them when a star at the end is taken for any rest
(`Entries.Matches`).
-/

namespace ContributionRegistry.Cache

/-! ### Patterns -/

/-- What a pattern stands for: with a star at the end, the texts that start with what is before it,
and else itself. -/
def Matches (pattern key : String) : Prop :=
  (∃ start rest, pattern = start ++ "*" ∧ key = start ++ rest) ∨
    ((∀ start, pattern ≠ start ++ "*") ∧ pattern = key)

namespace Entries

/-- A star at the end stands for any rest. -/
theorem matchesPattern_star (start key : List Char) :
    matchesPattern (start ++ ['*']) key = start.isPrefixOf key := by
  simp only [matchesPattern, List.reverse_append, List.reverse_singleton, List.singleton_append,
    List.reverse_reverse]

/-- Without a star at the end a pattern stands for itself. -/
theorem matchesPattern_of_no_star {pattern : List Char} (h : ∀ start, pattern ≠ start ++ ['*'])
    (key : List Char) : matchesPattern pattern key = (pattern == key) := by
  unfold matchesPattern
  split
  · next start hreverse =>
    refine absurd ?_ (h start.reverse)
    rw [← List.reverse_reverse pattern, hreverse, List.reverse_cons]
  · rfl

/-- A star after a text stands for all texts that start with it. -/
theorem matchesPattern_start_iff (start key : String) :
    matchesPattern (start ++ "*").toList key.toList = true ↔ ∃ rest, key = start ++ rest := by
  rw [String.toList_append, show "*".toList = ['*'] from rfl, matchesPattern_star,
    List.isPrefixOf_iff_prefix]
  constructor
  · rintro ⟨rest, hrest⟩
    refine ⟨String.ofList rest, String.toList_inj.1 ?_⟩
    rw [String.toList_append, String.toList_ofList, hrest]
  · rintro ⟨rest, rfl⟩
    exact ⟨rest.toList, String.toList_append.symm⟩

/-- **Which keys match a pattern.** -/
theorem matchesPattern_iff (pattern key : String) :
    matchesPattern pattern.toList key.toList = true ↔ Matches pattern key := by
  by_cases hstar : ∃ start, pattern = start ++ "*"
  · obtain ⟨start, rfl⟩ := hstar
    rw [matchesPattern_start_iff]
    constructor
    · rintro ⟨rest, rfl⟩
      exact .inl ⟨start, rest, rfl, rfl⟩
    · rintro (⟨start', rest, hstart, rfl⟩ | ⟨hno, -⟩)
      · exact ⟨rest, by rw [(String.append_left_inj "*").1 hstart]⟩
      · exact absurd rfl (hno start)
  · have hno : ∀ start, pattern ≠ start ++ "*" := fun start heq ↦ hstar ⟨start, heq⟩
    have hno' : ∀ start, pattern.toList ≠ start ++ ['*'] := by
      intro start heq
      refine hno (String.ofList start) (String.toList_inj.1 ?_)
      rw [heq, String.toList_append, String.toList_ofList]
      rfl
    rw [matchesPattern_of_no_star hno', beq_iff_eq, String.toList_inj]
    constructor
    · intro heq
      exact .inr ⟨hno, heq⟩
    · rintro (⟨start, rest, rfl, -⟩ | ⟨-, heq⟩)
      · exact absurd rfl (hno start)
      · exact heq

/-! ### What is kept and what was written last -/

/-- The entries differ from what was last written under each key by expired ones only. -/
structure Reflects (es : Entries) (now : Nat) (last : String → Option Entry) : Prop where
  /-- What is there was written last under its key. -/
  latest : ∀ e ∈ es, last e.key = some e
  /-- What was written last under a key has the key. -/
  keyed : ∀ key e, last key = some e → e.key = key
  /-- What was written last under a key and is good is there. -/
  present : ∀ key e, last key = some e → now < e.deadline → e ∈ es
  /-- There is at most one entry under a key. -/
  distinct : (es.map Entry.key).Nodup

/-- The keys of the entries that are still good. -/
def liveKeys (es : Entries) (now : Nat) : List String := (es.living now).map Entry.key

theorem reflects_nil (now : Nat) : Reflects [] now fun _ ↦ none where
  latest _ he := absurd he List.not_mem_nil
  keyed _ _ h := nomatch h
  present _ _ h := nomatch h
  distinct := .nil

section

variable {es es' : Entries} {now : Nat} {last : String → Option Entry}

/-- What was written last is held. -/
theorem Reflects.holds (h : es.Reflects now last) {key : String} {e : Entry}
    (he : last key = some e) : es.Holds now e := by
  obtain rfl := h.keyed key e he
  refine ⟨fun e' he' hkey ↦ ?_, h.present _ e he⟩
  have hlatest := h.latest e' he'
  rw [hkey, he] at hlatest
  exact (Option.some.inj hlatest).symm

/-- Dropping expired entries makes no difference. -/
theorem Reflects.of_sublist (h : es.Reflects now last) (hsublist : es'.Sublist es)
    (hkept : ∀ e ∈ es, now < e.deadline → e ∈ es') : es'.Reflects now last where
  latest e he := h.latest e (hsublist.subset he)
  keyed := h.keyed
  present key e he hlive := hkept e (h.present key e he hlive) hlive
  distinct := h.distinct.sublist (hsublist.map Entry.key)

theorem Reflects.mono (h : es.Reflects now last) {now' : Nat} (hle : now ≤ now') :
    es.Reflects now' last where
  latest := h.latest
  keyed := h.keyed
  present key e he hlive := h.present key e he (Nat.lt_of_le_of_lt hle hlive)
  distinct := h.distinct

/-- Dropping what had expired changes nothing. -/
theorem Reflects.living (h : es.Reflects now last) {reading : Nat} (hreading : reading ≤ now) :
    (es.living reading).Reflects now last := by
  refine h.of_sublist List.filter_sublist fun e he hlive ↦ ?_
  exact List.mem_filter.2 ⟨he, decide_eq_true (Nat.lt_of_le_of_lt hreading hlive)⟩

theorem Reflects.get (h : es.Reflects now last) (key : String) :
    (es.get now key).2.Reflects now last := by
  have hsublist : (es.get now key).2.Sublist es := by
    unfold Entries.get
    split
    · exact List.Sublist.refl es
    · split
      · exact List.Sublist.refl es
      · exact List.filter_sublist
  exact h.of_sublist hsublist fun e he hlive ↦ ((h.holds (h.latest e he)).get key).present hlive

/-- What a lookup gives is the text that was written last, while it is good. -/
theorem Reflects.get_eq (h : es.Reflects now last) (key : String) :
    (es.get now key).1 = ((last key).filter (Entry.live now)).map Entry.text := by
  rcases hlast : last key with _ | e
  · obtain ⟨-, hfound | ⟨e, he, hkey, -, -⟩⟩ := mem_of_get (rfl : es.get now key = (_, _))
    · exact hfound
    · have hlatest := h.latest e he
      rw [hkey, hlast] at hlatest
      cases hlatest
  · obtain rfl := h.keyed key e hlast
    by_cases hlive : now < e.deadline
    · have hgood : e.live now = true := decide_eq_true hlive
      rw [(h.holds hlast).get_of_lt hlive, Option.filter_some_pos hgood]
      rfl
    · have hpast : e.live now = false := decide_eq_false hlive
      rw [(h.holds hlast).get_of_le (Nat.le_of_not_lt hlive),
        Option.filter_some_neg hpast]
      rfl

/-- What is put in place of the entry under its key has been written last there. -/
theorem Reflects.replace (h : es.Reflects now last) (e : Entry) :
    (es.drop e.key ++ [e]).Reflects now (Function.update last e.key (some e)) where
  latest e' he' := by
    rcases List.mem_append.1 he' with he' | he'
    · obtain ⟨hmem, hother⟩ := List.mem_filter.1 he'
      rw [Function.update_of_ne (by simpa using hother)]
      exact h.latest e' hmem
    · rw [List.mem_singleton.1 he', Function.update_self]
  keyed key e' hlast := by
    by_cases hkey : key = e.key
    · rw [hkey, Function.update_self] at hlast
      rw [hkey, ← Option.some.inj hlast]
    · rw [Function.update_of_ne hkey] at hlast
      exact h.keyed key e' hlast
  present key e' hlast hlive := by
    by_cases hkey : key = e.key
    · rw [hkey, Function.update_self] at hlast
      exact List.mem_append_right _ (List.mem_singleton.2 (Option.some.inj hlast).symm)
    · rw [Function.update_of_ne hkey] at hlast
      refine List.mem_append_left _ (List.mem_filter.2 ⟨h.present key e' hlast hlive, ?_⟩)
      simpa [h.keyed key e' hlast] using hkey
  distinct := by
    have hdropped : ((es.drop e.key).map Entry.key).Nodup :=
      h.distinct.sublist (List.filter_sublist.map Entry.key)
    rw [List.map_append, List.map_singleton]
    refine List.nodup_append.2 ⟨hdropped, List.pairwise_singleton _ _, fun key hkey key' hkey' ↦ ?_⟩
    obtain ⟨e', he', rfl⟩ := List.mem_map.1 hkey
    rw [List.mem_singleton.1 hkey']
    simpa using (List.mem_filter.1 he').2

/-- Every good key is counted once. -/
theorem Reflects.nodup_liveKeys (h : es.Reflects now last) : (es.liveKeys now).Nodup :=
  h.distinct.sublist (List.filter_sublist.map Entry.key)

/-- The good keys are those under which something good was written last. -/
theorem Reflects.mem_liveKeys_iff (h : es.Reflects now last) (key : String) :
    key ∈ es.liveKeys now ↔ ∃ e, last key = some e ∧ now < e.deadline := by
  rw [liveKeys, List.mem_map]
  constructor
  · rintro ⟨e, he, rfl⟩
    obtain ⟨hmem, hlive⟩ := List.mem_filter.1 he
    exact ⟨e, h.latest e hmem, of_decide_eq_true hlive⟩
  · rintro ⟨e, hlast, hlive⟩
    exact ⟨e, List.mem_filter.2 ⟨h.present key e hlast hlive, decide_eq_true hlive⟩,
      h.keyed key e hlast⟩

end

/-- A count counts good keys. -/
theorem count_eq_length (es : Entries) (now : Nat) (pattern : String) :
    (es.count now pattern).1 =
      ((es.liveKeys now).filter fun key ↦
        matchesPattern pattern.toList key.toList).length := by
  rw [liveKeys, List.filter_map, List.length_map]
  rfl

end Entries

/-! ### Uses of the cache -/

namespace MemoryCache

/-- A writing by somebody who looked at the clock some time before getting hold of the cache. -/
def setLate (lag : Nat) (key text : String) (ttl : Nat) : Action MemoryCache StoreError Unit :=
  fun c ↦
    let (outcome, c') := texts.set key text ttl { c with now := c.now - lag }
    (outcome, { c' with now := c.now })

/-- What happens to a cache: a call that gets hold of it, or that time passes. -/
inductive Use where
  | get (key : String)
  | count (pattern : String)
  /-- The writer looked at the clock `lag` ago. -/
  | set (lag : Nat) (key text : String) (ttl : Nat)
  | passed (span : Nat)

/-- What a use leaves behind. -/
def used (c : MemoryCache) : Use → MemoryCache
  | .get key => (texts.get key c).2
  | .count pattern => (texts.count pattern c).2
  | .set lag key text ttl => (setLate lag key text ttl c).2
  | .passed span => c.advance span

/-- What uses leave behind, one after another. -/
def after (start : MemoryCache) (past : List Use) : MemoryCache := History.run used start past

/-- What is written in the course of uses, with the reading of the clock to begin with. Nothing is
written if the clock does not reach the deadline. -/
def writings : Nat → List Use → List Entry
  | _, [] => []
  | now, .passed span :: rest => writings (now + span) rest
  | now, .set lag key text ttl :: rest =>
    if now - lag + ttl < clockBound then ⟨key, text, now - lag + ttl⟩ :: writings now rest
    else writings now rest
  | now, .get _ :: rest | now, .count _ :: rest => writings now rest

/-- What was written last under a key. -/
def lastWritten (now : Nat) (past : List Use) (key : String) : Option Entry :=
  (writings now past).reverse.find? fun e ↦ e.key == key

/-- What a writing does whose writer looked at the clock earlier. -/
theorem setLate_eq (lag : Nat) (key text : String) (ttl : Nat) (c : MemoryCache) :
    setLate lag key text ttl c =
      if c.now - lag + ttl < clockBound then
        (.ok (), { c with
          entries := (c.entries.living (c.now - lag)).drop key ++
            [⟨key, text, c.now - lag + ttl⟩] })
      else (.error .abandoned, { c with entries := c.entries.living (c.now - lag) }) := by
  by_cases hbound : c.now - lag + ttl < clockBound
  · simp only [setLate, texts, Entries.set, if_pos hbound]
  · simp only [setLate, texts, Entries.set, if_neg hbound]

/-- Under each key the last of several writings counts. -/
theorem find?_reverse_cons (e : Entry) (later : List Entry) (last : String → Option Entry)
    (key : String) :
    ((e :: later).reverse.find? fun e' ↦ e'.key == key).or (last key) =
      (later.reverse.find? fun e' ↦ e'.key == key).or
        (Function.update last e.key (some e) key) := by
  rw [List.reverse_cons, List.find?_append, Option.or_assoc]
  congr 1
  by_cases hkey : key = e.key
  · subst hkey
    rw [Function.update_self, List.find?_cons_of_pos (by exact beq_self_eq_true e.key)]
    rfl
  · rw [Function.update_of_ne hkey, List.find?_cons_of_neg (by simpa using Ne.symm hkey)]
    rfl

/-- **A cache that reflects what was written last goes on doing so.** -/
theorem reflects_after {c : MemoryCache} {last : String → Option Entry}
    (h : c.entries.Reflects c.now last) (past : List Use) :
    (c.after past).entries.Reflects (c.after past).now
      fun key ↦ (lastWritten c.now past key).or (last key) := by
  -- on the uses, the earliest first: what they write comes before what was written until then
  induction past generalizing c last with
  | nil => exact h
  | cons use past ih =>
    show ((c.used use).after past).entries.Reflects ((c.used use).after past).now _
    cases use with
    | get key => exact ih (c := c.used (.get key)) (h.get key)
    | count pattern => exact ih (c := c.used (.count pattern)) (h.living (Nat.le_refl _))
    | passed span => exact ih (c := c.used (.passed span)) (h.mono (Nat.le_add_right _ _))
    | set lag key text ttl =>
      have hreading : c.now - lag ≤ c.now := Nat.sub_le _ _
      -- a writing that the clock cannot date clears out what has expired and writes nothing
      by_cases hbound : c.now - lag + ttl < clockBound
      · have hused : c.used (.set lag key text ttl) = { c with
            entries := (c.entries.living (c.now - lag)).drop key ++
              [⟨key, text, c.now - lag + ttl⟩] } := by
          rw [used, setLate_eq, if_pos hbound]
        have hset := (h.living hreading).replace ⟨key, text, c.now - lag + ttl⟩
        rw [hused]
        simp only [lastWritten, writings, if_pos hbound, find?_reverse_cons]
        exact ih hset
      · have hused : c.used (.set lag key text ttl) =
            { c with entries := c.entries.living (c.now - lag) } := by
          rw [used, setLate_eq, if_neg hbound]
        rw [hused]
        simp only [lastWritten, writings, if_neg hbound]
        exact ih (h.living hreading)

/-- There is a text to be found when what was written last is good. -/
theorem exists_text_iff (now : Nat) (written : Option Entry) :
    (∃ text, (.ok ((written.filter (Entry.live now)).map Entry.text) : Attempt StoreError _) =
      .ok (some text)) ↔ ∃ e, written = some e ∧ now < e.deadline := by
  constructor
  · rintro ⟨text, htext⟩
    obtain ⟨e, he, -⟩ := Option.map_eq_some_iff.1 (Except.ok.inj htext)
    obtain ⟨rfl, hlive⟩ := Option.filter_eq_some_iff.1 he
    exact ⟨e, rfl, of_decide_eq_true hlive⟩
  · rintro ⟨e, rfl, hlive⟩
    have hgood : e.live now = true := decide_eq_true hlive
    exact ⟨e.text, by rw [Option.filter_some_pos hgood]; rfl⟩

/-- **A cache in memory answers like a map whose entries expire**, after whatever use of it since it
was empty. Under each key counts what was written last, from the clock of its writer on; a count
tells how many keys are found. Good entries are there, and those that are there are what was written
last. What has expired is gone after a count, and after a writing what had expired when the writer
looked at the clock. -/
theorem answers_last_writing (time : Nat) (past : List Use) :
    let now := after ⟨time, []⟩ past
    let last := lastWritten time past
    (∀ key, (texts.get key now).1 =
      .ok (((last key).filter (Entry.live now.now)).map Entry.text)) ∧
    (∀ pattern, ∃ keys : List String, keys.Nodup ∧
      (∀ key, key ∈ keys ↔
        (∃ text, (texts.get key now).1 = .ok (some text)) ∧ Matches pattern key) ∧
      (texts.count pattern now).1 = .ok keys.length) ∧
    (∀ key e, last key = some e → now.now < e.deadline → e ∈ now.entries) ∧
    (∀ e ∈ now.entries, last e.key = some e) ∧
    (∀ pattern, ∀ e ∈ (texts.count pattern now).2.entries, now.now < e.deadline) ∧
    ∀ lag key text ttl,
      (now.now - lag + ttl < clockBound → (setLate lag key text ttl now).1 = .ok ()) ∧
      ∀ e ∈ (setLate lag key text ttl now).2.entries,
        now.now - lag < e.deadline ∨ e = ⟨key, text, now.now - lag + ttl⟩ := by
  intro now last
  -- all six are read off the entries reflecting what was written last
  have hnow : now.entries.Reflects now.now last := by
    have hafter := reflects_after (c := ⟨time, []⟩) (Entries.reflects_nil time) past
    simpa only [Option.or_none] using hafter
  have hget : ∀ key, (texts.get key now).1 =
      .ok (((last key).filter (Entry.live now.now)).map Entry.text) := by
    intro key
    exact congrArg Except.ok (hnow.get_eq key)
  refine ⟨hget, fun pattern ↦ ?_, hnow.present, hnow.latest, ?_, ?_⟩
  · refine ⟨_, hnow.nodup_liveKeys.filter _, fun key ↦ ?_,
      congrArg Except.ok (Entries.count_eq_length now.entries now.now pattern)⟩
    rw [List.mem_filter, hnow.mem_liveKeys_iff, Entries.matchesPattern_iff, hget]
    exact and_congr_left fun _ ↦ (exists_text_iff now.now (last key)).symm
  · intro pattern e he
    exact of_decide_eq_true (List.mem_filter.1 he).2
  · intro lag key text ttl
    refine ⟨fun hbound ↦ by rw [setLate_eq, if_pos hbound], fun e he ↦ ?_⟩
    have hkept : ∀ e ∈ now.entries.living (now.now - lag), now.now - lag < e.deadline :=
      fun e he ↦ of_decide_eq_true (List.mem_filter.1 he).2
    rw [setLate_eq] at he
    split at he
    · rcases List.mem_append.1 he with he | he
      · exact .inl (hkept e (List.mem_filter.1 he).1)
      · exact .inr (List.mem_singleton.1 he)
    · exact .inl (hkept e he)

end MemoryCache

end ContributionRegistry.Cache
