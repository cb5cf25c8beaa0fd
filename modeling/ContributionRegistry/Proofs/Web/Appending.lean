import ContributionRegistry.Proofs.Web.Escapes
import ContributionRegistry.Web.Url

/-!
# Texts appended to paths

A text becomes one more segment of a path with all its characters if it is *whole*: no dot segment,
and without tabs and line ends. That is also the only way: what else is appended disappears, loses
characters, or leads to another place of the path (`Url.appended`).

A dot segment may be written with escapes, but an escaped text is one only if it has nothing but
dots (`Url.eq_of_isUp_escape`), so percent signs of a text itself do no harm. What escaping lets
stand in a segment is plain (`Url.keepsPlain_segmentKeeps`), so a segment can be read back.

Letters and digits make whole texts that escaping leaves alone (`Url.appendSegment_of_isAlphanum`);
the fixed names of an endpoint are appended that way.
-/

namespace ContributionRegistry.Web.Url

open Text.Utf8 (encode)

/-! ### Dot segments -/

/-- Only the letters of a text change in lower case. -/
theorem eq_of_toLower_eq {c d : Char} (hd : d.isLower = false) (h : c.toLower = d) : c = d := by
  subst h
  unfold Char.toLower at hd ⊢
  split
  · next hupper =>
    rw [dif_pos hupper] at hd
    exfalso
    change (decide (97 ≤ c.val + 32) && decide (c.val + 32 ≤ 122)) = false at hd
    simp only [Bool.and_eq_false_iff, decide_eq_false_iff_not, UInt32.le_iff_toNat_le,
      ge_iff_le] at hd hupper
    change 65 ≤ c.toNat ∧ c.toNat ≤ 90 at hupper
    change ¬ 97 ≤ (c.val + 32).toNat ∨ ¬ (c.val + 32).toNat ≤ 122 at hd
    rw [UInt32.toNat_add] at hd
    change ¬ 97 ≤ (c.toNat + 32) % 4294967296 ∨ ¬ (c.toNat + 32) % 4294967296 ≤ 122 at hd
    omega
  · rfl

theorem eq_e_of_toLower_eq {c : Char} (h : c.toLower = 'e') : c = 'e' ∨ c = 'E' := by
  unfold Char.toLower at h
  split at h
  · next hupper =>
    refine .inr (Char.toNat_inj.1 ?_)
    simp only [UInt32.le_iff_toNat_le, ge_iff_le] at hupper
    change 65 ≤ c.toNat ∧ c.toNat ≤ 90 at hupper
    have hval := congrArg Char.toNat h
    change (c.val + 32).toNat = 101 at hval
    rw [UInt32.toNat_add] at hval
    change (c.toNat + 32) % 4294967296 = 101 at hval
    show c.toNat = 69
    omega
  · exact .inl h

/-- One dot, as it stands or escaped. -/
theorem unescape_dot {segment low : List Char}
    (h : segment.map Char.toLower = '.' :: low ∨
      segment.map Char.toLower = '%' :: '2' :: 'e' :: low) :
    ∃ rest, rest.map Char.toLower = low ∧
      unescape (encode segment) = 0x2E :: unescape (encode rest) := by
  rcases h with h | h
  · obtain ⟨c, rest, rfl, hc, hrest⟩ := List.map_eq_cons_iff.1 h
    obtain rfl := eq_of_toLower_eq (d := '.') rfl hc
    exact ⟨rest, hrest, unescape_cons (b := 0x2E) (by decide) (encode rest)⟩
  · obtain ⟨c, tail, rfl, hc, h⟩ := List.map_eq_cons_iff.1 h
    obtain ⟨d, tail, rfl, hd, h⟩ := List.map_eq_cons_iff.1 h
    obtain ⟨e, rest, rfl, he, hrest⟩ := List.map_eq_cons_iff.1 h
    obtain rfl := eq_of_toLower_eq (d := '%') rfl hc
    obtain rfl := eq_of_toLower_eq (d := '2') rfl hd
    refine ⟨rest, hrest, ?_⟩
    rcases eq_e_of_toLower_eq he with rfl | rfl
    · show unescape (0x25 :: 0x32 :: 0x65 :: encode rest) = _
      rw [unescape, if_pos rfl, show hexByte? 0x32 0x65 = some 0x2E by decide]
    · show unescape (0x25 :: 0x32 :: 0x45 :: encode rest) = _
      rw [unescape, if_pos rfl, show hexByte? 0x32 0x45 = some 0x2E by decide]

/-- A text in lower case by its characters. -/
theorem map_toLower_eq {segment : List Char} {low : String}
    (h : String.ofList (segment.map Char.toLower) = low) :
    segment.map Char.toLower = low.toList := by
  rw [← h, String.toList_ofList]

/-- What a segment that means the one above stands for. -/
theorem unescape_of_isUp {segment : List Char} (h : isUp segment = true) :
    unescape (encode segment) = encode ['.', '.'] := by
  have hlow : ∃ low, (segment.map Char.toLower = '.' :: low ∨
      segment.map Char.toLower = '%' :: '2' :: 'e' :: low) ∧
        (low = ['.'] ∨ low = ['%', '2', 'e']) := by
    simp only [isUp, List.contains_eq_mem, decide_eq_true_eq, List.mem_cons, List.not_mem_nil,
      or_false] at h
    rcases h with h | h | h | h
    · exact ⟨_, .inl (map_toLower_eq h), .inl rfl⟩
    · exact ⟨_, .inl (map_toLower_eq h), .inr rfl⟩
    · exact ⟨_, .inr (map_toLower_eq h), .inl rfl⟩
    · exact ⟨_, .inr (map_toLower_eq h), .inr rfl⟩
  obtain ⟨low, hfirst, hsecond⟩ := hlow
  obtain ⟨rest, rfl, hsegment⟩ := unescape_dot hfirst
  obtain ⟨rest', hnil, hrest⟩ := unescape_dot hsecond
  rw [hsegment, hrest, List.map_eq_nil_iff.1 hnil]
  rfl

/-- What a segment that means its place stands for. -/
theorem unescape_of_isHere {segment : List Char} (h : isHere segment = true) :
    unescape (encode segment) = encode ['.'] := by
  have hlow : segment.map Char.toLower = ['.'] ∨ segment.map Char.toLower = ['%', '2', 'e'] := by
    simp only [isHere, List.contains_eq_mem, decide_eq_true_eq, List.mem_cons, List.not_mem_nil,
      or_false] at h
    exact h.imp map_toLower_eq map_toLower_eq
  obtain ⟨rest, hnil, hsegment⟩ := unescape_dot hlow
  rw [hsegment, List.map_eq_nil_iff.1 hnil]
  rfl

/-! ### What a segment keeps -/

/-- What is let stand in a segment is plain. -/
theorem keepsPlain_segmentKeeps (special : Bool) : KeepsPlain (segmentKeeps special) where
  ascii c hc := by
    have hplain : isPlain c = true := by
      simp only [segmentKeeps, pathKeeps, fragmentKeeps, Bool.and_eq_true] at hc
      exact hc.1.1.1.1.1
    rw [isPlain, Bool.and_eq_true, decide_eq_true_eq, decide_eq_true_eq] at hplain
    omega
  percent := by cases special <;> decide

theorem segmentKeeps_of_isAlphanum {special : Bool} {c : Char} (h : c.isAlphanum = true) :
    segmentKeeps special c = true :=
  Text.Utf8.forall_ascii (P := fun c ↦ c.isAlphanum = true → segmentKeeps special c = true)
    (by cases special <;> decide +kernel) (toNat_lt_of_isAlphanum h) h

/-- An escaped text leads up only if it is two dots. -/
theorem eq_of_isUp_escape {special : Bool} {text : List Char}
    (h : isUp (escape (segmentKeeps special) text) = true) : text = ['.', '.'] :=
  Text.Utf8.encode_injective
    (by rw [← unescape_escape (keepsPlain_segmentKeeps special) text, unescape_of_isUp h])

/-- An escaped text leads nowhere only if it is one dot. -/
theorem eq_of_isHere_escape {special : Bool} {text : List Char}
    (h : isHere (escape (segmentKeeps special) text) = true) : text = ['.'] :=
  Text.Utf8.encode_injective
    (by rw [← unescape_escape (keepsPlain_segmentKeeps special) text, unescape_of_isHere h])

/-! ### One segment -/

/-- What is left of a text that is appended. -/
def bare (text : List Char) : List Char :=
  text.filter fun c ↦ c != '\t' && c != '\n' && c != '\r'

/-- A text that is no dot segment and has neither tabs nor line ends. -/
structure Whole (text : List Char) : Prop where
  /-- It is not the segment for the same place. -/
  not_here : text ≠ ['.']
  /-- It is not the segment for the place above. -/
  not_up : text ≠ ['.', '.']
  /-- It has no characters that are left out. -/
  bare : bare text = text

instance (text : List Char) : Decidable (Whole text) :=
  decidable_of_iff (text ≠ ['.'] ∧ text ≠ ['.', '.'] ∧ Url.bare text = text)
    ⟨fun h ↦ ⟨h.1, h.2.1, h.2.2⟩, fun h ↦ ⟨h.not_here, h.not_up, h.bare⟩⟩

/-- What becomes of a path to which a text is appended. -/
inductive Appended (special : Bool) (path : List (List Char)) (text : List Char) :
    List (List Char) → Prop where
  /-- Dots by themselves are left out. -/
  | dropped (dots : text = ['.'] ∨ text = ['.', '.']) : Appended special path text path
  /-- Two dots between tabs and line ends lead up. -/
  | climbed (dots : bare text = ['.', '.']) (more : text ≠ ['.', '.']) :
      Appended special path text (climb (openPath path) ++ [[]])
  /-- One dot between them leads nowhere. -/
  | stayed (dot : bare text = ['.']) (more : text ≠ ['.']) :
      Appended special path text (openPath path ++ [[]])
  /-- What else is left of the text is a segment. -/
  | added (not_here : bare text ≠ ['.']) (not_up : bare text ≠ ['.', '.']) :
      Appended special path text (openPath path ++ [escape (segmentKeeps special) (bare text)])

/-- A text is appended in one of these ways. -/
theorem appended (special : Bool) (path : List (List Char)) (text : List Char) :
    Appended special path text (appendSegment special path text) := by
  have hup : isUp (escape (segmentKeeps special) ['.', '.']) = true := by
    cases special <;> decide
  have hhere : isHere (escape (segmentKeeps special) ['.']) = true := by cases special <;> decide
  have hnotUp : isUp (escape (segmentKeeps special) ['.']) = false := by cases special <;> decide
  have hdots : (String.ofList text == "." || String.ofList text == "..") = true ↔
      text = ['.'] ∨ text = ['.', '.'] := by
    rw [Bool.or_eq_true, beq_iff_eq, beq_iff_eq, ← String.toList_inj, ← String.toList_inj,
      String.toList_ofList]
    exact Iff.rfl
  -- two dots may be there before escaping, when the text is dropped, or appear once tabs are left
  -- out
  unfold appendSegment
  show Appended special path text (if _ then path
    else if isUp (escape (segmentKeeps special) (bare text)) then climb (openPath path) ++ [[]]
    else if isHere (escape (segmentKeeps special) (bare text)) then openPath path ++ [[]]
    else openPath path ++ [escape (segmentKeeps special) (bare text)])
  split
  · next h => exact .dropped (hdots.1 h)
  · next h =>
    have hmore := not_or.1 fun hor ↦ h (hdots.2 hor)
    split
    · next h => exact .climbed (eq_of_isUp_escape h) hmore.2
    · next hup' =>
      split
      · next h => exact .stayed (eq_of_isHere_escape h) hmore.1
      · next hhere' =>
        exact .added (fun heq ↦ hhere' (by rw [heq, hhere])) (fun heq ↦ hup' (by rw [heq, hup]))

theorem appendSegment_ne_nil {special : Bool} {path : List (List Char)} {text : List Char}
    (h : path ≠ []) : appendSegment special path text ≠ [] := by
  have hway := appended special path text
  generalize appendSegment special path text = out at hway
  cases hway with
  | dropped => exact h
  | climbed => exact List.append_ne_nil_of_right_ne_nil _ (List.cons_ne_nil _ _)
  | stayed => exact List.append_ne_nil_of_right_ne_nil _ (List.cons_ne_nil _ _)
  | added => exact List.append_ne_nil_of_right_ne_nil _ (List.cons_ne_nil _ _)

/-- **A whole text is one segment**, which stands for it. -/
theorem appendSegment_of_whole {text : List Char} (h : Whole text) (special : Bool)
    (path : List (List Char)) : appendSegment special path text =
      openPath path ++ [escape (segmentKeeps special) text] := by
  have hway := appended special path text
  generalize appendSegment special path text = out at hway
  cases hway with
  | dropped dots => exact absurd dots (not_or.2 ⟨h.not_here, h.not_up⟩)
  | climbed dots more => exact absurd (h.bare.symm.trans dots) more
  | stayed dot more => exact absurd (h.bare.symm.trans dot) more
  | added => rw [h.bare]

/-- Letters and digits make a whole text. -/
theorem whole_of_isAlphanum {text : List Char} (h : ∀ c ∈ text, c.isAlphanum = true) :
    Whole text := by
  have hdot : ¬ ('.').isAlphanum = true := by decide
  refine ⟨?_, ?_, List.filter_eq_self.2 fun c hc ↦ ?_⟩
  · rintro rfl
    exact hdot (h '.' List.mem_cons_self)
  · rintro rfl
    exact hdot (h '.' List.mem_cons_self)
  · have hne : ∀ d, d.isAlphanum = false → (c != d) = true := fun d hd ↦ by
      rw [bne_iff_ne]
      rintro rfl
      exact absurd (h c hc) (hd ▸ Bool.false_ne_true)
    rw [hne '\t' (by decide), hne '\n' (by decide), hne '\r' (by decide)]
    rfl

/-- Letters and digits need no escapes. -/
theorem escape_of_isAlphanum {special : Bool} {text : List Char}
    (h : ∀ c ∈ text, c.isAlphanum = true) : escape (segmentKeeps special) text = text :=
  escape_of_forall_keep fun c hc ↦ segmentKeeps_of_isAlphanum (h c hc)

/-- Letters and digits are appended as they are. -/
theorem appendSegment_of_isAlphanum {text : List Char} (h : ∀ c ∈ text, c.isAlphanum = true)
    (special : Bool) (path : List (List Char)) :
    appendSegment special path text = openPath path ++ [text] := by
  rw [appendSegment_of_whole (whole_of_isAlphanum h), escape_of_isAlphanum h]

/-! ### Several segments -/

/-- The path that segments are appended to. -/
def trunk (u : Url) : List (List Char) := openPath (popIfEmpty u.path)

/-- The URL of a host by itself, which has no trunk. -/
def ofHost (host : String) : Url where
  scheme := "http".toList
  authority := some { host := host.toList }
  path := [[]]

/-- A path with a last name has no end to be dropped. -/
theorem openPath_append {segment : List Char} (h : segment ≠ []) (path : List (List Char)) :
    openPath (path ++ [segment]) = path ++ [segment] := by
  refine if_neg fun heq ↦ h ?_
  have hlast := congrArg List.getLast? heq
  rw [List.getLast?_concat] at hlast
  exact Option.some.inj hlast

/-- Names are of letters and digits if a run over their characters finds nothing else. -/
theorem plain_of_all {names : List (List Char)}
    (h : (names.all fun name ↦ !name.isEmpty && name.all Char.isAlphanum) = true) :
    ∀ name ∈ names, name ≠ [] ∧ ∀ c ∈ name, c.isAlphanum = true := by
  intro name hname
  obtain ⟨hnonempty, halphanum⟩ := Bool.and_eq_true_iff.1 (List.all_eq_true.1 h name hname)
  refine ⟨?_, List.all_eq_true.1 halphanum⟩
  rintro rfl
  cases hnonempty

/-- Names of letters and digits are appended one after another. -/
theorem foldl_appendSegment {special : Bool} {path : List (List Char)} {segment : List Char}
    {names : List (List Char)} (hsegment : segment ≠ [])
    (h : ∀ name ∈ names, name ≠ [] ∧ ∀ c ∈ name, c.isAlphanum = true) :
    names.foldl (appendSegment special) (path ++ [segment]) = path ++ [segment] ++ names := by
  induction names generalizing path segment with
  | nil => rw [List.foldl_nil, List.append_nil]
  | cons name names ih =>
    obtain ⟨hname, halphanum⟩ := h name List.mem_cons_self
    rw [List.foldl_cons, appendSegment_of_isAlphanum halphanum, openPath_append hsegment,
      ih hname fun name' hname' ↦ h name' (List.mem_cons_of_mem name hname'), List.append_assoc]
    rfl

/-- **Names are appended to the trunk of a URL.** -/
theorem path_extend (u : Url) {names : List (List Char)} (hnames : names ≠ [])
    (h : ∀ name ∈ names, name ≠ [] ∧ ∀ c ∈ name, c.isAlphanum = true) :
    (u.extend names).path = u.trunk ++ names := by
  obtain ⟨name, names, rfl⟩ := List.exists_cons_of_ne_nil hnames
  obtain ⟨hname, halphanum⟩ := h name List.mem_cons_self
  show (name :: names).foldl (appendSegment (isSpecial u.scheme)) (popIfEmpty u.path) = _
  rw [List.foldl_cons, appendSegment_of_isAlphanum halphanum,
    foldl_appendSegment hname fun name' hname' ↦ h name' (List.mem_cons_of_mem name hname'),
    List.append_assoc]
  rfl

/-- Names are appended one after another. -/
theorem extend_append (u : Url) (names more : List (List Char)) :
    (u.extend (names ++ more)).path =
      more.foldl (appendSegment (isSpecial u.scheme)) (u.extend names).path :=
  List.foldl_append

/-- A pair is all of the query of a URL that had none. -/
theorem query_withPair {u : Url} (h : u.query.getD [] = []) {pair : List Char} :
    (u.withPair pair).query = some pair := by
  obtain ⟨scheme, authority, path, _ | _ | ⟨c, query⟩, fragment⟩ := u
  · rfl
  · rfl
  · cases h

/-! ### The written form -/

theorem spellPath_append (path more : List (List Char)) :
    spellPath (path ++ more) = spellPath path ++ spellPath more :=
  List.flatMap_append

/-- URLs that are the same but for the last segment of a path are written alike only if they are the
same altogether. -/
theorem eq_of_spell_eq {u : Url} {path : List (List Char)} {a b : List Char} (hpath : path ≠ [])
    (h : spell { u with path := path ++ [a] } = spell { u with path := path ++ [b] }) : a = b := by
  obtain ⟨first, rest, rfl⟩ := List.exists_cons_of_ne_nil hpath
  obtain ⟨scheme, authority, _, query, fragment⟩ := u
  -- the dot is decided by the authority and the segments before the last one
  have hdot : ∃ dot, ∀ last,
      spell { scheme, authority, path := first :: rest ++ [last], query, fragment } =
        scheme ++ ':' :: spellAuthority authority ++ dot ++ spellPath (first :: rest ++ [last]) ++
          spellQuery query ++ spellFragment fragment := by
    match authority, first, rest with
    | some _, _, _ => exact ⟨[], fun _ ↦ rfl⟩
    | none, _ :: _, _ => exact ⟨[], fun _ ↦ rfl⟩
    | none, [], [] => exact ⟨['/', '.'], fun _ ↦ rfl⟩
    | none, [], _ :: _ => exact ⟨['/', '.'], fun _ ↦ rfl⟩
  obtain ⟨dot, hspell⟩ := hdot
  rw [hspell, hspell] at h
  have hsegments := List.append_cancel_left
    (List.append_cancel_right (List.append_cancel_right h))
  rw [spellPath_append, spellPath_append] at hsegments
  have hlast : ('/' :: a) ++ [] = ('/' :: b) ++ [] := List.append_cancel_left hsegments
  rw [List.append_nil, List.append_nil] at hlast
  exact (List.cons.inj hlast).2

end ContributionRegistry.Web.Url
