import ContributionRegistry.Proofs.MasterData.Exchanges

/-!
# The URL of an employee

A key that is whole is carried to the registry as it is: it is one segment of the URL, the registry
finds it in the request, and no other whole key has the same URL (`employee_whole`). A key that is
not whole is not carried: its URL is that of the list of employees, one that leads nowhere, or that
of another key (`path_employee_cases`).

Which keys are whole is decided by the parser of URLs, which leaves tabs and line breaks out and
takes the segments `.` and `..` for directions. It is said of the path in `Proofs.Web.Appending`;
here the path is that of the endpoint, after the base URL and its three segments, and the request is
the one that the registry gets.

Keys of the registry have letters and digits only and are whole (`path_employee_of_isAlphanum`).
`employee_whole_marks` is about a key with a slash and other marks in it, `employee_tab_lost` about
one that is not whole.
-/

namespace ContributionRegistry.Endpoint

open Deployment (Line)
open Http (Target)
open Service (RegistryResource key?)
open Web (Url escape)
open Web.Url (Whole bare segmentKeeps isSpecial)

/-- The names before the key. -/
def employeeNames : List (List Char) := ["api".toList, "v1".toList, "employees".toList]

theorem employeeNames_plain :
    ∀ name ∈ employeeNames, name ≠ [] ∧ ∀ c ∈ name, c.isAlphanum = true :=
  Url.plain_of_all (by decide)

/-! ### Paths -/

/-- The path of the URL: the key comes last. -/
theorem path_employee (base : Url) (key : String) : (employee base key).path =
    Url.appendSegment (isSpecial base.scheme) (base.trunk ++ employeeNames) key.toList := by
  have hnames := Url.path_extend base (by decide : employeeNames ≠ []) employeeNames_plain
  have hlast := Url.extend_append base employeeNames [key.toList]
  rw [hnames] at hlast
  exact hlast

theorem append_employeeNames (path : List (List Char)) : path ++ employeeNames =
    path ++ ["api".toList, "v1".toList] ++ ["employees".toList] := by
  rw [List.append_assoc]
  rfl

theorem openPath_employeeNames (path : List (List Char)) :
    Url.openPath (path ++ employeeNames) = path ++ employeeNames := by
  rw [append_employeeNames]
  exact Url.openPath_append (by decide) _

theorem climb_employeeNames (path : List (List Char)) :
    Url.climb (path ++ employeeNames) = path ++ ["api".toList, "v1".toList] := by
  rw [append_employeeNames, Url.climb, List.getLast?_concat, if_neg (by decide),
    List.dropLast_concat]

/-- **What the path of an employee can be.** -/
theorem path_employee_cases (base : Url) (key : String) :
    ((key.toList = ['.'] ∨ key.toList = ['.', '.']) ∧
      (employee base key).path = base.trunk ++ employeeNames) ∨
    (bare key.toList = ['.', '.'] ∧ key.toList ≠ ['.', '.'] ∧
      (employee base key).path = base.trunk ++ ["api".toList, "v1".toList, []]) ∨
    (bare key.toList = ['.'] ∧ key.toList ≠ ['.'] ∧
      (employee base key).path = base.trunk ++ employeeNames ++ [[]]) ∨
    (bare key.toList ≠ ['.'] ∧ bare key.toList ≠ ['.', '.'] ∧
      (employee base key).path = base.trunk ++ employeeNames ++
        [escape (segmentKeeps (isSpecial base.scheme)) (bare key.toList)]) := by
  rw [path_employee]
  have hway := Url.appended (isSpecial base.scheme) (base.trunk ++ employeeNames) key.toList
  generalize Url.appendSegment _ _ _ = path at hway
  cases hway with
  | dropped dots => exact .inl ⟨dots, rfl⟩
  | climbed dots more =>
    rw [openPath_employeeNames, climb_employeeNames, List.append_assoc]
    exact .inr (.inl ⟨dots, more, rfl⟩)
  | stayed dot more =>
    rw [openPath_employeeNames]
    exact .inr (.inr (.inl ⟨dot, more, rfl⟩))
  | added not_here not_up =>
    rw [openPath_employeeNames]
    exact .inr (.inr (.inr ⟨not_here, not_up, rfl⟩))

/-- The path of a whole key. -/
theorem path_employee_of_whole (base : Url) {key : String} (h : Whole key.toList) :
    (employee base key).path = base.trunk ++ employeeNames ++
      [escape (segmentKeeps (isSpecial base.scheme)) key.toList] := by
  rw [path_employee, Url.appendSegment_of_whole h, openPath_employeeNames]

/-- The path of a key of letters and digits. -/
theorem path_employee_of_isAlphanum (base : Url) {key : String}
    (h : ∀ c ∈ key.toList, c.isAlphanum = true) :
    (employee base key).path = base.trunk ++ employeeNames ++ [key.toList] := by
  rw [path_employee_of_whole base (Url.whole_of_isAlphanum h), Url.escape_of_isAlphanum h]

theorem key?_escape_toList (special : Bool) (key : String) :
    key? (escape (segmentKeeps special) key.toList) = some key := by
  rw [Service.key?_escape, String.ofList_toList]

/-- **Just the whole keys have a segment of their own.** -/
theorem whole_iff (base : Url) (key : String) : Whole key.toList ↔ ∃ segment,
    (employee base key).path = base.trunk ++ employeeNames ++ [segment] ∧
      key? segment = some key := by
  refine ⟨fun h ↦ ⟨_, path_employee_of_whole base h, key?_escape_toList _ key⟩, ?_⟩
  rintro ⟨segment, hpath, hkey⟩
  rcases path_employee_cases base key with
    ⟨-, heq⟩ | ⟨-, -, heq⟩ | ⟨hdot, -, heq⟩ | ⟨hnotHere, hnotUp, heq⟩
  · have hlength := congrArg List.length (heq.symm.trans hpath)
    simp at hlength
  · have hlength := congrArg List.length (heq.symm.trans hpath)
    simp [employeeNames] at hlength
  · -- an empty segment stands for the empty key, which has no dot
    obtain rfl : [] = segment :=
      List.singleton_inj.1 (List.append_cancel_left (heq.symm.trans hpath))
    obtain rfl : "" = key := Option.some.inj hkey
    cases hdot
  · obtain rfl := List.singleton_inj.1 (List.append_cancel_left (heq.symm.trans hpath))
    rw [Service.key?_escape, Option.some.injEq, ← String.toList_inj, String.toList_ofList] at hkey
    rw [hkey] at hnotHere hnotUp
    exact ⟨hnotHere, hnotUp, hkey⟩

/-! ### Requests -/

theorem employeeNames_pathChars : ∀ name ∈ employeeNames, ∀ c ∈ name, Target.PathChar c :=
  fun name hname c hc ↦ Target.pathChar_of_isAlphanum ((employeeNames_plain name hname).2 c hc)

/-- Whatever the key, the path of the URL has characters that may stand in a target. -/
theorem pathChars_employee {base : Url} (hroot : base.trunk = []) (key : String) :
    ∀ segment ∈ (employee base key).path, ∀ c ∈ segment, Target.PathChar c := by
  have hempty : ∀ c ∈ ([] : List Char), Target.PathChar c := fun c hc ↦ absurd hc List.not_mem_nil
  rcases path_employee_cases base key with
    ⟨-, hpath⟩ | ⟨-, -, hpath⟩ | ⟨-, -, hpath⟩ | ⟨-, -, hpath⟩
  · rw [hpath, hroot]
    exact employeeNames_pathChars
  · rw [hpath, hroot]
    show ∀ segment ∈ employeeNames.dropLast ++ [[]], ∀ c ∈ segment, Target.PathChar c
    exact List.forall_mem_append.2
      ⟨fun name hname ↦ employeeNames_pathChars name (List.dropLast_subset _ hname),
        List.forall_mem_singleton.2 hempty⟩
  · rw [hpath, hroot]
    exact List.forall_mem_append.2 ⟨employeeNames_pathChars, List.forall_mem_singleton.2 hempty⟩
  · rw [hpath, hroot]
    exact List.forall_mem_append.2 ⟨employeeNames_pathChars,
      List.forall_mem_singleton.2 (Target.pathChar_of_mem_escape _ _)⟩

/-- The request that an employee is asked for with. -/
def employeeRequest (base : Url) (key : String) : Http.Request where
  method := "GET"
  target := ⟨Url.spellPath (employee base key).path, base.query⟩

/-- The request for an employee, unless it is too long. -/
theorem requestFor?_employee {base : Url} (hroot : base.trunk = [])
    (hquery : base.query.getD [] = []) (key : String) :
    Line.requestFor? (employee base key) =
      if (employee base key).size ≤ Target.largestSize then
        some (employeeRequest base key) else none := by
  have hpath : (employee base key).path ≠ [] := by
    rw [path_employee]
    exact Url.appendSegment_ne_nil (List.append_ne_nil_of_right_ne_nil _ (by decide))
  have hquery' : ∀ c ∈ (employee base key).query.getD [], Target.QueryChar c := by
    rw [show (employee base key).query = base.query from rfl, hquery]
    exact fun c hc ↦ absurd hc List.not_mem_nil
  exact Line.requestFor?_eq hpath (pathChars_employee hroot key) hquery'

/-- One segment more than the names is that of an employee, unless it is empty. -/
theorem ofPath?_employee {segment : List Char} (h : ∀ c ∈ segment, Target.PathChar c) :
    RegistryResource.ofPath? (Url.spellPath (employeeNames ++ [segment])) =
      if segment = [] then none else some (.employee segment) := by
  have hslash : ∀ s ∈ employeeNames ++ [segment], '/' ∉ s :=
    List.forall_mem_append.2 ⟨by decide,
      List.forall_mem_singleton.2 fun hslash ↦ (h '/' hslash).ne_slash rfl⟩
  rw [RegistryResource.ofPath?, Service.segments_spellPath hslash]
  show (if (String.ofList segment).isEmpty then none else
    some (RegistryResource.employee (String.ofList segment).toList)) = _
  rw [String.toList_ofList]
  by_cases hsegment : segment = []
  · rw [if_pos hsegment, hsegment]
    rfl
  · have hnot : ¬ (String.ofList segment).isEmpty = true := by
      rw [String.isEmpty_iff, String.ofList_eq_empty_iff]
      exact hsegment
    rw [if_neg hsegment, if_neg hnot]

/-- **The registry finds a whole key in the request**, if it is asked at its root. -/
theorem request_employee {base : Url} {key : String} (hroot : base.trunk = [])
    (hquery : base.query.getD [] = []) (hwhole : Whole key.toList) (hkey : key ≠ "")
    (hsize : (employee base key).size ≤ Target.largestSize) :
    ∃ request segment, Line.requestFor? (employee base key) = some request ∧
      request.method = "GET" ∧
      RegistryResource.ofPath? request.target.path = some (.employee segment) ∧
      key? segment = some key := by
  have hkey? := key?_escape_toList (isSpecial base.scheme) key
  have hsegment : escape (segmentKeeps (isSpecial base.scheme)) key.toList ≠ [] := by
    intro hnil
    rw [hnil] at hkey?
    exact hkey (Option.some.inj hkey?).symm
  have hresource := ofPath?_employee
    (Target.pathChar_of_mem_escape (isSpecial base.scheme) key.toList)
  rw [if_neg hsegment] at hresource
  refine ⟨_, _, (requestFor?_employee hroot hquery key).trans (if_pos hsize), rfl, ?_, hkey?⟩
  rw [employeeRequest, path_employee_of_whole base hwhole, hroot]
  exact hresource

/-- Whole keys with the same URL are the same. -/
theorem eq_of_text_employee_eq {base : Url} {key other : String} (hkey : Whole key.toList)
    (hother : Whole other.toList) (h : (employee base key).text = (employee base other).text) :
    key = other := by
  have hurl : ∀ k : String, Whole k.toList → employee base k = { base with
      path := base.trunk ++ employeeNames ++
        [escape (segmentKeeps (isSpecial base.scheme)) k.toList] } := fun k hk ↦ by
    rw [← path_employee_of_whole base hk]
    rfl
  have hspell := String.ofList_injective h
  rw [hurl key hkey, hurl other hother] at hspell
  have hne : base.trunk ++ employeeNames ≠ [] := List.append_ne_nil_of_right_ne_nil _ (by decide)
  have hescape := Url.eq_of_spell_eq hne hspell
  exact String.toList_inj.1
    (Web.escape_injective (Url.keepsPlain_segmentKeeps _) hescape)

/-- **Whole keys are carried faithfully, and no others.** All but the path of an employee's URL is
as in the base URL. The path is that of the base URL with the three names and one more segment that
stands for the key just if the key is whole: no dot segment, and without tabs and line ends. Then,
unless the URL is too long to be asked for, the registry at the base URL finds the key in the
request, and no other whole key has this URL. -/
theorem employee_whole (base : Url) (key : String) :
    let url := employee base key
    (url.scheme = base.scheme ∧ url.authority = base.authority ∧ url.query = base.query ∧
      url.fragment = base.fragment) ∧
    (Whole key.toList ↔ ∃ segment, url.path = base.trunk ++ employeeNames ++ [segment] ∧
      key? segment = some key) ∧
    (Whole key.toList →
      (base.trunk = [] → base.query.getD [] = [] → key ≠ "" →
        url.size ≤ Target.largestSize →
        ∃ request segment, Line.requestFor? url = some request ∧ request.method = "GET" ∧
          RegistryResource.ofPath? request.target.path = some (.employee segment) ∧
          key? segment = some key) ∧
      ∀ other : String, Whole other.toList → url.text = (employee base other).text →
        key = other) := by
  refine ⟨⟨rfl, rfl, rfl, rfl⟩, whole_iff base key, fun hwhole ↦ ⟨?_, ?_⟩⟩
  · exact fun hroot hquery hkey hsize ↦ request_employee hroot hquery hwhole hkey hsize
  · exact fun other hother htext ↦ eq_of_text_employee_eq hwhole hother htext

/-- A key with slash, percent sign and question mark is carried. -/
theorem employee_whole_marks :
    let url := employee (Url.ofHost "upstream") "a/%2e?"
    url.text = "http://upstream/api/v1/employees/a%2F%252e%3F" ∧
    ∃ request segment, Line.requestFor? url = some request ∧ request.method = "GET" ∧
      RegistryResource.ofPath? request.target.path = some (.employee segment) ∧
      key? segment = some "a/%2e?" := by
  intro url
  obtain ⟨-, -, hwhole⟩ := employee_whole (Url.ofHost "upstream") "a/%2e?"
  obtain ⟨hrequest, -⟩ := hwhole (by decide)
  exact ⟨by decide, hrequest rfl rfl (by decide) (by decide)⟩

/-- A tab is lost, so that two keys have one URL, and a dot is no segment at all. -/
theorem employee_tab_lost :
    readBase "http://upstream/" = .ok (Url.ofHost "upstream") ∧
    (employee (Url.ofHost "upstream") "A\tB").text = "http://upstream/api/v1/employees/AB" ∧
    (employee (Url.ofHost "upstream") "AB").text = "http://upstream/api/v1/employees/AB" ∧
    (employee (Url.ofHost "upstream") ".").text = "http://upstream/api/v1/employees" ∧
    ¬ ∃ segment, (employee (Url.ofHost "upstream") "A\tB").path = employeeNames ++ [segment] ∧
      key? segment = some "A\tB" := by
  refine ⟨by decide +kernel, by decide, by decide, by decide, ?_⟩
  intro hsegment
  exact absurd ((whole_iff (Url.ofHost "upstream") "A\tB").2 hsegment) (by decide)

end ContributionRegistry.Endpoint
