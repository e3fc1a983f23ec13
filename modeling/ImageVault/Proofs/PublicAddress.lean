import ImageVault.Proofs.Outcome
import ImageVault.Proofs.Url.Join
import ImageVault.PublicAddress

/-!
# Public addresses, or none

## Main results

* `base_eq_iff`: what a configured address leads to, in the rules of `Bases`. An address that
  is missing or no absolute web address is refused, and one that cannot be cut into parts is
  a defect; both are found before the path is looked at, so they are the same for every path.
* `resolve_of_web`: under a web address every plain path has an address, and this is it,
  whatever else the base holds.
-/

namespace ImageVault.PublicAddress

/-- The failures that a configured address can cause. -/
inductive Refuses (serverUrl : Option String) : Failure → Prop
  | missing : Text.trim (serverUrl.getD "").toList = [] → Refuses serverUrl notConfigured
  | malformed {parts : Url.Parts} :
      Text.trim (serverUrl.getD "").toList ≠ [] →
      Url.split (Text.trim (serverUrl.getD "").toList) = .ok parts →
      (parts.scheme ≠ "http".toList ∧ parts.scheme ≠ "https".toList ∨ parts.authority = []) →
      Refuses serverUrl (notAbsolute (Text.trim (serverUrl.getD "").toList))

theorem isWebScheme_iff (scheme : List Char) :
    isWebScheme scheme = true ↔ scheme = "http".toList ∨ scheme = "https".toList := by
  simp [isWebScheme]

/-- What is left of the configured address. -/
def stripped (serverUrl : Option String) : List Char :=
  Text.trim (serverUrl.getD "").toList

/-- The address can be cut into parts, and they are those of an absolute web address. -/
structure IsWeb (address : List Char) (parts : Url.Parts) : Prop where
  cut : Url.split address = .ok parts
  scheme : parts.scheme = "http".toList ∨ parts.scheme = "https".toList
  hosted : parts.authority ≠ []

theorem IsWeb.schemed {address : List Char} {parts : Url.Parts} (web : IsWeb address parts) :
    parts.scheme ≠ [] := by
  rcases web.scheme with http | https
  · simp [http]
  · simp [https]

/-! ### What a configured address leads to -/

/-- A configured address leads to a directory, to a failure, or to a defect of the address that
    is no failure. -/
inductive Bases (serverUrl : Option String) : Except Fault (List Char) → Prop
  | refused {failure : Failure} :
      Refuses serverUrl failure → Bases serverUrl (.error (.failure failure))
  | unreadable {defect : Url.Defect} :
      Url.split (stripped serverUrl) = .error defect →
      Bases serverUrl (.error (.address defect))
  | directory {parts : Url.Parts} :
      IsWeb (stripped serverUrl) parts →
      Bases serverUrl (.ok (withFinalSlash (stripped serverUrl)))

theorem base_bases (serverUrl : Option String) : Bases serverUrl (base serverUrl) := by
  simp only [base]
  split
  next missing => exact .refused (.missing (List.isEmpty_iff.mp missing))
  next present =>
    cases cut : Url.split (Text.trim (serverUrl.getD "").toList) with
    | error defect => exact .unreadable cut
    | ok parts =>
      simp only [pure_eq_ok, mapError_ok, ok_bind]
      split
      next accepted =>
        rw [Bool.and_eq_true, isWebScheme_iff] at accepted
        exact .directory ⟨cut, accepted.1, by simpa using accepted.2⟩
      next wrong =>
        refine .refused (.malformed (fun empty => present (List.isEmpty_iff.mpr empty)) cut ?_)
        rw [Bool.and_eq_true, isWebScheme_iff] at wrong
        grind

/-- The premises of a rule fix what the address leads to. -/
theorem Bases.eq_base {serverUrl : Option String} {result : Except Fault (List Char)}
    (bases : Bases serverUrl result) : base serverUrl = result := by
  -- The empty address can be cut into parts, and they are empty.
  have empty_cut : Url.split [] = .ok ⟨[], [], [], [], []⟩ := rfl
  cases bases with
  | refused refuses =>
    cases refuses with
    | missing missing => simp [base, missing]
    | @malformed parts present cut wrong =>
      have refused : isWebScheme parts.scheme = true → parts.authority = [] := by
        rw [isWebScheme_iff]
        grind
      simpa [base, present, cut] using refused
  | unreadable uncut =>
    have present : stripped serverUrl ≠ [] := by
      intro empty
      rw [empty, empty_cut] at uncut
      cases uncut
    unfold stripped at present uncut
    simp [base, present, uncut]
  | directory web =>
    have present : stripped serverUrl ≠ [] := by
      intro empty
      have cut := web.cut
      rw [empty, empty_cut] at cut
      cases cut
      exact web.schemed rfl
    have cut := web.cut
    have scheme := (isWebScheme_iff _).mpr web.scheme
    unfold stripped at present cut
    simp [base, present, cut, scheme, web.hosted, stripped]

theorem base_eq_iff (serverUrl : Option String) (result : Except Fault (List Char)) :
    base serverUrl = result ↔ Bases serverUrl result :=
  ⟨fun same => same ▸ base_bases serverUrl, Bases.eq_base⟩

theorem base_eq_failure_iff (serverUrl : Option String) (failure : Failure) :
    base serverUrl = .error (.failure failure) ↔ Refuses serverUrl failure := by
  rw [base_eq_iff]
  constructor
  · intro bases
    cases bases with
    | refused refuses => exact refuses
  · exact .refused

/-- Only a base that cannot be cut into parts is stopped by something other than a failure. -/
theorem base_eq_address_iff (serverUrl : Option String) (defect : Url.Defect) :
    base serverUrl = .error (.address defect) ↔ Url.split (stripped serverUrl) = .error defect := by
  rw [base_eq_iff]
  constructor
  · intro bases
    cases bases with
    | unreadable uncut => exact uncut
  · exact .unreadable

theorem base_eq_ok_iff (serverUrl : Option String) (directory : List Char) :
    base serverUrl = .ok directory ↔
      (∃ parts, IsWeb (stripped serverUrl) parts) ∧
        directory = withFinalSlash (stripped serverUrl) := by
  rw [base_eq_iff]
  constructor
  · intro bases
    cases bases with
    | directory web => exact ⟨⟨_, web⟩, rfl⟩
  · rintro ⟨⟨parts, web⟩, rfl⟩
    exact .directory web

theorem resolve_eq_failure_iff (serverUrl : Option String) (path : String) (failure : Failure) :
    resolve serverUrl path = .error (.failure failure) ↔ Refuses serverUrl failure := by
  rw [← base_eq_failure_iff]
  cases known : base serverUrl with
  | error fault => simp [resolve, known]
  | ok directory =>
    cases joined : Url.join directory (path.toList.dropWhile (· == '/')) with
    | error defect => simp [resolve, known, joined]
    | ok address => simp [resolve, known, joined]

/-- Apart from failures, only an address that cannot be cut into parts stops resolving. -/
theorem resolve_error_cases {serverUrl : Option String} {path : String} {fault : Fault}
    (stopped : resolve serverUrl path = .error fault) :
    (∃ failure, fault = .failure failure) ∨ ∃ defect, fault = .address defect := by
  cases known : base serverUrl with
  | error other =>
    have same : other = fault := by simpa [resolve, known] using stopped
    rw [base_eq_iff, same] at known
    cases known with
    | refused => exact Or.inl ⟨_, rfl⟩
    | unreadable => exact Or.inr ⟨_, rfl⟩
  | ok directory =>
    cases joined : Url.join directory (path.toList.dropWhile (· == '/')) with
    | error defect => exact Or.inr ⟨defect, by simpa [resolve, known, joined] using stopped.symm⟩
    | ok address => simp [resolve, known, joined] at stopped

/-! ### The base as a directory -/

/-- The base counts as a directory as it is written: nothing follows its path, to which the
    final slash then belongs, or the path ends with a slash of its own. -/
def IsDirectory (address path : List Char) : Prop :=
  '?' ∉ address ∧ '#' ∉ address ∨ path = [] ∨ path.getLast? = some '/'

instance (address path : List Char) : Decidable (IsDirectory address path) :=
  inferInstanceAs (Decidable (_ ∨ _))

/-- The names of the base under which paths are resolved. -/
def keptNames (address path : List Char) : List (List Char) :=
  if IsDirectory address path then Url.names path else Url.enclosing path

theorem enclosing_eq_keptNames {address path : List Char}
    (ends : '?' ∉ address → '#' ∉ address → path = [] ∨ path.getLast? = some '/') :
    Url.enclosing path = keptNames address path := by
  unfold keptNames
  split
  next directory =>
    rcases directory with ⟨unasked, unmarked⟩ | ends
    · exact Url.enclosing_eq_names (ends unasked unmarked)
    · exact Url.enclosing_eq_names ends
  next => rfl

/-- The slash that makes a directory of an address leaves its scheme and its authority alone;
    it becomes part of the path exactly if nothing else has ended the path. -/
theorem IsWeb.directory {address : List Char} {parts : Url.Parts} (web : IsWeb address parts) :
    ∃ path query fragment, Url.split (withFinalSlash address) =
        .ok ⟨parts.scheme, parts.authority, path, query, fragment⟩ ∧
      Url.IsRooted path ∧ Url.enclosing path = keptNames address parts.path := by
  obtain ⟨name, authority, rest, written, accepted, rfl⟩ :=
    Url.exists_written web.cut web.schemed web.hosted
  unfold withFinalSlash
  split
  next slashed =>
    refine ⟨_, _, _, web.cut, written.ended.isRooted, ?_⟩
    refine enclosing_eq_keptNames fun unasked unmarked => ?_
    obtain ⟨front, rfl⟩ := List.getLast?_eq_some_iff.mp slashed
    rw [← written.mark_mem_iff (by decide)] at unasked unmarked
    rw [Url.pathOf_unmarked unasked unmarked]
    exact written.rest_ends
  next unslashed =>
    refine ⟨_, _, _, written.concat_slash.split_eq accepted,
      written.concat_slash.ended.isRooted, ?_⟩
    dsimp only [Url.partsOf]
    by_cases marked : ∃ c ∈ rest, Url.endsPath c = true
    · obtain ⟨c, member, mark⟩ := marked
      have present := (written.mark_mem_iff mark).mp member
      rw [Url.pathOf_append member mark]
      refine enclosing_eq_keptNames fun unasked unmarked => ?_
      obtain rfl | rfl : c = '?' ∨ c = '#' := by simpa [Url.endsPath] using mark
      · exact absurd present unasked
      · exact absurd present unmarked
    · have absent : ∀ {c}, Url.endsPath c = true → c ∉ rest := fun mark member =>
        marked ⟨_, member, mark⟩
      have unasked : '?' ∉ rest := absent (by decide)
      have unmarked : '#' ∉ rest := absent (by decide)
      have unaskedLonger : '?' ∉ rest ++ ['/'] := by simpa using unasked
      have unmarkedLonger : '#' ∉ rest ++ ['/'] := by simpa using unmarked
      rw [Url.pathOf_unmarked unaskedLonger unmarkedLonger, Url.pathOf_unmarked unasked unmarked,
        Url.enclosing_concat_slash, keptNames, if_pos]
      rw [written.mark_mem_iff (by decide)] at unasked unmarked
      exact Or.inl ⟨unasked, unmarked⟩

/-! ### The address of a plain path -/

/-- The path to which a plain path is resolved: the names that are kept of the base, with dots
    among them resolved, and behind them the path. -/
def resolvedPath (address path : List Char) (segments : List (List Char)) : List Char :=
  Url.rooted (Text.joinWith '/'
    (Url.removeDots [] ([] :: keptNames address path) ++ segments))

/-- Under a web address every plain path has an address. -/
theorem resolve_of_web {serverUrl : Option String} {parts : Url.Parts} {path : String}
    {segments : List (List Char)} (web : IsWeb (stripped serverUrl) parts)
    (plain : Url.IsPlainPath segments) (written : path.toList = Text.joinWith '/' segments) :
    resolve serverUrl path = .ok (String.ofList
      (parts.scheme ++ "://".toList ++ parts.authority ++
        resolvedPath (stripped serverUrl) parts.path segments)) := by
  have unrooted : path.toList.dropWhile (· == '/') = Text.joinWith '/' segments := by
    obtain ⟨c, rest, starts, unrooted⟩ := plain.head
    rw [written, starts, List.dropWhile_cons_of_neg (by simpa using unrooted)]
  have known := (base_eq_ok_iff serverUrl _).mpr ⟨⟨parts, web⟩, rfl⟩
  obtain ⟨basePath, query, fragment, cut, root, kept⟩ := web.directory
  have joined := Url.join_plain cut web.schemed root plain
  simp only [resolve, known, unrooted, ok_bind, joined, mapError_ok, pure_eq_ok, kept,
    resolvedPath]

/-- A plain path has no address for the reasons for which there is no base. -/
theorem resolve_eq_address_iff {serverUrl : Option String} {path : String}
    {segments : List (List Char)} (plain : Url.IsPlainPath segments)
    (written : path.toList = Text.joinWith '/' segments) (defect : Url.Defect) :
    resolve serverUrl path = .error (.address defect) ↔
      Url.split (stripped serverUrl) = .error defect := by
  rw [← base_eq_address_iff]
  cases known : base serverUrl with
  | error fault => simp [resolve, known]
  | ok directory =>
    obtain ⟨⟨parts, web⟩, -⟩ := (base_eq_ok_iff _ _).mp known
    rw [resolve_of_web web plain written]
    simp

theorem isWeb_of_resolve {serverUrl : Option String} {path url : String}
    (resolved : resolve serverUrl path = .ok url) : ∃ parts, IsWeb (stripped serverUrl) parts := by
  simp only [resolve, bind_eq_ok_iff] at resolved
  obtain ⟨directory, known, -⟩ := resolved
  exact ((base_eq_ok_iff _ _).mp known).1

/-- An address that resolves is a web address and ends with the path, whatever else the base
    holds. -/
theorem resolve_eq_ok {serverUrl : Option String} {path url : String}
    {segments : List (List Char)} (plain : Url.IsPlainPath segments)
    (written : path.toList = Text.joinWith '/' segments)
    (resolved : resolve serverUrl path = .ok url) :
    ("http://".toList <+: url.toList ∨ "https://".toList <+: url.toList) ∧
      '/' :: path.toList <:+ url.toList := by
  obtain ⟨parts, web⟩ := isWeb_of_resolve resolved
  rw [resolve_of_web web plain written] at resolved
  cases resolved
  simp only [String.toList_ofList, written]
  constructor
  · rw [List.append_assoc]
    rcases web.scheme with http | https
    · exact Or.inl (by rw [http]; exact List.prefix_append _ _)
    · exact Or.inr (by rw [https]; exact List.prefix_append _ _)
  · exact (Url.rooted_suffix _ plain).trans (List.suffix_append _ _)

end ImageVault.PublicAddress
