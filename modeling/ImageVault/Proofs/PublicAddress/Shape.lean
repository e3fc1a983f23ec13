import ImageVault.Proofs.Filename
import ImageVault.Proofs.PublicAddress
import ImageVault.Vault

/-!
# The shape of resolved addresses

## Main results

* `image_address_shape`: the address of an image is that of the base up to its authority, and
  then a path that ends with the path of the image. Of a base that is written without anything
  that resolving would change, not one character is lost.
* `names_kept_iff_directory`: the names of the base come first in the address exactly if the
  base is a directory as it is written. A query or a fragment behind the path takes the final
  slash away from it, and then the last name of the base is lost.

## Proof strategy

An address resolves to the names that are kept of the base, with dots among them resolved, and
the path of the image. It is written and not merely put together: it can be cut into the same
parts again, because no part of it holds a mark.
-/

namespace ImageVault.PublicAddress

/-! ### Characters of a web address -/

/-- The character counts, and a path goes on behind it. -/
def Continues (c : Char) : Prop :=
  Url.endsPath c = false ∧ c ≠ '\t' ∧ c ≠ '\n' ∧ c ≠ '\r'

instance (c : Char) : Decidable (Continues c) :=
  inferInstanceAs (Decidable (_ ∧ _))

namespace IsWeb

variable {address : List Char} {parts : Url.Parts}

theorem isScheme (web : IsWeb address parts) : Url.IsScheme parts.scheme := by
  rcases web.scheme with http | https
  · rw [http]
    exact ⟨⟨'h', "ttp".toList, rfl, by decide⟩, List.all_eq_true.mp (by decide)⟩
  · rw [https]
    exact ⟨⟨'h', "ttps".toList, rfl, by decide⟩, List.all_eq_true.mp (by decide)⟩

theorem lowered (web : IsWeb address parts) : parts.scheme.map Char.toLower = parts.scheme := by
  rcases web.scheme with http | https
  · rw [http]
    decide
  · rw [https]
    decide

/-- The authority of a web address is accepted, and nothing in it ends or breaks it. -/
theorem authority_plain (web : IsWeb address parts) :
    Url.Accepted parts.authority ∧
      ∀ c ∈ parts.authority, Url.endsAuthority c = false ∧ Continues c := by
  obtain ⟨name, authority, rest, written, accepted, rfl⟩ :=
    Url.exists_written web.cut web.schemed web.hosted
  refine ⟨accepted, fun c member => ?_⟩
  have inside := written.inside c member
  have counts : c ∈ Url.clean address := by
    rw [written.cleaned]
    simp [show c ∈ authority from member]
  refine ⟨inside, Bool.eq_false_iff.mpr fun mark => ?_, Url.clean_unbroken counts⟩
  obtain rfl | rfl : c = '?' ∨ c = '#' := by simpa [Url.endsPath] using mark
  · exact absurd inside (by decide)
  · exact absurd inside (by decide)

/-- The path of a web address starts at its root, and nothing in it ends or breaks it. -/
theorem path_plain (web : IsWeb address parts) :
    Url.IsRooted parts.path ∧ ∀ c ∈ parts.path, Continues c := by
  obtain ⟨name, authority, rest, written, accepted, rfl⟩ :=
    Url.exists_written web.cut web.schemed web.hosted
  refine ⟨written.ended.isRooted, fun c member => ⟨?_, ?_⟩⟩
  · simpa using List.mem_takeWhile_imp member
  · have counts : c ∈ Url.clean address := by
      rw [written.cleaned]
      simp [show c ∈ rest from List.takeWhile_subset _ member]
    exact Url.clean_unbroken counts

theorem front_plain (web : IsWeb address parts) :
    ∀ c ∈ parts.scheme ++ "://".toList ++ parts.authority, Continues c := by
  intro c member
  rw [List.mem_append, List.mem_append] at member
  rcases member with (scheme | marks) | authority
  · have schemeChar := web.isScheme.plain c scheme
    have other : ∀ mark, Url.isSchemeChar mark = false → c ≠ mark := by
      rintro mark foreign rfl
      exact absurd schemeChar (by simp [foreign])
    refine ⟨?_, other _ (by decide), other _ (by decide), other _ (by decide)⟩
    simp [Url.endsPath, other '?' (by decide), other '#' (by decide)]
  · have plain : "://".toList.all (fun c => decide (Continues c)) = true := by decide
    exact of_decide_eq_true (List.all_eq_true.mp plain c marks)
  · exact (web.authority_plain.2 c authority).2

/-- With another path that holds no mark the address is as good as before. -/
theorem written (web : IsWeb address parts) {path : List Char} (root : Url.IsRooted path)
    (plain : ∀ c ∈ path, Continues c) :
    IsWeb (parts.scheme ++ "://".toList ++ parts.authority ++ path)
      ⟨parts.scheme, parts.authority, path, [], []⟩ := by
  obtain ⟨accepted, inside⟩ := web.authority_plain
  have whole : parts.scheme ++ "://".toList ++ parts.authority ++ path =
      parts.scheme ++ ':' :: '/' :: '/' :: (parts.authority ++ path) := by
    simp
  have unbroken : ∀ c ∈ parts.scheme ++ "://".toList ++ parts.authority ++ path,
      c ≠ '\t' ∧ c ≠ '\n' ∧ c ≠ '\r' := by
    intro c member
    rcases List.mem_append.mp member with front | inPath
    · exact (web.front_plain c front).2
    · exact (plain c inPath).2
  have spelled : Url.Written (parts.scheme ++ "://".toList ++ parts.authority ++ path)
      parts.scheme parts.authority path := by
    refine ⟨?_, web.isScheme, fun c member => (inside c member).1, fun c first => ?_⟩
    · rw [whole] at unbroken ⊢
      exact Url.clean_eq_self (fun c first => web.isScheme.head_visible first) unbroken
    · obtain rfl := root c first
      rfl
  have unasked : '?' ∉ path := fun member => absurd (plain '?' member).1 (by decide)
  have unmarked : '#' ∉ path := fun member => absurd (plain '#' member).1 (by decide)
  refine ⟨?_, web.scheme, web.hosted⟩
  rw [spelled.split_eq accepted, Url.partsOf_unmarked _ _ unasked unmarked, web.lowered]

/-- In front of the path there is the authority, which holds no slash. -/
theorem front_unslashed (web : IsWeb address parts) :
    (parts.scheme ++ "://".toList ++ parts.authority).getLast? ≠ some '/' := by
  rw [List.getLast?_append_of_ne_nil _ web.hosted]
  intro last
  have inside := (web.authority_plain.2 '/' (List.mem_of_getLast? last)).1
  exact absurd inside (by decide)

end IsWeb

/-! ### The path of an address -/

section Path

variable {address : List Char} {parts : Url.Parts} {segments : List (List Char)}

theorem mem_keptNames {path segment : List Char} (kept : segment ∈ keptNames address path) :
    segment ≠ [] ∧ segment ∈ Text.splitOn '/' path := by
  unfold keptNames at kept
  split at kept
  · obtain ⟨member, present⟩ := List.mem_filter.mp kept
    exact ⟨by simpa using present, member⟩
  · obtain ⟨member, present⟩ := List.mem_filter.mp kept
    exact ⟨by simpa using present, List.dropLast_subset _ member⟩

/-- Nothing gets into the path but what is in the two paths that it is made of. -/
theorem mem_resolvedPath {path : List Char} (plain : Url.IsPlainPath segments) {c : Char}
    (member : c ∈ resolvedPath address path segments) :
    c = '/' ∨ c ∈ path ∨ Url.isPathChar c = true := by
  have joined : c ∈ Text.joinWith '/'
      (Url.removeDots [] ([] :: keptNames address path) ++ segments) → _ := Text.mem_joinWith
  have inside : c = '/' ∨ c ∈ Text.joinWith '/'
      (Url.removeDots [] ([] :: keptNames address path) ++ segments) := by
    unfold resolvedPath Url.rooted at member
    split at member
    · exact List.mem_cons.mp member
    · exact Or.inr member
  rcases inside.imp_right joined with slash | slash | ⟨segment, chosen, within⟩
  · exact Or.inl slash
  · exact Or.inl slash
  · refine Or.inr ?_
    rcases List.mem_append.mp chosen with kept | new
    · rcases Url.mem_removeDots kept with nothing | known
      · cases nothing
      · rcases List.mem_cons.mp known with rfl | known
        · cases within
        · exact Or.inl (Text.mem_splitOn (mem_keptNames known).2 within).1
    · exact Or.inr ((plain.plain segment new).plain c within)

theorem resolvedPath_plain (web : IsWeb address parts) (plain : Url.IsPlainPath segments) :
    ∀ c ∈ resolvedPath address parts.path segments, Continues c := by
  intro c member
  rcases mem_resolvedPath plain member with rfl | known | ordinary
  · decide
  · exact web.path_plain.2 c known
  · have visible : 0x20 < c.toNat ∧ c ≠ '#' ∧ c ≠ '?' := by
      simp only [Url.isPathChar, Bool.and_eq_true, decide_eq_true_eq] at ordinary
      refine ⟨ordinary.1, ?_, ?_⟩ <;> rintro rfl <;> exact absurd ordinary.2 (by decide)
    refine ⟨by simp [Url.endsPath, visible], ?_⟩
    refine ⟨?_, ?_, ?_⟩ <;> rintro rfl <;> exact absurd visible.1 (by decide)

/-- Without dots in the base its kept names come first, and then the path. -/
theorem names_resolvedPath {path : List Char} (plain : Url.IsPlainPath segments)
    (undotted : ∀ segment ∈ keptNames address path, segment ≠ Url.dot ∧ segment ≠ Url.dotDot) :
    resolvedPath address path segments =
        Text.joinWith '/' ([] :: keptNames address path ++ segments) ∧
      Url.names (resolvedPath address path segments) = keptNames address path ++ segments := by
  have rootUndotted : ∀ segment ∈ [] :: keptNames address path,
      segment ≠ Url.dot ∧ segment ≠ Url.dotDot :=
    List.forall_mem_cons.mpr ⟨by decide, undotted⟩
  have slashless : ∀ segment ∈ [] :: keptNames address path ++ segments, '/' ∉ segment := by
    intro segment member slash
    rcases List.mem_append.mp member with kept | new
    · rcases List.mem_cons.mp kept with rfl | kept
      · cases slash
      · exact (Text.mem_splitOn (mem_keptNames kept).2 slash).2 rfl
    · exact plain.slash_not_mem segment new slash
  have spelled : resolvedPath address path segments =
      Text.joinWith '/' ([] :: keptNames address path ++ segments) := by
    rw [resolvedPath, Url.removeDots_undotted [] rootUndotted, List.reverse_nil, List.nil_append,
      Text.joinWith_append '/' (List.cons_ne_nil _ _) plain.present]
    cases keptNames address path <;> rfl
  refine ⟨spelled, ?_⟩
  rw [Url.names, spelled, Text.splitOn_joinWith (by simp) slashless, List.cons_append,
    List.filter_cons_of_neg (by simp), List.filter_eq_self]
  intro segment member
  rcases List.mem_append.mp member with kept | new
  · simpa using (mem_keptNames kept).1
  · simpa using (plain.plain segment new).present

theorem exists_resolvedPath (address path : List Char) (plain : Url.IsPlainPath segments) :
    ∃ rest, resolvedPath address path segments = '/' :: rest :=
  Url.exists_rooted (Url.joinWith_append_ne_nil _ plain)

/-- What an address is resolved to can be cut into its parts again. -/
theorem IsWeb.resolved (web : IsWeb address parts) (plain : Url.IsPlainPath segments) :
    IsWeb (parts.scheme ++ "://".toList ++ parts.authority ++
        resolvedPath address parts.path segments)
      ⟨parts.scheme, parts.authority, resolvedPath address parts.path segments, [], []⟩ := by
  refine web.written (fun c first => ?_) (resolvedPath_plain web plain)
  obtain ⟨rest, starts⟩ := exists_resolvedPath address parts.path plain
  rw [starts] at first
  exact (Option.some.inj first).symm

/-- An address that resolves is put together from parts, and it can be cut into these again. -/
theorem exists_parts {serverUrl : Option String} {path url : String}
    (plain : Url.IsPlainPath segments) (written : path.toList = Text.joinWith '/' segments)
    (resolved : resolve serverUrl path = .ok url) :
    ∃ parts, IsWeb (stripped serverUrl) parts ∧
      url.toList = parts.scheme ++ "://".toList ++ parts.authority ++
        resolvedPath (stripped serverUrl) parts.path segments ∧
      IsWeb url.toList ⟨parts.scheme, parts.authority,
        resolvedPath (stripped serverUrl) parts.path segments, [], []⟩ := by
  obtain ⟨parts, web⟩ := isWeb_of_resolve resolved
  rw [resolve_of_web web plain written] at resolved
  rw [← Except.ok.inj resolved, String.toList_ofList]
  exact ⟨parts, web, rfl, web.resolved plain⟩

end Path

/-! ### Tidy bases -/

def withoutFinalSlash (address : List Char) : List Char :=
  if address.getLast? = some '/' then address.dropLast else address

theorem withoutFinalSlash_cases (address : List Char) :
    (address = withoutFinalSlash address ∧ address.getLast? ≠ some '/') ∨
      address = withoutFinalSlash address ++ ['/'] := by
  unfold withoutFinalSlash
  split
  next slashed =>
    obtain ⟨front, rfl⟩ := List.getLast?_eq_some_iff.mp slashed
    rw [List.dropLast_concat]
    exact Or.inr rfl
  next unslashed => exact Or.inl ⟨rfl, unslashed⟩

theorem withoutFinalSlash_concat (address : List Char) :
    withoutFinalSlash (address ++ ['/']) = address := by
  rw [withoutFinalSlash, if_pos List.getLast?_concat, List.dropLast_concat]

theorem withoutFinalSlash_append {front : List Char} (unslashed : front.getLast? ≠ some '/')
    (path : List Char) : withoutFinalSlash (front ++ path) = front ++ withoutFinalSlash path := by
  cases path using List.reverseRecOn with
  | nil =>
    rw [List.append_nil, withoutFinalSlash, if_neg unslashed]
    exact (List.append_nil front).symm
  | append_singleton more last =>
    rw [← List.append_assoc, withoutFinalSlash, withoutFinalSlash, List.getLast?_concat,
      List.getLast?_concat, List.dropLast_concat, List.dropLast_concat]
    split
    · rfl
    · exact List.append_assoc front more [last]

theorem withoutFinalSlash_starts (address : List Char) : withoutFinalSlash address <+: address := by
  unfold withoutFinalSlash
  split
  · exact List.dropLast_prefix address
  · exact List.prefix_rfl

theorem withoutFinalSlash_rooted {path : List Char} (root : Url.IsRooted path) :
    Url.IsRooted (withoutFinalSlash path) := by
  intro c first
  obtain ⟨rest, whole⟩ := withoutFinalSlash_starts path
  refine root c ?_
  rw [← whole, List.head?_append, first, Option.some_or]

/-- The base is written as it counts: it begins with a scheme in lower case, it holds no tab, no
    line break and no mark of a query or a fragment, and apart from a final slash the names on
    its path are neither empty nor dots. -/
structure IsTidy (address : List Char) (parts : Url.Parts) : Prop where
  lowered : parts.scheme ++ [':'] <+: address
  unbroken : ∀ c ∈ address, c ≠ '\t' ∧ c ≠ '\n' ∧ c ≠ '\r'
  unmarked : '?' ∉ address ∧ '#' ∉ address
  named : ∀ segment ∈ (Text.splitOn '/' (withoutFinalSlash parts.path)).tail,
    segment ≠ [] ∧ segment ≠ Url.dot ∧ segment ≠ Url.dotDot

namespace IsTidy

variable {address : List Char} {parts : Url.Parts}

/-- A tidy base is its scheme, its authority and its path, and nothing else. -/
theorem address_eq (tidy : IsTidy address parts) (web : IsWeb address parts) :
    address = parts.scheme ++ "://".toList ++ parts.authority ++ parts.path := by
  have visible : Url.clean address = address := by
    refine Url.clean_eq_self (fun c first => ?_) tidy.unbroken
    obtain ⟨more, rfl⟩ := tidy.lowered
    rw [List.append_assoc] at first
    exact web.isScheme.head_visible first
  obtain ⟨name, authority, rest, written, -, rfl⟩ :=
    Url.exists_written web.cut web.schemed web.hosted
  have whole := written.cleaned
  rw [visible] at whole
  -- The scheme is as long as it is written, so it is written in lower case.
  have lower : name.map Char.toLower = name := by
    obtain ⟨more, same⟩ := tidy.lowered
    rw [whole, List.append_assoc] at same
    exact (List.append_inj same (List.length_map Char.toLower)).1
  have path : Url.pathOf rest = rest := by
    have unmarked := tidy.unmarked
    rw [← written.mark_mem_iff (by decide), ← written.mark_mem_iff (by decide)] at unmarked
    exact Url.pathOf_unmarked unmarked.1 unmarked.2
  change address = name.map Char.toLower ++ "://".toList ++ authority ++ Url.pathOf rest
  rw [whole, lower, path]
  simp

theorem names_eq (tidy : IsTidy address parts) (web : IsWeb address parts) :
    withoutFinalSlash parts.path = Text.joinWith '/' ([] :: Url.names parts.path) ∧
      ∀ segment ∈ Url.names parts.path, segment ≠ Url.dot ∧ segment ≠ Url.dotDot := by
  obtain ⟨inner, cut, -⟩ := (withoutFinalSlash_rooted web.path_plain.1).splitOn_eq
  have named := tidy.named
  rw [cut, List.tail_cons] at named
  have same : Url.names parts.path = Url.names (withoutFinalSlash parts.path) := by
    rcases withoutFinalSlash_cases parts.path with ⟨whole, -⟩ | slashed
    · rw [← whole]
    · rw [slashed, Url.names_concat_slash, withoutFinalSlash_concat]
  have all : Url.names parts.path = inner := by
    rw [same, Url.names, cut, List.filter_cons_of_neg (by simp), List.filter_eq_self]
    intro segment member
    simpa using (named segment member).1
  rw [all]
  refine ⟨?_, fun segment member => (named segment member).2⟩
  rw [← cut, Text.joinWith_splitOn]

theorem withoutFinalSlash_eq (tidy : IsTidy address parts) (web : IsWeb address parts) :
    withoutFinalSlash address =
      parts.scheme ++ "://".toList ++ parts.authority ++ withoutFinalSlash parts.path := by
  have whole := tidy.address_eq web
  rw [← withoutFinalSlash_append web.front_unslashed, ← whole]

/-- Under a tidy base an address is the base, without its final slash, and the path. -/
theorem resolve_eq {serverUrl : Option String} {path : String} {segments : List (List Char)}
    (tidy : IsTidy (stripped serverUrl) parts) (web : IsWeb (stripped serverUrl) parts)
    (plain : Url.IsPlainPath segments) (written : path.toList = Text.joinWith '/' segments) :
    resolve serverUrl path =
      .ok (String.ofList (withoutFinalSlash (stripped serverUrl) ++ '/' :: path.toList)) := by
  obtain ⟨spelled, undotted⟩ := tidy.names_eq web
  have all : keptNames (stripped serverUrl) parts.path = Url.names parts.path :=
    if_pos (Or.inl tidy.unmarked)
  rw [← all] at undotted
  rw [resolve_of_web web plain written, (names_resolvedPath plain undotted).1, all,
    Text.joinWith_append '/' (List.cons_ne_nil _ _) plain.present, ← spelled,
    tidy.withoutFinalSlash_eq web, written, ← List.append_assoc]

/-- An address that differs in no more than a final slash differs in its path alone. -/
theorem exists_path_of_same {other : List Char} (tidy : IsTidy address parts)
    (web : IsWeb address parts) (same : withoutFinalSlash other = withoutFinalSlash address) :
    ∃ path, other = parts.scheme ++ "://".toList ++ parts.authority ++ path ∧
      withoutFinalSlash path = withoutFinalSlash parts.path ∧
      (path = withoutFinalSlash parts.path ∨ path = withoutFinalSlash parts.path ++ ['/']) := by
  have start := same.trans (tidy.withoutFinalSlash_eq web)
  rcases withoutFinalSlash_cases other with ⟨unslashed, -⟩ | slashed
  · have whole := unslashed.trans start
    refine ⟨withoutFinalSlash parts.path, whole, ?_, Or.inl rfl⟩
    -- What is left without its final slash has none any more.
    rw [whole, withoutFinalSlash_append web.front_unslashed] at start
    exact List.append_cancel_left start
  · refine ⟨withoutFinalSlash parts.path ++ ['/'], ?_, withoutFinalSlash_concat _, Or.inr rfl⟩
    rw [slashed, start, List.append_assoc]

/-- A final slash more or less leaves a tidy base tidy. -/
theorem of_same {other : List Char} (tidy : IsTidy address parts) (web : IsWeb address parts)
    (same : withoutFinalSlash other = withoutFinalSlash address) :
    ∃ otherParts, IsWeb other otherParts ∧ IsTidy other otherParts := by
  obtain ⟨path, whole, shorter, ends⟩ := tidy.exists_path_of_same web same
  have root : Url.IsRooted path := by
    have root := withoutFinalSlash_rooted web.path_plain.1
    rcases ends with rfl | rfl
    · exact root
    · exact root.concat_slash
  -- The other path holds nothing new but perhaps a slash, and so does the other address.
  have inside : ∀ c ∈ path, c = '/' ∨ c ∈ parts.path := by
    intro c member
    have known := (withoutFinalSlash_starts parts.path).subset
    rcases ends with rfl | rfl
    · exact Or.inr (known member)
    · rcases List.mem_append.mp member with old | slash
      · exact Or.inr (known old)
      · exact Or.inl (List.mem_singleton.mp slash)
  have outside : ∀ c ∈ other, c = '/' ∨ c ∈ address := by
    intro c member
    rw [whole] at member
    rw [tidy.address_eq web]
    rcases List.mem_append.mp member with front | path
    · exact Or.inr (List.mem_append_left _ front)
    · exact (inside c path).imp_right (List.mem_append_right _)
  have absent : ∀ c, c ≠ '/' → c ∉ address → c ∉ other := fun c visible missing member =>
    (outside c member).elim visible missing
  have otherWeb := web.written root fun c member => by
    rcases inside c member with rfl | known
    · decide
    · exact web.path_plain.2 c known
  rw [← whole] at otherWeb
  refine ⟨_, otherWeb, ?_, ?_, ⟨?_, ?_⟩, ?_⟩
  · rw [whole]
    exact ⟨"//".toList ++ parts.authority ++ path, by simp⟩
  · intro c member
    rcases outside c member with rfl | known
    · decide
    · exact tidy.unbroken c known
  · exact absent '?' (by decide) tidy.unmarked.1
  · exact absent '#' (by decide) tidy.unmarked.2
  · rw [shorter]
    exact tidy.named

end IsTidy

/-! ### Addresses of images -/

theorem resolve_slashes (serverUrl : Option String) (path : String) (slashes : Nat) :
    resolve serverUrl (String.ofList (List.replicate slashes '/') ++ path) =
      resolve serverUrl path := by
  have unrooted : (String.ofList (List.replicate slashes '/') ++ path).toList.dropWhile
      (· == '/') = path.toList.dropWhile (· == '/') := by
    rw [String.toList_append, String.toList_ofList, List.dropWhile_append_of_pos]
    intro c member
    rw [List.eq_of_mem_replicate member]
    rfl
  simp only [resolve, unrooted]

theorem imagePath_written (filename : String) :
    (Vault.imagesPath ++ "/" ++ filename).toList =
      Text.joinWith '/' (Filename.imagePath filename) := by
  simp [Vault.imagesPath, Filename.imagePath, Text.joinWith]

theorem imagePath_rooted (filename : String) :
    ("/api/v1/images/" ++ filename).toList =
      '/' :: (Vault.imagesPath ++ "/" ++ filename).toList := by
  simp [Vault.imagesPath]

section Image

variable {serverUrl : Option String} {type : ImageType} {filename url : String}

/-- The address of an image has the scheme and the authority of the base and then a path that
    ends with the path of the image, and no query and no fragment. A tidy base stands in front
    of it as it is, except for a final slash, which makes no difference. -/
theorem image_address_shape (form : Filename.HasForm type filename)
    (resolved : resolve serverUrl (Vault.imagesPath ++ "/" ++ filename) = .ok url) :
    ∃ parts, Url.split (stripped serverUrl) = .ok parts ∧
      (∃ path, url.toList = parts.scheme ++ "://".toList ++ parts.authority ++ '/' :: path ∧
        Url.split url.toList = .ok ⟨parts.scheme, parts.authority, '/' :: path, [], []⟩) ∧
      '?' ∉ url.toList ∧ '#' ∉ url.toList ∧
      ("/api/v1/images/" ++ filename).toList <:+ url.toList ∧
      (IsTidy (stripped serverUrl) parts →
        url.toList =
            withoutFinalSlash (stripped serverUrl) ++ ("/api/v1/images/" ++ filename).toList ∧
          ∀ other, withoutFinalSlash (stripped other) = withoutFinalSlash (stripped serverUrl) →
            resolve other (Vault.imagesPath ++ "/" ++ filename) = .ok url) ∧
      ∀ slashes, resolve serverUrl
        (String.ofList (List.replicate slashes '/') ++ (Vault.imagesPath ++ "/" ++ filename)) =
          .ok url := by
  have plain := form.imagePath_plain
  have written := imagePath_written filename
  have rooted := imagePath_rooted filename
  have ends := (resolve_eq_ok plain written resolved).2
  obtain ⟨parts, web, whole, again⟩ := exists_parts plain written resolved
  obtain ⟨rest, starts⟩ := exists_resolvedPath (stripped serverUrl) parts.path plain
  have unmarked : ∀ mark, Url.endsPath mark = true → mark ∉ url.toList := by
    intro mark marks member
    rw [whole] at member
    rcases List.mem_append.mp member with front | path
    · exact absurd marks (by simp [(web.front_plain mark front).1])
    · exact absurd marks (by simp [(resolvedPath_plain web plain mark path).1])
  refine ⟨parts, web.cut, ⟨rest, ?_, ?_⟩, unmarked _ (by decide), unmarked _ (by decide),
    rooted ▸ ends, fun tidy => ⟨?_, fun other same => ?_⟩, fun slashes => ?_⟩
  · rw [← starts, whole]
  · rw [← starts, again.cut]
  · rw [tidy.resolve_eq web plain written] at resolved
    rw [← Except.ok.inj resolved, String.toList_ofList, rooted]
  · obtain ⟨otherParts, otherWeb, otherTidy⟩ := tidy.of_same web same
    rw [otherTidy.resolve_eq otherWeb plain written, same, ← tidy.resolve_eq web plain written,
      resolved]
  · rw [resolve_slashes, resolved]

/-- A tidy base without a final slash, and the same base with one. -/
theorem image_address_shape_media :
    ∃ parts, Url.split (stripped (some "http://localhost:8000/media")) = .ok parts ∧
      IsTidy (stripped (some "http://localhost:8000/media")) parts ∧
      resolve (some "http://localhost:8000/media/")
          (Vault.imagesPath ++ "/" ++ "0123456789abcdef.png") =
        .ok "http://localhost:8000/media/api/v1/images/0123456789abcdef.png" := by
  have resolved : resolve (some "http://localhost:8000/media")
      (Vault.imagesPath ++ "/" ++ "0123456789abcdef.png") =
        .ok "http://localhost:8000/media/api/v1/images/0123456789abcdef.png" := rfl
  obtain ⟨parts, cut, -, -, -, -, same, -⟩ := image_address_shape Filename.sample_form resolved
  have tidy : IsTidy (stripped (some "http://localhost:8000/media")) parts := by
    obtain rfl : ⟨"http".toList, "localhost:8000".toList, "/media".toList, [], []⟩ = parts :=
      Except.ok.inj cut
    have plain : (stripped (some "http://localhost:8000/media")).all
        (fun c => decide (c ≠ '\t' ∧ c ≠ '\n' ∧ c ≠ '\r')) = true := by decide
    exact ⟨by decide, fun c member => of_decide_eq_true (List.all_eq_true.mp plain c member),
      by decide, by decide⟩
  exact ⟨parts, cut, tidy, (same tidy).2 (some "http://localhost:8000/media/") (by decide)⟩

/-- No name of the base is lost exactly if the base is a directory as it is written. Otherwise
    it is the last name that is lost, and no other. -/
theorem names_kept_iff_directory (form : Filename.HasForm type filename)
    (resolved : resolve serverUrl (Vault.imagesPath ++ "/" ++ filename) = .ok url) :
    ∃ parts whole, Url.split (stripped serverUrl) = .ok parts ∧
      Url.split url.toList = .ok whole ∧
      ((∀ segment ∈ Text.splitOn '/' parts.path, segment ≠ Url.dot ∧ segment ≠ Url.dotDot) →
        (Url.names whole.path = Url.names parts.path ++ Filename.imagePath filename ↔
          IsDirectory (stripped serverUrl) parts.path) ∧
        (¬IsDirectory (stripped serverUrl) parts.path → Url.names parts.path ≠ [] ∧
          Url.names whole.path =
            (Url.names parts.path).dropLast ++ Filename.imagePath filename)) := by
  have plain := form.imagePath_plain
  obtain ⟨parts, web, -, again⟩ := exists_parts plain (imagePath_written filename) resolved
  refine ⟨parts, _, web.cut, again.cut, fun undotted => ?_⟩
  have keptUndotted : ∀ segment ∈ keptNames (stripped serverUrl) parts.path,
      segment ≠ Url.dot ∧ segment ≠ Url.dotDot :=
    fun segment member => undotted segment (mem_keptNames member).2
  dsimp only
  rw [(names_resolvedPath plain keptUndotted).2, List.append_left_inj]
  by_cases directory : IsDirectory (stripped serverUrl) parts.path
  · rw [keptNames, if_pos directory]
    exact ⟨iff_of_true rfl directory, fun other => absurd directory other⟩
  · obtain ⟨-, present, unslashed⟩ : _ ∧ parts.path ≠ [] ∧ parts.path.getLast? ≠ some '/' := by
      simpa [IsDirectory, not_or] using directory
    obtain ⟨last, all⟩ := Url.names_eq_enclosing_append present unslashed
    rw [keptNames, if_neg directory, all, List.dropLast_concat]
    refine ⟨iff_of_false (fun same => ?_) directory, fun _ => ⟨by simp, rfl⟩⟩
    simpa using congrArg List.length same

/-- A base whose path ends with a slash of its own keeps its name, whatever follows. -/
theorem names_kept_before_query :
    ∃ parts whole,
      Url.split (stripped (some "http://localhost:8000/media/?x=1")) = .ok parts ∧
      Url.split "http://localhost:8000/media/api/v1/images/0123456789abcdef.png".toList =
        .ok whole ∧
      Url.names whole.path =
        Url.names parts.path ++ Filename.imagePath "0123456789abcdef.png" := by
  have resolved : resolve (some "http://localhost:8000/media/?x=1")
      (Vault.imagesPath ++ "/" ++ "0123456789abcdef.png") =
        .ok "http://localhost:8000/media/api/v1/images/0123456789abcdef.png" := rfl
  obtain ⟨parts, whole, cut, again, kept⟩ := names_kept_iff_directory
    Filename.sample_form resolved
  obtain rfl : ⟨"http".toList, "localhost:8000".toList, "/media/".toList, "x=1".toList, []⟩ =
      parts := Except.ok.inj cut
  exact ⟨_, whole, cut, again, (kept (by decide)).1.mpr (by decide)⟩

/-- The name of the base is lost if it is followed by a query and not by a slash. -/
theorem name_lost_before_query :
    Filename.HasForm .png "0123456789abcdef.png" ∧
      resolve (some "http://localhost:8000/media?x=1")
          (Vault.imagesPath ++ "/" ++ "0123456789abcdef.png") =
        .ok "http://localhost:8000/api/v1/images/0123456789abcdef.png" ∧
      Url.split (stripped (some "http://localhost:8000/media?x=1")) =
        .ok ⟨"http".toList, "localhost:8000".toList, "/media".toList, "x=1".toList, []⟩ ∧
      (∀ segment ∈ Text.splitOn '/' "/media".toList,
        segment ≠ Url.dot ∧ segment ≠ Url.dotDot) ∧
      Url.split "http://localhost:8000/api/v1/images/0123456789abcdef.png".toList =
        .ok ⟨"http".toList, "localhost:8000".toList,
          "/api/v1/images/0123456789abcdef.png".toList, [], []⟩ ∧
      Url.names "/api/v1/images/0123456789abcdef.png".toList ≠
        Url.names "/media".toList ++ Filename.imagePath "0123456789abcdef.png" :=
  ⟨Filename.sample_form, rfl, rfl, by decide, rfl, by decide⟩

end Image

end ImageVault.PublicAddress
