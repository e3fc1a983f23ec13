import ImageVault.Proofs.Metrics.PathLabel.Ids
import ImageVault.Proofs.Metrics.PathLabel.Names

/-!
# Labels of paths

## Main result

`labelled_segment_by_segment`: the label of a path holds no identifier and no generated name,
is its own label, and comes about segment by segment.

## Proof strategy

Neither an identifier nor a name contains a slash, so both replacements work on each segment
by itself (`splitOn_ofChars`). `Labels` says by rules what becomes of a segment. A label has
braces, which identifiers and names have not; so what one replacement puts in is never taken
for something by the other, and what is left of a segment that is labelled holds neither. That
a label is its own label follows, for nothing is left to replace.
-/

namespace ImageVault.PathLabel

/-- Somewhere in the text an identifier stands. -/
def HoldsId (text : List Char) : Prop :=
  ∃ word, IsId word ∧ word <:+: text

/-- What becomes of one segment. -/
def ofSegment (isFirst isLast : Bool) (segment : List Char) : List Char :=
  if isFirst then replaceIdsFrom 0 segment
  else nameSegment isLast (replaceIdsFrom 0 segment)

/-- The rules for one segment. Behind the first slash a generated name that fills the segment
becomes a label; a line break behind the last segment does not count, and stays. In all other
segments the identifiers become labels, and all other text stays. -/
inductive Labels (isFirst isLast : Bool) : List Char → List Char → Prop
  | name {segment : List Char} : isFirst = false → IsName segment →
      Labels isFirst isLast segment nameLabel
  | nameBreak {name : List Char} : isFirst = false → isLast = true → IsName name →
      Labels isFirst isLast (name ++ ['\n']) (nameLabel ++ ['\n'])
  | other {segment replaced : List Char} :
      (isFirst = false → ¬IsName segment ∧
        ∀ name, isLast = true → IsName name → segment ≠ name ++ ['\n']) →
      ReplacesIds segment replaced → Labels isFirst isLast segment replaced

/-! ### Segments -/

variable {isFirst isLast : Bool} {segment label : List Char}

/-- Where there is no hyphen, there is no identifier. -/
theorem replaceIds_of_not_mem (plain : '-' ∉ segment) : replaceIdsFrom 0 segment = segment := by
  refine (replacesIds segment).eq_of_no_id fun word isId stands => plain ?_
  exact stands.subset isId.hyphen_mem

theorem IsName.hyphen_not_mem {name : List Char} (isName : IsName name) : '-' ∉ name :=
  isName.not_mem (by decide) (by decide)

theorem IsName.replaceIds {name : List Char} (isName : IsName name) :
    replaceIdsFrom 0 name = name :=
  replaceIds_of_not_mem isName.hyphen_not_mem

theorem IsName.replaceIds_break {name : List Char} (isName : IsName name) :
    replaceIdsFrom 0 (name ++ ['\n']) = name ++ ['\n'] := by
  refine replaceIds_of_not_mem fun member => ?_
  rcases List.mem_append.mp member with inside | behind
  · exact isName.hyphen_not_mem inside
  · exact absurd behind (by decide)

/-- A segment that is a name once its identifiers are replaced had none. -/
theorem ReplacesIds.eq_of_isName {replaced : List Char} (replaces : ReplacesIds segment replaced)
    (isName : IsName replaced) : replaced = segment :=
  replaces.eq_of_brace_not_mem isName.brace_not_mem

theorem ReplacesIds.eq_of_break {name : List Char} (isName : IsName name)
    (replaces : ReplacesIds segment (name ++ ['\n'])) : name ++ ['\n'] = segment := by
  refine replaces.eq_of_brace_not_mem fun member => ?_
  rcases List.mem_append.mp member with inside | behind
  · exact isName.brace_not_mem inside
  · exact absurd behind (by decide)

theorem ofSegment_of_isName (isName : IsName segment) (isLast : Bool) :
    ofSegment false isLast segment = nameLabel := by
  simp only [ofSegment, Bool.false_eq_true, if_false, isName.replaceIds]
  exact nameSegment_of_isName isName isLast

/-- The rules describe completely what becomes of a segment. -/
theorem labels_iff (isFirst isLast : Bool) (segment label : List Char) :
    Labels isFirst isLast segment label ↔ ofSegment isFirst isLast segment = label := by
  constructor
  · intro labels
    cases labels with
    | name behind isName =>
      subst behind
      exact ofSegment_of_isName isName isLast
    | nameBreak behind last isName =>
      subst behind last
      simp only [ofSegment, Bool.false_eq_true, if_false, isName.replaceIds_break]
      exact nameSegment_break isName
    | other unnamed replaces =>
      obtain rfl := (replacesIds_iff _ _).mp replaces
      cases isFirst with
      | true => rfl
      | false =>
        -- Replacing identifiers makes no names, for it leaves braces.
        obtain ⟨noName, unbroken⟩ := unnamed rfl
        refine nameSegment_of_other (fun isName => ?_) fun name last isName same => ?_
        · rw [replaces.eq_of_isName isName] at isName
          exact noName isName
        · rw [same] at replaces
          exact unbroken name last isName (replaces.eq_of_break isName).symm
  · rintro rfl
    -- What became of the segment tells which rule has made it.
    have replaces := replacesIds segment
    cases isFirst with
    | true => exact .other (fun behind => by cases behind) replaces
    | false =>
      simp only [ofSegment, Bool.false_eq_true, if_false]
      rcases nameSegment_cases isLast (replaceIdsFrom 0 segment) with
        ⟨isName, same⟩ | ⟨name, last, isName, broken, same⟩ | ⟨noName, unbroken, same⟩
      · rw [same]
        rw [replaces.eq_of_isName isName] at isName
        exact .name rfl isName
      · rw [same]
        rw [broken] at replaces
        rw [← replaces.eq_of_break isName]
        exact .nameBreak rfl last isName
      · rw [same]
        refine .other (fun _ => ⟨fun isName => ?_, fun name last isName same => ?_⟩) replaces
        · rw [isName.replaceIds] at noName
          exact noName isName
        · rw [same, isName.replaceIds_break] at unbroken
          exact unbroken name last isName rfl

/-- What a segment has become holds no identifier. -/
theorem Labels.no_id (labels : Labels isFirst isLast segment label) {word : List Char}
    (isId : IsId word) : ¬word <:+: label := by
  intro stands
  have long := stands.length_le
  rw [isId.length_eq] at long
  -- The label of a name is too short to hold an identifier.
  cases labels with
  | name => exact absurd long (by decide)
  | nameBreak => exact absurd long (by decide)
  | other _ replaces => exact replaces.clean isId stands

theorem nameLabel_ne {name : List Char} (isName : IsName name) (rest : List Char) :
    nameLabel ≠ name ++ rest := by
  obtain ⟨digits, extension, some_digit, lower, -, rfl⟩ := isName
  intro same
  obtain ⟨c, more, rfl⟩ := List.exists_cons_of_ne_nil some_digit
  -- A name starts with a digit, where the label has a brace.
  have brace : '\x7b' = c := (List.cons.inj same).1
  have digit := lower c List.mem_cons_self
  rw [← brace] at digit
  exact absurd digit (by decide)

/-- Behind the first slash a segment becomes no name. -/
theorem Labels.no_name (labels : Labels false isLast segment label) {name : List Char}
    (isName : IsName name) :
    label ≠ name ∧ (isLast = true → label ≠ name ++ ['\n']) := by
  have unlabelled : nameLabel ≠ name := by
    simpa using nameLabel_ne isName []
  cases labels with
  | name => exact ⟨unlabelled, fun _ => nameLabel_ne isName ['\n']⟩
  | nameBreak =>
    refine ⟨?_, fun _ same => unlabelled (List.append_cancel_right same)⟩
    rintro rfl
    exact isName.brace_not_mem (List.mem_append_left _ List.mem_cons_self)
  | other unnamed replaces =>
    obtain ⟨noName, unbroken⟩ := unnamed rfl
    constructor
    · rintro rfl
      rw [replaces.eq_of_isName isName] at isName
      exact noName isName
    · rintro last rfl
      exact unbroken name last isName (replaces.eq_of_break isName).symm

/-! ### Whole paths -/

theorem splitOn_ofChars (path : List Char) :
    Text.splitOn '/' (ofChars path) = (Text.splitOn '/' path).mapIdx fun place segment =>
      ofSegment (place = 0) (place + 1 = (Text.splitOn '/' path).length) segment := by
  rw [ofChars, splitOn_replaceNames, splitOn_replaceIds]
  refine List.ext_getElem? fun place => ?_
  simp only [List.getElem?_mapIdx, List.getElem?_map, List.length_map, Option.map_map]
  congr 1
  funext segment
  by_cases first : place = 0 <;> simp [ofSegment, first]

/-- Each segment of a label has come from the segment in its place. -/
theorem exists_segment {path piece : List Char} {place : Nat}
    (found : (Text.splitOn '/' (ofChars path))[place]? = some piece) :
    ∃ segment, (Text.splitOn '/' path)[place]? = some segment ∧
      Labels (place = 0) (place + 1 = (Text.splitOn '/' (ofChars path)).length) segment piece := by
  rw [splitOn_ofChars] at found ⊢
  rw [List.getElem?_mapIdx, Option.map_eq_some_iff] at found
  obtain ⟨segment, chosen, same⟩ := found
  rw [List.length_mapIdx]
  exact ⟨segment, chosen, (labels_iff _ _ _ _).mpr same⟩

theorem ofChars_holds_no_id (path : List Char) : ¬HoldsId (ofChars path) := by
  rintro ⟨word, isId, stands⟩
  obtain ⟨piece, chosen, inside⟩ :=
    Text.infix_mem_splitOn isId.ne_nil isId.slash_not_mem stands
  obtain ⟨place, found⟩ := List.mem_iff_getElem?.mp chosen
  obtain ⟨segment, -, labels⟩ := exists_segment found
  exact labels.no_id isId inside

theorem ofChars_holds_no_name (path : List Char) : ¬HoldsName (ofChars path) := by
  rintro ⟨before, name, rest, same, isName, ends⟩
  have cut : Text.splitOn '/' (ofChars path) =
      Text.splitOn '/' before ++ Text.splitOn '/' (name ++ rest) := by
    rw [same, Text.splitOn_append]
  -- The piece that the name starts has others in front of it, so it is not the first one.
  have piece_labels : ∀ piece others, Text.splitOn '/' (name ++ rest) = piece :: others →
      ∃ segment, Labels false (others = []) segment piece := by
    intro piece others pieces
    rw [pieces] at cut
    have found : (Text.splitOn '/' (ofChars path))[(Text.splitOn '/' before).length]? =
        some piece := by simp [cut]
    obtain ⟨segment, -, labels⟩ := exists_segment found
    have inFront : Text.splitOn '/' before ≠ [] := Text.splitOn_ne_nil '/' before
    refine ⟨segment, ?_⟩
    simpa [cut, inFront] using labels
  rcases ends with rfl | rfl | ⟨more, rfl⟩
  · have pieces : Text.splitOn '/' (name ++ []) = name :: [] := by
      rw [List.append_nil, Text.splitOn_of_not_mem isName.slash_not_mem]
    obtain ⟨segment, labels⟩ := piece_labels _ _ pieces
    exact (labels.no_name isName).1 rfl
  · have pieces : Text.splitOn '/' (name ++ ['\n']) = (name ++ ['\n']) :: [] := by
      refine Text.splitOn_of_not_mem fun member => ?_
      simp [isName.slash_not_mem] at member
    obtain ⟨segment, labels⟩ := piece_labels _ _ pieces
    exact (labels.no_name isName).2 rfl rfl
  · have pieces := Text.splitOn_append_cons isName.slash_not_mem more
    obtain ⟨segment, labels⟩ := piece_labels _ _ pieces
    exact (labels.no_name isName).1 rfl

theorem ofChars_ofChars (path : List Char) : ofChars (ofChars path) = ofChars path := by
  -- Neither replacement finds anything in a label.
  have unchanged : replaceIdsFrom 0 (ofChars path) = ofChars path := by
    refine (replacesIds (ofChars path)).eq_of_no_id fun word isId stands => ?_
    exact ofChars_holds_no_id path ⟨word, isId, stands⟩
  rw [ofChars, unchanged]
  exact replaceNamesFrom_of_clean (ofChars_holds_no_name path)

theorem count_slash_ofChars (path : List Char) :
    (ofChars path).count '/' = path.count '/' := by
  -- There are as many segments as before, and one slash less than segments.
  have lengths := congrArg List.length (splitOn_ofChars path)
  rw [List.length_mapIdx, Text.splitOn_length, Text.splitOn_length] at lengths
  exact Nat.succ.inj lengths

/-- The label of a path holds no identifier, in letters of either case, and no generated name
    that fills a segment. It is its own label, and has the slashes of the path. Each of its
    segments comes from the segment in the same place, for which it only matters whether that
    is the first or the last one, and it comes from it by the rules. -/
theorem labelled_segment_by_segment (path : String) :
    let label := PathLabel.ofPath path
    let segments := Text.splitOn '/' path.toList
    ¬HoldsId label.toList ∧ ¬HoldsName label.toList ∧
    PathLabel.ofPath label = label ∧
    label.toList.count '/' = path.toList.count '/' ∧
    (Text.splitOn '/' label.toList = segments.mapIdx fun place segment =>
      ofSegment (place = 0) (place + 1 = segments.length) segment) ∧
    ∀ isFirst isLast segment shown,
      Labels isFirst isLast segment shown ↔ ofSegment isFirst isLast segment = shown := by
  intro label segments
  have spelled : label.toList = ofChars path.toList := String.toList_ofList
  rw [spelled]
  refine ⟨ofChars_holds_no_id _, ofChars_holds_no_name _, ?_, count_slash_ofChars _,
    splitOn_ofChars _, labels_iff⟩
  rw [PathLabel.ofPath, spelled, ofChars_ofChars]
  rfl

end ImageVault.PathLabel
