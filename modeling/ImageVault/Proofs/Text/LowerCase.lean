import Mathlib.Data.List.Forall2
import ImageVault.Proofs.Text.Ends
import ImageVault.Proofs.Text.Hex
import ImageVault.Text.LowerCase

/-!
# What lowering makes of a text

A text is lowered character by character: `LowersTo` has one rule for each way in which a
character becomes lower case, its surroundings left aside. What all of them have in common
holds of whole texts.

## Main results

* `lower_lower`: lowering a second time changes nothing.
* `lower_bare`: a trimmed text stays trimmed.
* `lower_eq_plain_iff`: a text of plain small letters is what the plain letters of either case
  become, and nothing else becomes it. The Kelvin sign becomes a small k, so there must be none.

## Proof strategy

The tables are intervals. Whether the letters that a run leads to lie in another run, among the
blanks, or among the plain characters is decided for the ends of the intervals.
-/

namespace ImageVault.Text

/-! ### Runs -/

namespace LowerRun

/-- The least of the small letters that the run leads to. -/
def low (run : LowerRun) : Nat :=
  (run.first + run.shift).toNat

/-- The greatest of them. -/
def high (run : LowerRun) : Nat :=
  (run.last + run.shift).toNat

/-- None of them lies in the interval. -/
def Misses (run : LowerRun) (first last : Nat) : Prop :=
  run.high < first ∨ last < run.low

instance (run : LowerRun) (first last : Nat) : Decidable (run.Misses first last) :=
  inferInstanceAs (Decidable (_ ∨ _))

/-- Whether one of them can be a capital of the other run. In a run of every second character
the small letters lie between the capitals. -/
def mayMeet (run other : LowerRun) : Bool :=
  Nat.ble other.first run.high && Nat.ble run.low other.last &&
    !(other.step == 2 && (run.step == 2 || run.first == run.last) &&
      (run.low + other.first) % 2 == 1)

/-- The small letter that belongs to a character of the run. -/
def LeadsTo (run : LowerRun) (c d : Char) : Prop :=
  run.covers c = true ∧ (d.toNat : Int) = c.toNat + run.shift

theorem covers_iff (run : LowerRun) (c : Char) :
    run.covers c = true ↔
      run.first ≤ c.toNat ∧ c.toNat ≤ run.last ∧ (c.toNat - run.first) % run.step = 0 := by
  simp [covers, and_assoc]

theorem LeadsTo.bounds {run : LowerRun} {c d : Char} (leads : run.LeadsTo c d) :
    run.low ≤ d.toNat ∧ d.toNat ≤ run.high := by
  obtain ⟨covered, shifted⟩ := leads
  rw [covers_iff] at covered
  unfold low high
  omega

theorem Misses.not_mem {run : LowerRun} {first last : Nat} (misses : run.Misses first last)
    {c d : Char} (leads : run.LeadsTo c d) : ¬(first ≤ d.toNat ∧ d.toNat ≤ last) := by
  have bounds := leads.bounds
  unfold Misses at misses
  omega

end LowerRun

theorem lowerRuns_never_meet :
    (lowerRuns.all fun run => lowerRuns.all (!run.mayMeet ·)) = true := by
  decide +kernel

/-- The numbers of small letters are numbers of characters. -/
theorem lowerRuns_valid : ∀ run ∈ lowerRuns, 0 < run.low ∧ run.high < 0xD800 ∨
    0xDFFF < run.low ∧ run.high < 0x110000 := by
  decide +kernel

/-- Neither a semicolon, nor a capital I with a dot above, nor a blank is among them. -/
theorem lowerRuns_miss : ∀ run ∈ lowerRuns,
    ∀ range ∈ (0x3B, 0x3B) :: (0x130, 0x130) :: blankRanges, run.Misses range.1 range.2 := by
  decide +kernel

/-- Plain small letters come from plain capitals, except for one. -/
theorem lowerRuns_plain : ∀ run ∈ lowerRuns, 128 ≤ run.low ∨ run.last < 128 ∨
    run.low = 0x6B ∧ run.high = 0x6B := by
  decide +kernel

/-- A small letter is no capital, of any run. -/
theorem LowerRun.LeadsTo.not_covered {run other : LowerRun} (listed : run ∈ lowerRuns)
    (alsoListed : other ∈ lowerRuns) {c d : Char} (leads : run.LeadsTo c d) :
    other.covers d = false := by
  have apart := List.all_eq_true.mp (List.all_eq_true.mp lowerRuns_never_meet run listed)
    other alsoListed
  have valid := lowerRuns_valid run listed
  have bounds := leads.bounds
  by_contra covered
  rw [Bool.not_eq_false, LowerRun.covers_iff] at covered
  obtain ⟨from_first, to_last, whole⟩ := covered
  -- The intervals do meet, so the runs must be of every second character.
  have overlaps : Nat.ble other.first run.high = true ∧ Nat.ble run.low other.last = true := by
    rw [Nat.ble_eq, Nat.ble_eq]
    omega
  simp only [LowerRun.mayMeet, overlaps.1, overlaps.2, Bool.and_self, Bool.true_and,
    Bool.not_not, Bool.and_eq_true, Bool.or_eq_true, beq_iff_eq] at apart
  obtain ⟨⟨second, single⟩, odd⟩ := apart
  -- There capitals and small letters alternate, and their numbers differ in the last bit.
  obtain ⟨inside, shifted⟩ := leads
  rw [LowerRun.covers_iff] at inside
  rw [second] at whole
  have start : (run.low : Int) = run.first + run.shift := by
    unfold LowerRun.low LowerRun.high at *
    omega
  rcases single with also | one
  · rw [also] at inside
    omega
  · omega

/-! ### One character -/

/-- What may become of a character, whatever stands around it. -/
inductive LowersTo (c : Char) : List Char → Prop
  | same : c.toNat ≠ 0x130 → (∀ run ∈ lowerRuns, run.covers c = false) → LowersTo c [c]
  | dotted : c.toNat = 0x130 → LowersTo c [Char.ofNat 0x69, Char.ofNat 0x307]
  | shifted {run : LowerRun} {d : Char} : run ∈ lowerRuns → run.LeadsTo c d → LowersTo c [d]
  | final : c.toNat = 0x3A3 → LowersTo c [Char.ofNat 0x3C2]

theorem LowerRun.leadsTo_of_covers {run : LowerRun} (listed : run ∈ lowerRuns) {c : Char}
    (covered : run.covers c = true) :
    run.LeadsTo c (Char.ofNat (c.toNat + run.shift).toNat) := by
  have valid := lowerRuns_valid run listed
  have inside := (run.covers_iff c).mp covered
  unfold LowerRun.low LowerRun.high at valid
  refine ⟨covered, ?_⟩
  have isChar : (c.toNat + run.shift).toNat.isValidChar := by
    unfold Nat.isValidChar
    omega
  have written : (Char.ofNat (c.toNat + run.shift).toNat).toNat = (c.toNat + run.shift).toNat := by
    rw [Char.ofNat, dif_pos isChar]
    rfl
  rw [written]
  omega

theorem lowersTo_lowerChar (c : Char) : LowersTo c (lowerChar c) := by
  unfold lowerChar
  split
  next dotted => exact .dotted dotted
  next undotted =>
    split
    next run found =>
      have listed := List.mem_of_find?_eq_some found
      have covered : run.covers c = true :=
        List.find?_some (p := fun run : LowerRun => run.covers c) found
      exact .shifted listed (LowerRun.leadsTo_of_covers listed covered)
    next absent =>
      refine .same undotted fun run listed => ?_
      simpa using List.find?_eq_none.mp absent run listed

theorem lowerChar_of_uncovered {c : Char} (undotted : c.toNat ≠ 0x130)
    (uncovered : ∀ run ∈ lowerRuns, run.covers c = false) : lowerChar c = [c] := by
  have absent : lowerRuns.find? (·.covers c) = none := by
    refine List.find?_eq_none.mpr fun run listed => ?_
    simp [uncovered run listed]
  rw [lowerChar, if_neg undotted, absent]

namespace LowersTo

variable {c d : Char} {image : List Char}

/-- What has become lower case stays as it is. -/
theorem fixed (lowers : LowersTo c image) (member : d ∈ image) : lowerChar d = [d] := by
  have small : ∀ letter ∈ [0x69, 0x307, 0x3C2],
      lowerChar (Char.ofNat letter) = [Char.ofNat letter] := by decide +kernel
  cases lowers with
  | same undotted uncovered =>
    obtain rfl := List.mem_singleton.mp member
    exact lowerChar_of_uncovered undotted uncovered
  | dotted =>
    simp only [List.mem_cons, List.not_mem_nil, or_false] at member
    rcases member with rfl | rfl
    · exact small 0x69 (by simp)
    · exact small 0x307 (by simp)
  | shifted listed leads =>
    obtain rfl := List.mem_singleton.mp member
    -- The letter that a run leads to is in no run, and it is not the dotted capital either.
    have undotted := (lowerRuns_miss _ listed (0x130, 0x130) (by simp)).not_mem leads
    apply lowerChar_of_uncovered
    · omega
    · intro other alsoListed
      exact leads.not_covered listed alsoListed
  | final =>
    obtain rfl := List.mem_singleton.mp member
    exact small 0x3C2 (by simp)

theorem ne_nil (lowers : LowersTo c image) : image ≠ [] := by
  cases lowers <;> simp

theorem isBlank_eq_false (lowers : LowersTo c image) (shown : isBlank c = false)
    (member : d ∈ image) : isBlank d = false := by
  have letters : ∀ letter ∈ [0x69, 0x307, 0x3C2], isBlank (Char.ofNat letter) = false := by
    decide +kernel
  cases lowers with
  | same =>
    obtain rfl := List.mem_singleton.mp member
    exact shown
  | dotted =>
    simp only [List.mem_cons, List.not_mem_nil, or_false] at member
    rcases member with rfl | rfl
    · exact letters 0x69 (by simp)
    · exact letters 0x307 (by simp)
  | shifted listed leads =>
    obtain rfl := List.mem_singleton.mp member
    unfold isBlank CodeRanges.covers
    rw [List.any_eq_false]
    intro range among
    have missed := (lowerRuns_miss _ listed range (by simp [among])).not_mem leads
    simpa using missed
  | final =>
    obtain rfl := List.mem_singleton.mp member
    exact letters 0x3C2 (by simp)

theorem eq_semicolon (lowers : LowersTo c image) (member : ';' ∈ image) : c = ';' := by
  cases lowers with
  | same => exact (List.mem_singleton.mp member).symm
  | dotted => exact absurd member (by decide)
  | shifted listed leads =>
    obtain rfl := List.mem_singleton.mp member
    have missed := (lowerRuns_miss _ listed (0x3B, 0x3B) (by simp)).not_mem leads
    exact absurd (by decide) missed
  | final => exact absurd member (by decide)

/-- Apart from the Kelvin sign, only plain characters become plain ones. -/
theorem plain (lowers : LowersTo c image) (plain : ∀ d ∈ image, d.toNat < 128 ∧ d ≠ 'k') :
    c.toNat < 128 := by
  cases lowers with
  | same => exact (plain c (List.mem_singleton.mpr rfl)).1
  | dotted =>
    have mark := (plain (Char.ofNat 0x307) (by simp)).1
    exact absurd mark (by decide)
  | @shifted run d listed leads =>
    obtain ⟨few, other⟩ := plain d (List.mem_singleton.mpr rfl)
    have bounds := leads.bounds
    have inside := (run.covers_iff c).mp leads.1
    -- A run either leads out of the plain characters, or stays among them, or leads to k.
    rcases lowerRuns_plain run listed with foreign | capital | kelvin
    · omega
    · omega
    · have letter : d.toNat = 0x6B := by omega
      exact absurd (Char.toNat_inj.mp letter) other
  | final =>
    have mark := (plain (Char.ofNat 0x3C2) (by simp)).1
    exact absurd mark (by decide)

end LowersTo

/-! ### Whole texts -/

variable {text : List Char}

/-- Each character has its image, and the images follow one another. -/
theorem exists_images (before text : List Char) :
    ∃ images, List.Forall₂ LowersTo text images ∧ lowerAfter before text = images.flatten := by
  induction text generalizing before with
  | nil => exact ⟨[], .nil, rfl⟩
  | cons c rest ih =>
    obtain ⟨images, lowered, whole⟩ := ih (c :: before)
    rw [lowerAfter, whole]
    -- Only a capital sigma is looked at together with what stands around it.
    split
    next ends =>
      simp only [Bool.and_eq_true, decide_eq_true_eq] at ends
      exact ⟨[Char.ofNat 0x3C2] :: images, .cons (.final ends.1.1) lowered, rfl⟩
    next => exact ⟨lowerChar c :: images, .cons (lowersTo_lowerChar c) lowered, rfl⟩

/-- Of two related lists, each element of the first is related to one of the second. -/
theorem exists_of_forall₂ {α β : Type} {related : α → β → Prop} {first : List α} {second : List β}
    (pairs : List.Forall₂ related first second) {a : α} (member : a ∈ first) :
    ∃ b ∈ second, related a b := by
  induction pairs with
  | nil => cases member
  | @cons c d rest images pair _ ih =>
    rcases List.mem_cons.mp member with rfl | later
    · exact ⟨d, List.mem_cons_self, pair⟩
    · obtain ⟨other, among, pair⟩ := ih later
      exact ⟨other, List.mem_cons_of_mem d among, pair⟩

/-- What a lowered text holds, some character of the text became. -/
theorem mem_lower {d : Char} (member : d ∈ lower text) :
    ∃ c ∈ text, ∃ image, LowersTo c image ∧ d ∈ image := by
  obtain ⟨images, lowered, whole⟩ := exists_images [] text
  rw [lower, whole, List.mem_flatten] at member
  obtain ⟨image, among, inside⟩ := member
  obtain ⟨c, original, lowers⟩ := exists_of_forall₂ lowered.flip among
  exact ⟨c, original, image, lowers, inside⟩

theorem semicolon_not_mem_lower (absent : ';' ∉ text) : ';' ∉ lower text := by
  intro member
  obtain ⟨c, inside, image, lowers, found⟩ := mem_lower member
  rw [lowers.eq_semicolon found] at inside
  exact absent inside

/-- A text of characters that stay stays, for a capital sigma is none of them. -/
theorem lowerAfter_of_fixed (before : List Char) (fixed : ∀ c ∈ text, lowerChar c = [c]) :
    lowerAfter before text = text := by
  have sigma : lowerChar (Char.ofNat 0x3A3) ≠ [Char.ofNat 0x3A3] := by decide +kernel
  induction text generalizing before with
  | nil => rfl
  | cons c rest ih =>
    obtain ⟨first, others⟩ := List.forall_mem_cons.mp fixed
    have other : c.toNat ≠ 0x3A3 := by
      intro capital
      rw [← Char.ofNat_toNat c, capital] at first
      exact sigma first
    simp [lowerAfter, other, first, ih _ others]

theorem lower_lower (text : List Char) : lower (lower text) = lower text := by
  apply lowerAfter_of_fixed
  intro d member
  obtain ⟨c, -, image, lowers, inside⟩ := mem_lower member
  exact lowers.fixed inside

/-- The first character of a lowered text is the first one of the first image. -/
theorem exists_first {images : List (List Char)} (lowered : List.Forall₂ LowersTo text images)
    {d : Char} (first : images.flatten.head? = some d) :
    ∃ c image, text.head? = some c ∧ LowersTo c image ∧ d ∈ image := by
  cases lowered with
  | nil => cases first
  | @cons c image rest images lowers _ =>
    rw [List.flatten_cons, List.head?_append_of_ne_nil _ lowers.ne_nil] at first
    exact ⟨c, image, rfl, lowers, List.mem_of_head? first⟩

/-- The last character is the last one of the last image. -/
theorem exists_last {images : List (List Char)} (lowered : List.Forall₂ LowersTo text images)
    {d : Char} (last : images.flatten.getLast? = some d) :
    ∃ c image, text.getLast? = some c ∧ LowersTo c image ∧ d ∈ image := by
  -- Lists are taken apart from the front, so both are turned around.
  have backwards := List.rel_reverse lowered
  cases reversed : text.reverse with
  | nil =>
    rw [reversed, List.forall₂_nil_left_iff, List.reverse_eq_nil_iff] at backwards
    rw [backwards] at last
    cases last
  | cons c front =>
    rw [reversed, List.forall₂_cons_left_iff] at backwards
    obtain ⟨image, more, lowers, -, others⟩ := backwards
    have cut : images = more.reverse ++ [image] := by
      rw [← List.reverse_reverse images, others, List.reverse_cons]
    rw [cut, List.flatten_append, List.flatten_singleton,
      List.getLast?_append_of_ne_nil _ lowers.ne_nil] at last
    refine ⟨c, image, ?_, lowers, List.mem_of_getLast? last⟩
    rw [List.getLast?_eq_head?_reverse, reversed]
    rfl

theorem lower_bare (bare : HasBareEnds isBlank text) : HasBareEnds isBlank (lower text) := by
  obtain ⟨images, lowered, whole⟩ := exists_images [] text
  change lower text = images.flatten at whole
  rw [whole]
  constructor
  · intro d first
    obtain ⟨c, image, begins, lowers, inside⟩ := exists_first lowered first
    exact lowers.isBlank_eq_false (bare.first c begins) inside
  · intro d last
    obtain ⟨c, image, ends, lowers, inside⟩ := exists_last lowered last
    exact lowers.isBlank_eq_false (bare.last c ends) inside

/-- Plain letters are lowered by themselves. -/
theorem lowerAfter_of_plain (before : List Char) (plain : ∀ c ∈ text, c.toNat < 128) :
    lowerAfter before text = text.map Char.toLower := by
  have each : ∀ code < 128, lowerChar (Char.ofNat code) = [(Char.ofNat code).toLower] := by
    decide +kernel
  induction text generalizing before with
  | nil => rfl
  | cons c rest ih =>
    obtain ⟨first, others⟩ := List.forall_mem_cons.mp plain
    have lowered := each c.toNat first
    rw [Char.ofNat_toNat] at lowered
    have other : c.toNat ≠ 0x3A3 := by omega
    simp [lowerAfter, other, lowered, ih _ others]

/-- Only plain letters have plain letters of the other case. -/
theorem plain_of_map_toLower (plain : ∀ d ∈ text.map Char.toLower, d.toNat < 128) :
    ∀ c ∈ text, c.toNat < 128 := by
  have capitals : ∀ place < 26, (Char.ofNat (65 + place)).toNat < 128 := by decide
  intro c member
  have few := plain c.toLower (List.mem_map_of_mem member)
  rcases toLower_cases c with same | ⟨place, small, rfl⟩
  · rw [same] at few
    exact few
  · exact capitals place small

/-- What becomes plain letters was plain, unless it became a k. -/
theorem lower_eq_plain_iff {small : List Char} (plain : ∀ d ∈ small, d.toNat < 128 ∧ d ≠ 'k') :
    lower text = small ↔ text.map Char.toLower = small := by
  constructor
  · rintro rfl
    have plain_text : ∀ c ∈ text, c.toNat < 128 := by
      intro c member
      obtain ⟨images, lowered, whole⟩ := exists_images [] text
      obtain ⟨image, among, lowers⟩ := exists_of_forall₂ lowered member
      apply lowers.plain
      intro d inside
      apply plain
      rw [lower, whole]
      exact List.mem_flatten.mpr ⟨image, among, inside⟩
    exact (lowerAfter_of_plain [] plain_text).symm
  · rintro rfl
    apply lowerAfter_of_plain
    apply plain_of_map_toLower
    intro d member
    exact (plain d member).1

end ImageVault.Text
