import Mathlib.Algebra.Group.Nat.Defs
import ImageVault.Text.Hex

/-!
# Hexadecimal text, written and read

Digits read back as the number that they were written from, as far as the width goes.
-/

namespace ImageVault.Text

/-! ### One digit -/

theorem hexValue?_hexDigit {digit : Nat} (small : digit < 16) :
    hexValue? (hexDigit digit) = some digit := by
  have each : ∀ digit < 16, hexValue? (hexDigit digit) = some digit := by decide
  exact each digit small

/-- Written digits are plain characters that separate nothing. -/
theorem hexDigit_separates_nothing {digit : Nat} (small : digit < 16) :
    hexDigit digit ≠ '-' ∧ hexDigit digit ≠ '/' ∧ (hexDigit digit).toNat < 256 := by
  have each : ∀ digit < 16, hexDigit digit ≠ '-' ∧ hexDigit digit ≠ '/' ∧
      (hexDigit digit).toNat < 256 := by decide
  exact each digit small

/-! ### Letters of either case -/

/-- Only the capital letters are changed. -/
theorem toLower_cases (c : Char) : c.toLower = c ∨ ∃ place < 26, c = Char.ofNat (65 + place) := by
  unfold Char.toLower
  split
  next capital =>
    have bounds : 65 ≤ c.toNat ∧ c.toNat ≤ 90 := by
      simpa [UInt32.le_iff_toNat_le] using capital
    refine Or.inr ⟨c.toNat - 65, by omega, ?_⟩
    rw [Nat.add_sub_cancel' bounds.1, Char.ofNat_toNat]
  next => exact Or.inl rfl

theorem isHexDigit_of_toLower {c : Char} (digit : isHexDigit c.toLower = true) :
    isHexDigit c = true := by
  have capitals : ∀ place < 26, isHexDigit (Char.ofNat (65 + place)).toLower = true →
      isHexDigit (Char.ofNat (65 + place)) = true := by decide
  rcases toLower_cases c with same | ⟨place, small, rfl⟩
  · rw [same] at digit
    exact digit
  · exact capitals place small digit

theorem eq_hyphen_of_toLower {c : Char} (hyphen : c.toLower = '-') : c = '-' := by
  have capitals : ∀ place < 26, (Char.ofNat (65 + place)).toLower ≠ '-' := by decide
  rcases toLower_cases c with same | ⟨place, small, rfl⟩
  · exact same.symm.trans hyphen
  · exact absurd hyphen (capitals place small)

/-! ### Padded numbers -/

theorem hexPadded_length (width n : Nat) : (hexPadded width n).length = width := by
  induction width generalizing n with
  | zero => rfl
  | succ width ih => simp [hexPadded, ih]

theorem mem_hexPadded {width n : Nat} {c : Char} (member : c ∈ hexPadded width n) :
    ∃ digit < 16, c = hexDigit digit := by
  induction width generalizing n with
  | zero => cases member
  | succ width ih =>
    rw [hexPadded, List.mem_append] at member
    rcases member with high | low
    · exact ih high
    · exact ⟨n % 16, Nat.mod_lt n (by decide), List.mem_singleton.mp low⟩

theorem mem_hexOfBytes {bytes : Bytes} {c : Char} (member : c ∈ hexOfBytes bytes) :
    ∃ digit < 16, c = hexDigit digit := by
  obtain ⟨byte, -, written⟩ := List.mem_flatMap.mp member
  exact mem_hexPadded written

theorem hexOfBytes_length (bytes : Bytes) : (hexOfBytes bytes).length = 2 * bytes.length := by
  simp [hexOfBytes, List.length_flatMap, hexPadded_length, List.map_const', Nat.mul_comm]

theorem hexNumber?_hexPadded (width n : Nat) :
    hexNumber? (hexPadded width n) = some (n % 16 ^ width) := by
  induction width generalizing n with
  | zero => simp [hexNumber?, hexPadded, Nat.mod_one]
  | succ width ih =>
    have high : List.foldlM (fun total c => (hexValue? c).map (16 * total + ·)) 0
        (hexPadded width (n / 16)) = some (n / 16 % 16 ^ width) := ih (n / 16)
    have low : hexValue? (hexDigit (n % 16)) = some (n % 16) :=
      hexValue?_hexDigit (Nat.mod_lt n (by decide))
    -- The last digit is the remainder, the digits before it spell the quotient.
    have parts : n % 16 ^ (width + 1) = 16 * (n / 16 % 16 ^ width) + n % 16 := by
      rw [Nat.pow_succ', Nat.mod_mul]
      omega
    simp [hexNumber?, hexPadded, List.foldlM_append, high, low, parts]

/-! ### Numbers that digits spell -/

/-- Each class of digits is an interval, from whose start the value is counted. -/
theorem hexValue?_cases {c : Char} {value : Nat} (known : hexValue? c = some value) :
    (48 ≤ c.toNat ∧ c.toNat ≤ 57 ∧ value = c.toNat - 48) ∨
      (97 ≤ c.toNat ∧ c.toNat ≤ 102 ∧ value = c.toNat - 87) ∨
      (65 ≤ c.toNat ∧ c.toNat ≤ 70 ∧ value = c.toNat - 55) := by
  unfold hexValue? at known
  split at known
  next digit =>
    have bounds : 48 ≤ c.toNat ∧ c.toNat ≤ 57 := Char.isDigit_iff_toNat.mp digit
    exact Or.inl ⟨bounds.1, bounds.2, (Option.some.inj known).symm⟩
  next =>
    split at known
    next small =>
      have bounds : 97 ≤ c.toNat ∧ c.toNat ≤ 102 := by
        simpa [Char.le_def, UInt32.le_iff_toNat_le] using small
      exact Or.inr (Or.inl ⟨bounds.1, bounds.2, (Option.some.inj known).symm⟩)
    next =>
      split at known
      next capital =>
        have bounds : 65 ≤ c.toNat ∧ c.toNat ≤ 70 := by
          simpa [Char.le_def, UInt32.le_iff_toNat_le] using capital
        exact Or.inr (Or.inr ⟨bounds.1, bounds.2, (Option.some.inj known).symm⟩)
      next => cases known

theorem hexValue?_lt {c : Char} {value : Nat} (known : hexValue? c = some value) : value < 16 := by
  rcases hexValue?_cases known with decimal | small | capital <;> omega

/-- The last of the digits is the small letter f. -/
theorem toNat_lt_of_isHexDigit {c : Char} (digit : isHexDigit c = true) : c.toNat < 127 := by
  obtain ⟨value, known⟩ := Option.isSome_iff_exists.mp digit
  rcases hexValue?_cases known with decimal | small | capital <;> omega

theorem hexDigits_of_foldlM {digits : List Char} {start total : Nat}
    (read : digits.foldlM (fun total c => (hexValue? c).map (16 * total + ·)) start = some total) :
    ∀ c ∈ digits, isHexDigit c = true := by
  induction digits generalizing start with
  | nil => simp
  | cons c rest ih =>
    rw [List.foldlM_cons] at read
    obtain ⟨next, first, later⟩ := Option.bind_eq_some_iff.mp read
    obtain ⟨value, known, -⟩ := Option.map_eq_some_iff.mp first
    exact List.forall_mem_cons.mpr ⟨by simp [isHexDigit, known], ih later⟩

/-- Each digit multiplies what can be spelled by sixteen. -/
theorem foldlM_of_hexDigits {digits : List Char} (start : Nat)
    (hex : ∀ c ∈ digits, isHexDigit c = true) :
    ∃ total < (start + 1) * 16 ^ digits.length,
      digits.foldlM (fun total c => (hexValue? c).map (16 * total + ·)) start = some total := by
  -- The number read so far is where the rest starts, so the start is kept general.
  induction digits generalizing start with
  | nil => exact ⟨start, by simp, rfl⟩
  | cons c rest ih =>
    obtain ⟨digit, hex⟩ := List.forall_mem_cons.mp hex
    obtain ⟨value, known⟩ := Option.isSome_iff_exists.mp digit
    obtain ⟨total, bound, read⟩ := ih (16 * start + value) hex
    have small := hexValue?_lt known
    refine ⟨total, ?_, ?_⟩
    · calc total < (16 * start + value + 1) * 16 ^ rest.length := bound
        _ ≤ ((start + 1) * 16) * 16 ^ rest.length := Nat.mul_le_mul_right _ (by omega)
        _ = (start + 1) * 16 ^ (c :: rest).length := by
          rw [List.length_cons, Nat.pow_succ', Nat.mul_assoc]
    · rw [List.foldlM_cons, known]
      exact read

theorem hexDigits_of_hexNumber? {digits : List Char} {number : Nat}
    (read : hexNumber? digits = some number) : ∀ c ∈ digits, isHexDigit c = true :=
  hexDigits_of_foldlM read

theorem hexNumber?_of_hexDigits {digits : List Char} (hex : ∀ c ∈ digits, isHexDigit c = true) :
    ∃ number < 16 ^ digits.length, hexNumber? digits = some number := by
  have read := foldlM_of_hexDigits 0 hex
  rw [Nat.zero_add, Nat.one_mul] at read
  exact read

/-! ### Bytes -/

theorem hexByte_injective {first second : UInt8}
    (same : hexPadded 2 first.toNat = hexPadded 2 second.toNat) : first = second := by
  have read := congrArg hexNumber? same
  have small : ∀ byte : UInt8, byte.toNat < 16 ^ 2 := UInt8.toNat_lt
  rw [hexNumber?_hexPadded, hexNumber?_hexPadded, Nat.mod_eq_of_lt (small first),
    Nat.mod_eq_of_lt (small second)] at read
  exact UInt8.toNat_inj.mp (Option.some.inj read)

/-- Two digits a byte, so the digits tell where a byte ends. -/
theorem hexOfBytes_injective {first second : Bytes}
    (same : hexOfBytes first = hexOfBytes second) : first = second := by
  have lengths := congrArg List.length same
  rw [hexOfBytes_length, hexOfBytes_length] at lengths
  induction first generalizing second with
  | nil =>
    cases second with
    | nil => rfl
    | cons byte rest => simp at lengths
  | cons byte rest ih =>
    cases second with
    | nil => simp at lengths
    | cons other more =>
      obtain ⟨high, low⟩ := List.append_inj (same : hexPadded 2 byte.toNat ++ hexOfBytes rest =
        hexPadded 2 other.toNat ++ hexOfBytes more) rfl
      rw [hexByte_injective high, ih low (by simp at lengths; omega)]

end ImageVault.Text
