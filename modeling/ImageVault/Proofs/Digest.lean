import ImageVault.Digest.Blake2b

/-!
# The length of a digest

Every block leaves eight words, however it is mixed. So a digest has as many bytes as are
asked for, up to the 64 bytes of the words.
-/

namespace ImageVault.Digest

theorem bytesOfWord_length (word : UInt64) : (bytesOfWord word).length = 8 := by
  simp [bytesOfWord]

theorem compress_size (chain : Words) (block : Bytes) (count : Nat) (last : Bool) :
    (compress chain block count last).size = 8 := by
  simp [compress]

theorem absorb_size {chain : Words} (eight : chain.size = 8) (fuel count : Nat)
    (message : Bytes) : (absorb fuel chain count message).size = 8 := by
  induction fuel generalizing chain count message with
  | zero => exact eight
  | succ fuel ih =>
    rw [absorb]
    split
    next => exact compress_size chain message (count + message.length) true
    next => exact ih (compress_size chain (message.take 128) (count + 128) false) _ _

theorem blake2b_length {size : Nat} (small : size ≤ 64) (message : Bytes) :
    (blake2b size message).length = size := by
  have initial : (blake2bInitial.setIfInBounds 0
      (word blake2bInitial 0 ^^^ (0x01010000 ^^^ size.toUInt64))).size = 8 := by
    rw [Array.size_setIfInBounds]
    rfl
  have words := absorb_size initial (message.length + 1) 0 message
  rw [← Array.length_toList] at words
  have bytes : ∀ words : List UInt64, (words.flatMap bytesOfWord).length = 8 * words.length := by
    intro words
    simp [List.length_flatMap, bytesOfWord_length, List.map_const', Nat.mul_comm]
  rw [blake2b, List.length_take, bytes, words]
  omega

end ImageVault.Digest
