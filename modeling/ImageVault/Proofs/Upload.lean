import ImageVault.Upload

/-!
# Streams and what is received of them

Whatever is received is the whole stream, in its order: there are no partial payloads.
-/

namespace ImageVault

namespace ChunkStream

/-- An interruption never lets anything through. -/
theorem interrupted_ne_ok (consumed received : Nat) (interruption : Interruption)
    (content : Bytes) : (interrupted consumed received interruption).outcome ≠ .ok content := by
  unfold interrupted
  split <;> simp

theorem finish_eq_ok_iff (stream : ChunkStream) (content : Bytes) :
    stream.finish.outcome = .ok content ↔
      stream.interruption = none ∧ stream.chunks.flatten = content := by
  unfold finish
  split
  next interruption broken => simp [broken, interrupted_ne_ok]
  next whole => simp [whole]

theorem receive_eq_ok {stream : ChunkStream} {limit : Option Int} {content : Bytes}
    (received : (stream.receive limit).outcome = .ok content) :
    content = stream.chunks.flatten := by
  unfold receive at received
  split at received
  · exact ((finish_eq_ok_iff stream content).mp received).2.symm
  · split at received
    · cases received
    · exact ((finish_eq_ok_iff stream content).mp received).2.symm

/-- A stream of which no chunk exceeds the limit is within it at its end. -/
theorem length_le_of_firstExcess?_eq_none {limit : Int} {total : Nat} {chunks : List Bytes}
    (within : firstExcess? limit total chunks = none) (nonempty : chunks ≠ []) :
    ((total + chunks.flatten.length : Nat) : Int) ≤ limit := by
  induction chunks generalizing total with
  | nil => exact (nonempty rfl).elim
  | cons chunk rest ih =>
    simp only [firstExcess?] at within
    split at within
    · cases within
    next fits =>
      cases rest with
      | nil =>
        rw [List.flatten_singleton]
        exact Int.not_lt.mp fits
      | cons next rest =>
        have later := ih (Option.map_eq_none_iff.mp within) (List.cons_ne_nil next rest)
        rw [List.flatten_cons, List.length_append, ← Nat.add_assoc]
        exact later

/-- Whatever is received under a limit keeps it; an empty stream keeps no negative one. -/
theorem length_le_of_receive {stream : ChunkStream} {limit : Int} {content : Bytes}
    (received : (stream.receive (some limit)).outcome = .ok content) (present : content ≠ []) :
    (content.length : Int) ≤ limit := by
  have whole := receive_eq_ok received
  subst whole
  simp only [receive] at received
  split at received
  · cases received
  next within =>
    have nonempty : stream.chunks ≠ [] := by
      intro unsent
      rw [unsent] at present
      exact present rfl
    have bounded := length_le_of_firstExcess?_eq_none within nonempty
    rwa [Nat.zero_add] at bounded

end ChunkStream

end ImageVault
