import ImageVault.Http.Site

/-!
# Callers without an identity

A request names a caller, or it is refused for one of two reasons. The reasons depend on the
first header of identity alone.
-/

namespace ImageVault

/-- There is no header of identity, or the first one is empty or no spelling of an
    identifier. -/
def Request.Unidentified (request : Request) : Prop :=
  ∀ text, request.header? "x-user-id" = some text →
    text = "" ∨ Uuid.ofLenient? text.toList = none

namespace Identity

theorem ofHeader_eq_error {header : Option String} {problem : Problem}
    (refused : ofHeader header = .error problem) : problem = missing ∨ problem = invalid := by
  unfold ofHeader at refused
  split at refused
  · cases refused
    exact Or.inl rfl
  · split at refused
    · cases refused
    · cases refused
      exact Or.inr rfl

theorem ofHeader_refuses {header : Option String}
    (unidentified : ∀ text, header = some text → text = "" ∨ Uuid.ofLenient? text.toList = none) :
    ∃ problem, ofHeader header = .error problem := by
  cases header with
  | none => exact ⟨missing, rfl⟩
  | some text =>
    rcases unidentified text rfl with empty | unreadable
    · rw [empty]
      exact ⟨missing, rfl⟩
    · unfold ofHeader
      split
      · exact ⟨missing, rfl⟩
      next present =>
        have unknown : Uuid.ofLenient? ((some text).getD "").toList = none := unreadable
        rw [unknown]
        exact ⟨invalid, rfl⟩

end Identity

theorem Site.identify_refuses {request : Request} (unidentified : request.Unidentified) :
    ∃ problem, Site.identify request = .error problem ∧
      (problem = Identity.missing ∨ problem = Identity.invalid) := by
  obtain ⟨problem, refused⟩ := Identity.ofHeader_refuses unidentified
  exact ⟨problem, refused, Identity.ofHeader_eq_error refused⟩

end ImageVault
