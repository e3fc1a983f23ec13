import ImageVault.Outcome

/-!
# Results of outcomes

Log records never decide how an operation ends: the result of steps in a row is that of
their results in a row. The results themselves are exceptions, whose operations simplify by
constructor.
-/

namespace ImageVault

variable {ε ζ α β : Type}

/-! ### Exceptions by constructor -/

@[simp]
theorem ok_bind (value : α) (next : α → Except ε β) :
    (Except.ok value >>= next) = next value := rfl

@[simp]
theorem error_bind (error : ε) (next : α → Except ε β) :
    (Except.error error >>= next) = .error error := rfl

@[simp]
theorem pure_eq_ok (value : α) : (pure value : Except ε α) = .ok value := rfl

@[simp]
theorem throw_eq_error (error : ε) : (throw error : Except ε α) = .error error := rfl

@[simp]
theorem mapError_ok (rename : ε → ζ) (value : α) :
    (Except.ok value : Except ε α).mapError rename = .ok value := rfl

@[simp]
theorem mapError_error (rename : ε → ζ) (error : ε) :
    (Except.error error : Except ε α).mapError rename = .error (rename error) := rfl

theorem bind_eq_ok_iff (first : Except ε α) (next : α → Except ε β) (result : β) :
    first >>= next = .ok result ↔ ∃ value, first = .ok value ∧ next value = .ok result := by
  cases first <;> simp

theorem map_eq_ok_iff (first : Except ε α) (f : α → β) (result : β) :
    first.map f = .ok result ↔ ∃ value, first = .ok value ∧ f value = result := by
  cases first <;> simp [Except.map]

theorem mapError_eq_ok_iff (first : Except ε α) (rename : ε → ζ) (value : α) :
    first.mapError rename = .ok value ↔ first = .ok value := by
  cases first <;> simp

/-! ### Outcomes by their results -/

namespace Outcome

@[simp]
theorem result_value (value : α) : (Outcome.value value).result = .ok value := rfl

@[simp]
theorem result_fault (fault : Fault) : (Outcome.fault fault : Outcome α).result = .error fault :=
  rfl

@[simp]
theorem result_failure (failure : Failure) :
    (Outcome.failure failure : Outcome α).result = .error (.failure failure) := rfl

@[simp]
theorem result_ofFaulty (result : Except Fault α) : (ofFaulty result).result = result := rfl

@[simp]
theorem result_after (logs : List LogRecord) (outcome : Outcome α) :
    (outcome.after logs).result = outcome.result := rfl

@[simp]
theorem result_thenLog (outcome : Outcome α) (logs : List LogRecord) :
    (outcome.thenLog logs).result = outcome.result := rfl

@[simp]
theorem result_pure (value : α) : (pure value : Outcome α).result = .ok value := rfl

@[simp]
theorem result_bind (outcome : Outcome α) (next : α → Outcome β) :
    (outcome >>= next).result = outcome.result >>= fun value => (next value).result := by
  change (outcome.andThen next).result = _
  unfold andThen
  cases outcome.result <;> rfl

/-! ### Records of steps in a row -/

/-- The second step is written about only if there is one. -/
theorem logs_bind (outcome : Outcome α) (next : α → Outcome β) :
    (outcome >>= next).logs =
      outcome.logs ++ outcome.result.toOption.elim [] fun value => (next value).logs := by
  change (outcome.andThen next).logs = _
  unfold andThen
  cases outcome.result with
  | ok value => rfl
  | error fault => exact (List.append_nil outcome.logs).symm

@[simp]
theorem logs_after (logs : List LogRecord) (outcome : Outcome α) :
    (outcome.after logs).logs = logs ++ outcome.logs := rfl

@[simp]
theorem logs_ofFaulty (result : Except Fault α) : (ofFaulty result).logs = [] := rfl

@[simp]
theorem logs_pure (value : α) : (pure value : Outcome α).logs = [] := rfl

/-- The outcome is a failure of this kind. -/
def FailsWith (kind : FailureKind) (outcome : Outcome α) : Prop :=
  ∃ failure, outcome.result = .error (.failure failure) ∧ failure.kind = kind

end Outcome

end ImageVault
