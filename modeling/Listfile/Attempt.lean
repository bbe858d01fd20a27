import Listfile.Log

set_option autoImplicit false

/-! Computations that log and may fail. What was logged before a failure is kept. `outcome` forgets the
log and carries every step over to `Except`, so that statements about results need not mention it. -/

namespace Listfile

structure Attempt (ε α : Type) where
  log : List LogRecord
  outcome : Except ε α

namespace Attempt

variable {ε ε' α β : Type}

def succeed (value : α) : Attempt ε α := ⟨[], .ok value⟩

def fail (problem : ε) : Attempt ε α := ⟨[], .error problem⟩

def note (records : List LogRecord) : Attempt ε Unit := ⟨records, .ok ()⟩

def ofExcept (outcome : Except ε α) : Attempt ε α := ⟨[], outcome⟩

def andThen (first : Attempt ε α) (next : α → Attempt ε β) : Attempt ε β :=
  match first.outcome with
  | .ok value => ⟨first.log ++ (next value).log, (next value).outcome⟩
  | .error problem => ⟨first.log, .error problem⟩

def mapError (convert : ε → ε') (attempt : Attempt ε α) : Attempt ε' α :=
  ⟨attempt.log, attempt.outcome.mapError convert⟩

instance : Monad (Attempt ε) where
  pure := succeed
  bind := andThen

instance : MonadLift (Except ε) (Attempt ε) where
  monadLift := ofExcept

@[simp] theorem outcome_pure (value : α) : (pure value : Attempt ε α).outcome = .ok value := rfl

@[simp] theorem outcome_fail (problem : ε) : (fail problem : Attempt ε α).outcome = .error problem := rfl

@[simp] theorem outcome_note (records : List LogRecord) : (note records : Attempt ε Unit).outcome = .ok () := rfl

@[simp] theorem outcome_ofExcept (outcome : Except ε α) : (ofExcept outcome).outcome = outcome := rfl

@[simp] theorem outcome_bind (first : Attempt ε α) (next : α → Attempt ε β) :
    (first >>= next).outcome = first.outcome >>= fun value => (next value).outcome := by
  show (andThen first next).outcome = _
  unfold andThen
  cases h : first.outcome <;> rfl

theorem ext_fields {left right : Attempt ε α} (sameLog : left.log = right.log)
    (sameOutcome : left.outcome = right.outcome) : left = right := by
  cases left
  cases right
  simp_all

instance : LawfulMonad (Attempt ε) := LawfulMonad.mk' _
  (fun attempt => by
    show andThen attempt (fun value => succeed value) = attempt
    unfold andThen succeed
    cases h : attempt.outcome <;> exact ext_fields (by simp) h.symm)
  (fun value next => by
    show andThen (succeed value) next = next value
    simp [andThen, succeed])
  (fun attempt next last => by
    show andThen (andThen attempt next) last = andThen attempt fun value => andThen (next value) last
    unfold andThen
    cases attempt.outcome with
    | error problem => rfl
    | ok value =>
      dsimp only
      cases (next value).outcome with
      | error problem => rfl
      | ok value => simp [List.append_assoc])

end Attempt

end Listfile
