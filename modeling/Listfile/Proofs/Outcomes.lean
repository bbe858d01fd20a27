import Listfile.Attempt
import Listfile.Proofs.Lists
import Mathlib.Data.List.Forall2

set_option autoImplicit false

/-! When a sequence of steps succeeds, and with what. A sequence over a list succeeds exactly when every item
does, and then its results stand in the order of the items. -/

namespace Listfile

variable {ε α β γ : Type}

theorem ok_bind (value : α) (next : α → Except ε β) : (Except.ok value >>= next) = next value := rfl

theorem bind_eq_ok_iff (first : Except ε α) (next : α → Except ε β) (result : β) :
    first >>= next = .ok result ↔ ∃ value, first = .ok value ∧ next value = .ok result := by
  cases first with
  | error problem =>
      constructor
      · intro impossible
        cases impossible
      · intro premise
        obtain ⟨value, impossible, _rest⟩ := premise
        cases impossible
  | ok value =>
      constructor
      · intro succeeded
        exact ⟨value, rfl, succeeded⟩
      · intro premise
        obtain ⟨other, same, succeeded⟩ := premise
        cases same
        exact succeeded

theorem bind_eq_error_iff (first : Except ε α) (next : α → Except ε β) (problem : ε) :
    first >>= next = .error problem ↔
      first = .error problem ∨ ∃ value, first = .ok value ∧ next value = .error problem := by
  cases first with
  | error other =>
      constructor
      · intro failed
        cases failed
        exact Or.inl rfl
      · intro premise
        rcases premise with failed | ⟨value, impossible, _rest⟩
        · cases failed
          rfl
        · cases impossible
  | ok value =>
      constructor
      · intro failed
        exact Or.inr ⟨value, rfl, failed⟩
      · intro premise
        rcases premise with impossible | ⟨other, same, failed⟩
        · cases impossible
        · cases same
          exact failed

theorem exists_of_toBool {outcome : Except ε α} (succeeds : outcome.toBool = true) :
    ∃ value, outcome = .ok value := by
  cases outcome with
  | error problem => cases succeeds
  | ok value => exact ⟨value, rfl⟩

theorem map_eq_error_iff (change : α → β) (outcome : Except ε α) (problem : ε) :
    outcome.map change = .error problem ↔ outcome = .error problem := by
  cases outcome <;> simp [Except.map]

theorem map_eq_ok_iff (change : α → β) (outcome : Except ε α) (result : β) :
    outcome.map change = .ok result ↔ ∃ value, outcome = .ok value ∧ change value = result := by
  cases outcome <;> simp [Except.map]

theorem mapM_eq_ok_iff (step : α → Except ε β) (items : List α) (results : List β) :
    items.mapM step = .ok results ↔ List.Forall₂ (fun item result => step item = .ok result) items results := by
  induction items generalizing results with
  | nil =>
      rw [List.mapM_nil, List.forall₂_nil_left_iff]
      change Except.ok [] = Except.ok results ↔ results = []
      rw [Except.ok.injEq]
      exact eq_comm
  | cons item items ih =>
      rw [List.mapM_cons, bind_eq_ok_iff, List.forall₂_cons_left_iff]
      constructor
      · intro premise
        obtain ⟨result, stepped, rest⟩ := premise
        obtain ⟨others, steppedAll, same⟩ := (bind_eq_ok_iff _ _ _).1 rest
        cases same
        exact ⟨result, others, stepped, (ih others).1 steppedAll, rfl⟩
      · intro premise
        obtain ⟨result, others, stepped, steppedAll, same⟩ := premise
        rw [same]
        exact ⟨result, stepped, (bind_eq_ok_iff _ _ _).2 ⟨others, (ih others).2 steppedAll, rfl⟩⟩

theorem mapM_succeeds_iff (step : α → Except ε β) (items : List α) :
    (∃ results, items.mapM step = .ok results) ↔ ∀ item ∈ items, ∃ result, step item = .ok result := by
  simp only [mapM_eq_ok_iff]
  induction items with
  | nil => simp
  | cons item items ih =>
      rw [List.forall_mem_cons, ← ih]
      constructor
      · intro premise
        obtain ⟨results, related⟩ := premise
        obtain ⟨result, others, stepped, rest, _same⟩ := List.forall₂_cons_left_iff.1 related
        exact ⟨⟨result, stepped⟩, others, rest⟩
      · intro premise
        obtain ⟨⟨result, stepped⟩, others, rest⟩ := premise
        exact ⟨result :: others, .cons stepped rest⟩

theorem exists_mem_of_mapM_eq_error {step : α → Except ε β} {items : List α} {problem : ε}
    (failed : items.mapM step = .error problem) : ∃ item ∈ items, step item = .error problem := by
  induction items with
  | nil => cases failed
  | cons item items ih =>
      rw [List.mapM_cons, bind_eq_error_iff] at failed
      rcases failed with here | ⟨result, _stepped, later⟩
      · exact ⟨item, List.mem_cons_self, here⟩
      · rw [bind_eq_error_iff] at later
        rcases later with rest | ⟨results, _all, impossible⟩
        · obtain ⟨other, member, there⟩ := ih rest
          exact ⟨other, List.mem_cons_of_mem _ member, there⟩
        · cases impossible

theorem mapM_eq_of_forall₂ {m : Type → Type} [Monad m] [LawfulMonad m] {relation : α → β → Prop} {read : α → m γ}
    {readOther : β → m γ} {items : List α} {others : List β} (related : List.Forall₂ relation items others)
    (alike : ∀ item other, relation item other → read item = readOther other) :
    items.mapM read = others.mapM readOther := by
  induction related with
  | nil => rw [List.mapM_nil, List.mapM_nil]
  | cons head rest ih => rw [List.mapM_cons, List.mapM_cons, alike _ _ head, ih]

theorem mapM_filled_eq_ok_iff (problem : ε) (step : α → Except ε β) (items : List α) (results : List β) :
    (if items.isEmpty = true then .error problem else items.mapM step) = .ok results ↔
      items ≠ [] ∧ List.Forall₂ (fun item result => step item = .ok result) items results := by
  cases items with
  | nil => simp
  | cons first others =>
      rw [if_neg (by simp), mapM_eq_ok_iff]
      simp

namespace Attempt

@[simp] theorem outcome_lift (outcome : Except ε α) : (liftM outcome : Attempt ε α).outcome = outcome := rfl

theorem lift_ok_bind (value : α) (next : α → Attempt ε β) :
    ((liftM (Except.ok value : Except ε α) : Attempt ε α) >>= next) = next value := rfl

theorem lift_map_bind {γ : Type} (outcome : Except ε α) (change : α → γ) (next : γ → Attempt ε β) :
    ((liftM (outcome.map change) : Attempt ε γ) >>= next) = (liftM outcome : Attempt ε α) >>= fun value =>
      next (change value) := by
  cases outcome <;> rfl

theorem outcome_mapM (step : α → Attempt ε β) (items : List α) :
    (items.mapM step).outcome = items.mapM fun item => (step item).outcome := by
  induction items with
  | nil => rfl
  | cons item items ih => simp only [List.mapM_cons, outcome_bind, outcome_pure, ih]; rfl

end Attempt

end Listfile
