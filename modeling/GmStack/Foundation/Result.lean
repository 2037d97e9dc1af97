import Mathlib.Data.List.Basic

/-! Rules for computations in `Except`. -/

namespace GmStack.Foundation

variable {ε ε' α β : Type}

/-- The computation failed, with some error. -/
def Fails (result : Except ε α) : Prop := ∃ error, result = .error error

lemma fails_error (error : ε) : Fails (.error error : Except ε α) := ⟨error, rfl⟩

lemma not_fails_ok (value : α) : ¬ Fails (.ok value : Except ε α) := by
  rintro ⟨error, herror⟩
  cases herror

lemma ok_or_fails (result : Except ε α) : (∃ value, result = .ok value) ∨ Fails result := by
  cases result with
  | ok value => exact Or.inl ⟨value, rfl⟩
  | error error => exact Or.inr (fails_error error)

variable {result : Except ε α}

lemma exists_eq_ok_of_isOk (hok : result.isOk = true) : ∃ value, result = .ok value := by
  cases result with
  | ok value => exact ⟨value, rfl⟩
  | error error => cases hok

variable {first : Except ε α}

lemma bind_eq_ok {next : α → Except ε β} {result : β} :
    (first >>= next) = .ok result ↔ ∃ value, first = .ok value ∧ next value = .ok result := by
  cases first with
  | ok value => simp [bind, Except.bind]
  | error error => simp [bind, Except.bind]

variable {next : Unit → Except ε β} {error : ε}

lemma unit_bind_eq_ok {first : Except ε Unit} {result : β} :
    (first >>= next) = .ok result ↔ first = .ok () ∧ next () = .ok result := by
  rw [bind_eq_ok]
  exact ⟨fun ⟨⟨⟩, hfirst, hnext⟩ ↦ ⟨hfirst, hnext⟩, fun ⟨hfirst, hnext⟩ ↦ ⟨(), hfirst, hnext⟩⟩

@[simp] lemma ok_bind (value : α) (next : α → Except ε β) :
    (Except.ok value >>= next) = next value := rfl

@[simp] lemma error_bind (error : ε) (next : α → Except ε β) : (Except.error error >>= next) =
    .error error := rfl

lemma fails_bind_of_forall {next : α → Except ε β}
    (hnext : ∀ value, first = .ok value → Fails (next value)) : Fails (first >>= next) := by
  cases first with
  | ok value => exact hnext value rfl
  | error error => exact fails_error error

/-- The guard `if condition { return Err(error) }`. -/
def rejectIf (condition : Prop) [Decidable condition] (error : ε) : Except ε Unit :=
  if condition then .error error else .ok ()

variable {condition : Prop}

@[simp] lemma rejectIf_eq_ok [Decidable condition] {result : Unit} :
    rejectIf condition error = .ok result ↔ ¬ condition := by
  unfold rejectIf
  split_ifs with hcond <;> simp [hcond]

@[simp] lemma rejectIf_eq_error [Decidable condition] {found : ε} :
    rejectIf condition error = .error found ↔ condition ∧ error = found := by
  unfold rejectIf
  split_ifs with hcond <;> simp [hcond]

lemma rejectIf_pos [Decidable condition] (hcond : condition)
    (error : ε) : rejectIf condition error = .error error := if_pos hcond

lemma rejectIf_neg [Decidable condition] (hcond : ¬ condition)
    (error : ε) : rejectIf condition error = .ok () := if_neg hcond

lemma rejectIf_bind [Decidable condition] (hcond : ¬ condition) :
    (rejectIf condition error >>= next) = next () := by
  rw [rejectIf_neg hcond, ok_bind]

lemma rejectIf_ne_bind {first second : α} [Decidable (first ≠ second)] (heq : first = second)
    : (rejectIf (first ≠ second) error >>= next) = next () :=
  rejectIf_bind (not_not.mpr heq)

@[simp] lemma mapError_ok (wrap : ε → ε') (value : α) :
    (Except.ok value : Except ε α).mapError wrap = .ok value := rfl

@[simp] lemma mapError_error (wrap : ε → ε') (error : ε) :
    (Except.error error : Except ε α).mapError wrap = .error (wrap error) := rfl

@[simp] lemma mapError_eq_ok {wrap : ε → ε'} {value : α} : result.mapError wrap = .ok value ↔
    result = .ok value := by
  cases result <;> simp

lemma toOption_eq_some {value : α} : result.toOption = some value ↔ result = .ok value := by
  cases result <;> simp [Except.toOption]

variable {body : α → Except ε Unit} {items : List α}

lemma forM_eq_ok {result : Unit} : items.forM body = .ok result ↔ ∀ item ∈ items,
    body item = .ok () := by
  induction items with
  | nil => simp [pure, Except.pure]
  | cons item rest ih =>
    simp only [List.forM_eq_forM, List.forM_cons] at ih ⊢
    rw [bind_eq_ok]
    simp only [ih, List.forall_mem_cons]
    constructor
    · rintro ⟨⟨⟩, hitem, hrest⟩
      exact ⟨hitem, hrest⟩
    · rintro ⟨hitem, hrest⟩
      exact ⟨(), hitem, hrest⟩

lemma forM_fails_of_mem {item : α} (hmem : item ∈ items) (hitem : Fails (body item)) :
    Fails (items.forM body) := by
  obtain ⟨value, hok⟩ | hfails := ok_or_fails (items.forM body)
  · exact absurd hitem (by rw [forM_eq_ok.mp hok item hmem]; exact not_fails_ok _)
  · exact hfails

end GmStack.Foundation
