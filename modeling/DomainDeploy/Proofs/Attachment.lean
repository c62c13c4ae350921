import DomainDeploy.DeployError

/-!
# Errors in layers

An error to which others are attached may itself become the primary one of another, so an error
stands under any number of layers, each a list of attached errors. Every error is put together
again from its bottom and its layers (`covered_layers`), and the bottom alone says what the error
is: its phase and its wording are those of the bottom.

Attaching touches the outermost layer and no other. It is an action of the lists of errors
(`attach_isAction`): attaching two lists in turn is attaching the one behind the other.
-/

namespace DomainDeploy.DeployError

/-- The error stands under no layer, not even under an empty one. -/
def isBare : DeployError → Bool
  | suppressed .. => false
  | _ => true

/-- The lists that are attached to an error, from the innermost layer to the outermost. -/
def layers : DeployError → List (List DeployError)
  | suppressed primary attached => primary.layers ++ [attached]
  | _ => []

/-- The error under further layers. -/
def covered (e : DeployError) (layers : List (List DeployError)) : DeployError :=
  layers.foldl suppressed e

theorem covered_nil (e : DeployError) : e.covered [] = e := rfl

theorem covered_concat (e : DeployError) (layers : List (List DeployError))
    (outermost : List DeployError) :
    e.covered (layers ++ [outermost]) = suppressed (e.covered layers) outermost := by
  simp [covered]

variable {e : DeployError} {errors : List DeployError}

/-! ### What stands at the bottom -/

theorem isBare_or_suppressed (e : DeployError) :
    e.isBare ∨ ∃ under attached, e = suppressed under attached := by
  cases e with
  | suppressed under attached => exact .inr ⟨under, attached, rfl⟩
  | _ => exact .inl rfl

theorem primary_of_isBare (h : e.isBare) : e.primary = e := by
  cases e <;> first | rfl | cases h

theorem layers_of_isBare (h : e.isBare) : e.layers = [] := by
  cases e <;> first | rfl | cases h

/-- What holds of bare errors, and of an error under one more layer, holds of every error. The
errors that are attached take no part in it. -/
theorem layerInduction {P : DeployError → Prop} (bare : ∀ e, e.isBare → P e)
    (layer : ∀ under attached, P under → P (suppressed under attached)) (e : DeployError) :
    P e := by
  fun_induction primary e with
  | case1 under attached ih => exact layer under attached ih
  | case2 e other =>
      obtain h | ⟨under, attached, rfl⟩ := e.isBare_or_suppressed
      · exact bare e h
      · exact (other under attached rfl).elim

theorem isBare_primary (e : DeployError) : e.primary.isBare := by
  induction e using layerInduction with
  | bare e h =>
      rw [primary_of_isBare h]
      exact h
  | layer under attached ih => exact ih

theorem phase_primary (e : DeployError) : e.primary.phase = e.phase := by
  induction e using layerInduction with
  | bare e h => rw [primary_of_isBare h]
  | layer under attached ih => exact ih

theorem message_primary (e : DeployError) : e.primary.message = e.message := by
  induction e using layerInduction with
  | bare e h => rw [primary_of_isBare h]
  | layer under attached ih => exact ih

/-- An error is its bottom under its layers. -/
theorem covered_layers (e : DeployError) : e.primary.covered e.layers = e := by
  induction e using layerInduction with
  | bare e h => rw [primary_of_isBare h, layers_of_isBare h, covered_nil]
  | layer under attached ih =>
      change under.primary.covered (under.layers ++ [attached]) = _
      rw [covered_concat, ih]

/-! ### Attaching -/

theorem attach_of_isBare (h : e.isBare) (given : errors ≠ []) :
    e.attach errors = suppressed e errors := by
  cases errors with
  | nil => exact (given rfl).elim
  | cons first rest => cases e <;> first | rfl | cases h

/-- Where errors are attached already, attaching only lengthens the outermost layer. -/
theorem attach_suppressed (under : DeployError) (attached errors : List DeployError) :
    (suppressed under attached).attach errors = suppressed under (attached ++ errors) := by
  cases errors with
  | nil => rw [attach_nil, List.append_nil]
  | cons first rest => rfl

theorem attach_attach (e : DeployError) (first second : List DeployError) :
    (e.attach first).attach second = e.attach (first ++ second) := by
  obtain h | ⟨under, attached, rfl⟩ := e.isBare_or_suppressed
  · by_cases given : first = []
    · rw [given, attach_nil, List.nil_append]
    · have both : first ++ second ≠ [] := List.append_ne_nil_of_left_ne_nil given second
      rw [attach_of_isBare h given, attach_suppressed, attach_of_isBare h both]
  · rw [attach_suppressed, attach_suppressed, attach_suppressed, List.append_assoc]

/-- Attaching errors is an action of the lists of errors. It adds them behind those that are
attached already and leaves alone what the error is, which is told by the one bare error that
stands under all layers. -/
theorem attach_isAction (e : DeployError) :
    (∀ a b, (e.attach a).attach b = e.attach (a ++ b)) ∧ e.attach [] = e ∧
      (∀ a, (e.attach a).attached = e.attached ++ a ∧ (e.attach a).primary = e.primary ∧
        (e.attach a).phase = e.phase ∧ (e.attach a).message = e.message) ∧
      (e.phase = e.primary.phase ∧ e.message = e.primary.message) ∧
      e.primary.isBare ∧ e.primary.covered e.layers = e := by
  refine ⟨e.attach_attach, e.attach_nil, fun a => ?_, ?_, e.isBare_primary, e.covered_layers⟩
  · exact ⟨e.attached_attach a, e.primary_attach a, e.phase_attach a, e.message_attach a⟩
  · exact ⟨e.phase_primary.symm, e.message_primary.symm⟩

/-- Of two layers, the inner one stays as it is. -/
example :
    let nested := suppressed (suppressed cancelled [guardCleanup "env"]) [internal "first"]
    nested.attach [internal "second"] =
        cancelled.covered [[guardCleanup "env"], [internal "first", internal "second"]] ∧
      nested.primary = cancelled := ⟨rfl, rfl⟩

end DomainDeploy.DeployError
