import DomainDeploy.Proofs.Cleanup
import DomainDeploy.Proofs.Nesting

/-!
# Scopes that cannot start

A scope holds the guard before its store is published, so a write that is refused has to be undone:
the guard is let go again, which in turn publishes the capture when nobody else holds it, and that
write may be refused as well. Either way the guard is what it was (`enter_isAtomic`), since the
capture that is published again is what is published anyhow.

This needs that a guard that is not held has no capture. It holds of every guard that a program can
come by (`IsReachable`), whatever writes were refused on the way and whatever others have published
in between.
-/

namespace DomainDeploy

namespace TrustGuard

variable {g g' : TrustGuard} {context : TrustContext} {cause : DeployError}

/-! ### Guards that a program can come by -/

/-- A guard that has come about by moves from one that was never held. The board may refuse any
writes, and what is published may change without the guard. -/
inductive IsReachable : TrustGuard → Prop
  | fresh (board : TrustBoard) : IsReachable { board }
  | move {g : TrustGuard} (reachable : IsReachable g) (m : Move) : IsReachable (g.move m)
  | elsewhere {g : TrustGuard} (reachable : IsReachable g) (published : TrustStore) :
      IsReachable { g with board := { g.board with published } }

theorem held_move (h : g.saved.isSome ↔ 0 < g.depth) (m : Move) :
    (g.move m).saved.isSome ↔ 0 < (g.move m).depth := by
  cases m with
  | stash =>
      rw [move, saved_stash, depth_stash]
      split
      · simp
      · rw [h]
        omega
  | apply context => rwa [move, saved_apply, depth_apply]
  | revert =>
      rw [move, saved_revert, depth_revert]
      split
      · rename_i last
        simp [last]
      · rw [h]
        omega

namespace IsReachable

/-- A guard has a capture exactly as long as it is held. -/
theorem held (h : g.IsReachable) : g.saved.isSome ↔ 0 < g.depth := by
  induction h with
  | fresh board => simp
  | move reachable m ih => exact held_move ih m
  | elsewhere reachable published ih => exact ih

theorem saved_eq_none (h : g.IsReachable) (free : g.depth = 0) : g.saved = none := by
  rw [← Option.not_isSome_iff_eq_none, h.held, free]
  exact Nat.lt_irrefl 0

theorem enter (h : g.IsReachable) (context : TrustContext) : (g.enter context).2.IsReachable := by
  have applied : (g.stash.apply context).2.IsReachable := (h.move .stash).move (.apply context)
  rw [enter_eq]
  split <;> rename_i happlied <;> rw [happlied] at applied
  · exact applied
  · exact applied.move .revert

end IsReachable

theorem IsReachable.dropped (h : g.IsReachable) : (TrustScopes.dropped g).1.IsReachable := by
  rw [TrustScopes.dropped_eq]
  exact h.move .revert

theorem isReachable_step {s : TrustScopes} (h : s.guard.IsReachable) (t : TrustStep) :
    (s.step t).2.guard.IsReachable := by
  cases t with
  | stash => exact h.move .stash
  | revert => exact h.move .revert
  | apply context => exact h.move (.apply context)
  | enter name context =>
      have entered := h.enter context
      simp only [TrustScopes.step]
      rcases hentered : s.guard.enter context with ⟨result, g₁⟩
      rw [hentered] at entered
      cases result with
      | error e => exact entered
      | ok u =>
          dsimp only
          split
          · exact entered.dropped
          · exact entered
  | finish name =>
      simp only [TrustScopes.step]
      split
      · exact h.move .revert
      · exact h
  | drop name =>
      simp only [TrustScopes.step]
      split
      · exact h.dropped
      · exact h

/-- Steps of scopes lead to reachable guards only. -/
theorem isReachable_run {s : TrustScopes} (h : s.guard.IsReachable) (steps : List TrustStep) :
    (s.run steps).guard.IsReachable := by
  induction steps generalizing s with
  | nil => exact h
  | cons t rest ih => exact ih (isReachable_step h t)

/-! ### Publishing the store of a context -/

/-- What is published once a context comes on top of `before`. -/
def publishedOver (context : TrustContext) (before : TrustStore) : TrustStore :=
  if context.mode = .builtIn then before
  else ⟨context.location.or before.location, context.password.or before.password⟩

/-- The guard behind a write that was refused. -/
def refused (g : TrustGuard) : TrustGuard :=
  { g with board := { g.board with writes := g.board.writes + 1 } }

/-- What a write to come is refused with, the next one being number zero. -/
def refusalOf (g : TrustGuard) (n : Nat) : Option DeployError :=
  g.board.refusal (g.board.writes + n)

theorem store?_of_configured (configured : context.mode ≠ .builtIn) :
    context.store? = some ⟨context.location, context.password⟩ := by
  simp [TrustContext.store?, TrustContext.isConfigured, configured]

theorem apply_of_refusal (configured : context.mode ≠ .builtIn)
    (hrefusal : g.refusalOf 0 = some cause) : g.apply context = (.error cause, g.refused) := by
  rw [refusalOf, Nat.add_zero] at hrefusal
  simp [apply, store?_of_configured configured, TrustBoard.publish, hrefusal, refused]

theorem apply_of_willing (willing : context.mode = .builtIn ∨ g.refusalOf 0 = none) :
    (g.apply context).1 = .ok () ∧
      (g.apply context).2.current = publishedOver context g.current := by
  by_cases configured : context.mode = .builtIn
  · have nothing : context.store? = none := by
      simp [TrustContext.store?, TrustContext.isConfigured, configured]
    simp [apply, nothing, publishedOver, configured]
  · have hrefusal : g.board.refusal g.board.writes = none := willing.resolve_left configured
    simp [apply, store?_of_configured configured, TrustBoard.publish, hrefusal, current,
      publishedOver, configured, TrustStore.overlay]

/-! ### Letting the guard go again -/

/-- What is published anyhow may be published again, or refused: it stays published. -/
theorem current_revert_eq (h : g.depth = 1 → g.saved = some g.current) :
    g.revert.2.current = g.current := by
  unfold revert
  split
  · rfl
  · rename_i last
    rw [h last]
    cases hrefusal : g.board.refusal g.board.writes <;> simp [TrustBoard.publish, hrefusal, current]
  · rfl

/-- Two guards alike but for the writes that were tried. -/
structure IsAlike (g g' : TrustGuard) : Prop where
  depth : g'.depth = g.depth
  saved : g'.saved = g.saved
  published : g'.current = g.current

/-- Letting go of a guard that was just held leaves it as it was. -/
theorem isAlike_revert_stash (reachable : g.IsReachable) : g.IsAlike g.stash.refused.revert.2 := by
  refine ⟨?_, ?_, ?_⟩
  · rw [depth_revert]
    rfl
  · have hdepth : g.stash.refused.depth = g.depth + 1 := rfl
    have hsaved : g.stash.refused.saved = g.stash.saved := rfl
    rw [saved_revert, hdepth, hsaved, saved_stash]
    by_cases free : g.depth = 0
    · simp [free, reachable.saved_eq_none free]
    · simp [free]
  · refine current_revert_eq fun last => ?_
    have free : g.depth = 0 := Nat.succ.inj last
    exact saved_stash.trans (if_pos free)

/-- What the write that puts the store back fails with, unless somebody else holds the guard. -/
def restoringFaults (g : TrustGuard) : List DeployError :=
  if g.depth = 0 then ((g.refusalOf 1).map fun e => DeployError.guardCleanup e.message).toList
  else []

theorem restoringFaults_eq : g.restoringFaults = Deployer.errorOf g.stash.refused.revert.1 := by
  rw [errorOf_revert, restoringFaults]
  by_cases free : g.depth = 0 <;> simp [free, refused, refusalOf]

theorem enter_of_refusal (configured : context.mode ≠ .builtIn)
    (hrefusal : g.refusalOf 0 = some cause) :
    g.enter context = (.error (cause.attach g.restoringFaults), g.stash.refused.revert.2) := by
  have happlied : g.stash.apply context = (.error cause, g.stash.refused) :=
    apply_of_refusal configured hrefusal
  rw [enter_eq, happlied, restoringFaults_eq]

theorem enter_of_willing (willing : context.mode = .builtIn ∨ g.refusalOf 0 = none) :
    g.enter context = (.ok (), (g.stash.apply context).2) := by
  have happlied : (g.stash.apply context).1 = .ok () := (apply_of_willing (g := g.stash) willing).1
  rw [enter_eq]
  split <;> rename_i heq <;> rw [heq] at happlied
  · rw [heq]
  · cases happlied

/-- A scope starts as a whole or not at all. -/
theorem enter_isAtomic (reachable : g.IsReachable) (context : TrustContext) :
    (∀ e g', g.enter context = (.error e, g') →
      g.IsAlike g' ∧
        ∃ cause, (g.apply context).1 = .error cause ∧ e = cause.attach g.restoringFaults ∧
          e.primary = cause.primary ∧
          ((∃ text, e.attached = cause.attached ++ [.guardCleanup text]) ↔
            g.depth = 0 ∧ (g.refusalOf 1).isSome)) ∧
      (∀ g', g.enter context = (.ok (), g') →
        g'.depth = g.depth + 1 ∧ g'.current = publishedOver context g.current) ∧
      ((∃ e g', g.enter context = (.error e, g')) ↔
        context.mode ≠ .builtIn ∧ (g.refusalOf 0).isSome) := by
  by_cases willing : context.mode = .builtIn ∨ g.refusalOf 0 = none
  · have entered := enter_of_willing willing
    refine ⟨fun e g' h => ?_, fun g' h => ?_, ?_⟩
    · rw [entered] at h
      cases h
    · rw [entered] at h
      cases h
      exact ⟨depth_apply .., (apply_of_willing (g := g.stash) willing).2⟩
    · rcases willing with h | h <;> simp [entered, h]
  · obtain ⟨configured, hrefusal⟩ := not_or.1 willing
    obtain ⟨cause, hcause⟩ := Option.ne_none_iff_exists'.1 hrefusal
    have entered := enter_of_refusal configured hcause
    refine ⟨fun e g' h => ?_, fun g' h => ?_, ?_⟩
    · rw [entered] at h
      cases h
      refine ⟨isAlike_revert_stash reachable, cause, ?_, rfl, cause.primary_attach _, ?_⟩
      · rw [apply_of_refusal configured hcause]
      · rw [DeployError.attached_attach, restoringFaults]
        by_cases free : g.depth = 0 <;> cases g.refusalOf 1 <;> simp [free]
    · rw [entered] at h
      cases h
    · simp [entered, configured, hcause]

/-- A guard over a board that refuses every write. -/
def readOnly (cause : DeployError) (published : TrustStore) : TrustGuard :=
  { board := { published, refusal := fun _ => some cause } }

/-- Where no write is accepted, a scope within another one fails with the error of its own write,
and a scope that is the only one with an error of the cleanup behind it. -/
theorem enter_isAtomic_readOnly :
    let cause : DeployError := .configuration (.stated "environment is read-only")
    let context : TrustContext := { mode := .custom, location := some "/a.pem" }
    let outer := readOnly cause .nowhere
    let inner := outer.stash
    (outer.IsReachable ∧ inner.IsReachable) ∧
      (outer.enter context).1 = .error (.suppressed cause [.guardCleanup cause.message]) ∧
      outer.IsAlike (outer.enter context).2 ∧
      (inner.enter context).1 = .error cause ∧ inner.IsAlike (inner.enter context).2 := by
  intro cause context outer inner
  have reachable : outer.IsReachable := .fresh _
  have nested : inner.IsReachable := reachable.move .stash
  refine ⟨⟨reachable, nested⟩, rfl, ?_, rfl, ?_⟩
  · exact ((enter_isAtomic reachable context).1 _ _ rfl).1
  · exact ((enter_isAtomic nested context).1 _ _ rfl).1

end TrustGuard

end DomainDeploy
