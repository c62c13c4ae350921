import DomainDeploy.Log
import DomainDeploy.Trust.Guard

/-!
# Scopes in any order

A guard together with the scopes that are alive, each under a name.  A scope may end before one
that started later, and a guard may be stashed and reverted without a scope, so every order of
steps has a meaning here.
-/

namespace DomainDeploy

/-- Something that happens to a guard. -/
inductive TrustStep where
  | stash
  | revert
  | apply (context : TrustContext)
  /-- Starts a scope of that name; one that is alive already is dropped afterwards. -/
  | enter (name : String) (context : TrustContext)
  /-- Ends a scope and tells whether the settings were put back. -/
  | finish (name : String)
  /-- Ends a scope without telling. -/
  | drop (name : String)

/-- A guard and the names of the scopes that are alive. -/
structure TrustScopes where
  guard : TrustGuard
  alive : List String := []

/-- What came of a step. -/
structure TrustStep.Outcome where
  /-- Nothing when there was no such scope to end. -/
  result : Option (Except DeployError Unit)
  notes : List Note

namespace TrustScopes

/-- Ends a scope that nobody looks at: a failure only goes to the log. -/
def dropped (g : TrustGuard) : TrustGuard × List Note :=
  match g.revert with
  | (.ok (), g) => (g, [])
  | (.error e, g) => (g, [⟨.warn, s!"Trust store settings were not restored: {e.message}"⟩])

/-- Takes one step. -/
def step (s : TrustScopes) : TrustStep → TrustStep.Outcome × TrustScopes
  | .stash => (⟨some (.ok ()), []⟩, { s with guard := s.guard.stash })
  | .revert =>
    let (result, guard) := s.guard.revert
    (⟨some result, []⟩, { s with guard })
  | .apply context =>
    let (result, guard) := s.guard.apply context
    (⟨some result, []⟩, { s with guard })
  | .enter name context =>
    match s.guard.enter context with
    | (.error e, guard) => (⟨some (.error e), []⟩, { s with guard })
    | (.ok (), guard) =>
      if s.alive.contains name then
        let (guard, notes) := dropped guard
        (⟨some (.ok ()), notes⟩, { s with guard })
      else (⟨some (.ok ()), []⟩, ⟨guard, name :: s.alive⟩)
  | .finish name =>
    if s.alive.contains name then
      let (result, guard) := s.guard.revert
      (⟨some result, []⟩, ⟨guard, s.alive.erase name⟩)
    else (⟨none, []⟩, s)
  | .drop name =>
    if s.alive.contains name then
      let (guard, notes) := dropped s.guard
      (⟨some (.ok ()), notes⟩, ⟨guard, s.alive.erase name⟩)
    else (⟨some (.ok ()), []⟩, s)

end TrustScopes

end DomainDeploy
