import DomainDeploy.Proofs.Session

/-!
# Faults of the cleanup

Behind every operation the channel is closed and the trust store is put back, and either may fail.
What the operation comes to is settled before (`Deployer.verdict`), so these faults change nothing
but what is attached to an error: two runs that differ in nothing else tell the same verdict
(`perform_tells_verdict`).
-/

namespace DomainDeploy

open Program

namespace TrustGuard

open Deployer (errorOf)

variable {g g' : TrustGuard} {context : TrustContext} {i : Nat}

/-! ### The write that puts the store back -/

/-- The write that puts back what was published before a scope: the first one behind those that
start the scope. -/
def restoringWrite (g : TrustGuard) (context : TrustContext) : Nat :=
  (g.stash.apply context).2.board.writes

/-- What the end of a scope fails with; a scope within another one puts nothing back. -/
def restoringErrors (g : TrustGuard) (context : TrustContext) : List DeployError :=
  if g.depth = 0 then
    ((g.board.refusal (g.restoringWrite context)).map fun e =>
      DeployError.guardCleanup e.message).toList
  else []

/-- Two guards that differ in nothing but whether, and with which error, one write is refused. -/
structure DiffersInWrite (i : Nat) (g g' : TrustGuard) : Prop where
  depth : g'.depth = g.depth
  saved : g'.saved = g.saved
  published : g'.board.published = g.board.published
  writes : g'.board.writes = g.board.writes
  refusal : ∀ j, j ≠ i → g'.board.refusal j = g.board.refusal j

@[simp] theorem refusal_apply : (g.apply context).2.board.refusal = g.board.refusal := by
  unfold apply
  cases context.store? with
  | none => rfl
  | some wanted => exact (g.board.precedes_publish _).1

theorem errorOf_revert :
    errorOf g.revert.1 = if g.depth = 1 then
      ((g.board.refusal g.board.writes).map fun e => DeployError.guardCleanup e.message).toList
    else [] := by
  unfold revert
  split <;> rename_i hdepth <;> simp only [hdepth]
  · rfl
  · cases hrefusal : g.board.refusal g.board.writes <;> simp only [TrustBoard.publish, hrefusal] <;>
      rfl
  · simp [errorOf]

theorem errorOf_revert_apply_stash :
    errorOf (g.stash.apply context).2.revert.1 = g.restoringErrors context := by
  rw [errorOf_revert, restoringErrors, restoringWrite, refusal_apply, depth_apply]
  simp

theorem enter_eq (g : TrustGuard) (context : TrustContext) :
    g.enter context = match g.stash.apply context with
      | (.ok (), g₁) => (.ok (), g₁)
      | (.error e, g₁) => (.error (e.attach (errorOf g₁.revert.1)), g₁.revert.2) := by
  unfold enter
  obtain ⟨applied, g₁⟩ := g.stash.apply context
  cases applied with
  | ok u => rfl
  | error e =>
      rcases hreverted : g₁.revert with ⟨reverted, g₂⟩
      cases reverted <;> simp [hreverted, errorOf]

theorem eq_of_enter_eq_ok {g₁ : TrustGuard} (h : g.enter context = (.ok (), g₁)) :
    g₁ = (g.stash.apply context).2 := by
  rw [enter_eq] at h
  split at h
  · rename_i happlied
    rw [happlied]
    exact (Prod.mk.inj h).2.symm
  · cases h

namespace DiffersInWrite

theorem stash (h : DiffersInWrite i g g') : DiffersInWrite i g.stash g'.stash where
  depth := by simp [h.depth]
  saved := by simp [TrustGuard.stash, h.depth, h.saved, h.published]
  published := h.published
  writes := h.writes
  refusal := h.refusal

/-- A write before the one in which two guards differ is made alike. -/
theorem apply (h : DiffersInWrite (g.apply context).2.board.writes g g') :
    (g'.apply context).1 = (g.apply context).1 ∧
      DiffersInWrite (g.apply context).2.board.writes (g.apply context).2
        (g'.apply context).2 := by
  unfold TrustGuard.apply at h ⊢
  cases hstore : context.store? with
  | none =>
      rw [hstore] at h
      exact ⟨rfl, h⟩
  | some wanted =>
      rw [hstore] at h
      have hrefusal : g'.board.refusal g.board.writes = g.board.refusal g.board.writes :=
        h.refusal _ (by simp)
      have hcurrent : g'.current = g.current := h.published
      simp only [TrustBoard.publish, h.writes, hrefusal, hcurrent]
      simp only [TrustBoard.writes_publish] at h
      cases hwrite : g.board.refusal g.board.writes with
      | none => exact ⟨rfl, h.depth, h.saved, rfl, rfl, h.refusal⟩
      | some e => exact ⟨rfl, h.depth, h.saved, h.published, rfl, h.refusal⟩

end DiffersInWrite

end TrustGuard

namespace Deployer

open TrustGuard (DiffersInWrite)

variable {α σ : Type} {d : Deployer} {body : TrustStore → Activity α} {w w' : Responder Outside σ}
  {g g' : TrustGuard} {s : σ}

/-! ### What an operation comes to before its cleanup -/

/-- What an operation comes to, whatever becomes of the cleanup behind it. -/
def verdict (d : Deployer) (body : TrustStore → Activity α) (w : Responder Outside σ)
    (g : TrustGuard) (s : σ) : Except DeployError α := do
  let entered := g.stash.apply d.configuration.trust
  let opened := w .connect s
  entered.1
  opened.1
  ((body entered.2.current).run.run w opened.2).value

/-- What closing the channel failed with. -/
def closingErrors (d : Dialogue Outside) : List DeployError :=
  d.flatMap fun
    | ⟨.disconnect, closed⟩ => errorOf closed
    | _ => []

theorem closingErrors_eq_nil {d : Dialogue Outside} (h : ∀ t ∈ d, t.1.IsInner) :
    closingErrors d = [] := by
  rw [closingErrors, List.flatMap_eq_nil_iff]
  rintro ⟨q, r⟩ ht
  have hq := h _ ht
  cases q with
  | disconnect => exact hq.elim
  | _ => rfl

theorem closingErrors_append (d d' : Dialogue Outside) :
    closingErrors (d ++ d') = closingErrors d ++ closingErrors d' := List.flatMap_append

theorem closingErrors_connect (opened : Except DeployError Unit) (d : Dialogue Outside) :
    closingErrors (⟨.connect, opened⟩ :: d) = closingErrors d := rfl

/-- A verdict as it is told: an error carries the faults of the cleanup behind what it carried
before, and is otherwise what it was. -/
inductive Tells (faults : List DeployError) : Except DeployError α → Except DeployError α → Prop
  | ok (a : α) : Tells faults (.ok a) (.ok a)
  | error {e e' : DeployError} (primary : e'.primary = e.primary) (phase : e'.phase = e.phase)
      (message : e'.message = e.message) (attached : e'.attached = e.attached ++ faults)
      (undisturbed : faults = [] → e' = e) :
      Tells faults (.error e) (.error e')

theorem Tells.eq_ok {faults : List DeployError} {a : α} {r : Except DeployError α}
    (h : Tells faults (.ok a) r) : r = .ok a := by
  cases h
  rfl

theorem tells_attach (faults : List DeployError) (verdict : Except DeployError α) :
    Tells faults verdict (verdict.mapError (·.attach faults)) := by
  cases verdict with
  | ok a => exact .ok a
  | error e =>
      refine .error (e.primary_attach _) (e.phase_attach _) (e.message_attach _)
        (e.attached_attach _) ?_
      rintro rfl
      rfl

/-- The faults of the cleanup behind a run. -/
def cleanupErrors (d : Deployer) (g : TrustGuard) (dialogue : Dialogue Outside) :
    List DeployError :=
  closingErrors dialogue ++ g.restoringErrors d.configuration.trust

theorem tells_of_leadsTo_finish {result r : Except DeployError α} {dialogue : Dialogue Outside}
    (h : (finish result g).LeadsTo dialogue (r, g')) :
    Tells (closingErrors dialogue ++ errorOf g.revert.1) result r := by
  obtain ⟨closed, rfl, rfl, -⟩ := leadsTo_finish h
  simpa [closingErrors] using tells_attach _ result

theorem tells_of_leadsTo_abandon {e : DeployError} {r : Except DeployError α}
    {dialogue : Dialogue Outside} (h : (abandon e g).LeadsTo dialogue (r, g')) :
    Tells (closingErrors dialogue ++ errorOf g.revert.1) (.error e) r := by
  obtain ⟨rfl, rfl, -⟩ := leadsTo_abandon h
  exact tells_attach _ (.error e)

/-- An operation tells its verdict, whatever becomes of the cleanup. -/
theorem tells_inSession (asks : ∀ store, (body store).run.Asks Outside.Question.IsInner) :
    Tells (d.cleanupErrors g ((d.inSession body g).run w s).dialogue) (d.verdict body w g s)
      ((d.inSession body g).run w s).value.1 := by
  unfold inSession verdict cleanupErrors
  rw [TrustGuard.enter_eq, ← TrustGuard.errorOf_revert_apply_stash]
  obtain ⟨entered, g₁⟩ := g.stash.apply d.configuration.trust
  cases entered with
  | error e => exact tells_attach _ (.error e)
  | ok u =>
      simp only [bind_eq_andThen]
      rw [value_run_request_andThen, dialogue_run_request_andThen, closingErrors_connect]
      obtain ⟨opened, s₁⟩ := w .connect s
      cases opened with
      | error e => exact tells_of_leadsTo_abandon (leadsTo_run w (abandon e g₁) s₁)
      | ok u =>
          have inner := (asks g₁.current).of_leadsTo (leadsTo_run w (body g₁.current).run s₁)
          have told := tells_of_leadsTo_finish (leadsTo_run w
            (finish ((body g₁.current).run.run w s₁).value g₁)
              ((body g₁.current).run.run w s₁).state)
          simp only [value_run_andThen, dialogue_run_andThen]
          rw [closingErrors_append, closingErrors_eq_nil inner]
          exact told

/-! ### Two runs that differ in their cleanup -/

/-- Surroundings that answer alike but for the closing of the channel. -/
def DiffersInClosing (w w' : Responder Outside σ) : Prop := ∀ q, q ≠ .disconnect → w q = w' q

theorem verdict_congr (asks : ∀ store, (body store).run.Asks Outside.Question.IsInner)
    (closing : DiffersInClosing w w')
    (restoring : DiffersInWrite (g.restoringWrite d.configuration.trust) g g') :
    d.verdict body w g s = d.verdict body w' g' s := by
  obtain ⟨hresult, happlied⟩ := restoring.stash.apply
  have hconnect : w .connect = w' .connect := closing _ (by simp)
  have hbody : ∀ store s₁, (body store).run.run w s₁ = (body store).run.run w' s₁ := by
    intro store s₁
    refine (asks store).run_congr (fun q hq => closing q ?_) s₁
    rintro rfl
    exact hq
  have hcurrent : (g'.stash.apply d.configuration.trust).2.current =
      (g.stash.apply d.configuration.trust).2.current := happlied.published
  simp only [verdict, hresult, hconnect, hcurrent, hbody]

/-- Where the channel could not be opened, that is the verdict, and only putting the store back can
fail behind it. -/
theorem tells_of_refused {dialogue : Dialogue Outside} {r : Except DeployError α} {e : DeployError}
    (asks : ∀ store, (body store).run.Asks Outside.Question.IsInner)
    (h : d.Session body g dialogue r g') (refused : ⟨.connect, .error e⟩ ∈ dialogue) :
    Tells (g.restoringErrors d.configuration.trust) (.error e) r := by
  cases h with
  | barred entered => cases refused
  | refused entered =>
      cases List.mem_singleton.1 refused
      rw [← TrustGuard.errorOf_revert_apply_stash, ← TrustGuard.eq_of_enter_eq_ok entered]
      exact tells_attach _ (.error e)
  | held entered body_leadsTo =>
      have inner := (asks _).of_leadsTo body_leadsTo
      exact (inner ⟨.connect, .error e⟩ (by simpa using refused)).elim

theorem tells_perform (D : Deployer) (t : Task) (w : Responder Outside σ) (g : TrustGuard) (s : σ) :
    Tells (D.cleanupErrors g ((D.perform t g).run w s).dialogue) (D.verdict (D.bodyOf t) w g s)
      ((D.perform t g).run w s).value.1 := by
  have asks := D.asks_bodyOf t
  cases t with
  | deploy r =>
      rw [perform, deploy, bind_eq_andThen, value_run_say_andThen, dialogue_run_say_andThen]
      exact tells_inSession asks
  | undeploy name target =>
      rw [perform, undeploy, bind_eq_andThen, value_run_say_andThen, dialogue_run_say_andThen]
      exact tells_inSession asks
  | status =>
      rw [perform, status]
      exact tells_inSession asks
  | isTargetRunning target =>
      rw [perform, isTargetRunning]
      exact tells_inSession asks

/-- Two runs of an operation that differ in nothing but whether, and with which errors, the closing
of the channel and the write that puts the trust store back fail tell the same verdict, each with
its own faults attached.  When the channel could not be opened, that is the verdict. -/
theorem perform_tells_verdict (D : Deployer) (t : Task) (w w' : Responder Outside σ)
    (g g' : TrustGuard) (s : σ) (closing : DiffersInClosing w w')
    (restoring : DiffersInWrite (g.restoringWrite D.configuration.trust) g g') :
    let played := (D.perform t g).run w s
    let played' := (D.perform t g').run w' s
    (∃ verdict : Except DeployError t.Value,
      Tells (D.cleanupErrors g played.dialogue) verdict played.value.1 ∧
        Tells (D.cleanupErrors g' played'.dialogue) verdict played'.value.1) ∧
    ∀ e, ⟨.connect, .error e⟩ ∈ played.dialogue →
      Tells (g.restoringErrors D.configuration.trust) (.error e) played.value.1 := by
  intro played played'
  have same : D.verdict (D.bodyOf t) w g s = D.verdict (D.bodyOf t) w' g' s :=
    verdict_congr (D.asks_bodyOf t) closing restoring
  refine ⟨⟨D.verdict (D.bodyOf t) w g s, D.tells_perform t w g s, ?_⟩, fun e refused => ?_⟩
  · rw [same]
    exact D.tells_perform t w' g' s
  · have session := session_of_perform (leadsTo_run w (D.perform t g) s)
    exact tells_of_refused (D.asks_bodyOf t) session refused

/-- Surroundings in which closing the channel fails. -/
def unclosable (cause : DeployError) : Responder Outside Rehearsal
  | .disconnect, r => (.error cause, r)
  | q, r => Rehearsal.outside q r

/-- A guard whose write of index 1 is refused. -/
def refusing (cause : DeployError) : TrustGuard :=
  ⟨⟨.nowhere, 0, fun i => if i = 1 then some cause else none⟩, 0, none⟩

/-- Asking an unknown domain for its servers, once with a cleanup that goes well and once with one
that fails twice. -/
theorem perform_tells_verdict_unclosable :
    let g := TrustGuard.ofPublished .nowhere
    let lost : DeployError := .transport (.stated "connection reset")
    let readOnly : DeployError := .configuration (.stated "environment is read-only")
    let played := (sample.perform .status g).run Rehearsal.outside {}
    let played' := (sample.perform .status (refusing readOnly)).run (unclosable lost) {}
    DiffersInClosing Rehearsal.outside (unclosable lost) ∧
      DiffersInWrite (g.restoringWrite sample.configuration.trust) g (refusing readOnly) ∧
      (sample.cleanupErrors g played.dialogue = [] ∧
        sample.cleanupErrors (refusing readOnly) played'.dialogue =
          [lost, .guardCleanup readOnly.message]) ∧
      (∃ verdict : Except DeployError (Task.Value .status),
        Tells (sample.cleanupErrors g played.dialogue) verdict played.value.1 ∧
          Tells (sample.cleanupErrors (refusing readOnly) played'.dialogue) verdict
            played'.value.1) ∧
      ∀ e, ⟨.connect, .error e⟩ ∈ played.dialogue →
        Tells (g.restoringErrors sample.configuration.trust) (.error e) played.value.1 := by
  intro g lost readOnly played played'
  have closing : DiffersInClosing Rehearsal.outside (unclosable lost) := by
    intro q hq
    cases q with
    | disconnect => exact (hq rfl).elim
    | _ => rfl
  have restoring :
      DiffersInWrite (g.restoringWrite sample.configuration.trust) g (refusing readOnly) :=
    ⟨rfl, rfl, rfl, rfl, fun j hj => if_neg hj⟩
  have faults : sample.cleanupErrors g played.dialogue = [] ∧
      sample.cleanupErrors (refusing readOnly) played'.dialogue =
        [lost, .guardCleanup readOnly.message] := ⟨rfl, rfl⟩
  have told := perform_tells_verdict sample .status Rehearsal.outside (unclosable lost) g
    (refusing readOnly) {} closing restoring
  exact ⟨closing, restoring, faults, told⟩

end Deployer

end DomainDeploy
