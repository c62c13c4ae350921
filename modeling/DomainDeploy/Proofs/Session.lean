import DomainDeploy.Proofs.Questions
import DomainDeploy.Rehearsal.Basic

/-!
# Sessions

An operation runs in a session, and there are three ways that a session can go: the trust store
cannot be published, or the channel cannot be opened, or the body runs between an opening and a
closing. `Session` lists them with all that they leave behind, and whatever an operation asks and
is answered is one of them (`session_of_leadsTo`).

From this follows what a maintainer relies on, for every operation of any series
(`episodes_areBracketed`): a channel that was opened is closed once, at the very end; nothing is
asked over a channel that was not opened; no scope stays held; and what was published before is
published again if the writes were accepted, however the operation ended.
-/

namespace DomainDeploy

open Program

/-! ### What a scope leaves behind -/

namespace TrustBoard

/-- Every write between the two states of a board was accepted. -/
def Accepted (b b' : TrustBoard) : Prop :=
  ∀ i, b.writes ≤ i → i < b'.writes → b.refusal i = none

/-- The second state of a board comes after the first. -/
def Precedes (b b' : TrustBoard) : Prop := b'.refusal = b.refusal ∧ b.writes ≤ b'.writes

theorem precedes_publish (b : TrustBoard) (store : TrustStore) :
    b.Precedes (b.publish store).2 := by
  unfold publish
  split <;> exact ⟨rfl, Nat.le_succ _⟩

@[simp] theorem writes_publish (b : TrustBoard) (store : TrustStore) :
    (b.publish store).2.writes = b.writes + 1 := by
  unfold publish
  split <;> rfl

theorem published_publish {b : TrustBoard} (h : b.refusal b.writes = none) (store : TrustStore) :
    (b.publish store).2.published = store := by
  simp [publish, h]

end TrustBoard

namespace TrustGuard

/-- One scope is held, over a capture of `store`, on a board that comes after `b`. -/
structure HoldsOne (g : TrustGuard) (b : TrustBoard) (store : TrustStore) : Prop where
  depth : g.depth = 1
  saved : g.saved = some store
  later : b.Precedes g.board

/-- The guard after a scope holds nothing, and publishes what was published before if the writes
were accepted. -/
structure Restored (g g' : TrustGuard) : Prop where
  free : g'.depth = 0
  forgotten : g'.saved = none
  published : g.board.Accepted g'.board → g'.current = g.current

variable {g : TrustGuard} {b : TrustBoard} {store : TrustStore}

theorem holdsOne_stash (h : g.depth = 0) : g.stash.HoldsOne g.board g.current where
  depth := by simp [h]
  saved := by simp [stash, h, current]
  later := ⟨rfl, Nat.le_refl _⟩

theorem HoldsOne.apply (h : g.HoldsOne b store) (context : TrustContext) :
    (g.apply context).2.HoldsOne b store := by
  unfold TrustGuard.apply
  cases context.store? with
  | none => exact h
  | some wanted =>
      obtain ⟨hrefusal, hwrites⟩ := g.board.precedes_publish (wanted.overlay g.current)
      exact ⟨h.depth, h.saved, hrefusal.trans h.later.1, Nat.le_trans h.later.2 hwrites⟩

theorem HoldsOne.revert (h : g.HoldsOne b store) :
    g.revert.2 = ⟨(g.board.publish store).2, 0, none⟩ := by
  simp [TrustGuard.revert, h.depth, h.saved]

/-- The one scope over a capture of what `g` published puts that back when it ends. -/
theorem HoldsOne.restored {g₁ : TrustGuard} (h : g₁.HoldsOne g.board g.current) :
    g.Restored g₁.revert.2 := by
  rw [h.revert]
  refine ⟨rfl, rfl, fun accepted => TrustBoard.published_publish ?_ _⟩
  rw [h.later.1]
  exact accepted _ h.later.2 (by simp)

theorem holdsOne_enter {g₁ : TrustGuard} {context : TrustContext} (free : g.depth = 0)
    (h : g.enter context = (.ok (), g₁)) : g₁.HoldsOne g.board g.current := by
  have applied := (holdsOne_stash free).apply context
  unfold enter at h
  split at h
  · rename_i g₂ h₂
    rw [h₂] at applied
    cases h
    exact applied
  · split at h <;> cases h

theorem restored_enter {e : DeployError} {g₁ : TrustGuard} {context : TrustContext}
    (free : g.depth = 0) (h : g.enter context = (.error e, g₁)) : g.Restored g₁ := by
  have applied := (holdsOne_stash free).apply context
  unfold enter at h
  split at h
  · cases h
  · rename_i e₂ g₂ h₂
    rw [h₂] at applied
    have restored := applied.restored
    split at h <;> rename_i h₃ <;> rw [h₃] at restored <;> cases h <;> exact restored

end TrustGuard

/-! ### The ways of a session -/

namespace Deployer

variable {α σ : Type}

/-- What a session asks and is answered, what it comes to, and the guard after it. -/
inductive Session (d : Deployer) (body : TrustStore → Activity α) (g : TrustGuard) :
    Dialogue Outside → Except DeployError α → TrustGuard → Prop
  /-- The trust store could not be published. -/
  | barred {e : DeployError} {g' : TrustGuard}
      (entered : g.enter d.configuration.trust = (.error e, g')) :
      Session d body g [] (.error e) g'
  /-- The channel could not be opened. -/
  | refused {e : DeployError} {g₁ : TrustGuard}
      (entered : g.enter d.configuration.trust = (.ok (), g₁)) :
      Session d body g [⟨.connect, .error e⟩] (.error (e.attach (errorOf g₁.revert.1)))
        g₁.revert.2
  /-- The body ran between an opening and a closing. -/
  | held {g₁ : TrustGuard} {during : Dialogue Outside} {came : Except DeployError α}
      {closed : Except DeployError Unit}
      (entered : g.enter d.configuration.trust = (.ok (), g₁))
      (body_leadsTo : (body g₁.current).run.LeadsTo during came) :
      Session d body g (⟨.connect, .ok ()⟩ :: (during ++ [⟨.disconnect, closed⟩]))
        (came.mapError (·.attach (errorOf closed ++ errorOf g₁.revert.1))) g₁.revert.2

theorem leadsTo_noteCleanup {errors : List DeployError} {d : Dialogue Outside} {u : Unit} :
    (noteCleanup errors).LeadsTo d u ↔ d = [] := by
  induction errors with
  | nil => simp [noteCleanup]
  | cons e rest ih => exact ih

theorem leadsTo_finish {result r : Except DeployError α} {g g' : TrustGuard}
    {d : Dialogue Outside} (h : (finish result g).LeadsTo d (r, g')) :
    ∃ closed, d = [⟨.disconnect, closed⟩] ∧
      r = result.mapError (·.attach (errorOf closed ++ errorOf g.revert.1)) ∧
        g' = g.revert.2 := by
  obtain ⟨d₁, closed, d₂, rfl, h₁, h₂⟩ := leadsTo_andThen.1 h
  obtain rfl := leadsTo_request.1 h₁
  obtain ⟨d₃, _, d₄, rfl, h₃, h₄⟩ := leadsTo_andThen.1 h₂
  obtain rfl := leadsTo_noteCleanup.1 h₃
  obtain ⟨rfl, h₅⟩ := h₄
  cases h₅
  exact ⟨closed, rfl, rfl, rfl⟩

theorem leadsTo_abandon {e : DeployError} {r : Except DeployError α} {g g' : TrustGuard}
    {d : Dialogue Outside} (h : (abandon e g).LeadsTo d (r, g')) :
    d = [] ∧ r = .error (e.attach (errorOf g.revert.1)) ∧ g' = g.revert.2 := by
  unfold abandon at h
  split at h <;> rename_i reverted <;> obtain ⟨rfl, h⟩ := h <;> cases h <;>
    simp [reverted, errorOf]

/-- Every dialogue of an operation is one of a session. -/
theorem session_of_leadsTo {d : Deployer} {body : TrustStore → Activity α} {g g' : TrustGuard}
    {dialogue : Dialogue Outside} {r : Except DeployError α}
    (h : (d.inSession body g).LeadsTo dialogue (r, g')) : d.Session body g dialogue r g' := by
  unfold inSession at h
  split at h
  · rename_i e g₁ entered
    obtain ⟨rfl, h⟩ := h
    cases h
    exact .barred entered
  · rename_i g₁ entered
    obtain ⟨d₁, opened, d₂, rfl, h₁, h₂⟩ := leadsTo_andThen.1 h
    obtain rfl := leadsTo_request.1 h₁
    cases opened with
    | error e =>
        obtain ⟨rfl, rfl, rfl⟩ := leadsTo_abandon h₂
        exact .refused entered
    | ok u =>
        obtain ⟨during, came, d₃, rfl, h₃, h₄⟩ := leadsTo_andThen.1 h₂
        obtain ⟨closed, rfl, rfl, rfl⟩ := leadsTo_finish h₄
        exact .held entered h₃

/-! ### Series of operations -/

/-- An operation with what it is told. -/
inductive Task where
  | deploy (request : DeploymentRequest)
  | undeploy (name target : String)
  | status
  | isTargetRunning (target : String)

/-- What the operation gives when it succeeds. -/
abbrev Task.Value : Task → Type
  | deploy _ => Endpoint
  | undeploy _ _ => Unit
  | status => List ServerInstance
  | isTargetRunning _ => Bool

/-- The operation of a deployer that a task names. -/
def perform (d : Deployer) : (t : Task) → Operation t.Value
  | .deploy r => d.deploy r
  | .undeploy name target => d.undeploy name target
  | .status => d.status
  | .isTargetRunning target => d.isTargetRunning target

/-- What an operation does within its session. -/
def bodyOf (d : Deployer) : (t : Task) → TrustStore → Activity t.Value
  | .deploy r => d.deployBody r
  | .undeploy name target => d.undeployBody name target
  | .status => fun _ => Resolution.listServers
  | .isTargetRunning target => fun _ => Resolution.isTargetRunning target

theorem session_of_perform {d : Deployer} {t : Task} {g g' : TrustGuard}
    {dialogue : Dialogue Outside} {r : Except DeployError t.Value}
    (h : (d.perform t g).LeadsTo dialogue (r, g')) : d.Session (d.bodyOf t) g dialogue r g' := by
  cases t <;> exact session_of_leadsTo h

theorem asks_bodyOf (d : Deployer) (t : Task) (store : TrustStore) :
    (d.bodyOf t store).run.Asks Outside.Question.IsInner := by
  cases t with
  | deploy r => exact d.asks_deployBody r store
  | undeploy name target => exact d.asks_undeployBody name target store
  | status => exact Resolution.asks_listServers.isInner
  | isTargetRunning target => exact (Resolution.asks_isTargetRunning target).isInner

/-- One operation of a series, with the guard before and after it. -/
structure Episode where
  task : Task
  before : TrustGuard
  dialogue : Dialogue Outside
  result : Except DeployError task.Value
  after : TrustGuard

/-- The operations of a series in turn, each with the guard and the surroundings that the one
before left. -/
def episodes (d : Deployer) (w : Responder Outside σ) : List Task → TrustGuard → σ → List Episode
  | [], _, _ => []
  | t :: rest, g, s =>
    let played := (d.perform t g).run w s
    ⟨t, g, played.dialogue, played.value.1, played.value.2⟩ ::
      d.episodes w rest played.value.2 played.state

/-- What an operation keeps, however it ends. -/
structure Episode.IsBracketed (e : Episode) : Prop where
  /-- A channel that was opened is closed once, and nothing is asked behind that. -/
  opened : ⟨.connect, .ok ()⟩ ∈ e.dialogue → ∃ during closed,
    e.dialogue = ⟨.connect, .ok ()⟩ :: (during ++ [⟨.disconnect, closed⟩]) ∧
      ∀ t ∈ during, t.1.IsInner
  /-- When the channel could not be opened, nothing else is asked. -/
  refused : ∀ cause, ⟨.connect, .error cause⟩ ∈ e.dialogue →
    e.dialogue = [⟨.connect, .error cause⟩]
  /-- Without a channel nothing is asked at all. -/
  unopened : (∀ t ∈ e.dialogue, t.1 ≠ .connect) → e.dialogue = []
  /-- No scope stays held, and what was published before is published again. -/
  restored : e.before.Restored e.after

/-- One operation keeps all of it when no scope is held before. -/
theorem isBracketed_of_session {d : Deployer} {t : Task} {g g' : TrustGuard}
    {dialogue : Dialogue Outside} {r : Except DeployError t.Value} (free : g.depth = 0)
    (h : d.Session (d.bodyOf t) g dialogue r g') :
    Episode.IsBracketed ⟨t, g, dialogue, r, g'⟩ := by
  cases h with
  | barred entered =>
      exact ⟨by simp, by simp, fun _ => rfl, TrustGuard.restored_enter free entered⟩
  | refused entered =>
      exact ⟨by simp, by simp, by simp, (TrustGuard.holdsOne_enter free entered).restored⟩
  | @held g₁ during came closed entered body_leadsTo =>
      have inner := (d.asks_bodyOf t _).of_leadsTo body_leadsTo
      refine ⟨fun _ => ⟨during, closed, rfl, inner⟩, fun cause hmem => ?_, by simp,
        (TrustGuard.holdsOne_enter free entered).restored⟩
      -- the body asks for no channel, so the one opening is the first turn, and that went well
      have hduring : ⟨.connect, .error cause⟩ ∈ during := by simpa using hmem
      exact (inner _ hduring).elim

/-- Every operation of a series keeps all of it, whatever it is answered, when no scope is held at
the start. -/
theorem episodes_areBracketed (d : Deployer) (w : Responder Outside σ) (tasks : List Task)
    (g : TrustGuard) (s : σ) (free : g.depth = 0) :
    (d.episodes w tasks g s).map (·.task) = tasks ∧
      ∀ e ∈ d.episodes w tasks g s, e.IsBracketed := by
  induction tasks generalizing g s with
  | nil => simp [episodes]
  | cons t rest ih =>
      have bracketed :=
        isBracketed_of_session free (session_of_perform (leadsTo_run w (d.perform t g) s))
      -- the guard that the operation leaves is free, so the next one starts as this one did
      obtain ⟨hrest, later⟩ := ih _ ((d.perform t g).run w s).state bracketed.restored.free
      constructor
      · simp only [episodes, List.map_cons, hrest]
      · intro e he
        rcases List.mem_cons.1 he with rfl | he
        · exact bracketed
        · exact later e he

/-- A deployer that calls the deployment manager and trusts the store of a file. -/
def sample : Deployer := .ofConfiguration {
  adminUrl := "t3://localhost:7001"
  admin := ⟨.t3, "localhost", 7001⟩
  management := ⟨.t3, "localhost", 7001⟩
  userName := "weblogic"
  password := "welcome1"
  target := "AdminServer"
  strategy := .rest
  trust := { mode := .custom, location := some "/trust.pem" }
  tool := ⟨"java", "weblogic.jar", false⟩
  remoteMachine := false
  timeouts := ⟨200, 90, 600, 30⟩
  logMessages := false }

/-- A domain that knows no attribute is left with its channel closed, and asked again. -/
theorem episodes_areBracketed_unknown :
    let g := TrustGuard.ofPublished .nowhere
    let unknown : Except DeployError Reading :=
      .error (.protocol (.noAttribute "ServerRuntimes" .root))
    let episodes := sample.episodes Rehearsal.outside [.status, .isTargetRunning "foo"] g {}
    g.depth = 0 ∧
      (∀ e ∈ episodes, e.dialogue =
        [⟨.connect, .ok ()⟩, ⟨.call (.get .root "ServerRuntimes"), unknown⟩,
          ⟨.disconnect, .ok ()⟩]) ∧
      episodes.map (·.task) = [.status, .isTargetRunning "foo"] ∧
      ∀ e ∈ episodes, e.IsBracketed := by
  refine ⟨rfl, ?_, episodes_areBracketed _ _ _ _ _ rfl⟩
  intro e he
  rcases List.mem_cons.1 he with rfl | he
  · rfl
  · obtain rfl := List.mem_singleton.1 he
    rfl

end Deployer

end DomainDeploy
