import DomainDeploy.Proofs.Advice
import DomainDeploy.Proofs.Entering

/-!
# What the tool sees of the trust store

The tool is told about trust through two variables of its environment. Where the mode of trust is
not the built-in one, a variable holds what the context has for it; a variable that the context
leaves open, and every other one, is inherited as it is (`TrustContext.shown`).

That is so in every operation of a series, whatever came of those before (`episodes_handOver`):
between two operations the guard is at rest, with what was inherited published and nothing held,
and each session leaves it at rest again.
-/

namespace DomainDeploy

open Program

/-! ### Variables of a child process -/

/-- What a child process is to see in a variable when the context is published. -/
def TrustContext.shown (context : TrustContext) (inherited : String → Option String)
    (name : String) : Option String :=
  if context.mode = .builtIn then inherited name
  else if name = TrustStore.locationVariable then context.location.or (inherited name)
  else if name = TrustStore.passwordVariable then context.password.or (inherited name)
  else inherited name

namespace TrustStore

variable {store : TrustStore}

theorem lookup_toList_append (value : Option String) (key name : String)
    (rest : List (String × String)) :
    ((value.map (key, ·)).toList ++ rest).lookup name =
      if name = key then value.or (rest.lookup name) else rest.lookup name := by
  cases value with
  | none => simp
  | some text =>
      by_cases h : name = key
      · simp [h]
      · simp [List.lookup_cons, h, beq_eq_false_iff_ne.2 h]

theorem lookup_childVariables (name : String) :
    store.childVariables.lookup name =
      if name = locationVariable then store.location
      else if name = passwordVariable then store.password
      else none := by
  have hpassword := lookup_toList_append store.password passwordVariable name []
  rw [List.append_nil] at hpassword
  rw [childVariables, lookup_toList_append, hpassword]
  split
  next hlocation => simp [show name ≠ passwordVariable from hlocation ▸ by decide]
  next => simp

end TrustStore

theorem ToolCommand.environment_withTrustStore (command : ToolCommand) (store : TrustStore)
    (inherited : String → Option String) (name : String) :
    (command.withTrustStore store).environment inherited name =
      (store.childVariables.lookup name).or (inherited name) := by
  rw [environment, withTrustStore, Option.orElse_eq_orElse, Option.orElse_eq_or]

theorem TrustContext.environment_publishedOver (context : TrustContext)
    (inherited : String → Option String) (command : ToolCommand) (name : String) :
    (command.withTrustStore
      (TrustGuard.publishedOver context (.ofVariables inherited))).environment inherited name =
        context.shown inherited name := by
  rw [ToolCommand.environment_withTrustStore, TrustStore.lookup_childVariables, shown,
    TrustGuard.publishedOver]
  by_cases hmode : context.mode = .builtIn
  · rw [if_pos hmode, if_pos hmode]
    simp only [TrustStore.ofVariables]
    split
    next hlocation => simp [hlocation]
    next => split <;> simp [*]
  · rw [if_neg hmode, if_neg hmode]
    simp only [TrustStore.ofVariables]
    split
    next hlocation => rw [hlocation, Option.or_assoc, Option.or_self]
    next =>
      split
      next hpassword => rw [hpassword, Option.or_assoc, Option.or_self]
      next => rfl

/-! ### Guards at rest -/

namespace TrustGuard

theorem current_of_enter_eq_ok {g g₁ : TrustGuard} {context : TrustContext}
    (entered : g.enter context = (.ok (), g₁)) : g₁.current = publishedOver context g.current := by
  by_cases willing : context.mode = .builtIn ∨ g.refusalOf 0 = none
  · rw [eq_of_enter_eq_ok entered]
    exact (apply_of_willing (g := g.stash) willing).2
  · obtain ⟨configured, hrefusal⟩ := not_or.1 willing
    obtain ⟨cause, hcause⟩ := Option.ne_none_iff_exists'.1 hrefusal
    rw [enter_of_refusal configured hcause] at entered
    cases entered

/-- The guard is not held, nothing is refused to it, and the store is published. -/
structure IsAtRest (g : TrustGuard) (store : TrustStore) : Prop where
  free : g.depth = 0
  willing : g.board.IsWilling
  published : g.current = store

variable {g g₁ : TrustGuard} {store : TrustStore} {context : TrustContext}

theorem isAtRest_ofPublished (store : TrustStore) : (ofPublished store).IsAtRest store :=
  ⟨rfl, fun _ _ => rfl, rfl⟩

theorem IsAtRest.revert_of_enter (rest : g.IsAtRest store)
    (entered : g.enter context = (.ok (), g₁)) : g₁.revert.2.IsAtRest store := by
  have held := holdsOne_enter rest.free entered
  have willing : g₁.board.IsWilling :=
    eq_of_enter_eq_ok entered ▸ isWilling_apply (g := g.stash) rest.willing
  exact ⟨by rw [depth_revert, held.depth], isWilling_revert willing,
    (current_revert willing held.depth held.saved).trans rest.published⟩

end TrustGuard

namespace Deployer

open Submission

variable {σ α : Type} {d : Deployer} {t : Task} {g g' : TrustGuard} {store : TrustStore}
  {body : TrustStore → Activity α} {dialogue : Dialogue Outside} {r : Except DeployError α}

theorem isAtRest_of_session (rest : g.IsAtRest store) (h : d.Session body g dialogue r g') :
    g'.IsAtRest store := by
  cases h with
  | barred entered =>
      rw [TrustScopes.enter_of_isWilling rest.willing] at entered
      cases entered
  | refused entered => exact rest.revert_of_enter entered
  | held entered => exact rest.revert_of_enter entered

/-! ### Runs of the tool -/

/-- The runs of the tool in a dialogue. -/
def toolRuns (d : Dialogue Outside) : Dialogue Outside := d.filter (·.1.runsTool)

theorem toolRuns_append (d d' : Dialogue Outside) :
    toolRuns (d ++ d') = toolRuns d ++ toolRuns d' := List.filter_append ..

theorem toolRuns_resolutionOf {came : Except DeployError t.Value}
    (h : (resolutionOf t).run.LeadsTo dialogue came) : toolRuns dialogue = [] := by
  refine List.filter_eq_nil_iff.2 fun turn hturn => ?_
  rw [((asks_resolutionOf t).of_leadsTo h turn hturn).runsTool]
  exact Bool.false_ne_true

/-- A body that submits through the tool runs it once, for the store that is published. -/
theorem toolRuns_of_command {command : ToolCommand} {came : Except DeployError t.Value}
    (strategy : d.configuration.strategy = .process)
    (commanded : t.command? d.configuration = some command)
    (h : (d.bodyOf t store).run.LeadsTo dialogue came) :
    ∃ ended, toolRuns dialogue = [⟨.runTool (command.withTrustStore store)
      (d.configuration.timeouts.tool * 1000), ended⟩] := by
  obtain ⟨line, hbody⟩ := bodyOf_eq_of_process strategy commanded store
  rw [hbody] at h
  change (throughTool d.configuration command store >>= fun _ => resolutionOf t).run.LeadsTo
    dialogue came at h
  rcases leadsTo_bind.1 h with ⟨e, rfl, h₁⟩ | ⟨d₁, _, d₂, rfl, h₁, h₂⟩
  · obtain ⟨ended, rfl, -⟩ := leadsTo_throughTool h₁
    exact ⟨ended, rfl⟩
  · obtain ⟨ended, rfl, -⟩ := leadsTo_throughTool h₁
    refine ⟨ended, ?_⟩
    rw [toolRuns_append, toolRuns_resolutionOf h₂]
    rfl

theorem toolRuns_of_no_command {came : Except DeployError t.Value}
    (idle : t.command? d.configuration = none)
    (h : (d.bodyOf t store).run.LeadsTo dialogue came) : toolRuns dialogue = [] := by
  cases t with
  | deploy r => cases idle
  | undeploy name target => cases idle
  | status => exact toolRuns_resolutionOf (t := .status) h
  | isTargetRunning target => exact toolRuns_resolutionOf (t := .isTargetRunning target) h

/-! ### Series of operations -/

/-- What an operation hands over to the tool, and what it leaves behind. -/
structure Episode.HandsOver (c : Configuration) (inherited : String → Option String)
    (e : Episode) : Prop where
  /-- An operation that submits something runs the tool once when its channel is open. -/
  ran : ∀ command, e.task.command? c = some command → ⟨.connect, .ok ()⟩ ∈ e.dialogue →
    ∃ store ended, toolRuns e.dialogue =
      [⟨.runTool (command.withTrustStore store) (c.timeouts.tool * 1000), ended⟩]
  /-- Nothing else runs the tool. -/
  idle : e.task.command? c = none ∨ ⟨.connect, .ok ()⟩ ∉ e.dialogue → toolRuns e.dialogue = []
  /-- The tool sees what the context says, and behind it what is inherited. -/
  sees : ∀ child timeout ended, ⟨.runTool child timeout, ended⟩ ∈ e.dialogue →
    ∀ name, child.environment inherited name = c.trust.shown inherited name
  /-- What was inherited is published before and afterwards. -/
  before : e.before.current = .ofVariables inherited
  after : e.after.current = .ofVariables inherited

variable {inherited : String → Option String}

theorem handsOver_of_session {r : Except DeployError t.Value}
    (strategy : d.configuration.strategy = .process) (rest : g.IsAtRest (.ofVariables inherited))
    (h : d.Session (d.bodyOf t) g dialogue r g') :
    Episode.HandsOver d.configuration inherited ⟨t, g, dialogue, r, g'⟩ := by
  have before := rest.published
  have after := (isAtRest_of_session rest h).published
  cases h with
  | barred entered =>
      exact ⟨nofun, fun _ => rfl, nofun, before, after⟩
  | refused entered =>
      exact ⟨by simp, fun _ => rfl, by simp, before, after⟩
  | @held g₁ during came closed entered body_leadsTo =>
      have hruns : toolRuns (⟨.connect, .ok ()⟩ :: (during ++ [⟨.disconnect, closed⟩])) =
          toolRuns during := by
        rw [toolRuns, List.filter_cons_of_neg Bool.false_ne_true, List.filter_append]
        exact List.append_nil _
      refine ⟨fun command commanded _ => ?_, fun h => ?_, fun child timeout ended ran => ?_,
        before, after⟩
      · obtain ⟨ended, hbody⟩ := toolRuns_of_command strategy commanded body_leadsTo
        exact ⟨_, ended, hruns.trans hbody⟩
      · have idle := h.resolve_right (by simp)
        exact hruns.trans (toolRuns_of_no_command idle body_leadsTo)
      · have hchild : ⟨.runTool child timeout, ended⟩ ∈ toolRuns during :=
          hruns ▸ List.mem_filter.2 ⟨ran, rfl⟩
        cases commanded : t.command? d.configuration with
        | none =>
            rw [toolRuns_of_no_command commanded body_leadsTo] at hchild
            cases hchild
        | some command =>
            obtain ⟨_, hbody⟩ := toolRuns_of_command strategy commanded body_leadsTo
            rw [hbody, TrustGuard.current_of_enter_eq_ok entered, rest.published] at hchild
            cases List.mem_singleton.1 hchild
            exact d.configuration.trust.environment_publishedOver inherited command

theorem handsOver_of_mem_episodes (strategy : d.configuration.strategy = .process)
    (rest : g.IsAtRest (.ofVariables inherited)) (w : Responder Outside σ) (tasks : List Task)
    (s : σ) : (d.episodes w tasks g s).map (·.task) = tasks ∧
      ∀ e ∈ d.episodes w tasks g s, e.HandsOver d.configuration inherited := by
  induction tasks generalizing g s with
  | nil => simp [episodes]
  | cons t tasks ih =>
      have session := session_of_perform (leadsTo_run w (d.perform t g) s)
      -- the session leaves the guard at rest, so the next operation starts as this one did
      obtain ⟨htasks, later⟩ := ih (isAtRest_of_session rest session)
        ((d.perform t g).run w s).state
      constructor
      · rw [episodes, List.map_cons, htasks]
      · intro e he
        rcases List.mem_cons.1 he with rfl | he
        · exact handsOver_of_session strategy rest session
        · exact later e he

/-- Every operation of a series hands over the same, whatever came of those before. -/
theorem episodes_handOver (d : Deployer) (strategy : d.configuration.strategy = .process)
    (w : Responder Outside σ) (tasks : List Task) (inherited : String → Option String) (s : σ) :
    let episodes := d.episodes w tasks (.ofPublished (.ofVariables inherited)) s
    episodes.map (·.task) = tasks ∧ ∀ e ∈ episodes, e.HandsOver d.configuration inherited :=
  handsOver_of_mem_episodes strategy (TrustGuard.isAtRest_ofPublished _) w tasks s

/-- A store that is inherited, with its password. -/
def inheritedStore (name : String) : Option String :=
  if name = "SSL_CERT_FILE" then some "/inherited.pem"
  else if name = "SSL_CERT_PASSWORD" then some "changeit"
  else none

/-- Two operations whose tool is killed each time: it sees the location that is configured, and the
password that is inherited. -/
theorem episodes_handOver_killed :
    let episodes := sampleByTool.episodes (recordingWithTool none [33]).responder
      [.undeploy "foo" "AdminServer", .undeploy "bar" "AdminServer"]
      (.ofPublished (.ofVariables inheritedStore)) ()
    episodes.length = 2 ∧ ∀ e ∈ episodes, ∃ child timeout ended,
      toolRuns e.dialogue = [⟨.runTool child timeout, ended⟩] ∧
        child.environment inheritedStore "SSL_CERT_FILE" = some "/trust.pem" ∧
        child.environment inheritedStore "SSL_CERT_PASSWORD" = some "changeit" := by
  intro episodes
  obtain ⟨htasks, handsOver⟩ := episodes_handOver sampleByTool rfl
    (recordingWithTool none [33]).responder
    [.undeploy "foo" "AdminServer", .undeploy "bar" "AdminServer"] inheritedStore ()
  have opened {t : Task} {g : TrustGuard} (willing : g.board.IsWilling) :
      ⟨.connect, .ok ()⟩ ∈ ((sampleByTool.perform t g).run
        (recordingWithTool none [33]).responder ()).dialogue :=
    opened_iff.2 ⟨⟨_, TrustScopes.enter_of_isWilling willing _⟩, rfl⟩
  refine ⟨by rw [← List.length_map (f := (·.task)), htasks]; rfl, fun e he => ?_⟩
  have hands := handsOver e he
  have ran : ∃ store ended, ∃ command, toolRuns e.dialogue =
      [⟨.runTool (ToolCommand.withTrustStore command store) 600000, ended⟩] := by
    rcases List.mem_cons.1 he with rfl | he
    · obtain ⟨store, ended, h⟩ := hands.ran _ rfl (opened fun _ _ => rfl)
      exact ⟨store, ended, _, h⟩
    · obtain rfl := List.mem_singleton.1 he
      obtain ⟨store, ended, h⟩ := hands.ran _ rfl (opened fun _ _ => rfl)
      exact ⟨store, ended, _, h⟩
  obtain ⟨store, ended, command, h⟩ := ran
  have hchild : ⟨.runTool (command.withTrustStore store) 600000, ended⟩ ∈ toolRuns e.dialogue := by
    rw [h]
    exact List.mem_singleton_self _
  replace hchild := (List.mem_filter.1 hchild).1
  exact ⟨_, _, ended, h, hands.sees _ _ _ hchild _, hands.sees _ _ _ hchild _⟩

end Deployer

end DomainDeploy
