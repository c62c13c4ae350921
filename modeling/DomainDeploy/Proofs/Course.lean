import DomainDeploy.Proofs.Cleanup
import DomainDeploy.Proofs.Evidence
import DomainDeploy.Proofs.Waiting

/-!
# The course of an operation

Between the opening of its channel and the closing an operation submits, waits for what it was
handed, drops the progress object and reads the domain, in this order. An operation that fails on
the way asks nothing of the later parts, but what it was handed it always drops (`Course`).

From this follows what may be invoked in an operation, and how often (`perform_isOrderly`): at most
one deploy or undeploy, one release for what was handed and none for anything else, and apart from
that only what waiting asks about the progress object.
-/

namespace DomainDeploy

open Program Activity

variable {d : Dialogue Outside} {h : ProgressHandle}

/-! ### What is invoked -/

namespace Outside.Question

/-- The operation that a question invokes, if it invokes one. -/
def operation? : Outside.Question → Option String
  | .call (.invoke _ operation _) | .call (.upload _ operation _ _) => some operation
  | _ => none

/-- Whether a question is one for a deploy or an undeploy. -/
def submits (q : Outside.Question) : Bool :=
  q.operation? == some "deploy" || q.operation? == some "undeploy"

/-- Whether a question drops a progress object. -/
def releases (q : Outside.Question) : Bool :=
  q.operation? == some "removeDeploymentProgressObject"

/-- A question that neither submits nor releases. -/
def IsQuiet (q : Outside.Question) : Prop := q.submits = false ∧ q.releases = false

theorem isQuiet_of_operation? {q : Outside.Question}
    (hq : q.operation? = none ∨ q.operation? = some "getURL" ∨
      q.operation? = some "getExceptions") : q.IsQuiet := by
  unfold IsQuiet submits releases
  rcases hq with hq | hq | hq <;> simp [hq]

theorem IsRead.isQuiet {q : Outside.Question} (hq : q.IsRead) : q.IsQuiet := by
  refine isQuiet_of_operation? ?_
  cases q with
  | call c =>
      cases c with
      | get object name => exact .inl rfl
      | invoke object operation arguments => exact .inr (.inl (congrArg some hq))
      | upload object operation arguments file => exact hq.elim
  | _ => exact hq.elim

end Outside.Question

open Outside.Question

theorem ProgressHandle.IsAbout.isQuiet {q : Outside.Question} (hq : h.IsAbout q) : q.IsQuiet := by
  refine isQuiet_of_operation? ?_
  cases q with
  | call c =>
      cases c with
      | get object name => exact .inl rfl
      | invoke object operation arguments => exact .inr (.inr (congrArg some hq.2))
      | upload object operation arguments file => exact hq.elim
  | sleep time => exact .inl rfl
  | _ => exact hq.elim

/-- The questions of a kind that stand in a dialogue. -/
def asked (p : Outside.Question → Bool) (d : Dialogue Outside) : List Outside.Question :=
  (d.map (·.1)).filter p

section

variable {p : Outside.Question → Bool}

@[simp] theorem asked_append (d d' : Dialogue Outside) :
    asked p (d ++ d') = asked p d ++ asked p d' := by
  simp [asked]

theorem asked_singleton (t : Turn Outside) :
    asked p [t] = if p t.1 then [t.1] else [] := by
  cases hp : p t.1 <;> simp [asked, hp]

theorem asked_eq_nil (h : ∀ t ∈ d, p t.1 = false) : asked p d = [] := by
  simp only [asked, List.filter_map, List.map_eq_nil_iff, List.filter_eq_nil_iff]
  intro t ht
  simp [h t ht]

theorem asked_submits_eq_nil (quiet : ∀ t ∈ d, t.1.IsQuiet) : asked submits d = [] :=
  asked_eq_nil fun t ht => (quiet t ht).1

theorem asked_releases_eq_nil (quiet : ∀ t ∈ d, t.1.IsQuiet) : asked releases d = [] :=
  asked_eq_nil fun t ht => (quiet t ht).2

end

/-! ### Submitting -/

namespace Deployer

open Submission

/-- What a task asks of the domain, with the application that it is about, and what the deployment
manager is asked before that. -/
inductive Task.Requests (manager : ObjectName) :
    Task → String → Dialogue Outside → Call → Prop
  | deploy {r : DeploymentRequest} {call : Call} (requested : DeployCall r manager call) :
      Task.Requests manager (.deploy r) r.name [] call
  /-- An undeploy is asked of the first application runtime of the name. -/
  | undeploy {name target : String} {runtime : ObjectName} {front : Dialogue Outside}
      (found : Search manager "AppDeploymentRuntimes" name (some runtime) front) :
      Task.Requests manager (.undeploy name target) name front
        (.invoke runtime "undeploy" (.object [("targets", .array [.string target])]))

/-- Submitting a task, with what it comes to. -/
inductive Sending (c : Configuration) (t : Task) :
    Dialogue Outside → Except DeployError (Option ProgressHandle) → Prop
  /-- The domain was read at most. -/
  | unsent {reads : Dialogue Outside} {outcome : Except DeployError (Option ProgressHandle)}
      (read : ∀ turn ∈ reads, turn.1.IsStateless) (unheld : ∀ h, outcome ≠ .ok (some h)) :
      Sending c t reads outcome
  | byTool {command : ToolCommand} {timeout : Nat} {ended : ToolEnd}
      {outcome : Except DeployError (Option ProgressHandle)} (strategy : c.strategy = .process)
      (unheld : ∀ h, outcome ≠ .ok (some h)) :
      Sending c t [⟨.runTool command timeout, ended⟩] outcome
  | byManager {domain manager : ObjectName} {application : String} {front : Dialogue Outside}
      {call : Call} {reply : Except DeployError Reading}
      {outcome : Except DeployError (Option ProgressHandle)} (strategy : c.strategy = .rest)
      (requested : t.Requests manager application front call)
      (held : ∀ h, outcome = .ok (some h) → Hands manager application reply h) :
      Sending c t (managerTurns domain manager ++ (front ++ [⟨.call call, reply⟩])) outcome

variable {D : Deployer} {c : Configuration} {t : Task} {store : TrustStore}

theorem sending_of_leadsTo_throughTool {command : ToolCommand}
    {outcome : Except DeployError (Option ProgressHandle)} (strategy : c.strategy = .process)
    (hd : (do throughTool c command store; return none :
      Activity (Option ProgressHandle)).run.LeadsTo d outcome) : Sending c t d outcome := by
  obtain ⟨came, htool, rfl⟩ := leadsTo_bind_pure.1 hd
  obtain ⟨ended, rfl, -⟩ := leadsTo_throughTool htool
  exact .byTool strategy (by simp)

theorem sending_of_leadsTo_deploy {r : DeploymentRequest}
    {outcome : Except DeployError (Option ProgressHandle)}
    (hd : (Submission.deploy c r store).run.LeadsTo d outcome) :
    Sending c (.deploy r) d outcome := by
  have hsubmit := leadsTo_log_bind.1 hd
  split at hsubmit
  next strategy => exact sending_of_leadsTo_throughTool strategy hsubmit
  next strategy =>
    obtain ⟨came, hmanager, rfl⟩ := leadsTo_bind_pure.1 hsubmit
    rcases leadsTo_deployByManager hmanager with ⟨⟨e, rfl⟩, hread⟩ | ⟨domain, manager, call, reply,
      rfl, requested, handed⟩
    · exact .unsent hread (by simp)
    · refine .byManager strategy (.deploy requested) fun h hh => handed h ?_
      simpa using hh

theorem asks_search {holder : ObjectName} {links name : String} (hlinks : links ≠ "State") :
    (getReferences holder links >>= firstNamed name).run.Asks IsStateless :=
  (asks_getReferences (by simpa using hlinks)).bind fun _ => asks_firstNamed _ _

theorem hands_of_leadsTo_undeployCall {manager : ObjectName} {name : String} {call : Call}
    {came : Except DeployError (Option ProgressHandle)} (hd : (do
      let reply ← Activity.call call
      return (← ofResult reply.toReference).map (⟨·, manager, name⟩) : Activity _).run.LeadsTo d
        came) :
    ∃ reply, d = [⟨.call call, reply⟩] ∧
      ∀ handle, came = .ok (some handle) → Hands manager name reply handle := by
  obtain ⟨reply, rest, rfl, ⟨rfl, e, rfl⟩ | ⟨reading, found, rfl, hfound, hrest⟩⟩ :=
    leadsTo_askReference hd
  · exact ⟨reply, rfl, by simp⟩
  · obtain ⟨rfl, rfl⟩ := hrest
    refine ⟨_, rfl, fun handle hhandle => ?_⟩
    cases found with
    | none => cases hhandle
    | some object =>
        cases hhandle
        rw [Reading.toReference_eq_some.1 hfound]
        exact ⟨rfl, rfl, rfl⟩

theorem sending_of_leadsTo_undeploy {name target : String}
    {outcome : Except DeployError (Option ProgressHandle)}
    (hd : (Submission.undeploy c name target store).run.LeadsTo d outcome) :
    Sending c (.undeploy name target) d outcome := by
  have hsubmit := leadsTo_log_bind.1 hd
  split at hsubmit
  next strategy => exact sending_of_leadsTo_throughTool strategy hsubmit
  next strategy =>
    obtain ⟨first, hfirst, rfl⟩ := leadsTo_submitting.1 hsubmit
    rcases leadsTo_bind.1 hfirst with ⟨e, rfl, hmanager⟩ | ⟨_, manager, _, rfl, hmanager, hrest⟩
    · exact .unsent (asks_deploymentManager.of_leadsTo hmanager) (by simp)
    · have managed := asks_deploymentManager.of_leadsTo hmanager
      obtain ⟨domain, rfl⟩ := leadsTo_deploymentManager.1 hmanager
      rcases leadsTo_search_bind.1 hrest with ⟨e, rfl, hsearch⟩ | ⟨front, found, _, rfl, hfound,
        hrest⟩
      · refine .unsent (List.forall_mem_append.2 ⟨managed, ?_⟩) (by simp)
        exact (asks_search (by simp)).of_leadsTo hsearch
      · cases found with
        | none =>
            obtain ⟨rfl, rfl⟩ := leadsTo_log_bind.1 hrest
            refine .unsent (List.forall_mem_append.2 ⟨managed, ?_⟩) (by simp)
            rw [List.append_nil]
            exact (asks_search (by simp)).of_leadsTo (leadsTo_search.2 hfound)
        | some runtime =>
            -- an answer without a reference is no failure here, but then nothing is handed over
            obtain ⟨reply, rfl, handed⟩ := hands_of_leadsTo_undeployCall hrest
            refine .byManager strategy (.undeploy hfound) fun h hh => handed h ?_
            exact mapError_eq_ok.1 hh

namespace Sending

variable {outcome : Except DeployError (Option ProgressHandle)}

theorem quiet_managerTurns (domain manager : ObjectName) :
    ∀ turn ∈ managerTurns domain manager, turn.1.IsQuiet := by
  intro turn hturn
  have led : deploymentManager.run.LeadsTo (managerTurns domain manager) (.ok manager) :=
    leadsTo_deploymentManager.2 ⟨domain, rfl⟩
  exact (asks_deploymentManager.of_leadsTo led turn hturn).isRead.isQuiet

theorem quiet_front {manager : ObjectName} {application : String} {front : Dialogue Outside}
    {call : Call} (requested : t.Requests manager application front call) :
    ∀ turn ∈ front, turn.1.IsQuiet := by
  cases requested with
  | deploy requested => simp
  | undeploy found =>
      intro turn hturn
      exact ((asks_search (by simp)).of_leadsTo (leadsTo_search.2 found) turn hturn).isRead.isQuiet

theorem length_asked_submits_le (hd : Sending c t d outcome) :
    (asked submits d).length ≤ 1 := by
  cases hd with
  | unsent read unheld =>
      rw [asked_submits_eq_nil fun turn hturn => (read turn hturn).isRead.isQuiet]
      exact Nat.zero_le 1
  | byTool strategy unheld => exact Nat.zero_le 1
  | byManager strategy requested held =>
      rw [asked_append, asked_append, asked_submits_eq_nil (quiet_managerTurns _ _),
        asked_submits_eq_nil (quiet_front requested)]
      exact List.length_filter_le _ _

theorem asked_releases_eq_nil (hd : Sending c t d outcome) : asked releases d = [] := by
  cases hd with
  | unsent read unheld =>
      exact DomainDeploy.asked_releases_eq_nil fun turn hturn =>
        (read turn hturn).isRead.isQuiet
  | byTool strategy unheld => rfl
  | byManager strategy requested held =>
      rw [asked_append, asked_append, DomainDeploy.asked_releases_eq_nil (quiet_managerTurns _ _),
        DomainDeploy.asked_releases_eq_nil (quiet_front requested), asked_singleton]
      rcases requested with ⟨_ | _⟩ | _ <;> simp [releases, operation?]

end Sending

/-! ### From the submission to the result -/

/-- The part of a task that submits something, if there is one. -/
def submissionOf (D : Deployer) : Task → TrustStore → Activity (Option ProgressHandle)
  | .deploy r, store => Submission.deploy D.configuration r store
  | .undeploy name target, store => Submission.undeploy D.configuration name target store
  | .status, _ | .isTargetRunning _, _ => pure none

/-- Making sure that nothing is left of a deployment. -/
def confirmUndeployed (name : String) : Activity Unit := do
  if ← Resolution.confirmAbsent name then
    Activity.note .info s!"{name} is no longer deployed"
  else throw (.stillDeployed name)

/-- The part of a task that reads the domain. -/
def resolutionOf : (t : Task) → Activity t.Value
  | .deploy r => Resolution.buildEndpoint r.name r.target
  | .undeploy name _ => confirmUndeployed name
  | .status => Resolution.listServers
  | .isTargetRunning target => Resolution.isTargetRunning target

theorem bodyOf_eq (D : Deployer) (t : Task) (store : TrustStore) :
    D.bodyOf t store = D.submissionOf t store >>= fun handle =>
      D.awaitIfAny handle >>= fun _ => resolutionOf t := by
  cases t <;> rfl

theorem asks_resolutionOf (t : Task) : (resolutionOf t).run.Asks IsRead := by
  cases t with
  | deploy r => exact Resolution.asks_buildEndpoint _ _
  | undeploy name target =>
      refine (Resolution.asks_confirmAbsent name).isRead.bind fun absent => ?_
      split <;> trivial
  | status => exact Resolution.asks_listServers
  | isTargetRunning target => exact Resolution.asks_isTargetRunning target

theorem sending_of_leadsTo {outcome : Except DeployError (Option ProgressHandle)}
    (hd : (D.submissionOf t store).run.LeadsTo d outcome) :
    Sending D.configuration t d outcome := by
  cases t with
  | deploy r => exact sending_of_leadsTo_deploy hd
  | undeploy name target => exact sending_of_leadsTo_undeploy hd
  | status =>
      obtain ⟨rfl, rfl⟩ := hd
      exact .unsent (by simp) (by simp)
  | isTargetRunning target =>
      obtain ⟨rfl, rfl⟩ := hd
      exact .unsent (by simp) (by simp)

theorem polling_of_leadsTo_await {came : Except DeployError Unit}
    (hd : (D.await h).run.LeadsTo d came) :
    ∃ polling, ∃ reply : Except DeployError Reading, ∃ polled,
      d = polling ++ [⟨h.dropping, reply⟩] ∧ Polling h polling polled ∧
        came = polled.map fun _ => () := by
  rcases leadsTo_bind.1 hd with ⟨e, rfl, hpoll⟩ | ⟨_, state, _, rfl, hpoll, hrest⟩
  · obtain ⟨polling, reply, rfl, polled⟩ := polling_of_leadsTo hpoll
    exact ⟨polling, reply, _, rfl, polled, rfl⟩
  · obtain ⟨polling, reply, rfl, polled⟩ := polling_of_leadsTo hpoll
    refine ⟨polling, reply, _, ?_, polled, ?_⟩
    · split at hrest <;> obtain ⟨rfl, -⟩ := hrest <;> exact List.append_nil _
    · split at hrest <;> obtain ⟨-, rfl⟩ := hrest <;> rfl

/-- Waiting that lets the domain be read: there was nothing to wait for, or the wait ended without a
failure and the progress object was dropped. -/
inductive Awaited : Option ProgressHandle → Dialogue Outside → Prop
  | nothing : Awaited none []
  | settled {h : ProgressHandle} {polling : Dialogue Outside} {state : TerminalState}
      {reply : Except DeployError Reading} (polled : Polling h polling (.ok state)) :
      Awaited (some h) (polling ++ [⟨h.dropping, reply⟩])

/-- What follows a submission: the turns of the waiting and of the reading, and the result. -/
inductive Course {α : Type} (confirm : Activity α) :
    Except DeployError (Option ProgressHandle) → Dialogue Outside → Dialogue Outside →
      Except DeployError α → Prop
  | unsubmitted {e : DeployError} : Course confirm (.error e) [] [] (.error e)
  | stopped {h : ProgressHandle} {polling : Dialogue Outside} {e : DeployError}
      {reply : Except DeployError Reading} (polled : Polling h polling (.error e)) :
      Course confirm (.ok (some h)) (polling ++ [⟨h.dropping, reply⟩]) [] (.error e)
  | confirmed {handle : Option ProgressHandle} {waiting reading : Dialogue Outside}
      {came : Except DeployError α} (awaited : Awaited handle waiting)
      (read : confirm.run.LeadsTo reading came) :
      Course confirm (.ok handle) waiting reading came

/-- The parts of a session whose channel was opened, with what each of them came to. -/
structure Stages (α : Type) where
  submission : Dialogue Outside
  outcome : Except DeployError (Option ProgressHandle)
  waiting : Dialogue Outside
  reading : Dialogue Outside
  came : Except DeployError α
  closed : Except DeployError Unit

namespace Stages

variable {α : Type}

/-- What is asked between the opening of the channel and the closing. -/
def during (s : Stages α) : Dialogue Outside := s.submission ++ (s.waiting ++ s.reading)

/-- All that is asked in the session. -/
def dialogue (s : Stages α) : Dialogue Outside :=
  ⟨.connect, .ok ()⟩ :: (s.during ++ [⟨.disconnect, s.closed⟩])

/-- The stages of a task that was told which trust store is published. -/
structure AreOf (D : Deployer) (t : Task) (store : TrustStore) (s : Stages t.Value) : Prop where
  submitted : (D.submissionOf t store).run.LeadsTo s.submission s.outcome
  followed : Course (resolutionOf t) s.outcome s.waiting s.reading s.came

end Stages

theorem stages_of_leadsTo_bodyOf {came : Except DeployError t.Value}
    (hd : (D.bodyOf t store).run.LeadsTo d came) (closed : Except DeployError Unit) :
    ∃ s : Stages t.Value, s.during = d ∧ s.came = came ∧ s.closed = closed ∧
      s.AreOf D t store := by
  -- what fails in one part leaves the later parts without a turn
  rw [bodyOf_eq] at hd
  rcases leadsTo_bind.1 hd with ⟨e, rfl, hsubmit⟩ | ⟨submission, handle, _, rfl, hsubmit, hrest⟩
  · exact ⟨⟨d, .error e, [], [], .error e, closed⟩, by simp [Stages.during], rfl, rfl, hsubmit,
      .unsubmitted⟩
  · rcases handle with _ | h
    · exact ⟨⟨submission, .ok none, [], _, came, closed⟩, rfl, rfl, rfl, hsubmit,
        .confirmed .nothing hrest⟩
    · rcases leadsTo_bind.1 hrest with ⟨e, rfl, hawait⟩ | ⟨_, _, reading, rfl, hawait, hread⟩
      · obtain ⟨polling, reply, polled, rfl, hpolled, he⟩ := polling_of_leadsTo_await hawait
        cases polled with
        | ok state => cases he
        | error e' =>
            cases he
            refine ⟨⟨submission, .ok (some h), polling ++ [⟨h.dropping, reply⟩], [], .error e,
              closed⟩, ?_, rfl, rfl, hsubmit, .stopped hpolled⟩
            simp [Stages.during]
      · obtain ⟨polling, reply, polled, rfl, hpolled, he⟩ := polling_of_leadsTo_await hawait
        cases polled with
        | error e' => cases he
        | ok state =>
            exact ⟨⟨submission, .ok (some h), _, reading, came, closed⟩, rfl, rfl, rfl, hsubmit,
              .confirmed (.settled hpolled) hread⟩

/-- The stages of a session whose channel was opened, and what is told of their result. -/
theorem stages_of_session {g g' : TrustGuard} {dialogue : Dialogue Outside}
    {r : Except DeployError t.Value} (session : D.Session (D.bodyOf t) g dialogue r g')
    (opened : ⟨.connect, .ok ()⟩ ∈ dialogue) :
    ∃ s : Stages t.Value, dialogue = s.dialogue ∧
      s.AreOf D t (g.enter D.configuration.trust).2.current ∧
        Tells (D.cleanupErrors g dialogue) s.came r := by
  cases session with
  | barred entered => cases opened
  | refused entered => cases List.mem_singleton.1 opened
  | @held g₁ during came closed entered body_leadsTo =>
      have inner := (D.asks_bodyOf t g₁.current).of_leadsTo body_leadsTo
      obtain ⟨s, rfl, rfl, rfl, hs⟩ := stages_of_leadsTo_bodyOf body_leadsTo closed
      have faults : D.cleanupErrors g s.dialogue = errorOf s.closed ++ errorOf g₁.revert.1 := by
        rw [cleanupErrors, ← TrustGuard.errorOf_revert_apply_stash,
          ← TrustGuard.eq_of_enter_eq_ok entered, Stages.dialogue, closingErrors_connect,
          closingErrors_append, closingErrors_eq_nil inner]
        simp [closingErrors]
      refine ⟨s, rfl, ?_, ?_⟩
      · rw [entered]
        exact hs
      · rw [← Stages.dialogue, faults]
        exact tells_attach _ s.came

/-! ### What is invoked in an operation -/

namespace Course

variable {α : Type} {confirm : Activity α} {outcome : Except DeployError (Option ProgressHandle)}
  {waiting reading : Dialogue Outside} {came : Except DeployError α}

theorem waits (hc : Course confirm outcome waiting reading came)
    (held : outcome = .ok (some h)) : ∃ polling, ∃ reply : Except DeployError Reading,
      waiting = polling ++ [⟨h.dropping, reply⟩] ∧ ∀ turn ∈ polling, h.IsAbout turn.1 := by
  cases hc with
  | unsubmitted => cases held
  | stopped polled =>
      cases held
      exact ⟨_, _, rfl, polled.isAbout⟩
  | confirmed awaited read =>
      cases held
      cases awaited with
      | settled polled => exact ⟨_, _, rfl, polled.isAbout⟩

theorem idles (hc : Course confirm outcome waiting reading came)
    (unheld : ∀ h, outcome ≠ .ok (some h)) : waiting = [] := by
  cases hc with
  | unsubmitted => rfl
  | stopped polled => exact (unheld _ rfl).elim
  | confirmed awaited read =>
      cases awaited with
      | nothing => rfl
      | settled polled => exact (unheld _ rfl).elim

theorem reads (hc : Course confirm outcome waiting reading came)
    (asks : confirm.run.Asks IsRead) : ∀ turn ∈ reading, turn.1.IsRead := by
  cases hc with
  | unsubmitted => simp
  | stopped polled => simp
  | confirmed awaited read => exact asks.of_leadsTo read

theorem asked_submits_eq_nil (hc : Course confirm outcome waiting reading came) :
    asked submits waiting = [] := by
  by_cases held : ∃ h, outcome = .ok (some h)
  · obtain ⟨h, held⟩ := held
    obtain ⟨polling, reply, rfl, about⟩ := hc.waits held
    rw [asked_append, asked_singleton,
      DomainDeploy.asked_submits_eq_nil fun turn hturn => (about turn hturn).isQuiet]
    simp [submits, operation?, ProgressHandle.dropping]
  · rw [hc.idles fun h hh => held ⟨h, hh⟩]
    rfl

theorem asked_releases (hc : Course confirm outcome waiting reading came) :
    asked releases waiting = (outcome.toOption.join.map ProgressHandle.dropping).toList := by
  by_cases held : ∃ h, outcome = .ok (some h)
  · obtain ⟨h, rfl⟩ := held
    obtain ⟨polling, reply, rfl, about⟩ := hc.waits rfl
    rw [asked_append, asked_singleton,
      asked_releases_eq_nil fun turn hturn => (about turn hturn).isQuiet]
    simp [releases, operation?, ProgressHandle.dropping, Except.toOption]
  · have unheld (h : ProgressHandle) : outcome ≠ .ok (some h) := fun hh => held ⟨h, hh⟩
    rw [hc.idles unheld]
    match outcome with
    | .error e => rfl
    | .ok none => rfl
    | .ok (some h) => exact (unheld h rfl).elim

end Course

namespace Stages

variable {s : Stages t.Value}

/-- At most one deploy or undeploy is asked for, what it hands over is waited for and dropped once,
and the reading only reads. -/
structure IsOrderly (c : Configuration) (t : Task) (s : Stages t.Value) : Prop where
  sent : Sending c t s.submission s.outcome
  submits : (asked submits s.dialogue).length ≤ 1
  releases : asked releases s.dialogue =
    (s.outcome.toOption.join.map ProgressHandle.dropping).toList
  waits : ∀ h, s.outcome = .ok (some h) → ∃ polling, ∃ reply : Except DeployError Reading,
    s.waiting = polling ++ [⟨h.dropping, reply⟩] ∧ ∀ turn ∈ polling, h.IsAbout turn.1
  idles : (∀ h, s.outcome ≠ .ok (some h)) → s.waiting = []
  reads : ∀ turn ∈ s.reading, turn.1.IsRead

/-- The opening and the closing of the channel invoke nothing. -/
theorem asked_dialogue {p : Outside.Question → Bool} (opening : p .connect = false)
    (closing : p .disconnect = false) :
    asked p s.dialogue = asked p s.submission ++ (asked p s.waiting ++ asked p s.reading) := by
  simp [Stages.dialogue, during, asked, opening, closing]

theorem AreOf.isOrderly (hs : s.AreOf D t store) : s.IsOrderly D.configuration t := by
  have sent := sending_of_leadsTo hs.submitted
  have reads := hs.followed.reads (asks_resolutionOf t)
  have quiet : ∀ turn ∈ s.reading, turn.1.IsQuiet := fun turn hturn =>
    (reads turn hturn).isQuiet
  refine ⟨sent, ?_, ?_, fun h => hs.followed.waits, hs.followed.idles, reads⟩
  · rw [asked_dialogue rfl rfl, hs.followed.asked_submits_eq_nil, asked_submits_eq_nil quiet]
    simpa using sent.length_asked_submits_le
  · rw [asked_dialogue rfl rfl, sent.asked_releases_eq_nil, hs.followed.asked_releases,
      asked_releases_eq_nil quiet]
    simp

end Stages

/-- Without a channel nothing is asked but to open one. -/
theorem connect_of_not_opened {g g' : TrustGuard} {dialogue : Dialogue Outside}
    {r : Except DeployError t.Value} (session : D.Session (D.bodyOf t) g dialogue r g')
    (unopened : ⟨.connect, .ok ()⟩ ∉ dialogue) : ∀ turn ∈ dialogue, turn.1 = .connect := by
  cases session with
  | barred entered => simp
  | refused entered => simp
  | held entered body_leadsTo => exact (unopened (by simp)).elim

/-- A task that submits nothing asks only what reads. -/
theorem Stages.AreOf.onlyReads {s : Stages t.Value} (hs : s.AreOf D t store)
    (idle : t = .status ∨ ∃ target, t = .isTargetRunning target) :
    ∀ turn ∈ s.dialogue, turn.1 = .connect ∨ turn.1 = .disconnect ∨ turn.1.IsRead := by
  have nothing : s.submission = [] ∧ s.waiting = [] := by
    have submitted := hs.submitted
    have unheld (h : ProgressHandle) : s.outcome ≠ .ok (some h) := by
      rcases idle with rfl | ⟨target, rfl⟩ <;> rw [← submitted.2] <;> simp
    refine ⟨?_, hs.followed.idles unheld⟩
    rcases idle with rfl | ⟨target, rfl⟩ <;> exact submitted.1
  intro turn hturn
  rw [Stages.dialogue, Stages.during, nothing.1, nothing.2] at hturn
  have reads := hs.followed.reads (asks_resolutionOf t) turn
  simp only [List.nil_append, List.mem_cons, List.mem_append, List.not_mem_nil, or_false] at hturn
  rcases hturn with rfl | hread | rfl
  · exact .inl rfl
  · exact .inr (.inr (reads hread))
  · exact .inr (.inl rfl)

/-- Whatever an operation is answered, its stages are in order: at most one deploy or undeploy, one
release of what was handed over, and only then the reading, whose result is told.  Without a channel
nothing else is asked, and a task that submits nothing invokes nothing but `getURL`. -/
theorem perform_isOrderly {σ : Type} (D : Deployer) (t : Task) (w : Responder Outside σ)
    (g : TrustGuard) (state : σ) :
    let played := (D.perform t g).run w state
    (⟨.connect, .ok ()⟩ ∈ played.dialogue → ∃ s : Stages t.Value,
      played.dialogue = s.dialogue ∧ s.AreOf D t (g.enter D.configuration.trust).2.current ∧
        s.IsOrderly D.configuration t ∧
          Tells (D.cleanupErrors g played.dialogue) s.came played.value.1) ∧
      (⟨.connect, .ok ()⟩ ∉ played.dialogue → ∀ turn ∈ played.dialogue, turn.1 = .connect) ∧
        (t = .status ∨ (∃ target, t = .isTargetRunning target) → ∀ turn ∈ played.dialogue,
          turn.1 = .connect ∨ turn.1 = .disconnect ∨ turn.1.IsRead) := by
  intro played
  have session := session_of_perform (leadsTo_run w (D.perform t g) state)
  refine ⟨fun opened => ?_, connect_of_not_opened session, fun idle => ?_⟩
  · obtain ⟨s, hdialogue, hs, told⟩ := stages_of_session session opened
    exact ⟨s, hdialogue, hs, hs.isOrderly, told⟩
  · by_cases opened : ⟨.connect, .ok ()⟩ ∈ played.dialogue
    · obtain ⟨s, hdialogue, hs, -⟩ := stages_of_session session opened
      rw [show played.dialogue = s.dialogue from hdialogue]
      exact hs.onlyReads idle
    · intro turn hturn
      exact .inl (connect_of_not_opened session opened turn hturn)

/-- A deploy that is served submits once and releases once. -/
theorem perform_isOrderly_serving :
    let t : Task := .deploy ⟨"foo", "foo.war", "AdminServer"⟩
    let g := TrustGuard.ofPublished .nowhere
    let played := (sample.perform t g).run Rehearsal.outside { domain := serving }
    ((asked submits played.dialogue).length = 1 ∧ (asked releases played.dialogue).length = 1) ∧
      ∃ s : Stages t.Value, played.dialogue = s.dialogue ∧
        s.AreOf sample t (g.enter sample.configuration.trust).2.current ∧
          s.IsOrderly sample.configuration t ∧
            Tells (sample.cleanupErrors g played.dialogue) s.came played.value.1 := by
  intro t g played
  have invoked : (asked submits played.dialogue).length = 1 ∧
      (asked releases played.dialogue).length = 1 := by
    decide +kernel
  have opened : ⟨.connect, .ok ()⟩ ∈ played.dialogue := List.mem_cons_self
  exact ⟨invoked, (perform_isOrderly sample t Rehearsal.outside g { domain := serving }).1 opened⟩

end Deployer

end DomainDeploy
