import DomainDeploy.Proofs.Repetition

/-!
# Exits are advice

A tool that ran to its end has submitted, however it exited and whatever it printed: the domain is
read afterwards in any case. So two runs with tools that differ in nothing else are alike
(`Played.IsLike`): they ask the same questions, hear the same from the domain and come to the same
(`perform_takesAdvice`). What is asked of the domain is what reading it asks, since there is no
progress object that could be waited for.
-/

namespace DomainDeploy

open Program Activity

namespace Outside.Question

/-- Whether a question runs the tool. -/
def runsTool : Outside.Question → Bool
  | .runTool .. => true
  | _ => false

theorem IsRead.runsTool {q : Outside.Question} (hq : q.IsRead) : q.runsTool = false := by
  cases q with
  | runTool command timeout => exact hq.elim
  | _ => rfl

end Outside.Question

open Outside.Question

/-- What came back from anything but the tool. -/
def heard (d : Dialogue Outside) : Dialogue Outside := d.filter fun t => !t.1.runsTool

@[simp] theorem heard_append (d d' : Dialogue Outside) : heard (d ++ d') = heard d ++ heard d' :=
  List.filter_append ..

/-- Two runs that differ in nothing but what is noted and how the tool ended. -/
structure Program.Played.IsLike {σ α : Type} (r r' : Played Outside Note σ α) : Prop where
  value : r'.value = r.value
  state : r'.state = r.state
  asked : r'.dialogue.map (·.1) = r.dialogue.map (·.1)
  heard : heard r'.dialogue = heard r.dialogue

variable {σ α β : Type} {w w' : Responder Outside σ} {s : σ}

/-- Surroundings that answer alike but for how the tool ends. -/
structure DiffersInTool (w w' : Responder Outside σ) : Prop where
  answer : ∀ q, q.runsTool = false → w' q = w q
  state : ∀ command timeout s,
    (w' (.runTool command timeout) s).2 = (w (.runTool command timeout) s).2

/-- The tool can be started and runs to its end in time. -/
def ToolExits (w : Responder Outside σ) : Prop :=
  ∀ command timeout s, ∃ status stdout stderr order,
    (w (.runTool command timeout) s).1 = .exited status stdout stderr order

/-! ### Runs that are alike -/

/-- Wherever it starts, the program runs alike in both surroundings. -/
def RunsAlike (w w' : Responder Outside σ) (p : Program Outside Note α) : Prop :=
  ∀ s, (p.run w s).IsLike (p.run w' s)

theorem runsAlike_of_asks {p : Program Outside Note α} (differ : DiffersInTool w w')
    (asks : p.Asks fun q : Outside.Question => q.runsTool = false) : RunsAlike w w' p := by
  intro s
  have same : p.run w' s = p.run w s := asks.run_congr differ.answer s
  exact ⟨by rw [same], by rw [same], by rw [same], by rw [same]⟩

theorem RunsAlike.andThen {p : Program Outside Note α} {f : α → Program Outside Note β}
    (h : RunsAlike w w' p) (hf : ∀ a, RunsAlike w w' (f a)) : RunsAlike w w' (p.andThen f) := by
  intro s
  have first := h s
  have second := hf (p.run w s).value (p.run w s).state
  refine ⟨?_, ?_, ?_, ?_⟩
  · rw [value_run_andThen, value_run_andThen, first.value, first.state, second.value]
  · rw [run_andThen, run_andThen]
    simp only [first.value, first.state, second.state]
  · simp only [dialogue_run_andThen, List.map_append, first.value, first.state, first.asked,
      second.asked]
  · simp only [dialogue_run_andThen, heard_append, first.value, first.state, first.heard,
      second.heard]

theorem RunsAlike.bind {x : Activity α} {f : α → Activity β} (h : RunsAlike w w' x.run)
    (hf : ∀ a, RunsAlike w w' (f a).run) : RunsAlike w w' (x >>= f).run := by
  rw [run_bind_eq_andThen]
  refine h.andThen fun r => ?_
  cases r with
  | ok a => exact hf a
  | error e => exact fun _ => ⟨rfl, rfl, rfl, rfl⟩

/-! ### Running the tool -/

namespace Submission

variable {c : Configuration} {command : ToolCommand} {store : TrustStore}

theorem state_run_throughTool (s : σ) : ((throughTool c command store).run.run w s).state =
    (w (.runTool (command.withTrustStore store) (c.timeouts.tool * 1000)) s).2 := by
  unfold throughTool
  rw [run_bind_eq_andThen, state_run_andThen, Asks.state_run]
  · rfl
  · split
    · split <;> trivial
    · trivial

/-- A tool that runs to its end is asked for once and lets the operation go on. -/
theorem run_throughTool (c : Configuration) (command : ToolCommand) (store : TrustStore)
    (exits : ToolExits w) (s : σ) :
    ((throughTool c command store).run.run w s).value = .ok () ∧
      ∃ ended, ((throughTool c command store).run.run w s).dialogue =
        [⟨.runTool (command.withTrustStore store) (c.timeouts.tool * 1000), ended⟩] := by
  obtain ⟨ended, hdialogue, hvalue⟩ := leadsTo_throughTool
    (leadsTo_run w (throughTool c command store).run s)
  refine ⟨?_, ended, hdialogue⟩
  obtain ⟨s', hended⟩ := answered_run (w := w) (throughTool c command store).run s _
    (by rw [hdialogue]; exact List.mem_cons_self)
  obtain ⟨status, stdout, stderr, order, hexited⟩ := exits _ _ s'
  have exited : ended = .exited status stdout stderr order := hended.symm.trans hexited
  rw [hvalue, exited]
  rfl

theorem runsAlike_throughTool (differ : DiffersInTool w w') (exits : ToolExits w)
    (exits' : ToolExits w') : RunsAlike w w' (throughTool c command store).run := by
  intro s
  obtain ⟨hvalue, ended, hdialogue⟩ := run_throughTool c command store exits s
  obtain ⟨hvalue', ended', hdialogue'⟩ := run_throughTool c command store exits' s
  refine ⟨by rw [hvalue, hvalue'], ?_, ?_, ?_⟩
  · rw [state_run_throughTool, state_run_throughTool, differ.state]
  · simp [hdialogue, hdialogue']
  · simp [hdialogue, hdialogue', heard, runsTool]

end Submission

/-! ### Operations that run the tool -/

namespace Deployer

open Submission

/-- A question that only looks at the domain, or runs the tool with the command. -/
def RunsOnly (command : ToolCommand) (q : Outside.Question) : Prop :=
  q.IsPassive ∨ ∃ store timeout, q = .runTool (command.withTrustStore store) timeout

theorem RunsOnly.of_isPassive {command : ToolCommand} {q : Outside.Question} (h : q.IsPassive) :
    RunsOnly command q := .inl h

/-- The command that a task runs the tool with, if it submits something. -/
def Task.command? (c : Configuration) : Task → Option ToolCommand
  | .deploy r => some (.build c .deploy r.name (some r.artifact) r.target)
  | .undeploy name target => some (.build c .undeploy name none target)
  | .status | .isTargetRunning _ => none

variable {D : Deployer} {t : Task} {g : TrustGuard} {command : ToolCommand}

/-- Between the tool and the reading there is nothing to wait for. -/
theorem bodyOf_eq_of_process (strategy : D.configuration.strategy = .process)
    (commanded : t.command? D.configuration = some command) (store : TrustStore) :
    ∃ line, D.bodyOf t store = Activity.note .info line >>= fun _ =>
      throughTool D.configuration command store >>= fun _ => resolutionOf t := by
  rw [bodyOf_eq]
  cases t with
  | deploy r =>
      obtain rfl := Option.some.inj commanded
      simp only [submissionOf, Submission.deploy, strategy, bind_assoc, pure_bind]
      exact ⟨_, rfl⟩
  | undeploy name target =>
      obtain rfl := Option.some.inj commanded
      simp only [submissionOf, Submission.undeploy, strategy, bind_assoc, pure_bind]
      exact ⟨_, rfl⟩
  | status => cases commanded
  | isTargetRunning target => cases commanded

theorem runsAlike_inSession {body : TrustStore → Activity α} (differ : DiffersInTool w w')
    (h : ∀ store, RunsAlike w w' (body store).run) (g : TrustGuard) :
    RunsAlike w w' (D.inSession body g) := by
  unfold inSession
  split
  · exact fun _ => ⟨rfl, rfl, rfl, rfl⟩
  · refine RunsAlike.andThen (runsAlike_of_asks differ (asks_request (S := Outside) rfl)) ?_
    intro opened
    cases opened with
    | error e => exact runsAlike_of_asks differ (asks_abandon e _)
    | ok u =>
        refine (h _).andThen fun result => runsAlike_of_asks differ ?_
        exact asks_finish (P := fun q => q.runsTool = false) rfl result _

theorem runsAlike_perform (strategy : D.configuration.strategy = .process)
    (commanded : t.command? D.configuration = some command) (differ : DiffersInTool w w')
    (exits : ToolExits w) (exits' : ToolExits w') (g : TrustGuard) :
    RunsAlike w w' (D.perform t g) := by
  have session : RunsAlike w w' (D.inSession (D.bodyOf t) g) := by
    refine runsAlike_inSession differ (fun store => ?_) g
    obtain ⟨line, hbody⟩ := bodyOf_eq_of_process strategy commanded store
    rw [hbody]
    -- only the step in the middle asks the tool, where alone the two domains differ
    refine RunsAlike.bind (runsAlike_of_asks differ (asks_note _ _)) fun _ => ?_
    refine RunsAlike.bind (runsAlike_throughTool differ exits exits') fun _ => ?_
    exact runsAlike_of_asks differ ((asks_resolutionOf t).mono fun _ => IsRead.runsTool)
  cases t with
  | deploy r => exact RunsAlike.andThen (runsAlike_of_asks differ trivial) fun _ => session
  | undeploy name target =>
      exact RunsAlike.andThen (runsAlike_of_asks differ trivial) fun _ => session
  | status => exact session
  | isTargetRunning target => exact session

/-- Running the tool, then reading the domain, is all that the body of the operation does. -/
theorem run_bodyOf_of_process (strategy : D.configuration.strategy = .process)
    (commanded : t.command? D.configuration = some command) (exits : ToolExits w)
    (store : TrustStore) (s : σ) : ∃ ended s',
      ((D.bodyOf t store).run.run w s).dialogue =
        ⟨.runTool (command.withTrustStore store) (D.configuration.timeouts.tool * 1000), ended⟩ ::
          ((resolutionOf t).run.run w s').dialogue ∧
      ((D.bodyOf t store).run.run w s).value = ((resolutionOf t).run.run w s').value ∧
        Reaches w (RunsOnly command) s s' := by
  obtain ⟨line, hbody⟩ := bodyOf_eq_of_process strategy commanded store
  obtain ⟨hvalue, ended, hdialogue⟩ := run_throughTool D.configuration
    command store exits s
  let noted := (Activity.note .info line).run.run w s
  have noted_state : noted.state = s := rfl
  have noted_dialogue : noted.dialogue = [] := rfl
  have noted_value : noted.value = .ok () := rfl
  have reached := reaches_run (P := RunsOnly command)
    (throughTool D.configuration command store).run s (by
      rw [hdialogue]
      exact List.forall_mem_singleton.2 (.inr ⟨store, _, rfl⟩))
  refine ⟨ended, ((throughTool D.configuration command store).run.run w s).state, ?_, ?_, reached⟩
  · rw [hbody, dialogue_run_bind_of_ok noted_value, noted_state, noted_dialogue,
      dialogue_run_bind_of_ok hvalue, hdialogue]
    simp
  · rw [hbody, value_run_bind_of_ok noted_value, noted_state, value_run_bind_of_ok hvalue]

/-- Within an open channel the tool is run once, and then the domain is read. -/
theorem reading_of_opened (strategy : D.configuration.strategy = .process)
    (commanded : t.command? D.configuration = some command) (exits : ToolExits w)
    (opened : ⟨.connect, .ok ()⟩ ∈ ((D.perform t g).run w s).dialogue) : ∃ ended s' closed,
      ((D.perform t g).run w s).dialogue = ⟨.connect, .ok ()⟩ ::
        ⟨.runTool (command.withTrustStore (g.enter D.configuration.trust).2.current)
          (D.configuration.timeouts.tool * 1000), ended⟩ ::
          (((resolutionOf t).run.run w s').dialogue ++ [⟨.disconnect, closed⟩]) ∧
      Tells (D.cleanupErrors g ((D.perform t g).run w s).dialogue)
        ((resolutionOf t).run.run w s').value ((D.perform t g).run w s).value.1 ∧
      Reaches w (RunsOnly command) s s' := by
  obtain ⟨⟨g₁, entered⟩, connected⟩ := opened_iff.1 opened
  obtain ⟨closed, hdialogue⟩ := dialogue_of_enter (t := t) entered connected
  obtain ⟨ended, s', hbody, hvalue, reached⟩ := run_bodyOf_of_process strategy commanded exits
    g₁.current (w .connect s).2
  have told := D.tells_perform t w g s
  rw [verdict_of_enter entered connected, hvalue] at told
  refine ⟨ended, s', closed, ?_, told, (Reaches.refl.tail (.inl (.inl rfl))).trans reached⟩
  rw [hdialogue, hbody, entered]
  rfl

theorem isQuiet_of_process (strategy : D.configuration.strategy = .process)
    (commanded : t.command? D.configuration = some command) (exits : ToolExits w) :
    ∀ turn ∈ ((D.perform t g).run w s).dialogue, turn.1.IsQuiet := by
  have unasked {q : Outside.Question} (hq : q.operation? = none) : q.IsQuiet :=
    isQuiet_of_operation? (.inl hq)
  by_cases opened : ⟨.connect, .ok ()⟩ ∈ ((D.perform t g).run w s).dialogue
  · obtain ⟨ended, s', closed, hdialogue, -, -⟩ := reading_of_opened strategy commanded exits opened
    have reading := (asks_resolutionOf t).of_leadsTo (leadsTo_run w (resolutionOf t).run s')
    rw [hdialogue]
    simp only [List.forall_mem_cons, List.forall_mem_append, List.not_mem_nil]
    exact ⟨unasked rfl, unasked rfl, fun turn hturn => (reading turn hturn).isQuiet, unasked rfl,
      nofun⟩
  · intro turn hturn
    have session := session_of_perform (leadsTo_run w (D.perform t g) s)
    rw [connect_of_not_opened session opened turn hturn]
    exact unasked rfl

/-- When the tool runs to its end, an operation that submits through it makes nothing of how it
exited and what it printed. It asks the domain what reading it asks and nothing else, and
undeploying a name that is not on record succeeds. -/
theorem perform_takesAdvice (D : Deployer) (strategy : D.configuration.strategy = .process)
    (t : Task) (command : ToolCommand) (commanded : t.command? D.configuration = some command)
    (w w' : Responder Outside σ) (differ : DiffersInTool w w') (exits : ToolExits w)
    (exits' : ToolExits w') (g : TrustGuard) (s : σ) :
    let played := (D.perform t g).run w s
    let played' := (D.perform t g).run w' s
    played.IsLike played' ∧
    (⟨.connect, .ok ()⟩ ∈ played.dialogue → ∃ ended reading came closed,
      played.dialogue = ⟨.connect, .ok ()⟩ ::
        ⟨.runTool (command.withTrustStore (g.enter D.configuration.trust).2.current)
          (D.configuration.timeouts.tool * 1000), ended⟩ :: (reading ++ [⟨.disconnect, closed⟩]) ∧
      (resolutionOf t).run.LeadsTo reading came ∧
        Tells (D.cleanupErrors g played.dialogue) came played.value.1) ∧
    (asked submits played.dialogue = [] ∧ asked releases played.dialogue = []) ∧
    ∀ name target g₁, g.enter D.configuration.trust = (.ok (), g₁) → (w .connect s).1 = .ok () →
      NoRecord w (RunsOnly (.build D.configuration .undeploy name none target)) s name →
        ((D.perform (.undeploy name target) g).run w s).value.1 = .ok () := by
  intro played played'
  have quiet := isQuiet_of_process (g := g) (s := s) strategy commanded exits
  refine ⟨runsAlike_perform strategy commanded differ exits exits' g s, fun opened => ?_,
    ⟨asked_submits_eq_nil quiet, asked_releases_eq_nil quiet⟩,
    fun name target g₁ entered connected absent => ?_⟩
  · obtain ⟨ended, s', closed, hdialogue, told, -⟩ :=
      reading_of_opened strategy commanded exits opened
    exact ⟨ended, _, _, closed, hdialogue, leadsTo_run w _ s', told⟩
  · obtain ⟨ended, s', closed, -, told, reached⟩ := reading_of_opened (t := .undeploy name target)
      strategy rfl exits (opened_iff.2 ⟨⟨g₁, entered⟩, connected⟩)
    have confirmed := (foresees_confirmUndeployed_none
      (fun q hq => .of_isPassive hq.isPassive) absent s' reached).1
    rw [resolutionOf, confirmed] at told
    exact told.eq_ok

/-- A deployer that runs the tool. -/
def sampleByTool : Deployer :=
  { sample with configuration := { sample.configuration with strategy := .process } }

/-- The same domain with a tool that ends in the given way. -/
def recordingWithTool (status : Option Int) (stderr : List UInt8) : Static Outside
  | .runTool _ _ => .exited status [] stderr []
  | q => recording false q

/-- Undeploying a name that is nowhere, once with a tool that succeeds and once with one that is
killed. -/
theorem perform_takesAdvice_killed :
    let t : Task := .undeploy "foo" "AdminServer"
    let g := TrustGuard.ofPublished .nowhere
    let played := (sampleByTool.perform t g).run (recordingWithTool (some 0) []).responder ()
    let killed := (sampleByTool.perform t g).run (recordingWithTool none [33]).responder ()
    played.IsLike killed ∧ played.value.1 = .ok () ∧ asked releases played.dialogue = [] := by
  intro t g played killed
  have exits (status : Option Int) (stderr : List UInt8) :
      ToolExits (recordingWithTool status stderr).responder := fun _ _ _ => ⟨_, _, _, _, rfl⟩
  have differ : DiffersInTool (recordingWithTool (some 0) []).responder
      (recordingWithTool none [33]).responder := by
    refine ⟨fun q hq => ?_, fun _ _ _ => rfl⟩
    cases q with
    | runTool command timeout => cases hq
    | _ => rfl
  have named : ∀ path ∈ ["bar", "qux"], (recordingWithTool (some 0) []).reply
      (.get ⟨path⟩ "Name") = .ok (.text path) := by simp [Static.reply, recordingWithTool, recording]
  have absent : NoRecord (recordingWithTool (some 0) []).responder
      (RunsOnly (.build sampleByTool.configuration .undeploy "foo" none "AdminServer")) () "foo" :=
    refers_of_stays (stays_responder _) rfl
      (listsOnlyOthers_of_stays (stays_responder _) rfl named (by simp))
  obtain ⟨alike, -, ⟨-, dropped⟩, undeployed⟩ := perform_takesAdvice sampleByTool rfl t _ rfl _ _
    differ (exits _ _) (exits _ _) g ()
  have entered := TrustScopes.enter_of_isWilling (g := g) (fun _ _ => rfl)
    sampleByTool.configuration.trust
  exact ⟨alike, undeployed _ _ _ entered rfl absent, dropped⟩

end Deployer

end DomainDeploy
