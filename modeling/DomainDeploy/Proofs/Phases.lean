import DomainDeploy.Proofs.Course
import DomainDeploy.Proofs.Faults

/-!
# Phases

The phase of an error tells in which of its stages an operation broke down, if the open channel
fails with nothing but errors of its own kind: the submission failed, a failure was read while
waiting, or the domain denied the result (`perform_phase`). What breaks down anywhere else was
cancelled or is an error of the channel. So an operation that submitted something never asks to be
tried again.
-/

namespace DomainDeploy

open Program Activity

variable {d : Dialogue Outside}

/-! ### Errors of a submission -/

namespace Submission

variable {c : Configuration} {store : TrustStore} {e : DeployError}

/-- An error that a submission ends with: its own kind, unless it was cancelled. -/
def IsOfSubmission (e : DeployError) : Prop := e = .cancelled ∨ ∃ fault, e = .submission fault

theorem isOfSubmission_asSubmission (e : DeployError) : IsOfSubmission (asSubmission e) := by
  cases e with
  | cancelled => exact .inl rfl
  | _ => exact .inr ⟨_, rfl⟩

theorem isOfSubmission_of_outputOf {program : String} {timeout : Nat} {ended : ToolEnd}
    (h : outputOf program timeout ended = .error e) : IsOfSubmission e := by
  cases ended with
  | exited status stdout stderr order => cases h
  | cancelled =>
      cases h
      exact .inl rfl
  | _ =>
      cases h
      exact .inr ⟨_, rfl⟩

theorem isOfSubmission_of_submitting {α : Type} {a : Activity α}
    (h : (submitting a).run.LeadsTo d (.error e)) : IsOfSubmission e := by
  obtain ⟨first, -, hfirst⟩ := leadsTo_submitting.1 h
  obtain ⟨cause, -, rfl⟩ := mapError_eq_error.1 hfirst.symm
  exact isOfSubmission_asSubmission cause

theorem isOfSubmission_of_throughTool {command : ToolCommand}
    (h : (do throughTool c command store; return none :
      Activity (Option ProgressHandle)).run.LeadsTo d (.error e)) : IsOfSubmission e := by
  obtain ⟨came, htool, hcame⟩ := leadsTo_bind_pure.1 h
  obtain ⟨ended, -, rfl⟩ := leadsTo_throughTool htool
  exact isOfSubmission_of_outputOf (map_eq_error.1 (map_eq_error.1 hcame))

end Submission

namespace Deployer

open Submission Resolution

variable {D : Deployer} {t : Task} {store : TrustStore} {e : DeployError}

theorem isOfSubmission_of_leadsTo (hd : (D.submissionOf t store).run.LeadsTo d (.error e)) :
    IsOfSubmission e := by
  cases t with
  | deploy r =>
      have hsubmit := leadsTo_log_bind.1 hd
      split at hsubmit
      · exact isOfSubmission_of_throughTool hsubmit
      · obtain ⟨came, hmanager, hcame⟩ := leadsTo_bind_pure.1 hsubmit
        obtain rfl := map_eq_error.1 hcame
        exact isOfSubmission_of_submitting hmanager
  | undeploy name target =>
      have hsubmit := leadsTo_log_bind.1 hd
      split at hsubmit
      · exact isOfSubmission_of_throughTool hsubmit
      · exact isOfSubmission_of_submitting hsubmit
  | status => cases hd.2
  | isTargetRunning target => cases hd.2

/-! ### What a task is denied -/

/-- What is read denies the task: no endpoint is served, or the deployment is still there. -/
def Task.Denies : Task → Dialogue Outside → Prop
  | .deploy r, d => ∃ cause, (buildEndpoint r.name r.target).run.LeadsTo d (.error cause) ∧
      cause.isDenial
  | .undeploy name _, d => ∃ found, (findDeployment name).run.LeadsTo d (.ok (some found))
  | .status, _ | .isTargetRunning _, _ => False

theorem Task.not_denies_nil : ¬t.Denies [] := by
  intro hdenies
  cases t with
  | deploy r =>
      obtain ⟨cause, hd, -⟩ := hdenies
      obtain ⟨_, _, hnil, -⟩ := hd
      cases hnil
  | undeploy name target =>
      obtain ⟨found, hd⟩ := hdenies
      obtain ⟨_, _, hnil, -⟩ := hd
      cases hnil
  | status => exact hdenies
  | isTargetRunning target => exact hdenies

theorem leadsTo_confirmUndeployed_error {name : String}
    (hd : (confirmUndeployed name).run.LeadsTo d (.error e)) :
    (findDeployment name).run.LeadsTo d (.error e) ∨
      e = .stillDeployed name ∧
        ∃ found, (findDeployment name).run.LeadsTo d (.ok (some found)) := by
  rcases leadsTo_bind.1 hd with ⟨e', he, habsent⟩ | ⟨_, absent, _, rfl, habsent, hrest⟩
  · cases he
    obtain ⟨first, hfind, hfirst⟩ := leadsTo_bind_pure.1 habsent
    obtain rfl := map_eq_error.1 hfirst
    exact .inl hfind
  · obtain ⟨found, hfound, rfl⟩ := leadsTo_confirmAbsent.1 habsent
    cases found with
    | none => cases hrest.2
    | some found =>
        obtain ⟨rfl, he⟩ := hrest
        cases he
        refine .inr ⟨rfl, found, ?_⟩
        simpa using hfound

/-- A task that is denied fails with an error of that phase. -/
theorem Task.Denies.phase_eq (hdenies : t.Denies d)
    (hd : (resolutionOf t).run.LeadsTo d (.error e)) : e.phase = .verification := by
  cases t with
  | deploy r =>
      obtain ⟨cause, hcause, hdenial⟩ := hdenies
      cases hcause.unique hd
      exact DeployError.phase_of_isDenial hdenial
  | undeploy name target =>
      obtain ⟨found, hfound⟩ := hdenies
      rcases leadsTo_confirmUndeployed_error hd with hfind | ⟨rfl, -⟩
      · cases hfound.unique hfind
      · rfl
  | status => exact hdenies.elim
  | isTargetRunning target => exact hdenies.elim

/-- Reading that fails without a denial fails with a fault of the protocol or the error of a
call. -/
theorem fault_of_not_denies (hdenies : ¬t.Denies d)
    (hd : (resolutionOf t).run.LeadsTo d (.error e)) :
    e.IsProtocol ∨ ∃ c, ⟨.call c, .error e⟩ ∈ d := by
  cases t with
  | deploy r =>
      rcases failsWith_buildEndpoint r.name r.target hd with (hprotocol | hdenial) | hcall
      · exact .inl hprotocol
      · exact (hdenies ⟨e, hd, hdenial⟩).elim
      · exact .inr hcall
  | undeploy name target =>
      rcases leadsTo_confirmUndeployed_error hd with hfind | ⟨-, hfound⟩
      · exact failsWith_findDeployment name hfind
      · exact (hdenies hfound).elim
  | status => exact failsWith_listServers hd
  | isTargetRunning target => exact failsWith_isTargetRunning target hd

/-! ### Where a stage broke down -/

/-- What the calls of a dialogue failed with. -/
def callErrors (d : Dialogue Outside) : List DeployError :=
  d.flatMap fun
    | ⟨.call _, reply⟩ => errorOf reply
    | _ => []

theorem mem_callErrors {c : Call} (h : ⟨.call c, .error e⟩ ∈ d) : e ∈ callErrors d :=
  List.mem_flatMap.2 ⟨_, h, List.mem_singleton_self e⟩

/-- An error that is no one's verdict: a cancellation, or an error of the channel. -/
def IsInterruption (e : DeployError) : Prop := e = .cancelled ∨ e.isOfChannel

theorem IsInterruption.phase_eq (h : IsInterruption e) : e.phase = .other := by
  rcases h with rfl | h
  · rfl
  · exact DeployError.phase_of_isOfChannel h

theorem IsInterruption.primary_eq (h : IsInterruption e) : e.primary = e := by
  rcases h with rfl | h
  · rfl
  · cases e <;> cases h <;> rfl

/-- A progress object is not dropped by reading its state. -/
theorem stateTurn_mem_of_dropped {h : ProgressHandle} {reading : Reading}
    {polling : Dialogue Outside} {reply : Except DeployError Reading}
    (hmem : stateTurn h reading ∈ polling ++ [⟨h.dropping, reply⟩]) :
    stateTurn h reading ∈ polling := by
  rcases List.mem_append.1 hmem with hmem | hmem
  · exact hmem
  · cases List.mem_singleton.1 hmem

namespace Course

variable {outcome : Except DeployError (Option ProgressHandle)} {waiting reading : Dialogue Outside}

theorem eq_of_unsubmitted {cause : DeployError}
    (hc : Course (resolutionOf t) outcome waiting reading (.error e))
    (unsubmitted : outcome = .error cause) : e = cause := by
  cases hc with
  | unsubmitted =>
      cases unsubmitted
      rfl
  | stopped polled => cases unsubmitted
  | confirmed awaited read => cases unsubmitted

theorem phase_of_readFailure {h : ProgressHandle}
    (hc : Course (resolutionOf t) outcome waiting reading (.error e))
    (submitted : outcome = .ok (some h)) (hfailed : stateTurn h failedState ∈ waiting) :
    e.phase = .confirmedFailure := by
  cases hc with
  | unsubmitted => cases submitted
  | stopped polled =>
      cases submitted
      rcases polled.cause_of_error with ⟨-, target, detail, rfl⟩ | ⟨unfailed, -⟩
      · rfl
      · exact (unfailed (stateTurn_mem_of_dropped hfailed)).elim
  | confirmed awaited read =>
      cases submitted
      cases awaited with
      | settled polled => exact (polled.failed_not_mem (stateTurn_mem_of_dropped hfailed)).elim

theorem phase_of_denies {handle : Option ProgressHandle}
    (hc : Course (resolutionOf t) outcome waiting reading (.error e))
    (submitted : outcome = .ok handle) (hdenies : t.Denies reading) : e.phase = .verification := by
  cases hc with
  | unsubmitted => cases submitted
  -- nothing was read, and a denial takes at least one turn
  | stopped polled => exact (Task.not_denies_nil hdenies).elim
  | confirmed awaited read => exact hdenies.phase_eq read

/-- What breaks down after a submission, but neither at a failure nor at a denial, was
interrupted. -/
theorem isInterruption {handle : Option ProgressHandle}
    (hc : Course (resolutionOf t) outcome waiting reading (.error e))
    (submitted : outcome = .ok handle)
    (unfailed : ∀ h, handle = some h → stateTurn h failedState ∉ waiting)
    (undenied : Awaited handle waiting → ¬t.Denies reading)
    (faults : ∀ cause ∈ callErrors (waiting ++ reading), cause.isOfChannel) :
    IsInterruption e := by
  cases hc with
  | unsubmitted => cases submitted
  | @stopped h polling e reply polled =>
      cases submitted
      rcases polled.cause_of_error with ⟨hfailed, -⟩ | ⟨-, rfl | hcall⟩
      · exact (unfailed h rfl (List.mem_append_left _ hfailed)).elim
      · exact .inl rfl
      · refine .inr (faults e (mem_callErrors (c := .get h.object "State") ?_))
        simp [hcall]
  | confirmed awaited read =>
      cases submitted
      rcases fault_of_not_denies (undenied awaited) read with hprotocol | ⟨c, hcall⟩
      · exact .inr hprotocol.isOfChannel
      · exact .inr (faults e (mem_callErrors (List.mem_append_right _ hcall)))

end Course

namespace Stages

/-- The submission failed, and not because it was cancelled. -/
def FailedToSubmit (s : Stages t.Value) : Prop :=
  ∃ cause, s.outcome = .error cause ∧ cause ≠ .cancelled

/-- A failure was read while waiting. -/
def ReadFailure (s : Stages t.Value) : Prop :=
  ∃ h, s.outcome = .ok (some h) ∧ stateTurn h failedState ∈ s.waiting

/-- Something was submitted and waiting did not fail, but the domain denies the task. -/
def WasDenied (t : Task) (s : Stages t.Value) : Prop :=
  (∃ handle, s.outcome = .ok handle ∧ Awaited handle s.waiting) ∧ t.Denies s.reading

variable {s : Stages t.Value}

/-- Neither the opening nor the closing of the channel is a call. -/
theorem callErrors_dialogue :
    callErrors s.dialogue = callErrors s.submission ++ callErrors (s.waiting ++ s.reading) := by
  simp [Stages.dialogue, during, callErrors]

/-- The phase of an error names the stage that broke down. -/
structure IsPhase (t : Task) (s : Stages t.Value) (phase : Phase) : Prop where
  submission : phase = .submission ↔ s.FailedToSubmit
  confirmedFailure : phase = .confirmedFailure ↔ s.ReadFailure
  verification : phase = .verification ↔ s.WasDenied t
  other : phase = .other ↔ ¬s.FailedToSubmit ∧ ¬s.ReadFailure ∧ ¬s.WasDenied t

theorem isPhase_of_cases {phase : Phase} (hsubmit : s.FailedToSubmit → phase = .submission)
    (hfailure : s.ReadFailure → phase = .confirmedFailure)
    (hdenied : s.WasDenied t → phase = .verification)
    (hother : ¬s.FailedToSubmit → ¬s.ReadFailure → ¬s.WasDenied t → phase = .other) :
    s.IsPhase t phase := by
  by_cases h₁ : s.FailedToSubmit
  · obtain rfl := hsubmit h₁
    constructor <;> simp_all
  · by_cases h₂ : s.ReadFailure
    · obtain rfl := hfailure h₂
      constructor <;> simp_all
    · by_cases h₃ : s.WasDenied t
      · obtain rfl := hdenied h₃
        constructor <;> simp_all
      · obtain rfl := hother h₁ h₂ h₃
        constructor <;> simp_all

/-- A phase that names the stage that broke down behind an accepted submission does not ask to try
the operation again. -/
theorem IsPhase.not_retryable {phase : Phase} {handle : Option ProgressHandle}
    (h : s.IsPhase t phase) (accepted : s.outcome = .ok handle) :
    phase ≠ .submission ∧ phase ≠ .connection ∧ phase ≠ .configuration := by
  have hsubmit : ¬s.FailedToSubmit := by
    rintro ⟨cause, hcause, -⟩
    cases accepted.symm.trans hcause
  have hsubmission := h.submission
  have hfailure := h.confirmedFailure
  have hdenied := h.verification
  have hother := h.other
  cases phase <;> simp_all

theorem AreOf.phase_of_failedToSubmit (hs : s.AreOf D t store) (hcame : s.came = .error e)
    (hfailed : s.FailedToSubmit) : e.phase = .submission := by
  obtain ⟨cause, houtcome, hcause⟩ := hfailed
  have submitted := hs.submitted
  have followed := hs.followed
  rw [houtcome] at submitted
  rw [hcame] at followed
  obtain rfl := followed.eq_of_unsubmitted houtcome
  rcases isOfSubmission_of_leadsTo submitted with rfl | ⟨fault, rfl⟩
  · exact (hcause rfl).elim
  · rfl

theorem AreOf.isInterruption (hs : s.AreOf D t store) (hcame : s.came = .error e)
    (faults : ∀ cause ∈ callErrors s.dialogue, cause.isOfChannel)
    (unsubmitted : ¬s.FailedToSubmit) (unfailed : ¬s.ReadFailure) (undenied : ¬s.WasDenied t) :
    IsInterruption e := by
  have followed := hs.followed
  rw [hcame] at followed
  cases houtcome : s.outcome with
  | error cause =>
      obtain rfl := followed.eq_of_unsubmitted houtcome
      by_cases hcancelled : e = .cancelled
      · exact .inl hcancelled
      · exact (unsubmitted ⟨e, houtcome, hcancelled⟩).elim
  | ok handle =>
      refine followed.isInterruption houtcome (fun h hh hmem => ?_) (fun awaited hdenies => ?_)
        fun cause hcause => faults cause ?_
      · exact unfailed ⟨h, by rw [houtcome, hh], hmem⟩
      · exact undenied ⟨⟨handle, houtcome, awaited⟩, hdenies⟩
      · rw [callErrors_dialogue]
        exact List.mem_append_right _ hcause

/-- What a session whose channel fails only as channels do comes to. -/
theorem AreOf.isPhase (hs : s.AreOf D t store) (hcame : s.came = .error e)
    (faults : ∀ cause ∈ callErrors s.dialogue, cause.isOfChannel) : s.IsPhase t e.phase := by
  have followed := hs.followed
  rw [hcame] at followed
  refine isPhase_of_cases (hs.phase_of_failedToSubmit hcame) ?_ ?_ fun h₁ h₂ h₃ =>
    (hs.isInterruption hcame faults h₁ h₂ h₃).phase_eq
  · rintro ⟨h, houtcome, hmem⟩
    exact followed.phase_of_readFailure houtcome hmem
  · rintro ⟨⟨handle, houtcome, -⟩, hdenies⟩
    exact followed.phase_of_denies houtcome hdenies

end Stages

/-- When the channel was opened and fails with nothing but errors of its own kind, the phase of the
error that an operation ends with names the stage that broke down, whatever is attached to it. -/
theorem perform_phase {σ : Type} (D : Deployer) (t : Task) (w : Responder Outside σ)
    (g : TrustGuard) (state : σ) (e : DeployError)
    (opened : ⟨.connect, .ok ()⟩ ∈ ((D.perform t g).run w state).dialogue)
    (faults : ∀ cause ∈ callErrors ((D.perform t g).run w state).dialogue, cause.isOfChannel)
    (failed : ((D.perform t g).run w state).value.1 = .error e) :
    ∃ s : Stages t.Value, ((D.perform t g).run w state).dialogue = s.dialogue ∧
      s.AreOf D t (g.enter D.configuration.trust).2.current ∧ s.IsPhase t e.phase ∧
        (e.phase = .other → IsInterruption e.primary) ∧
          ∀ handle, s.outcome = .ok handle →
            e.phase ≠ .submission ∧ e.phase ≠ .connection ∧ e.phase ≠ .configuration := by
  have session := session_of_perform (leadsTo_run w (D.perform t g) state)
  obtain ⟨s, hdialogue, hs, told⟩ := stages_of_session session opened
  rw [hdialogue] at faults
  rw [failed] at told
  generalize hcame : s.came = came at told
  cases told with
  | @error cause e' primary phase message attached undisturbed =>
      have hphase := hs.isPhase hcame faults
      rw [phase]
      refine ⟨s, hdialogue, hs, hphase, fun hother => ?_, fun handle => hphase.not_retryable⟩
      obtain ⟨unsubmitted, unfailed, undenied⟩ := hphase.other.1 hother
      have interrupted := hs.isInterruption hcame faults unsubmitted unfailed undenied
      rw [primary, interrupted.primary_eq]
      exact interrupted

/-- A domain that would serve the deployment, but reports that it failed. -/
def reportingFailure : RehearsedDomain :=
  { serving with
    attributes := ("progress#State", [.ok (.text "STATE_FAILED")]) :: serving.attributes }

/-- A deploy to such a domain ends with a failure that the domain confirmed. -/
theorem perform_phase_reportingFailure :
    let t : Task := .deploy ⟨"foo", "foo.war", "AdminServer"⟩
    let g := TrustGuard.ofPublished .nowhere
    let played := (sample.perform t g).run Rehearsal.outside { domain := reportingFailure }
    (⟨.connect, .ok ()⟩ ∈ played.dialogue ∧
        ∀ cause ∈ callErrors played.dialogue, cause.isOfChannel) ∧
      ∃ e, played.value.1 = .error e ∧ e.phase = .confirmedFailure ∧
        ∃ s : Stages t.Value, played.dialogue = s.dialogue ∧
          s.AreOf sample t (g.enter sample.configuration.trust).2.current ∧
            s.IsPhase t e.phase ∧ (e.phase = .other → IsInterruption e.primary) ∧
              ∀ handle, s.outcome = .ok handle →
                e.phase ≠ .submission ∧ e.phase ≠ .connection ∧ e.phase ≠ .configuration := by
  intro t g played
  have opened : ⟨.connect, .ok ()⟩ ∈ played.dialogue := List.mem_cons_self
  have faults : ∀ cause ∈ callErrors played.dialogue, cause.isOfChannel := by
    decide +kernel
  have phases : (errorOf played.value.1).map DeployError.phase = [.confirmedFailure] := by
    decide +kernel
  refine ⟨⟨opened, faults⟩, ?_⟩
  cases failed : played.value.1 with
  | ok a =>
      rw [failed] at phases
      cases phases
  | error e =>
      rw [failed] at phases
      exact ⟨e, rfl, List.singleton_inj.1 phases, perform_phase sample t Rehearsal.outside g
        { domain := reportingFailure } e opened faults failed⟩

end Deployer

end DomainDeploy
