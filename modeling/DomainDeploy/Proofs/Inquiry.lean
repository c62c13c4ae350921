import DomainDeploy.Proofs.Waiting

/-!
# The verdict of waiting

Once sampling has ended, waiting still has calls to make: behind a failure it asks on which target
and why, and behind everything it asks to drop the progress object. Each of these calls may fail in
its turn, and none of them changes the verdict (`poll_keepsVerdict`): a failure stays a failure, at
worst of an unknown target without a detail, and what the progress object is dropped with is not
looked at.
-/

namespace DomainDeploy

open Program Activity

/-! ### The inquiry behind a failure -/

/-- The first text of a list that is not empty; a single text is the list of it. -/
def firstText? : Except DeployError Reading → Option String
  | .ok (.text text) => some text
  | .ok (.texts (first :: _)) => some first
  | _ => none

/-- Asking for the targets of a failure and, if one is named, for what went wrong there, with the
error that this comes to. -/
inductive Inquiry (h : ProgressHandle) : Dialogue Outside → DeployError → Prop
  | unnamed {targets : Except DeployError Reading} (hname : firstText? targets = none) :
      Inquiry h [⟨.call (.get h.object "FailedTargets"), targets⟩]
        (.deploymentFailed "unknown" "the server reported no failed target")
  | named {targets detail : Except DeployError Reading} {target : String}
      (hname : firstText? targets = some target) :
      Inquiry h
        [⟨.call (.get h.object "FailedTargets"), targets⟩,
          ⟨.call (.invoke h.object "getExceptions" (.object [("target", .string target)])), detail⟩]
        (.deploymentFailed target (ProgressHandle.detailOf detail))

namespace ProgressHandle

variable {h : ProgressHandle} {d : Dialogue Outside} {cause : DeployError}

/-- What cannot be read as a list of texts names no target. -/
theorem head?_of_leadsTo_failedTargets {targets : List String}
    (hd : h.failedTargets.LeadsTo d targets) :
    ∃ reply, d = [⟨.call (.get h.object "FailedTargets"), reply⟩] ∧
      targets.head? = firstText? reply := by
  obtain ⟨_, reply, _, rfl, hreply, hrest⟩ := leadsTo_andThen.1 hd
  obtain rfl := leadsTo_request.1 hreply
  refine ⟨reply, ?_⟩
  cases reply with
  | error e =>
      obtain ⟨rfl, rfl⟩ := hrest
      exact ⟨rfl, rfl⟩
  | ok reading =>
      obtain ⟨rfl, rfl⟩ := hrest
      refine ⟨rfl, ?_⟩
      cases reading with
      | texts items => cases items <;> rfl
      | _ => rfl

/-- Whatever the domain answers, the inquiry comes to an error of the first target named. -/
theorem inquiry_of_leadsTo (hd : h.failure.LeadsTo d cause) : Inquiry h d cause := by
  obtain ⟨_, targets, _, rfl, htargets, hrest⟩ := leadsTo_andThen.1 hd
  obtain ⟨reply, rfl, hhead⟩ := head?_of_leadsTo_failedTargets htargets
  cases targets with
  | nil =>
      obtain ⟨rfl, rfl⟩ := hrest
      exact .unnamed hhead.symm
  | cons target others =>
      obtain ⟨_, detail, _, rfl, hdetail, rfl, rfl⟩ := leadsTo_andThen.1 hrest
      obtain rfl := leadsTo_request.1 hdetail
      exact .named hhead.symm

/-! ### The verdict and the release -/

theorem IsSampling.isAbout : ∀ {q : Outside.Question}, h.IsSampling q → h.IsAbout q
  | .sleep _, _ => trivial
  | .call (.get _ _), hq => ⟨hq.1, .inl hq.2⟩

/-- A call that drops some progress object. -/
def isRemoval : Outside.Question → Bool
  | .call (.invoke _ operation _) | .call (.upload _ operation _ _) =>
    operation == "removeDeploymentProgressObject"
  | _ => false

@[simp] theorem isRemoval_dropping : isRemoval h.dropping = true := rfl

theorem IsAbout.isRemoval_eq_false : ∀ {q : Outside.Question}, h.IsAbout q → isRemoval q = false
  | .sleep _, _ => rfl
  | .call (.get _ _), _ => rfl
  | .call (.invoke _ _ _), hq => by simp [isRemoval, hq.2]

theorem IsAbout.ne_dropping {q : Outside.Question} (hq : h.IsAbout q) : q ≠ h.dropping := by
  rintro rfl
  cases hq.isRemoval_eq_false

theorem asks_verdict_isAbout (outcome : Except DeployError TerminalState) :
    (h.verdict outcome).Asks h.IsAbout := by
  match outcome with
  | .ok .failed => exact h.isAbout_failure.andThen fun _ => trivial
  | .ok .completed | .ok .unknown => trivial
  | .error e => trivial

theorem eq_of_leadsTo_verdict {outcome r : Except DeployError TerminalState}
    (unfailed : outcome ≠ .ok .failed) (hd : (h.verdict outcome).LeadsTo d r) :
    d = [] ∧ r = outcome := by
  match outcome with
  | .ok .failed => exact (unfailed rfl).elim
  | .ok .completed | .ok .unknown | .error _ =>
      obtain ⟨rfl, rfl⟩ := hd
      exact ⟨rfl, rfl⟩

/-- Waiting up to the release. -/
def settle (h : ProgressHandle) (o : PollOptions) :
    Program Outside Note (Except DeployError TerminalState) :=
  (h.sample o).run.andThen h.verdict

theorem asks_settle (o : PollOptions) : (h.settle o).Asks h.IsAbout :=
  ((h.asks_sampleFrom _ _ _).mono fun _ => IsSampling.isAbout).andThen asks_verdict_isAbout

theorem poll_eq (o : PollOptions) :
    (h.poll o).run = (h.settle o).andThen fun outcome => h.release.andThen fun _ => done outcome :=
  (andThen_assoc ..).symm

section

variable {σ : Type} {w w' : Responder Outside σ} {o : PollOptions} {s : σ}

/-- The verdict is settled before the progress object is dropped. -/
theorem value_poll : ((h.poll o).run.run w s).value = ((h.settle o).run w s).value := by
  rw [poll_eq, value_run_andThen, value_run_andThen]
  rfl

theorem dialogue_poll :
    ∃ dropped : Except DeployError Reading, ((h.poll o).run.run w s).dialogue =
      ((h.settle o).run w s).dialogue ++ [⟨h.dropping, dropped⟩] := by
  obtain ⟨dropped, hdropped⟩ :=
    leadsTo_release.1 (leadsTo_run w h.release ((h.settle o).run w s).state)
  refine ⟨dropped, ?_⟩
  rw [poll_eq, dialogue_run_andThen, dialogue_run_andThen, hdropped]
  exact congrArg _ (List.append_nil _)

end

/-- Surroundings that differ only in what dropping the progress object is answered with. -/
def DiffersInDropping (h : ProgressHandle) {σ : Type} (w w' : Responder Outside σ) : Prop :=
  ∀ q, q ≠ h.dropping → w q = w' q

theorem value_poll_congr {σ : Type} {w w' : Responder Outside σ} (h : ProgressHandle)
    (o : PollOptions) (s : σ) (hw : h.DiffersInDropping w w') :
    ((h.poll o).run.run w' s).value = ((h.poll o).run.run w s).value := by
  have same := (asks_settle (h := h) o).run_congr (fun q hq => hw q hq.ne_dropping) s
  rw [value_poll, value_poll, same]

/-- What sampling ends with decides what waiting ends with: behind a failure there is an inquiry,
and otherwise nothing but the release, which comes last and only once. What it is answered with
makes no difference. -/
theorem poll_keepsVerdict (h : ProgressHandle) (o : PollOptions) {σ : Type}
    (w : Responder Outside σ) (s : σ) :
    let sampled := (h.sample o).run.run w s
    let polled := (h.poll o).run.run w s
    (∃ inquiry, ∃ dropped : Except DeployError Reading,
      polled.dialogue = sampled.dialogue ++ inquiry ++ [⟨h.dropping, dropped⟩] ∧
        (∀ t ∈ sampled.dialogue, h.IsSampling t.1) ∧
        polled.dialogue.filter (isRemoval ·.1) = [⟨h.dropping, dropped⟩] ∧
        (sampled.value = .ok .failed →
          ∃ cause, polled.value = .error cause ∧ Inquiry h inquiry cause) ∧
        (sampled.value ≠ .ok .failed → polled.value = sampled.value ∧ inquiry = [])) ∧
      ∀ w', h.DiffersInDropping w w' → ((h.poll o).run.run w' s).value = polled.value := by
  intro sampled polled
  refine ⟨?_, fun w' hw => value_poll_congr h o s hw⟩
  obtain ⟨dropped, hpolled⟩ := dialogue_poll (h := h) (w := w) (o := o) (s := s)
  let verdict := (h.verdict sampled.value).run w sampled.state
  have hdialogue : ((h.settle o).run w s).dialogue = sampled.dialogue ++ verdict.dialogue :=
    dialogue_run_andThen
  have hvalue : polled.value = verdict.value := value_poll.trans value_run_andThen
  have led : (h.verdict sampled.value).LeadsTo verdict.dialogue verdict.value := leadsTo_run ..
  have unremoved : ∀ t ∈ ((h.settle o).run w s).dialogue, isRemoval t.1 = false := fun t ht =>
    ((asks_settle o).of_leadsTo (leadsTo_run ..) t ht).isRemoval_eq_false
  refine ⟨verdict.dialogue, dropped, by rw [← hdialogue]; exact hpolled,
    (h.asks_sampleFrom ..).of_leadsTo (leadsTo_run ..), ?_, fun failed => ?_, fun unfailed => ?_⟩
  · show ((h.poll o).run.run w s).dialogue.filter _ = _
    rw [hpolled, List.filter_append, List.filter_eq_nil_iff.2 (by simpa using unremoved)]
    rfl
  · rw [failed] at led
    obtain ⟨inquiry, cause, _, hd, hfailure, rfl, hcause⟩ := leadsTo_andThen.1 led
    refine ⟨cause, hvalue.trans hcause.symm, ?_⟩
    rw [hd, List.append_nil]
    exact inquiry_of_leadsTo hfailure
  · obtain ⟨hd, hr⟩ := eq_of_leadsTo_verdict unfailed led
    exact ⟨hvalue.trans hr, hd⟩

/-- A domain that reports a failure on two servers and answers no further call. -/
def silentBehindFailure (lost : DeployError) : Responder Outside Unit
  | .call (.get _ "State"), s => (.ok failedState, s)
  | .call (.get _ "FailedTargets"), s => (.ok (.texts ["s1", "s2"]), s)
  | .call _, s => (.error lost, s)
  | .connect, s | .disconnect, s => (.ok (), s)
  | .runTool .., s => (.timedOut, s)
  | .sleep _, s => (true, s)

/-- The first target is told although nothing else can be asked about it. -/
theorem poll_keepsVerdict_silent :
    let lost : DeployError := .transport (.stated "connection reset")
    let h : ProgressHandle := ⟨⟨"progress"⟩, ⟨"manager"⟩, "shop"⟩
    let w := silentBehindFailure lost
    let cause : DeployError := .deploymentFailed "s1" (detailOf (.error lost))
    ((h.sample {}).run.run w ()).value = .ok .failed ∧
      ((h.poll {}).run.run w ()).value = .error cause ∧
      ∀ w', h.DiffersInDropping w w' → ((h.poll {}).run.run w' ()).value = .error cause := by
  intro lost h w cause
  obtain ⟨⟨inquiry, dropped, -, -, -, failed, -⟩, same⟩ := h.poll_keepsVerdict {} w ()
  obtain ⟨told, hvalue, -⟩ := failed rfl
  obtain rfl : told = cause := Except.error.inj (hvalue.symm.trans rfl)
  exact ⟨rfl, hvalue, fun w' hw => (same w' hw).trans hvalue⟩

end ProgressHandle

end DomainDeploy
