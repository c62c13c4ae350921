import DomainDeploy.Proofs.Questions
import DomainDeploy.Proofs.Walk

/-!
# Waiting, turn by turn

Waiting for an operation that is under way reads its state again and again, and sleeps in between.
`Sampling` says which dialogues that makes, along the recursion of `sampleFrom`: it ends where the
state is terminal, cannot be read or is read once too often, or where a sleep is cancelled. Behind
the state of a failure the domain is asked what went wrong (`Polling`), and in the end the progress
object is dropped, whatever came before (`polling_of_leadsTo`).
-/

namespace DomainDeploy

open Program Activity

variable {d : Dialogue Outside} {h : ProgressHandle}

/-! ### Questions about an operation under way -/

/-- A question that waiting asks: a sleep, or something about the progress object. -/
def ProgressHandle.IsAbout (h : ProgressHandle) : Outside.Question → Prop
  | .sleep _ => True
  | .call (.get object name) => object = h.object ∧ (name = "State" ∨ name = "FailedTargets")
  | .call (.invoke object operation _) => object = h.object ∧ operation = "getExceptions"
  | _ => False

/-- The question that drops the progress object. -/
def ProgressHandle.dropping (h : ProgressHandle) : Outside.Question :=
  .call (.invoke h.manager "removeDeploymentProgressObject"
    (.object [("applicationName", .string h.application)]))

/-- Reading the state of an operation, with what came back. -/
abbrev stateTurn (h : ProgressHandle) (reading : Reading) : Turn Outside :=
  look h.object "State" reading

/-- The state of an operation that failed. -/
abbrev failedState : Reading := .text "STATE_FAILED"

theorem ofReading?_eq_failed {reading : Reading} :
    TerminalState.ofReading? reading = some .failed ↔ reading = failedState := by
  cases reading with
  | text s =>
      by_cases hfailed : s = "STATE_FAILED"
      · simp [TerminalState.ofReading?, hfailed]
      · by_cases hcompleted : s = "STATE_COMPLETED" <;>
          simp [TerminalState.ofReading?, hfailed, hcompleted]
  | _ => simp [TerminalState.ofReading?]

/-! ### Reading the state -/

/-- Reading the state until it is terminal or the wait is used up, with what it comes to. -/
inductive Sampling (h : ProgressHandle) :
    Dialogue Outside → Except DeployError TerminalState → Prop
  | terminal {reading : Reading} {state : TerminalState}
      (told : TerminalState.ofReading? reading = some state) :
      Sampling h [stateTurn h reading] (.ok state)
  | unread {e : DeployError} :
      Sampling h [⟨.call (.get h.object "State"), .error e⟩] (.error e)
  | usedUp {reading : Reading} (untold : TerminalState.ofReading? reading = none) :
      Sampling h [stateTurn h reading] (.ok .unknown)
  | cancelled {reading : Reading} {time : Nat}
      (untold : TerminalState.ofReading? reading = none) :
      Sampling h [stateTurn h reading, ⟨.sleep time, false⟩] (.error .cancelled)
  | slept {reading : Reading} {time : Nat} {later : Dialogue Outside}
      {outcome : Except DeployError TerminalState}
      (untold : TerminalState.ofReading? reading = none) (sampled : Sampling h later outcome) :
      Sampling h (stateTurn h reading :: ⟨.sleep time, true⟩ :: later) outcome

theorem leadsTo_lookAtState {waited : Nat} {r : Except DeployError (Option TerminalState)} :
    (h.look waited).run.LeadsTo d r ↔
      (∃ e, r = .error e ∧ d = [⟨.call (.get h.object "State"), .error e⟩]) ∨
        ∃ reading, r = .ok (TerminalState.ofReading? reading) ∧ d = [stateTurn h reading] := by
  rw [ProgressHandle.look, leadsTo_bind]
  constructor
  · intro hd
    rcases hd with ⟨e, rfl, hread⟩ | ⟨_, reading, d₂, rfl, hread, hrest⟩
    · exact .inl ⟨e, rfl, leadsTo_call.1 hread⟩
    · obtain rfl := leadsTo_call.1 hread
      refine .inr ⟨reading, ?_⟩
      cases htold : TerminalState.ofReading? reading with
      | some state =>
          rw [htold] at hrest
          obtain ⟨rfl, rfl⟩ := hrest
          exact ⟨rfl, rfl⟩
      | none =>
          rw [htold] at hrest
          obtain ⟨rfl, rfl⟩ := hrest
          exact ⟨rfl, rfl⟩
  · intro hd
    rcases hd with ⟨e, rfl, rfl⟩ | ⟨reading, rfl, rfl⟩
    · exact .inl ⟨e, rfl, leadsTo_call.2 rfl⟩
    · refine .inr ⟨_, reading, [], rfl, leadsTo_call.2 rfl, ?_⟩
      cases htold : TerminalState.ofReading? reading <;> exact ⟨rfl, rfl⟩

theorem leadsTo_sleep {time : Nat} {r : Except DeployError Unit} :
    (Activity.sleep time).run.LeadsTo d r ↔
      ∃ woke, d = [⟨.sleep time, woke⟩] ∧ r = if woke then .ok () else .error .cancelled := by
  constructor
  · intro hd
    obtain ⟨woke, _, rfl, rfl, rfl⟩ := hd
    exact ⟨woke, rfl, rfl⟩
  · intro hd
    obtain ⟨woke, rfl, rfl⟩ := hd
    exact ⟨woke, [], rfl, rfl, rfl⟩

/-- The last look is like any other, but takes a state that is not terminal for unknown. -/
theorem sampleFrom_eq (h : ProgressHandle) (o : PollOptions) (waited left : Nat) :
    h.sampleFrom o waited left = (do
      match ← h.look waited with
      | some state => return state
      | none =>
        if left = 0 ∨ o.maxWait ≤ waited then return .unknown
        else
          sleep o.interval
          h.sampleFrom o (waited + o.interval) (left - 1)) := by
  cases left <;> rw [ProgressHandle.sampleFrom] <;> congr 1 <;> funext seen <;>
    cases seen <;> simp

/-- Once the rest of the patience is enough to use up the wait, more of it changes nothing. -/
theorem sampleFrom_of_le (h : ProgressHandle) {o : PollOptions} {waited left left' : Nat}
    (enough : o.maxWait ≤ waited + left * o.interval) (more : left ≤ left') :
    h.sampleFrom o waited left' = h.sampleFrom o waited left := by
  induction left generalizing waited left' with
  | zero =>
      have usedUp : o.maxWait ≤ waited := by simpa using enough
      rw [sampleFrom_eq, sampleFrom_eq h o waited 0]
      simp only [usedUp, or_true, if_true]
  | succ left ih =>
      obtain ⟨left', rfl⟩ := Nat.exists_eq_add_one_of_ne_zero (Nat.ne_zero_of_lt more)
      rw [Nat.succ_mul, ← Nat.add_assoc, Nat.add_right_comm] at enough
      have later := ih enough (Nat.le_of_succ_le_succ more)
      rw [sampleFrom_eq, sampleFrom_eq h o waited (left + 1)]
      simp only [Nat.add_one_ne_zero, false_or, Nat.add_one_sub_one, later]

/-- With an interval above zero the patience of `sample` is no bound: with more of it the same is
read. -/
theorem sampleFrom_of_patience_le (h : ProgressHandle) {o : PollOptions} {left : Nat}
    (positive : 0 < o.interval) (more : o.patience ≤ left) :
    h.sampleFrom o 0 left = h.sample o := by
  refine sampleFrom_of_le h ?_ more
  rw [PollOptions.patience_of_pos positive, Nat.zero_add]
  exact Nat.le_mul_of_pos_right _ positive

/-- What one round of sampling can come to: the state cannot be read or is terminal, the wait is
used up, the sleep is cancelled, or another round follows. -/
theorem cases_of_leadsTo_sampleFrom {o : PollOptions} {waited left : Nat}
    {r : Except DeployError TerminalState} (hd : (h.sampleFrom o waited left).run.LeadsTo d r) :
    (∃ e, d = [⟨.call (.get h.object "State"), .error e⟩] ∧ r = .error e) ∨
      ∃ reading,
        (∃ state, TerminalState.ofReading? reading = some state ∧ d = [stateTurn h reading] ∧
          r = .ok state) ∨
        TerminalState.ofReading? reading = none ∧
          (d = [stateTurn h reading] ∧ r = .ok .unknown ∨
            0 < left ∧ waited < o.maxWait ∧
              (d = [stateTurn h reading, ⟨.sleep o.interval, false⟩] ∧ r = .error .cancelled ∨
                ∃ later, d = stateTurn h reading :: ⟨.sleep o.interval, true⟩ :: later ∧
                  (h.sampleFrom o (waited + o.interval) (left - 1)).run.LeadsTo later r)) := by
  rw [sampleFrom_eq] at hd
  rcases leadsTo_bind.1 hd with ⟨e, rfl, hlook⟩ | ⟨_, seen, d₂, rfl, hlook, hrest⟩
  · rcases leadsTo_lookAtState.1 hlook with ⟨_, he, rfl⟩ | ⟨reading, he, -⟩ <;> cases he
    exact .inl ⟨e, rfl, rfl⟩
  · rcases leadsTo_lookAtState.1 hlook with ⟨_, he, -⟩ | ⟨reading, he, rfl⟩ <;> cases he
    refine .inr ⟨reading, ?_⟩
    cases htold : TerminalState.ofReading? reading with
    | some state =>
        rw [htold] at hrest
        obtain ⟨rfl, rfl⟩ := hrest
        exact .inl ⟨state, rfl, rfl, rfl⟩
    | none =>
        rw [htold] at hrest
        dsimp only at hrest
        refine .inr ⟨rfl, ?_⟩
        split at hrest
        · obtain ⟨rfl, rfl⟩ := hrest
          exact .inl ⟨rfl, rfl⟩
        · refine .inr ⟨by omega, by omega, ?_⟩
          rcases leadsTo_bind.1 hrest with ⟨e, rfl, hsleep⟩ | ⟨_, _, later, rfl, hsleep, hlater⟩
          · obtain ⟨woke, rfl, he⟩ := leadsTo_sleep.1 hsleep
            cases woke <;> cases he
            exact .inl ⟨rfl, rfl⟩
          · obtain ⟨woke, rfl, he⟩ := leadsTo_sleep.1 hsleep
            cases woke <;> cases he
            exact .inr ⟨later, rfl, hlater⟩

theorem sampling_of_leadsTo {o : PollOptions} {waited left : Nat}
    {r : Except DeployError TerminalState}
    (hd : (h.sampleFrom o waited left).run.LeadsTo d r) : Sampling h d r := by
  -- along the sleeps that are left
  induction left using Nat.strongRecOn generalizing waited d with
  | ind left ih =>
      rcases cases_of_leadsTo_sampleFrom hd with ⟨e, rfl, rfl⟩ |
        ⟨reading, ⟨state, told, rfl, rfl⟩ | ⟨untold, hrest⟩⟩
      · exact .unread
      · exact .terminal told
      · rcases hrest with ⟨rfl, rfl⟩ | ⟨positive, -, ⟨rfl, rfl⟩ | ⟨later, rfl, hlater⟩⟩
        · exact .usedUp untold
        · exact .cancelled untold
        · exact .slept untold (ih (left - 1) (by omega) hlater)

namespace Sampling

variable {outcome : Except DeployError TerminalState}

theorem isAbout (hd : Sampling h d outcome) : ∀ t ∈ d, h.IsAbout t.1 := by
  induction hd with
  | slept untold sampled ih =>
      exact List.forall_mem_cons.2
        ⟨⟨rfl, .inl rfl⟩, List.forall_mem_cons.2 ⟨trivial, ih⟩⟩
  | cancelled untold => simp [ProgressHandle.IsAbout]
  | _ => simp [ProgressHandle.IsAbout]

/-- Sampling ends at the first state of a failure, so it has read one exactly when it says so. -/
theorem failed_mem_iff (hd : Sampling h d outcome) :
    stateTurn h failedState ∈ d ↔ outcome = .ok .failed := by
  have unfailing {reading : Reading} (untold : TerminalState.ofReading? reading = none) :
      failedState ≠ reading := by
    rintro rfl
    cases ofReading?_eq_failed.2 rfl ▸ untold
  induction hd with
  | @terminal reading state told =>
      rw [List.mem_singleton]
      constructor
      · intro hmem
        obtain rfl : failedState = reading := by simpa using hmem
        rw [ofReading?_eq_failed.2 rfl] at told
        rw [Option.some.inj told]
      · intro hstate
        cases hstate
        rw [ofReading?_eq_failed.1 told]
  | unread => simp
  | usedUp untold => simp [unfailing untold]
  | cancelled untold => simp [unfailing untold]
  | slept untold sampled ih => simp [unfailing untold, ih]

/-- Sampling fails because a sleep was cancelled or the state could not be read. -/
theorem cause_of_error {e : DeployError} (hd : Sampling h d (.error e)) :
    e = .cancelled ∨ ⟨.call (.get h.object "State"), .error e⟩ ∈ d := by
  -- the outcome is no variable, and the induction needs one
  generalize houtcome : (Except.error e : Except DeployError TerminalState) = outcome at hd
  induction hd with
  | terminal told => cases houtcome
  | unread =>
      cases houtcome
      exact .inr (by simp)
  | usedUp untold => cases houtcome
  | cancelled untold =>
      cases houtcome
      exact .inl rfl
  | slept untold sampled ih =>
      rcases ih houtcome with rfl | hmem
      · exact .inl rfl
      · exact .inr (by simp [hmem])

end Sampling

/-! ### What went wrong -/

theorem ProgressHandle.isAbout_failure : h.failure.Asks h.IsAbout := by
  refine Asks.andThen (Asks.andThen (asks_request (S := Outside) ⟨rfl, .inr rfl⟩) fun reply => ?_)
    fun targets => ?_
  · cases reply <;> trivial
  · cases targets with
    | nil => trivial
    | cons target rest =>
        exact (asks_request (S := Outside) ⟨rfl, rfl⟩).andThen fun _ => trivial

/-- An operation that failed ends in an error that names a target. -/
theorem exists_of_leadsTo_failure {cause : DeployError} (hd : h.failure.LeadsTo d cause) :
    ∃ target detail, cause = .deploymentFailed target detail := by
  obtain ⟨_, targets, _, rfl, -, hd⟩ := leadsTo_andThen.1 hd
  cases targets with
  | nil => exact ⟨_, _, hd.2.symm⟩
  | cons target rest =>
      obtain ⟨_, reply, _, rfl, -, hd⟩ := leadsTo_andThen.1 hd
      exact ⟨target, _, hd.2.symm⟩

/-! ### Waiting -/

/-- Waiting for an operation, with what it comes to. -/
inductive Polling (h : ProgressHandle) :
    Dialogue Outside → Except DeployError TerminalState → Prop
  | settled {sampling : Dialogue Outside} {state : TerminalState}
      (sampled : Sampling h sampling (.ok state)) (unfailed : state ≠ .failed) :
      Polling h sampling (.ok state)
  | failed {sampling inquiry : Dialogue Outside} {cause : DeployError}
      (sampled : Sampling h sampling (.ok .failed)) (inquired : h.failure.LeadsTo inquiry cause) :
      Polling h (sampling ++ inquiry) (.error cause)
  | cutOff {sampling : Dialogue Outside} {e : DeployError}
      (sampled : Sampling h sampling (.error e)) : Polling h sampling (.error e)

theorem leadsTo_release {u : Unit} :
    h.release.LeadsTo d u ↔ ∃ reply : Except DeployError Reading, d = [⟨h.dropping, reply⟩] := by
  constructor
  · intro hd
    obtain ⟨_, reply, _, rfl, hreply, hrest⟩ := leadsTo_andThen.1 hd
    obtain rfl := leadsTo_request.1 hreply
    cases reply <;> obtain ⟨rfl, -⟩ := hrest <;> exact ⟨_, rfl⟩
  · intro hd
    obtain ⟨reply, rfl⟩ := hd
    refine leadsTo_andThen.2 ⟨[_], reply, [], rfl, leadsTo_request.2 rfl, ?_⟩
    cases reply <;> exact ⟨rfl, rfl⟩

theorem polling_of_leadsTo_verdict {sampling : Dialogue Outside}
    {outcome r : Except DeployError TerminalState} (sampled : Sampling h sampling outcome)
    (hd : (h.verdict outcome).LeadsTo d r) : Polling h (sampling ++ d) r := by
  cases outcome with
  | error e =>
      obtain ⟨rfl, rfl⟩ := hd
      simpa using Polling.cutOff sampled
  | ok state =>
      cases state with
      | failed =>
          obtain ⟨inquiry, cause, _, rfl, hfailure, rfl, rfl⟩ := leadsTo_andThen.1 hd
          simpa using Polling.failed sampled hfailure
      | completed =>
          obtain ⟨rfl, rfl⟩ := hd
          simpa using Polling.settled sampled (by simp)
      | unknown =>
          obtain ⟨rfl, rfl⟩ := hd
          simpa using Polling.settled sampled (by simp)

/-- However waiting ends, the progress object is dropped behind it. -/
theorem polling_of_leadsTo {o : PollOptions} {r : Except DeployError TerminalState}
    (hd : (h.poll o).run.LeadsTo d r) :
    ∃ polling, ∃ reply : Except DeployError Reading,
      d = polling ++ [⟨h.dropping, reply⟩] ∧ Polling h polling r := by
  obtain ⟨sampling, outcome, _, rfl, hsample, hrest⟩ := leadsTo_andThen.1 hd
  obtain ⟨verdict, _, _, rfl, hverdict, hrest⟩ := leadsTo_andThen.1 hrest
  obtain ⟨_, _, _, rfl, hrelease, rfl, rfl⟩ := leadsTo_andThen.1 hrest
  obtain ⟨reply, rfl⟩ := leadsTo_release.1 hrelease
  exact ⟨sampling ++ verdict, reply, by simp,
    polling_of_leadsTo_verdict (sampling_of_leadsTo hsample) hverdict⟩

namespace Polling

variable {r : Except DeployError TerminalState}

theorem isAbout (hd : Polling h d r) : ∀ t ∈ d, h.IsAbout t.1 := by
  cases hd with
  | settled sampled unfailed => exact sampled.isAbout
  | failed sampled inquired =>
      exact List.forall_mem_append.2
        ⟨sampled.isAbout, h.isAbout_failure.of_leadsTo inquired⟩
  | cutOff sampled => exact sampled.isAbout

/-- Where waiting ends in an error, the state of a failure was read and the error tells of it, or no
such state was read and the wait was cut off. -/
theorem cause_of_error {e : DeployError} (hd : Polling h d (.error e)) :
    (stateTurn h failedState ∈ d ∧ ∃ target detail, e = .deploymentFailed target detail) ∨
      stateTurn h failedState ∉ d ∧
        (e = .cancelled ∨ ⟨.call (.get h.object "State"), .error e⟩ ∈ d) := by
  cases hd with
  | failed sampled inquired =>
      exact .inl ⟨List.mem_append_left _ (sampled.failed_mem_iff.2 rfl),
        exists_of_leadsTo_failure inquired⟩
  | cutOff sampled =>
      refine .inr ⟨fun hmem => ?_, sampled.cause_of_error⟩
      cases sampled.failed_mem_iff.1 hmem

theorem failed_not_mem {state : TerminalState} (hd : Polling h d (.ok state)) :
    stateTurn h failedState ∉ d := by
  cases hd with
  | settled sampled unfailed =>
      intro hmem
      exact unfailed (Except.ok.inj (sampled.failed_mem_iff.1 hmem))

end Polling

end DomainDeploy
