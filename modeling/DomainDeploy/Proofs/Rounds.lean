import Mathlib.Algebra.Order.Floor.Div
import DomainDeploy.Proofs.Waiting

/-!
# Rounds of sampling

Sampling goes round by round: a reading of the state and, unless that ends it, a sleep. A run goes
through the rounds that end nothing (`goesOn_rounds`, by induction from `goesOn_round`), and before
the round `k` it has slept `k` intervals; the wait is used up in the first round at whose start that
is as long as the wait, be it a multiple of the interval or not. So the readings and sleeps of a run
are known from the replies alone (`sample_takes`), and the time slept stays below what the rounds
make up, which for whole seconds is the wait itself.
-/

namespace DomainDeploy

open Program Activity

namespace Program

/-! ### Runs that go on -/

section

variable {S : Signature} {ν σ α : Type}

/-- The first run is led through the dialogue `d` and then goes on like the second. -/
structure GoesOn (d : Dialogue S) (p q : Played S ν σ α) : Prop where
  value : p.value = q.value
  state : p.state = q.state
  dialogue : p.dialogue = d ++ q.dialogue

theorem GoesOn.trans {d d' : Dialogue S} {p q r : Played S ν σ α} (h : GoesOn d p q)
    (h' : GoesOn d' q r) : GoesOn (d ++ d') p r where
  value := h.value.trans h'.value
  state := h.state.trans h'.state
  dialogue := by rw [h.dialogue, h'.dialogue, List.append_assoc]

/-- Where nothing follows the dialogue, the run has come to its end. -/
theorem GoesOn.ended {d : Dialogue S} {p : Played S ν σ α} {a : α} {s : σ}
    (h : GoesOn d p ⟨a, s, []⟩) : p.value = a ∧ p.state = s ∧ p.dialogue = d :=
  ⟨h.value, h.state, h.dialogue.trans (List.append_nil d)⟩

theorem goesOn_ask (q : S.Question) (k : S.Answer q → Program S ν α) (w : Responder S σ) (s : σ) :
    GoesOn [⟨q, (w q s).1⟩] ((ask q k).run w s) ((k (w q s).1).run w (w q s).2) := ⟨rfl, rfl, rfl⟩

end

end Program

/-! ### How many rounds there are -/

namespace PollOptions

variable {o : PollOptions} {n : Nat}

/-- The last round: the first one at whose start the wait is used up. -/
def lastRound (o : PollOptions) : Nat := o.maxWait ⌈/⌉ o.interval

theorem lastRound_le_iff (positive : 0 < o.interval) :
    o.lastRound ≤ n ↔ o.maxWait ≤ n * o.interval := by
  rw [lastRound, ceilDiv_le_iff_le_mul positive, Nat.mul_comm]

theorem lt_lastRound_iff (positive : 0 < o.interval) :
    n < o.lastRound ↔ n * o.interval < o.maxWait := by
  rw [← not_le, lastRound_le_iff positive, not_le]

/-- The patience is enough for all rounds. -/
theorem lastRound_le_patience (positive : 0 < o.interval) : o.lastRound ≤ o.patience := by
  rw [patience_of_pos positive, lastRound_le_iff positive]
  exact Nat.le_mul_of_pos_right _ positive

end PollOptions

/-! ### What a reply ends with -/

/-- What sampling ends with at that reply, if it ends there. -/
def ending? : Except DeployError Reading → Option (Except DeployError TerminalState)
  | .error e => some (.error e)
  | .ok (.text "STATE_COMPLETED") => some (.ok .completed)
  | .ok (.text "STATE_FAILED") => some (.ok .failed)
  | .ok _ => none

/-- The states that end sampling are the terminal ones. -/
theorem ending?_ok (reading : Reading) :
    ending? (.ok reading) = (TerminalState.ofReading? reading).map .ok := by
  cases reading with
  | text s =>
      by_cases hcompleted : s = "STATE_COMPLETED"
      · simp [ending?, TerminalState.ofReading?, hcompleted]
      · by_cases hfailed : s = "STATE_FAILED" <;>
          simp [ending?, TerminalState.ofReading?, hcompleted, hfailed]
  | _ => rfl

/-! ### Numbered replies -/

/-- Surroundings in which calls and sleeps are numbered, each from zero: the call of number `n` is
answered with `replies n`, and the sleep of number `n` ends by itself if `wakes n`. -/
def byNumber (replies : Nat → Except DeployError Reading) (wakes : Nat → Bool) :
    Responder Outside (Nat × Nat)
  | .call _, (calls, sleeps) => (replies calls, (calls + 1, sleeps))
  | .sleep _, (calls, sleeps) => (wakes sleeps, (calls, sleeps + 1))
  | .connect, s | .disconnect, s => (.ok (), s)
  | .runTool .., s => (.timedOut, s)

/-- The first rounds end nothing: no reply does, and no sleep is cancelled. -/
def Passes (replies : Nat → Except DeployError Reading) (wakes : Nat → Bool) (n : Nat) : Prop :=
  ∀ i, i < n → ending? (replies i) = none ∧ wakes i = true

/-! ### Time slept -/

/-- The longest time there is a number for: a nanosecond less than 2 to the 64 seconds. -/
def longestTime : Nat := Nat.pow 2 64 * oneSecond - 1

/-- How long a dialogue sleeps, as far as it was asked for. -/
def slept : Dialogue Outside → Nat
  | [] => 0
  | ⟨.sleep time, _⟩ :: rest => time + slept rest
  | _ :: rest => slept rest

theorem slept_append (d d' : Dialogue Outside) : slept (d ++ d') = slept d + slept d' := by
  induction d with
  | nil => simp [slept]
  | cons t d ih =>
      rcases t with ⟨q, r⟩
      cases q <;> simp [slept, ih, Nat.add_assoc]

theorem slept_le_of_prefix {past d : Dialogue Outside} (hpast : past <+: d) :
    slept past ≤ slept d := by
  obtain ⟨later, rfl⟩ := hpast
  rw [slept_append]
  exact Nat.le_add_right ..

namespace ProgressHandle

variable {h : ProgressHandle} {o : PollOptions} {waited left : Nat} {σ : Type}
  {w : Responder Outside σ} {s : σ}

/-! ### One round -/

/-- Asking for the state. -/
abbrev stateQuestion (h : ProgressHandle) : Outside.Question := .call (.get h.object "State")

/-- Behind the reply, sampling goes on with what it shows. -/
theorem goesOn_look {α : Type} (f : Option TerminalState → Activity α) :
    GoesOn [⟨h.stateQuestion, (w h.stateQuestion s).1⟩] ((h.look waited >>= f).run.run w s)
      ((match (w h.stateQuestion s).1.map TerminalState.ofReading? with
        | .ok seen => (f seen).run
        | .error e => done (.error e)).run w (w h.stateQuestion s).2) := by
  rw [look, bind_assoc]
  refine (goesOn_ask h.stateQuestion _ w s).trans (?_ : GoesOn [] _ _)
  cases (w h.stateQuestion s).1 with
  | error e => exact ⟨rfl, rfl, rfl⟩
  | ok reading =>
      simp only [Except.map, done_andThen, ExceptT.bindCont]
      cases TerminalState.ofReading? reading <;> exact ⟨rfl, rfl, rfl⟩

theorem goesOn_sleep {α : Type} (time : Nat) (f : Unit → Activity α) :
    GoesOn [(⟨.sleep time, (w (.sleep time) s).1⟩ : Turn Outside)] ((sleep time >>= f).run.run w s)
      ((if (w (.sleep time) s).1 then (f ()).run else done (.error .cancelled)).run w
        (w (.sleep time) s).2) := by
  refine (goesOn_ask (S := Outside) (.sleep time) _ w s).trans (?_ : GoesOn [] _ _)
  cases (w (.sleep time) s).1 <;> exact ⟨rfl, rfl, rfl⟩

theorem goesOn_of_ending {r : Except DeployError TerminalState}
    (hr : ending? (w h.stateQuestion s).1 = some r) :
    GoesOn [⟨h.stateQuestion, (w h.stateQuestion s).1⟩]
      ((h.sampleFrom o waited left).run.run w s) ⟨r, (w h.stateQuestion s).2, []⟩ := by
  rw [sampleFrom_eq]
  refine (goesOn_look _).trans (?_ : GoesOn [] _ _)
  cases hreply : (w h.stateQuestion s).1 with
  | error e =>
      rw [hreply] at hr
      cases hr
      exact ⟨rfl, rfl, rfl⟩
  | ok reading =>
      rw [hreply, ending?_ok, Option.map_eq_some_iff] at hr
      obtain ⟨state, htold, rfl⟩ := hr
      simp only [Except.map, htold]
      exact ⟨rfl, rfl, rfl⟩

/-- Behind a reply that ends nothing, sampling sleeps unless it has used up the wait. -/
theorem goesOn_of_open (hopen : ending? (w h.stateQuestion s).1 = none) :
    GoesOn [⟨h.stateQuestion, (w h.stateQuestion s).1⟩]
      ((h.sampleFrom o waited left).run.run w s)
      ((if left = 0 ∨ o.maxWait ≤ waited then pure .unknown
        else do
          sleep o.interval
          h.sampleFrom o (waited + o.interval) (left - 1) : Activity _).run.run w
        (w h.stateQuestion s).2) := by
  rw [sampleFrom_eq]
  refine (goesOn_look _).trans (?_ : GoesOn [] _ _)
  cases hreply : (w h.stateQuestion s).1 with
  | error e =>
      rw [hreply] at hopen
      cases hopen
  | ok reading =>
      rw [hreply, ending?_ok, Option.map_eq_none_iff] at hopen
      simp only [Except.map, hopen]
      exact ⟨rfl, rfl, rfl⟩

/-! ### All rounds -/

/-- Reading the state, with what came back. -/
abbrev stateReply (h : ProgressHandle) (reply : Except DeployError Reading) : Turn Outside :=
  ⟨h.stateQuestion, reply⟩

/-- Reading the state and sleeping behind it, so many times. -/
def rounds (h : ProgressHandle) (o : PollOptions) (replies : Nat → Except DeployError Reading) :
    Nat → Dialogue Outside
  | 0 => []
  | n + 1 => h.rounds o replies n ++ [h.stateReply (replies n), ⟨.sleep o.interval, true⟩]

variable {replies : Nat → Except DeployError Reading} {wakes : Nat → Bool} {n : Nat}

theorem goesOn_round (left : Nat) (hopen : ending? (replies n) = none) (woke : wakes n = true)
    (waiting : waited < o.maxWait) :
    GoesOn [h.stateReply (replies n), ⟨.sleep o.interval, true⟩]
      ((h.sampleFrom o waited (left + 1)).run.run (byNumber replies wakes) (n, n))
      ((h.sampleFrom o (waited + o.interval) left).run.run (byNumber replies wakes)
        (n + 1, n + 1)) := by
  have looked : GoesOn _
      ((h.sampleFrom o waited (left + 1)).run.run (byNumber replies wakes) (n, n)) _ :=
    goesOn_of_open hopen
  rw [if_neg (by omega)] at looked
  have woken := looked.trans (goesOn_sleep ..)
  simpa [byNumber, woke] using woken

/-- Rounds that end nothing take sampling to a later round, with so much more wait used up. -/
theorem goesOn_rounds (left : Nat) (passes : Passes replies wakes n)
    (waiting : ∀ i, i < n → i * o.interval < o.maxWait) :
    GoesOn (h.rounds o replies n)
      ((h.sampleFrom o 0 (n + left)).run.run (byNumber replies wakes) (0, 0))
      ((h.sampleFrom o (n * o.interval) left).run.run (byNumber replies wakes) (n, n)) := by
  induction n generalizing left with
  | zero => simpa using ⟨rfl, rfl, rfl⟩
  | succ n ih =>
      have before := ih (left + 1) (fun i hi => passes i (by omega))
        (fun i hi => waiting i (by omega))
      obtain ⟨hopen, woke⟩ := passes n (by omega)
      have round := goesOn_round (h := h) left hopen woke (waiting n (by omega))
      rw [Nat.succ_mul, show n + 1 + left = n + (left + 1) by omega]
      exact before.trans round

/-- The rounds up to one that takes place lead from the start of sampling there. -/
theorem goesOn_sample (positive : 0 < o.interval) (hn : n ≤ o.lastRound)
    (passes : Passes replies wakes n) :
    GoesOn (h.rounds o replies n)
      ((h.sample o).run.run (byNumber replies wakes) (0, 0))
      ((h.sampleFrom o (n * o.interval) (o.patience - n)).run.run (byNumber replies wakes)
        (n, n)) := by
  have enough := o.lastRound_le_patience positive
  have waiting : ∀ i, i < n → i * o.interval < o.maxWait := fun i hi =>
    (PollOptions.lt_lastRound_iff positive).1 (by omega)
  have reached := goesOn_rounds (h := h) (o.patience - n) passes waiting
  rwa [Nat.add_sub_cancel' (by omega)] at reached

/-! ### No time too long -/

/-- Sampling that has slept some whole intervals sleeps no longer than to its last round. -/
theorem slept_le_of_leadsTo {d : Dialogue Outside} {r : Except DeployError TerminalState}
    (positive : 0 < o.interval) (hn : n ≤ o.lastRound)
    (hd : (h.sampleFrom o (n * o.interval) left).run.LeadsTo d r) :
    n * o.interval + slept d ≤ o.lastRound * o.interval := by
  -- along the sleeps that are left; `waited` is a whole number of intervals throughout
  induction left using Nat.strongRecOn generalizing n d with
  | ind left ih =>
      have stays : n * o.interval ≤ o.lastRound * o.interval := Nat.mul_le_mul_right _ hn
      rcases cases_of_leadsTo_sampleFrom hd with ⟨e, rfl, rfl⟩ |
        ⟨reading, ⟨state, told, rfl, rfl⟩ | ⟨untold, hrest⟩⟩
      · exact stays
      · exact stays
      · rcases hrest with ⟨rfl, rfl⟩ | ⟨left_pos, waiting, hrest⟩
        · exact stays
        · have later_le : n + 1 ≤ o.lastRound := (PollOptions.lt_lastRound_iff positive).2 waiting
          rw [← Nat.succ_mul] at hrest
          rcases hrest with ⟨rfl, rfl⟩ | ⟨later, rfl, hlater⟩
          · have next := Nat.mul_le_mul_right o.interval later_le
            rw [Nat.succ_mul] at next
            exact next
          · have next := ih (left - 1) (by omega) later_le hlater
            rw [Nat.succ_mul, Nat.add_assoc] at next
            exact next

/-- At no point of its run has sampling slept longer than to its last round. -/
theorem slept_sample_le {past : Dialogue Outside} (positive : 0 < o.interval)
    (hpast : past <+: ((h.sample o).run.run w s).dialogue) :
    slept past ≤ o.lastRound * o.interval := by
  have led : (h.sampleFrom o (0 * o.interval) o.patience).run.LeadsTo
      ((h.sample o).run.run w s).dialogue ((h.sample o).run.run w s).value := by
    rw [Nat.zero_mul]
    exact leadsTo_run w (h.sample o).run s
  have whole := slept_le_of_leadsTo positive (Nat.zero_le _) led
  have shorter := slept_le_of_prefix hpast
  omega

theorem interval_ofConfiguration_pos (c : Configuration) :
    0 < (Deployer.ofConfiguration c).pollOptions.interval :=
  show 0 < oneSecond by decide

/-- Whole seconds are slept through exactly. -/
theorem lastRound_ofConfiguration (c : Configuration) :
    let o := (Deployer.ofConfiguration c).pollOptions
    o.lastRound * o.interval = c.timeouts.deploy * oneSecond := by
  intro o
  have positive : 0 < o.interval := interval_ofConfiguration_pos c
  refine Nat.le_antisymm ?_ ((PollOptions.lastRound_le_iff positive).1 (Nat.le_refl _))
  exact Nat.mul_le_mul_right oneSecond ((PollOptions.lastRound_le_iff positive).2 (Nat.le_refl _))

/-- Sampling takes the readings that its options allow: it ends at the first one that ends it, at
the first sleep that is cancelled, or in the last round. It never sleeps for longer than there is a
number for, and under a configuration no longer than that says. -/
theorem sample_takes (h : ProgressHandle) (o : PollOptions)
    (replies : Nat → Except DeployError Reading) (wakes : Nat → Bool) (positive : 0 < o.interval)
    (countable : o.lastRound * o.interval ≤ longestTime) :
    let sampled := (h.sample o).run.run (byNumber replies wakes) (0, 0)
    (∀ n r, n ≤ o.lastRound → Passes replies wakes n → ending? (replies n) = some r →
      sampled.value = r ∧ sampled.state = (n + 1, n) ∧
        sampled.dialogue = h.rounds o replies n ++ [h.stateReply (replies n)]) ∧
    (Passes replies wakes o.lastRound → ending? (replies o.lastRound) = none →
      sampled.value = .ok .unknown ∧ sampled.state = (o.lastRound + 1, o.lastRound) ∧
        sampled.dialogue =
          h.rounds o replies o.lastRound ++ [h.stateReply (replies o.lastRound)]) ∧
    (∀ n, n < o.lastRound → Passes replies wakes n → ending? (replies n) = none →
      wakes n = false →
        sampled.value = .error .cancelled ∧ sampled.state = (n + 1, n + 1) ∧
          sampled.dialogue = h.rounds o replies n ++
            [h.stateReply (replies n), ⟨.sleep o.interval, false⟩]) ∧
    (∀ past, past <+: sampled.dialogue → slept past ≤ longestTime) ∧
    ∀ c : Configuration, c.timeouts.deploy < Nat.pow 2 64 →
      ∀ (σ : Type) (w : Responder Outside σ) (s : σ) (past : Dialogue Outside),
        past <+: ((h.sample (Deployer.ofConfiguration c).pollOptions).run.run w s).dialogue →
          slept past ≤ c.timeouts.deploy * oneSecond ∧
            c.timeouts.deploy * oneSecond ≤ longestTime := by
  intro sampled
  refine ⟨fun n r hn passes hr => ?_, fun passes hopen => ?_, fun n hn passes hopen asleep => ?_,
    fun past hpast => (slept_sample_le positive hpast).trans countable,
    fun c hseconds σ w s past hpast => ⟨?_, ?_⟩⟩
  · exact ((goesOn_sample positive hn passes).trans (goesOn_of_ending hr)).ended
  · have usedUp : o.maxWait ≤ o.lastRound * o.interval :=
      (PollOptions.lastRound_le_iff positive).1 (Nat.le_refl _)
    have reached := goesOn_sample (h := h) positive (Nat.le_refl _) passes
    have looked := reached.trans (goesOn_of_open hopen)
    rw [if_pos (.inr usedUp)] at looked
    exact looked.ended
  · have waiting := (PollOptions.lt_lastRound_iff positive).1 hn
    have enough := o.lastRound_le_patience positive
    have reached := goesOn_sample (h := h) positive (Nat.le_of_lt hn) passes
    have looked := reached.trans (goesOn_of_open hopen)
    rw [if_neg (by omega)] at looked
    have stopped := looked.trans (goesOn_sleep ..)
    simp only [byNumber, asleep] at stopped
    simpa using stopped.ended
  · rw [← lastRound_ofConfiguration]
    exact slept_sample_le (interval_ofConfiguration_pos c) hpast
  · exact Nat.le_sub_one_of_lt (Nat.mul_lt_mul_of_pos_right hseconds (by decide))

/-- Seven nanoseconds in steps of three: the fourth reading is the last one, and it counts although
the wait is used up by then. -/
theorem sample_takes_fourth :
    let h : ProgressHandle := ⟨⟨"progress"⟩, ⟨"manager"⟩, "shop"⟩
    let o : PollOptions := { interval := 3, maxWait := 7 }
    let replies (n : Nat) : Except DeployError Reading :=
      if n < 3 then .ok (.number n) else .ok (.text "STATE_COMPLETED")
    let sampled := (h.sample o).run.run (byNumber replies fun _ => true) (0, 0)
    (0 < o.interval ∧ o.lastRound * o.interval ≤ longestTime) ∧ o.lastRound = 3 ∧
      sampled.value = .ok .completed ∧ sampled.state = (4, 3) ∧
        sampled.dialogue = h.rounds o replies 3 ++ [h.stateReply (replies 3)] := by
  intro h o replies sampled
  have positive : 0 < o.interval := by decide
  have countable : o.lastRound * o.interval ≤ longestTime := by decide
  have passes : Passes replies (fun _ => true) 3 := fun n hn => by simp [replies, hn, ending?]
  refine ⟨⟨positive, countable⟩, by decide, ?_⟩
  exact (h.sample_takes o replies (fun _ => true) positive countable).1 3 _ (by decide) passes rfl

end ProgressHandle

end DomainDeploy
