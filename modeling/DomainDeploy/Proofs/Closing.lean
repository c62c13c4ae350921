import DomainDeploy.Proofs.Requests
import DomainDeploy.Proofs.Session

/-!
# Channels that have been closed

A channel that has been closed sends nothing any more, whatever is done with it
(`uses_of_isClosed`). Every call that would need a request is refused, and closing once more goes
well. What is not refused is to be told where one resource below an object stands: the channel knows
that by itself, and it does not look whether it is still open. `uses_isOfClosed_iff` says that there
is no other exception.
-/

namespace DomainDeploy.Rest

open Program

/-- The attributes that lead to one resource below an object are known without a request. -/
def IsKnown : Call → Prop
  | .get _ name => name ∈ childAttributes
  | _ => False

/-- What a closed channel answers to a call. -/
def answerClosed : Call → Except DeployError Reading
  | .get object name =>
    if name ∈ childAttributes then .ok (.reference (below object name))
    else .error (.protocol .channelClosed)
  | _ => .error (.protocol .channelClosed)

/-- Something done with a channel. -/
inductive Use where
  | call (c : Call)
  | close

namespace Use

/-- What is asked of the surroundings by it. -/
def question : Use → Outside.Question
  | call c => .call c
  | close => .disconnect

abbrev Answer (u : Use) : Type := Outside.Answer u.question

/-- What a closed channel answers; closing it once more goes well. -/
def whenClosed : (u : Use) → u.Answer
  | call c => answerClosed c
  | close => .ok ()

end Use

/-- One use of a series, with its answer and what was asked and answered behind the channel. -/
structure Used where
  use : Use
  answer : use.Answer
  dialogue : Dialogue Wire

/-- The channel says that it is closed. -/
def IsRefusal (answer : Except DeployError Reading) : Prop :=
  ∃ fault, answer = .error (.protocol fault) ∧ fault.message = "the management channel is closed"

/-- A call is refused, and closing goes well. -/
def Used.IsOfClosed : Used → Prop
  | ⟨.call _, answer, _⟩ => IsRefusal answer
  | ⟨.close, answer, _⟩ => answer = .ok ()

/-- Whether a use asks for what the channel knows. -/
def Use.IsKnown : Use → Prop
  | call c => Rest.IsKnown c
  | close => False

/-! ### Closed channels -/

theorem of_eq_child {name : String} : AttributeKind.of name = .child ↔ name ∈ childAttributes := by
  unfold AttributeKind.of
  constructor
  · intro h
    by_cases known : name ∈ childAttributes
    · exact known
    · rw [if_neg (by simpa using known)] at h
      split at h
      · cases h
      · split at h <;> cases h
  · intro known
    exact if_pos (by simpa using known)

namespace Channel

variable {c : Channel} {files : FileSystem}

section

variable (closed : c.isClosed = true)

include closed

theorem ensureOpen_of_isClosed : c.ensureOpen = throw (.protocol .channelClosed) := if_pos closed

theorem get_of_isClosed (object : ObjectName) (fields : String) :
    c.get object fields = throw (.protocol .channelClosed) := by
  rw [get, ensureOpen_of_isClosed closed]
  rfl

theorem post_of_isClosed (object : ObjectName) (operation : String) (arguments : Json) :
    c.post object operation arguments = throw (.protocol .channelClosed) := by
  rw [post, ensureOpen_of_isClosed closed]
  rfl

theorem upload_of_isClosed (object : ObjectName) (operation : String) (arguments : Json)
    (file : String) :
    c.upload files object operation arguments file = throw (.protocol .channelClosed) := by
  rw [upload, ensureOpen_of_isClosed closed]
  rfl

theorem getAttribute_of_isClosed (object : ObjectName) (name : String) :
    c.getAttribute object name =
      if name ∈ childAttributes then pure (.reference (below object name))
      else throw (.protocol .channelClosed) := by
  by_cases known : name ∈ childAttributes
  · rw [getAttribute, of_eq_child.2 known, if_pos known]
  · rw [getAttribute, if_neg known]
    -- every other kind of attribute is read by a request
    cases hkind : AttributeKind.of name with
    | child => exact (known (of_eq_child.1 hkind)).elim
    | children | references | field =>
        simp only [get_of_isClosed closed]
        rfl

/-- A closed channel has its answer at once, whatever the call. -/
theorem run_call_of_isClosed (question : Call) :
    (c.call files question).run = done (answerClosed question) := by
  match question with
  | .get object name =>
      rw [call, getAttribute_of_isClosed closed, answerClosed]
      by_cases known : name ∈ childAttributes
      · rw [if_pos known, if_pos known]
        rfl
      · rw [if_neg known, if_neg known]
        rfl
  | .invoke object operation arguments =>
      rw [call, post_of_isClosed closed]
      rfl
  | .upload object operation arguments file =>
      rw [call, upload_of_isClosed closed]
      rfl

theorem close_of_isClosed : c.close = done c := if_pos closed

end

theorem isClosed_of_leadsTo_close {c' : Channel} {d : Dialogue Wire} (h : c.close.LeadsTo d c') :
    c'.isClosed = true := by
  unfold close at h
  split at h
  next closed =>
    obtain ⟨-, rfl⟩ := h
    exact closed
  next =>
    obtain ⟨-, rfl⟩ := h
    rfl

end Channel

/-! ### Series of uses -/

section

variable {σ : Type} (files : FileSystem) (environment : String → Option String) (c : Configuration)
  (w : Responder Wire σ)

/-- The uses of a channel in turn, each with the channel and the surroundings that the one before
left. -/
def uses : List Use → Option Channel → σ → List Used
  | [], _, _ => []
  | u :: rest, channel, s =>
    let played := (bridge files environment c u.question channel).run w s
    ⟨u, played.value.1, played.dialogue⟩ :: uses rest played.value.2 played.state

theorem map_use_uses (series : List Use) (channel : Option Channel) (s : σ) :
    (uses files environment c w series channel s).map (·.use) = series := by
  induction series generalizing channel s with
  | nil => rfl
  | cons u rest ih => simp [uses, ih]

theorem length_uses (series : List Use) (channel : Option Channel) (s : σ) :
    (uses files environment c w series channel s).length = series.length := by
  rw [← List.length_map, map_use_uses files environment c w]

/-- Once closed, a channel asks nothing of what is behind it and stays closed. -/
theorem bridge_of_isClosed {channel : Channel} (closed : channel.isClosed = true) (u : Use) :
    bridge files environment c u.question (some channel) =
      done (u.whenClosed, some channel) := by
  cases u with
  | call question =>
      change (channel.call files question).run.andThen _ = _
      rw [channel.run_call_of_isClosed closed]
      rfl
  | close =>
      change channel.close.andThen _ = _
      rw [channel.close_of_isClosed closed]
      rfl

theorem uses_of_isClosed {channel : Channel} (closed : channel.isClosed = true)
    (series : List Use) (s : σ) :
    uses files environment c w series (some channel) s =
      series.map fun u => ⟨u, u.whenClosed, []⟩ := by
  induction series with
  | nil => rfl
  | cons u rest ih =>
      rw [uses, bridge_of_isClosed files environment c closed u]
      exact congrArg (List.cons _) ih

/-- Whatever is done with a channel, there is one afterwards; a closing leaves it closed. -/
theorem exists_channel_after (u : Use) (channel : Channel) (s : σ) : ∃ channel',
    ((bridge files environment c u.question (some channel)).run w s).value.2 = some channel' ∧
      (u = .close → channel'.isClosed = true) := by
  have hled := leadsTo_run w (bridge files environment c u.question (some channel)) s
  cases u with
  | call question => exact ⟨channel, (leadsTo_bridge_call.1 hled).2, nofun⟩
  | close =>
      obtain ⟨d, channel', _, -, hclose, -, h⟩ := leadsTo_andThen.1 hled
      exact ⟨channel', (congrArg Prod.snd h).symm,
        fun _ => Channel.isClosed_of_leadsTo_close hclose⟩

theorem exists_uses_append (before behind : List Use) (channel : Channel) (s : σ) :
    ∃ channel' s', uses files environment c w (before ++ behind) (some channel) s =
      uses files environment c w before (some channel) s ++
        uses files environment c w behind (some channel') s' := by
  induction before generalizing channel s with
  | nil => exact ⟨channel, s, rfl⟩
  | cons u rest ih =>
      obtain ⟨next, hnext, -⟩ := exists_channel_after files environment c w u channel s
      obtain ⟨channel', s', h⟩ := ih next
        ((bridge files environment c u.question (some channel)).run w s).state
      refine ⟨channel', s', ?_⟩
      rw [List.cons_append, uses, uses]
      simp only [hnext]
      rw [h, List.cons_append]

/-- What comes behind a closing is answered as a closed channel answers. -/
theorem drop_uses (before after : List Use) (channel : Channel) (s : σ) :
    (uses files environment c w (before ++ .close :: after) (some channel) s).drop
      (before.length + 1) = after.map fun u => ⟨u, u.whenClosed, []⟩ := by
  obtain ⟨channel', s', h⟩ :=
    exists_uses_append files environment c w before (.close :: after) channel s
  obtain ⟨last, hlast, closed⟩ := exists_channel_after files environment c w .close channel' s'
  have hlength := length_uses files environment c w before (some channel) s
  rw [h, ← hlength, List.drop_append, Nat.add_sub_cancel_left, List.drop_of_length_le (by omega),
    List.nil_append, uses, List.drop_succ_cons, List.drop_zero, hlast,
    uses_of_isClosed files environment c w (closed rfl)]

theorem isRefusal_answerClosed (c : Call) : IsRefusal (answerClosed c) ↔ ¬IsKnown c := by
  have refused : IsRefusal (.error (.protocol .channelClosed)) := ⟨.channelClosed, rfl, rfl⟩
  match c with
  | .get object name =>
      rw [answerClosed, IsKnown]
      by_cases known : name ∈ childAttributes
      · rw [if_pos known]
        exact iff_of_false nofun (not_not_intro known)
      · rw [if_neg known]
        exact iff_of_true refused known
  | .invoke .. | .upload .. => exact iff_of_true refused not_false

theorem isOfClosed_whenClosed (u : Use) :
    Used.IsOfClosed ⟨u, u.whenClosed, []⟩ ↔ ¬u.IsKnown := by
  cases u with
  | call c => exact isRefusal_answerClosed c
  | close => exact iff_of_true rfl not_false

end

/-- Behind a closing nothing is sent; calls are refused and further closings go well, except for
calls that ask for what the channel knows. -/
theorem uses_isOfClosed_iff {σ : Type} (files : FileSystem) (environment : String → Option String)
    (c : Configuration) (w : Responder Wire σ) (before after : List Use) (channel : Channel)
    (s : σ) :
    let later := (uses files environment c w (before ++ .close :: after) (some channel) s).drop
      (before.length + 1)
    later.map (·.use) = after ∧
      ∀ used ∈ later, used.dialogue = [] ∧ (used.IsOfClosed ↔ ¬used.use.IsKnown) := by
  intro later
  have hlater : later = after.map fun u => ⟨u, u.whenClosed, []⟩ :=
    drop_uses files environment c w before after channel s
  rw [hlater]
  refine ⟨by simp [Function.comp_def], fun used hused => ?_⟩
  obtain ⟨u, -, rfl⟩ := List.mem_map.1 hused
  exact ⟨rfl, isOfClosed_whenClosed u⟩

/-- A closed channel still tells where the runtime of the domain stands. -/
theorem closed_tells_domainRuntime :
    let channel : Channel :=
      { base := ⟨"http", some ⟨[], none, .domain "localhost".toList, some 7001⟩, .segments [[]],
          none, none⟩
        userName := "weblogic"
        password := "welcome1"
        logMessages := false }
    let series : List Use := [.close, .call (.get .root "DomainRuntime")]
    ∃ used ∈ (uses .empty (fun _ => none) Deployer.sample.configuration Rehearsal.wire series
      (some channel) {}).drop 1, ¬used.IsOfClosed := by
  intro channel series
  have told : (uses .empty (fun _ => none) Deployer.sample.configuration Rehearsal.wire series
      (some channel) {}).drop 1 =
        [⟨.call (.get .root "DomainRuntime"), .ok (.reference ⟨"domainRuntime"⟩), []⟩] := rfl
  rw [told]
  exact ⟨_, List.mem_singleton_self _, nofun⟩

end DomainDeploy.Rest
