import DomainDeploy.Proofs.Course
import DomainDeploy.Proofs.Foresight

/-!
# Undeploying again

An undeploy through the deployment manager searches two collections: the application runtimes, to
find what is to be undeployed, and the records of the configuration, to make sure that nothing is
left. A name that is in neither of them is undeployed already, so undeploying it only reads and
succeeds, as often as it is repeated (`undeploy_isIdempotent`). A name that is on record without a
runtime cannot be undeployed by anything that is asked here, and the operation fails without having
asked for it. All that has to be known is how the domain answers while it is only looked at
(`IsPassive`); other questions may deploy the name again.
-/

namespace DomainDeploy

open Program Activity Outside.Question

/-- A question that only looks at a domain: one that opens or closes the channel, or asks for an
attribute other than a state. -/
def Outside.Question.IsPassive (q : Outside.Question) : Prop :=
  q = .connect ∨ q = .disconnect ∨ q.IsStateless

theorem Outside.Question.IsStateless.isPassive {q : Outside.Question} (h : q.IsStateless) :
    q.IsPassive := .inr (.inr h)

variable {σ : Type} {w : Responder Outside σ} {P : Outside.Question → Prop} {s s' : σ}
  {name : String}

/-! ### What is in the domain -/

/-- From `s` on, as long as nothing is asked but what satisfies `P`, the deployment manager lists no
application runtime of the name. -/
def NoRuntime (w : Responder Outside σ) (P : Outside.Question → Prop) (s : σ) (name : String) :
    Prop :=
  Refers w P s .root "DomainRuntime" fun domain =>
    Refers w P s domain "DeploymentManager" fun manager =>
      ListsOnlyOthers w P s manager "AppDeploymentRuntimes" name

/-- The configuration lists no deployment of the name. -/
def NoRecord (w : Responder Outside σ) (P : Outside.Question → Prop) (s : σ) (name : String) :
    Prop :=
  Refers w P s .root "DomainConfiguration" fun domain =>
    ListsOnlyOthers w P s domain "AppDeployments" name

/-- The configuration lists a deployment of the name. -/
def HasRecord (w : Responder Outside σ) (P : Outside.Question → Prop) (s : σ) (name : String) :
    Prop :=
  Refers w P s .root "DomainConfiguration" fun domain =>
    ListsNamed w P s domain "AppDeployments" name

/-- Every channel can be opened. -/
def Opens (w : Responder Outside σ) (P : Outside.Question → Prop) (s : σ) : Prop :=
  ∀ s', Reaches w P s s' → (w .connect s').1 = .ok ()

/-! ### The submission -/

theorem Submission.yields_submitting {α : Type} {x : Activity α} {Q : α → Prop}
    (h : Yields w P s x Q) : Yields w P s (submitting x) Q := by
  refine Foresees.andThen h fun r hr => ?_
  obtain ⟨a, rfl, ha⟩ := hr
  exact foresees_done ⟨a, rfl, ha⟩

section

variable (reads : ∀ q : Outside.Question, q.IsStateless → P q)

include reads

namespace Submission

theorem yields_deploymentManager {Q : ObjectName → Prop}
    (h : Refers w P s .root "DomainRuntime" fun domain =>
      Refers w P s domain "DeploymentManager" Q) :
    Yields w P s deploymentManager Q :=
  (yields_getReference h (reads _ (by simp))).bind fun _ hdomain =>
    yields_getReference hdomain (reads _ (by simp))

theorem yields_undeployByManager (absent : NoRuntime w P s name) (target : String) :
    Yields w P s (undeployByManager name target) (· = none) := by
  refine yields_submitting ((yields_deploymentManager reads absent).bind fun manager hmanager => ?_)
  refine (yields_getReferences hmanager (reads _ (by simp))).bind fun objects hobjects => ?_
  refine (yields_firstNamed_none reads hobjects).bind fun found hfound => ?_
  rw [hfound]
  exact (yields_note _ _).bind fun _ _ => yields_pure rfl

theorem yields_undeploy {c : Configuration} (strategy : c.strategy = .rest)
    (absent : NoRuntime w P s name) (target : String) (store : TrustStore) :
    Yields w P s (undeploy c name target store) (· = none) := by
  have manager := yields_undeployByManager reads absent target
  unfold undeploy
  rw [strategy]
  exact manager

end Submission

/-! ### The confirmation -/

theorem yields_findDeployment_none (absent : NoRecord w P s name) :
    Yields w P s (Resolution.findDeployment name) (· = none) :=
  (yields_getReference absent (reads _ (by simp))).bind fun _ hdomain =>
    yields_search_none reads hdomain (by simp)

theorem yields_findDeployment_some (present : HasRecord w P s name) :
    Yields w P s (Resolution.findDeployment name) (· ≠ none) :=
  (yields_getReference present (reads _ (by simp))).bind fun _ hdomain =>
    yields_search_some reads hdomain (by simp)

namespace Deployer

theorem foresees_confirmUndeployed_none (absent : NoRecord w P s name) :
    Foresees w P s (confirmUndeployed name).run (· = .ok ()) := by
  refine Yields.bind ((yields_findDeployment_none reads absent).bind fun found hfound =>
    yields_pure (Q := (· = true)) ?_) fun confirmed hconfirmed => ?_
  · rw [hfound]
    rfl
  · rw [hconfirmed]
    exact (yields_note _ _).imp fun came ⟨_, hcame, _⟩ => hcame

theorem foresees_confirmUndeployed_some (present : HasRecord w P s name) :
    Foresees w P s (confirmUndeployed name).run (· = .error (.stillDeployed name)) := by
  refine Yields.bind ((yields_findDeployment_some reads present).bind fun found hfound =>
    yields_pure (Q := (· = false)) ?_) fun confirmed hconfirmed => ?_
  · simpa [Option.isSome_iff_ne_none] using hfound
  · rw [hconfirmed]
    exact foresees_throw rfl

/-- Without a runtime the result is what is made of the records. -/
theorem foresees_bodyOf_undeploy {D : Deployer} (strategy : D.configuration.strategy = .rest)
    (absent : NoRuntime w P s name) {Q : Except DeployError Unit → Prop}
    (h : Foresees w P s (confirmUndeployed name).run Q) (target : String) (store : TrustStore) :
    Foresees w P s (D.bodyOf (.undeploy name target) store).run Q := by
  rw [bodyOf_eq]
  refine (Submission.yields_undeploy reads strategy absent target store).bind
    fun handle hhandle => ?_
  rw [hhandle]
  exact h

end Deployer

end

/-! ### Series of operations -/

namespace Deployer

variable {D : Deployer} {g : TrustGuard} {tasks : List Task}

/-- An operation that only looks at the domain, and succeeds if its channel was opened. -/
structure Episode.IsIdle (e : Episode) : Prop where
  passive : ∀ turn ∈ e.dialogue, turn.1.IsPassive
  succeeds : ⟨.connect, .ok ()⟩ ∈ e.dialogue → ∃ value, e.result = .ok value

/-- A series of idle operations. Their channels are opened where nothing bars the way. -/
structure Idles (D : Deployer) (w : Responder Outside σ) (tasks : List Task) (g : TrustGuard)
    (s : σ) : Prop where
  idle : ∀ e ∈ D.episodes w tasks g s, e.IsIdle
  opened : g.board.IsWilling → Opens w IsPassive s →
    ∀ e ∈ D.episodes w tasks g s, ⟨.connect, .ok ()⟩ ∈ e.dialogue

theorem isWilling_of_session {α : Type} {body : TrustStore → Activity α} {g' : TrustGuard}
    {dialogue : Dialogue Outside} {r : Except DeployError α} (willing : g.board.IsWilling)
    (session : D.Session body g dialogue r g') : g'.board.IsWilling := by
  have started (g₁ : TrustGuard) (entered : g.enter D.configuration.trust = (.ok (), g₁)) :
      g₁.revert.2.board.IsWilling := by
    rw [TrustGuard.eq_of_enter_eq_ok entered]
    exact TrustGuard.isWilling_revert (TrustGuard.isWilling_apply willing)
  cases session with
  | barred entered =>
      rw [TrustScopes.enter_of_isWilling willing] at entered
      cases entered
  | refused entered => exact started _ entered
  | held entered body_leadsTo => exact started _ entered

theorem opened_of_isWilling {t : Task} (willing : g.board.IsWilling)
    (connected : (w .connect s).1 = .ok ()) :
    ⟨.connect, .ok ()⟩ ∈ ((D.perform t g).run w s).dialogue :=
  opened_iff.2 ⟨⟨_, TrustScopes.enter_of_isWilling willing _⟩, connected⟩

/-- What is foreseen of every operation by itself holds in a series of them, since each leaves the
domain where it was foreseen. -/
theorem idles_of_foresees (h : ∀ t ∈ tasks, ∀ store,
      Foresees w IsPassive s (D.bodyOf t store).run fun came => ∃ value, came = .ok value)
    (g : TrustGuard) (reached : Reaches w IsPassive s s') : D.Idles w tasks g s' := by
  induction tasks generalizing g s' with
  | nil => exact ⟨by simp [episodes], by simp [episodes]⟩
  | cons t rest ih =>
      obtain ⟨ht, hrest⟩ := List.forall_mem_cons.1 h
      have foreseen (store : TrustStore) := (ht store).later reached
      have passive : ∀ turn ∈ ((D.perform t g).run w s').dialogue, turn.1.IsPassive :=
        asked_of_foresees (.inl rfl) (.inr (.inl rfl)) foreseen
      have left := reaches_run _ s' passive
      have following := ih hrest ((D.perform t g).run w s').value.2 (reached.trans left)
      constructor
      · refine List.forall_mem_cons.2 ⟨⟨passive, fun opened => ?_⟩, following.idle⟩
        obtain ⟨came, ⟨value, rfl⟩, told⟩ := told_of_foresees (.inl rfl) foreseen opened
        exact ⟨value, told.eq_ok⟩
      · intro willing opens
        have session := session_of_perform (leadsTo_run w (D.perform t g) s')
        refine List.forall_mem_cons.2 ⟨opened_of_isWilling willing (opens s' .refl), ?_⟩
        exact following.opened (isWilling_of_session willing session)
          fun s'' hs => opens s'' (left.trans hs)

/-- Undeploying a name that no runtime and no record carries succeeds and only looks at the domain,
every time; so does every further undeploy of a name that is gone after a first one. When there
is a record but no runtime, nothing is submitted and the name is told to be still deployed. -/
theorem undeploy_isIdempotent (D : Deployer) (strategy : D.configuration.strategy = .rest)
    (w : Responder Outside σ) (g : TrustGuard) (s : σ) (name target : String)
    (targets : List String) :
    let played := (D.perform (.undeploy name target) g).run w s
    let again := targets.map (Task.undeploy name)
    let IsGone (s : σ) := NoRuntime w IsPassive s name ∧ NoRecord w IsPassive s name
    (IsGone s → D.Idles w (.undeploy name target :: again) g s) ∧
    (played.value.1 = .ok () → IsGone played.state →
      D.Idles w again played.value.2 played.state) ∧
    (NoRuntime w IsPassive s name → HasRecord w IsPassive s name →
      (∀ turn ∈ played.dialogue, turn.1.IsPassive) ∧
      (⟨.connect, .ok ()⟩ ∈ played.dialogue →
        Tells (D.cleanupErrors g played.dialogue) (.error (.stillDeployed name))
          played.value.1) ∧
      (g.board.IsWilling → (w .connect s).1 = .ok () → ⟨.connect, .ok ()⟩ ∈ played.dialogue)) := by
  intro played again IsGone
  have reads (q : Outside.Question) (hq : q.IsStateless) : q.IsPassive := hq.isPassive
  -- what is foreseen where the name is gone, whatever the target
  have foreseen (s : σ) (gone : IsGone s) (target : String) (store : TrustStore) :
      Foresees w IsPassive s (D.bodyOf (.undeploy name target) store).run
        fun came => ∃ value, came = .ok value := by
    refine foresees_bodyOf_undeploy reads strategy gone.1 ?_ target store
    exact (foresees_confirmUndeployed_none reads gone.2).imp fun came hcame => ⟨(), hcame⟩
  refine ⟨fun gone => ?_, fun _ gone => ?_, fun absent present => ?_⟩
  · refine idles_of_foresees (fun t ht => ?_) g .refl
    obtain ⟨target', -, rfl⟩ := List.mem_map.1 (show t ∈ (target :: targets).map _ from ht)
    exact foreseen s gone target'
  · refine idles_of_foresees (fun t ht => ?_) _ .refl
    obtain ⟨target', -, rfl⟩ := List.mem_map.1 ht
    exact foreseen played.state gone target'
  · have recorded := foresees_bodyOf_undeploy reads (D := D) strategy absent
      (foresees_confirmUndeployed_some reads present) target
    refine ⟨asked_of_foresees (.inl rfl) (.inr (.inl rfl)) recorded, fun opened => ?_,
      opened_of_isWilling⟩
    obtain ⟨came, rfl, told⟩ := told_of_foresees (.inl rfl) recorded opened
    exact told

/-- A domain with a deployment that is on record only. Another one may be served beside it. -/
def recording (served : Bool) : Static Outside
  | .connect | .disconnect => .ok ()
  | .call (.get object name) =>
    match object.path, name with
    | "", "DomainRuntime" => .ok (.reference ⟨"domainRuntime"⟩)
    | "", "DomainConfiguration" => .ok (.reference ⟨"domainConfig"⟩)
    | "domainRuntime", "DeploymentManager" => .ok (.reference ⟨"manager"⟩)
    | "manager", "AppDeploymentRuntimes" =>
      .ok (.references (if served then [⟨"bar"⟩, ⟨"foo"⟩] else [⟨"bar"⟩]))
    | "domainConfig", "AppDeployments" =>
      .ok (.references (if served then [⟨"bar"⟩, ⟨"qux"⟩, ⟨"foo"⟩] else [⟨"bar"⟩, ⟨"qux"⟩]))
    | path, "Name" => .ok (.text path)
    | _, "State" => .ok (.text "STATE_COMPLETED")
    | _, _ => .error (.protocol (.noAttribute name object))
  | .call (.invoke object operation _) | .call (.upload object operation _ _) =>
    .error (.protocol (.noOperation operation object))
  | .runTool _ _ => .timedOut
  | .sleep _ => true

/-- The domain as it changes: what is served beside is gone once it is undeployed. -/
def leaving : Responder Outside Bool
  | .call (.invoke _ "undeploy" _), _ => (.ok (.reference ⟨"task"⟩), false)
  | q, served => (recording served q, served)

theorem stays_leaving : Stays leaving IsPassive := by
  intro q served hq
  unfold leaving
  split
  · simp [IsPassive] at hq
  · rfl

theorem noRuntime_leaving (other : name ∉ ["bar"]) : NoRuntime leaving IsPassive false name := by
  have named : ∀ path ∈ ["bar"],
      (leaving (.call (.get ⟨path⟩ "Name")) false).1 = .ok (.text path) := by
    simp [leaving, recording]
  refine refers_of_stays stays_leaving rfl (refers_of_stays stays_leaving rfl ?_)
  exact listsOnlyOthers_of_stays stays_leaving rfl named other

/-- What was undeployed is gone and can be undeployed again, and what is on record only cannot be
undeployed. -/
theorem undeploy_isIdempotent_leaving :
    let g := TrustGuard.ofPublished .nowhere
    let foo := (sample.perform (.undeploy "foo" "AdminServer") g).run leaving true
    let qux := (sample.perform (.undeploy "qux" "AdminServer") g).run leaving false
    (foo.value.1 = .ok () ∧ ∀ e ∈ sample.episodes leaving [.undeploy "foo" "AdminServer"]
      foo.value.2 foo.state, e.IsIdle ∧ ⟨.connect, .ok ()⟩ ∈ e.dialogue) ∧
      Tells (sample.cleanupErrors g qux.dialogue) (.error (.stillDeployed "qux")) qux.value.1 := by
  intro g foo qux
  have succeeded : foo.value.1 = .ok () := rfl
  have left : foo.state = false := rfl
  have named : ∀ path ∈ ["bar", "qux"],
      (leaving (.call (.get ⟨path⟩ "Name")) false).1 = .ok (.text path) := by
    simp [leaving, recording]
  have absent : NoRecord leaving IsPassive false "foo" :=
    refers_of_stays stays_leaving rfl (listsOnlyOthers_of_stays stays_leaving rfl named (by simp))
  have present : HasRecord leaving IsPassive false "qux" :=
    refers_of_stays stays_leaving rfl (listsNamed_of_stays stays_leaving rfl named (by simp))
  obtain ⟨-, gone, -⟩ :=
    undeploy_isIdempotent sample rfl leaving g true "foo" "AdminServer" ["AdminServer"]
  obtain ⟨-, -, recorded⟩ :=
    undeploy_isIdempotent sample rfl leaving g false "qux" "AdminServer" []
  obtain ⟨-, told, opened⟩ := recorded (noRuntime_leaving (by simp)) present
  have idles := gone succeeded (by rw [left]; exact ⟨noRuntime_leaving (by simp), absent⟩)
  refine ⟨⟨succeeded, fun e he => ⟨idles.idle e he, idles.opened ?_ ?_ e he⟩⟩, told (opened ?_ rfl)⟩
  · exact fun _ _ => rfl
  · exact fun _ _ => rfl
  · exact fun _ _ => rfl

end Deployer

end DomainDeploy
