import DomainDeploy.Proofs.Walk

/-!
# What reading the domain fails with

Reading the domain fails with the error of a call, with a fault of the protocol where an answer is
not of the kind that was wanted, or because the domain denies what is looked for. Only the search
for an endpoint is ever denied anything; all else that is read fails with faults alone.
-/

namespace DomainDeploy

open Program Activity

namespace DeployError

/-- An error of a channel that is open: what a management endpoint fails with. -/
def isOfChannel : DeployError → Bool
  | protocol _ | transport _ | json _ | file _ => true
  | _ => false

/-- The domain denies that something is there or runs. -/
def isDenial : DeployError → Bool
  | deploymentNotFound _ | targetNotFound .. | targetNotRunning _ | applicationRuntimeNotFound _ =>
    true
  | _ => false

theorem phase_of_isOfChannel {e : DeployError} (h : e.isOfChannel) : e.phase = .other := by
  cases e <;> cases h <;> rfl

theorem phase_of_isDenial {e : DeployError} (h : e.isDenial) : e.phase = .verification := by
  cases e <;> cases h <;> rfl

/-- A fault of the protocol. -/
def IsProtocol (e : DeployError) : Prop := ∃ fault, e = protocol fault

theorem IsProtocol.isOfChannel {e : DeployError} (h : e.IsProtocol) : e.isOfChannel := by
  obtain ⟨fault, rfl⟩ := h
  rfl

end DeployError

open DeployError

/-! ### Failing steps -/

variable {α β : Type} {P Q : DeployError → Prop}

/-- Whatever fails, fails with an error that satisfies `P` or with the error of a call. -/
def FailsWith (P : DeployError → Prop) (x : Activity α) : Prop :=
  ∀ ⦃d e⦄, x.run.LeadsTo d (.error e) → P e ∨ ∃ c, ⟨.call c, .error e⟩ ∈ d

theorem FailsWith.mono {x : Activity α} (h : FailsWith P x) (hPQ : ∀ e, P e → Q e) :
    FailsWith Q x := by
  intro d e hd
  exact (h hd).imp_left (hPQ e)

theorem failsWith_pure (a : α) : FailsWith P (pure a : Activity α) := by
  intro d e hd
  cases hd.2

theorem failsWith_throw {e : DeployError} (h : P e) : FailsWith P (throw e : Activity α) := by
  intro d e' hd
  cases hd.2
  exact .inl h

theorem failsWith_ofResult {r : Except DeployError α} (h : ∀ e, r = .error e → P e) :
    FailsWith P (ofResult r) := by
  intro d e hd
  exact .inl (h e hd.2)

theorem failsWith_note (level : LogLevel) (text : String) : FailsWith P (note level text) := by
  intro d e hd
  cases hd.2

theorem failsWith_call (c : Call) : FailsWith P (call c) := by
  intro d e hd
  obtain rfl := leadsTo_call.1 hd
  exact .inr ⟨c, List.mem_singleton_self _⟩

theorem FailsWith.bind {x : Activity α} {f : α → Activity β} (h : FailsWith P x)
    (hf : ∀ a, FailsWith P (f a)) : FailsWith P (x >>= f) := by
  intro d e hd
  rcases leadsTo_bind.1 hd with ⟨e', he, hx⟩ | ⟨d₁, a, d₂, rfl, -, hrest⟩
  · cases he
    exact h hx
  · refine (hf a hrest).imp_right fun hc => ?_
    obtain ⟨c, hc⟩ := hc
    exact ⟨c, List.mem_append_right _ hc⟩

/-! ### Reading attributes -/

namespace Reading

variable {r : Reading} {e : DeployError}

theorem isProtocol_of_toText (h : r.toText = .error e) : e.IsProtocol := by
  cases r <;> cases h <;> exact ⟨_, rfl⟩

theorem isProtocol_of_toReference (h : r.toReference = .error e) : e.IsProtocol := by
  cases r <;> cases h <;> exact ⟨_, rfl⟩

theorem isProtocol_of_toReferences (h : r.toReferences = .error e) : e.IsProtocol := by
  cases r <;> cases h <;> exact ⟨_, rfl⟩

end Reading

section

variable (object : ObjectName) (name : String)

theorem failsWith_getText : FailsWith IsProtocol (getText object name) :=
  (failsWith_call _).bind fun _ => failsWith_ofResult fun _ => Reading.isProtocol_of_toText

theorem failsWith_getReferences : FailsWith IsProtocol (getReferences object name) :=
  (failsWith_call _).bind fun _ => failsWith_ofResult fun _ => Reading.isProtocol_of_toReferences

theorem failsWith_getReference : FailsWith IsProtocol (getReference object name) := by
  refine (failsWith_call _).bind fun reading =>
    (failsWith_ofResult fun _ => Reading.isProtocol_of_toReference).bind fun found => ?_
  cases found with
  | none => exact failsWith_throw ⟨_, rfl⟩
  | some found => exact failsWith_pure found

theorem failsWith_firstNamed (objects : List ObjectName) :
    FailsWith IsProtocol (firstNamed name objects) := by
  induction objects with
  | nil => exact failsWith_pure none
  | cons object rest ih =>
      refine (failsWith_getText object "Name").bind fun text => ?_
      split
      · exact failsWith_pure _
      · exact ih

end

/-! ### Reading the domain -/

namespace Resolution

theorem failsWith_findDeployment (name : String) : FailsWith IsProtocol (findDeployment name) :=
  (failsWith_getReference _ _).bind fun _ =>
    (failsWith_getReferences _ _).bind fun _ => failsWith_firstNamed _ _

theorem failsWith_namesOf (objects : List ObjectName) :
    FailsWith IsProtocol (namesOf objects) := by
  induction objects with
  | nil => exact failsWith_pure []
  | cons object rest ih =>
      exact (failsWith_getText _ _).bind fun _ => ih.bind fun _ => failsWith_pure _

theorem failsWith_clusterMembers (cluster : ObjectName) :
    FailsWith IsProtocol (clusterMembers cluster) :=
  (failsWith_getReferences _ _).bind fun _ => failsWith_namesOf _

theorem failsWith_membersOf (targetObject : ObjectName) (target : String) :
    FailsWith IsProtocol (membersOf targetObject target) := by
  refine (failsWith_getText _ _).bind fun type => ?_
  split
  · exact failsWith_pure _
  · exact failsWith_clusterMembers targetObject
  · exact (failsWith_note _ _).bind fun _ => failsWith_pure _

theorem failsWith_readServer (runtime : ObjectName) :
    FailsWith IsProtocol (readServer runtime) := by
  refine (failsWith_getText _ _).bind fun name => (failsWith_getText _ _).bind fun state => ?_
  split
  · refine FailsWith.bind ?_ fun url => failsWith_pure _
    exact (failsWith_call _).bind fun _ => failsWith_ofResult fun _ => Reading.isProtocol_of_toText
  · exact failsWith_pure _

theorem failsWith_readServers (runtimes : List ObjectName) :
    FailsWith IsProtocol (readServers runtimes) := by
  induction runtimes with
  | nil => exact failsWith_pure []
  | cons runtime rest ih =>
      exact (failsWith_readServer _).bind fun _ => ih.bind fun _ => failsWith_pure _

theorem failsWith_serverRuntimes : FailsWith IsProtocol serverRuntimes :=
  (failsWith_getReferences _ _).bind fun _ => failsWith_readServers _

theorem failsWith_listServers : FailsWith IsProtocol listServers :=
  failsWith_serverRuntimes.bind fun _ => failsWith_pure _

theorem failsWith_runningMember (members : List String) :
    FailsWith IsProtocol (runningMember members) := by
  unfold runningMember
  split
  · exact failsWith_pure none
  · exact failsWith_serverRuntimes.bind fun _ => failsWith_pure _

theorem isProtocol_of_addressOf {server : ServerInstance} {e : DeployError}
    (h : addressOf server = .error e) : e.IsProtocol := by
  unfold addressOf at h
  split at h
  · cases h
    exact ⟨_, rfl⟩
  next text =>
    split at h
    · cases h
      exact ⟨_, rfl⟩
    next url =>
      split at h
      · cases h
        exact ⟨_, rfl⟩
      next host =>
        split at h <;> cases h
        exact ⟨_, rfl⟩

theorem failsWith_readServlets (servlets : List ObjectName) :
    FailsWith IsProtocol (readServlets servlets) := by
  induction servlets with
  | nil => exact failsWith_pure []
  | cons servlet rest ih =>
      exact (failsWith_getText _ _).bind fun _ => (failsWith_getText _ _).bind fun _ =>
        ih.bind fun _ => failsWith_pure _

theorem failsWith_componentServlets (component : ObjectName) :
    FailsWith IsProtocol (componentServlets component) := by
  refine (failsWith_getText _ _).bind fun type => ?_
  split
  · exact (failsWith_getReferences _ _).bind fun _ => failsWith_readServlets _
  · exact failsWith_pure []

theorem failsWith_servletsOf (components : List ObjectName) :
    FailsWith IsProtocol (servletsOf components) := by
  induction components with
  | nil => exact failsWith_pure []
  | cons component rest ih =>
      exact (failsWith_componentServlets _).bind fun _ => ih.bind fun _ => failsWith_pure _

theorem failsWith_isClusterRunning (servers : List ServerInstance) (target : String)
    (clusters : List ObjectName) :
    FailsWith IsProtocol (isClusterRunning servers target clusters) := by
  refine (failsWith_firstNamed _ _).bind fun found => ?_
  cases found with
  | none => exact failsWith_pure false
  | some cluster => exact (failsWith_clusterMembers cluster).bind fun _ => failsWith_pure _

theorem failsWith_isTargetRunning (target : String) :
    FailsWith IsProtocol (isTargetRunning target) := by
  refine failsWith_listServers.bind fun servers => ?_
  split
  · exact failsWith_pure _
  · exact (failsWith_getReference _ _).bind fun _ =>
      (failsWith_getReferences _ _).bind fun _ => failsWith_isClusterRunning _ _ _

/-! ### Denials -/

/-- A fault of the protocol, or a denial. -/
def IsRefusal (e : DeployError) : Prop := e.IsProtocol ∨ e.isDenial

theorem failsWith_refusal {x : Activity α} (h : FailsWith IsProtocol x) : FailsWith IsRefusal x :=
  h.mono fun _ => .inl

theorem failsWith_findTarget (deployment : ObjectName) (name target : String) :
    FailsWith IsRefusal (findTarget deployment name target) := by
  refine (failsWith_refusal (failsWith_getReferences _ _)).bind fun _ =>
    (failsWith_refusal (failsWith_firstNamed _ _)).bind fun found => ?_
  cases found with
  | none => exact failsWith_throw (.inr rfl)
  | some found => exact failsWith_pure found

theorem failsWith_applicationServlets (runtime : ObjectName) (name : String) :
    FailsWith IsRefusal (applicationServlets runtime name) := by
  refine (failsWith_refusal (failsWith_getReferences _ _)).bind fun _ =>
    (failsWith_refusal (failsWith_firstNamed _ _)).bind fun found => ?_
  cases found with
  | none => exact failsWith_throw (.inr rfl)
  | some application =>
      exact failsWith_refusal ((failsWith_getReferences _ _).bind fun _ => failsWith_servletsOf _)

theorem failsWith_buildEndpoint (name target : String) :
    FailsWith IsRefusal (buildEndpoint name target) := by
  refine (failsWith_refusal (failsWith_findDeployment name)).bind fun found => ?_
  cases found with
  | none => exact failsWith_throw (.inr rfl)
  | some deployment =>
      refine (failsWith_findTarget _ _ _).bind fun targetObject =>
        (failsWith_refusal (failsWith_membersOf _ _)).bind fun members =>
          (failsWith_refusal (failsWith_runningMember members)).bind fun chosen => ?_
      cases chosen with
      | none => exact failsWith_throw (.inr rfl)
      | some server =>
          refine (failsWith_note _ _).bind fun _ => FailsWith.bind ?_ fun address => ?_
          · exact failsWith_refusal (failsWith_ofResult fun _ => isProtocol_of_addressOf)
          · exact (failsWith_applicationServlets _ _).bind fun _ =>
              (failsWith_note _ _).bind fun _ => failsWith_pure _

end Resolution

end DomainDeploy
