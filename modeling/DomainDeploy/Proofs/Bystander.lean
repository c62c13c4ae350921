import DomainDeploy.Proofs.Evidence
import DomainDeploy.Proofs.Static

/-!
# Servers that have nothing to do with a target

Where a deployment is served on a target should not depend on servers that the target does not stand
for. Those servers are bystanders. What they say is never used; yet every server of the domain is
read before the members are picked out of them, so a bystander whose state or address cannot be read
ends the walk. `value_buildEndpoint_bystanders` says exactly that: bystanders that respond do not
matter, and one that does not respond hides an endpoint that is there.
-/

namespace DomainDeploy

open Program Activity

namespace Resolution

variable {name target : String}

/-! ### The walk in three parts -/

/-- The servers that a target of a deployment stands for. -/
def targetMembers (name target : String) : Activity (List String) := do
  match ← findDeployment name with
  | none => throw (.deploymentNotFound name)
  | some deployment => membersOf (← findTarget deployment name target) target

/-- The endpoint through the server that was chosen, if there is one. -/
def endpointThrough (name target : String) :
    Option (ObjectName × ServerInstance) → Activity Endpoint
  | none => throw (.targetNotRunning target)
  | some (runtime, server) => do
    note .debug s!"Resolving {name} through {server.name}"
    let (host, port) ← ofResult (addressOf server)
    let servlets ← applicationServlets runtime name
    note .info s!"{name} is served by {server.name} at {host}:{port}"
    return ⟨host, port, servlets⟩

theorem buildEndpoint_eq (name target : String) :
    buildEndpoint name target =
      targetMembers name target >>= fun members =>
        runningMember members >>= endpointThrough name target := by
  unfold buildEndpoint targetMembers
  rw [bind_assoc]
  congr
  funext found
  cases found with
  | none => rfl
  | some deployment =>
      simp only [bind_assoc]
      rfl

theorem asks_targetMembers (name target : String) :
    (targetMembers name target).run.Asks Outside.Question.IsStateless := by
  refine (asks_findDeployment name).bind fun found => ?_
  cases found with
  | none => trivial
  | some deployment => exact (asks_findTarget _ _ _).bind fun _ => asks_membersOf _ _

theorem asks_endpointThrough (name target : String)
    (chosen : Option (ObjectName × ServerInstance)) :
    (endpointThrough name target chosen).run.Asks Outside.Question.IsStateless := by
  cases chosen with
  | none => trivial
  | some server =>
      exact (asks_note _ _).bind fun _ => (asks_ofResult _).bind fun _ =>
        (asks_applicationServlets _ _).bind fun _ => trivial

end Resolution

namespace Program.Static

open Resolution

variable {D D' : Static Outside} {name target : String} {members : List String}
  {runtime : ObjectName} {server : ServerInstance}

/-! ### Reading a server -/

/-- A server tells its state, and its address if it runs. -/
def Responds (D : Static Outside) (runtime : ObjectName) : Prop :=
  ∃ state, D.reply (.get runtime "State") = .ok (.text state) ∧
    (state = ServerInstance.running → ∃ url, D.reply
      (.invoke runtime "getURL" (.object [("protocol", .string "http")])) = .ok (.text url))

theorem value_readServer_congr
    (hname : D.reply (.get runtime "Name") = D'.reply (.get runtime "Name"))
    (hstate : D.reply (.get runtime "State") = D'.reply (.get runtime "State"))
    (hurl : ∀ arguments, D.reply (.invoke runtime "getURL" arguments) =
      D'.reply (.invoke runtime "getURL" arguments)) :
    D.value (readServer runtime) = D'.value (readServer runtime) := by
  simp [readServer, askUrl, value_getText, apply_ite (Static.value _), hname, hstate, hurl]

/-- A server that responds can be read once its name can. -/
theorem value_readServer_of_responds {own : String} (hresponds : D.Responds runtime)
    (hname : D.reply (.get runtime "Name") = .ok (.text own)) :
    ∃ server, D.value (readServer runtime) = .ok server ∧ server.name = own := by
  obtain ⟨state, hstate, haddress⟩ := hresponds
  by_cases hrunning : state = ServerInstance.running
  · obtain ⟨url, hurl⟩ := haddress hrunning
    refine ⟨⟨own, state, some url⟩, value_eq_iff.2 ⟨_, leadsTo_readServer.2 ⟨?_, rfl⟩, ?_⟩, rfl⟩
    · simp [ServerInstance.isRunning, hrunning]
    · simpa [Gives, serverTurns] using ⟨hname, hstate, hurl⟩
  · refine ⟨⟨own, state, none⟩, value_eq_iff.2 ⟨_, leadsTo_readServer.2 ⟨?_, rfl⟩, ?_⟩, rfl⟩
    · simp [ServerInstance.isRunning, hrunning]
    · simpa [Gives, serverTurns] using ⟨hname, hstate⟩

theorem responds_of_value_readServer (h : D.value (readServer runtime) = .ok server) :
    D.Responds runtime := by
  obtain ⟨_, hd, hgives⟩ := value_eq_iff.1 h
  obtain ⟨haddress, rfl⟩ := leadsTo_readServer.1 hd
  refine ⟨server.state, hgives (look runtime "State" _) (by simp [serverTurns]), fun hrunning => ?_⟩
  have hsome : server.baseUrl.isSome = true := by
    rw [haddress]
    simp [ServerInstance.isRunning, hrunning]
  obtain ⟨url, hurl⟩ := Option.isSome_iff_exists.1 hsome
  exact ⟨url, hgives (urlTurn runtime _) (by simp [serverTurns, hurl])⟩

/-! ### Picking a member -/

/-- The first running member among servers that are read. -/
def pick (D : Static Outside) (members : List String) (runtimes : List ObjectName) :
    Except DeployError (Option (ObjectName × ServerInstance)) :=
  (·.find? (isRunningMember members)) <$> D.value (readServers runtimes)

theorem value_runningMember (hmembers : members ≠ []) :
    D.value (runningMember members) =
      D.value (getReferences .root "ServerRuntimes") >>= D.pick members := by
  have hne : ¬members.isEmpty = true := by simpa using hmembers
  unfold runningMember
  rw [if_neg hne, bind_pure_comp, value_map, serverRuntimes, value_bind]
  cases D.value (getReferences .root "ServerRuntimes") <;> rfl

theorem pick_cons (runtimes : List ObjectName) :
    D.pick members (runtime :: runtimes) = D.value (readServer runtime) >>= fun server =>
      (fun behind => if isRunningMember members (runtime, server) then some (runtime, server)
        else behind) <$> D.pick members runtimes := by
  unfold pick
  simp only [readServers, value_bind, bind_pure_comp, value_map]
  cases D.value (readServer runtime) with
  | error e => rfl
  | ok server =>
      cases D.value (readServers runtimes) with
      | error e => rfl
      | ok servers =>
          refine congrArg Except.ok ?_
          cases hpicked : isRunningMember members (runtime, server) <;>
            simp [hpicked]

/-- Servers that are read alike, or read differently without being members, are picked alike. -/
theorem pick_congr {runtimes : List ObjectName}
    (h : ∀ runtime ∈ runtimes, D.value (readServer runtime) = D'.value (readServer runtime) ∨
      ∃ server server', D.value (readServer runtime) = .ok server ∧
        D'.value (readServer runtime) = .ok server' ∧ server.name ∉ members ∧
          server'.name ∉ members) :
    D.pick members runtimes = D'.pick members runtimes := by
  induction runtimes with
  | nil => rfl
  | cons runtime rest ih =>
      rw [pick_cons, pick_cons, ih fun other hother => h other (List.mem_cons_of_mem _ hother)]
      rcases h runtime (by simp) with heq | ⟨server, server', hserver, hserver', hname, hname'⟩
      · rw [heq]
      · -- both readings are passed over, so the pick is made among the rest
        rw [hserver, hserver']
        simp [bind, Except.bind, isRunningMember, hname, hname']

/-! ### Bystanders -/

/-- The name of a server can be read, and the target does not stand for it. -/
def IsBystander (D : Static Outside) (name target : String) (runtime : ObjectName) : Prop :=
  ∃ own, D.reply (.get runtime "Name") = .ok (.text own) ∧
    ∀ members, D.value (targetMembers name target) = .ok members → own ∉ members

/-- Two domains answer alike but for the states and addresses of bystanders. -/
def DiffersInBystanders (D D' : Static Outside) (name target : String) : Prop :=
  ∀ q, D q = D' q ∨ ∃ runtime, D.IsBystander name target runtime ∧
    (q = .call (.get runtime "State") ∨ ∃ arguments, q = .call (.invoke runtime "getURL" arguments))

/-- If it comes to reading the servers of the domain, the bystanders among them respond. -/
def IsUnhindered (D : Static Outside) (name target : String) : Prop :=
  ∀ members runtimes, D.value (targetMembers name target) = .ok members → members ≠ [] →
    D.value (getReferences .root "ServerRuntimes") = .ok runtimes →
      ∀ runtime ∈ runtimes, D.IsBystander name target runtime → D.Responds runtime

namespace DiffersInBystanders

variable (h : D.DiffersInBystanders D' name target)

include h

theorem eq_of_isStateless {q : Outside.Question} (hq : q.IsStateless) : D q = D' q := by
  rcases h q with heq | ⟨runtime, -, rfl | ⟨arguments, rfl⟩⟩
  · exact heq
  · exact (hq rfl).elim
  · exact hq.elim

theorem value_targetMembers :
    D.value (targetMembers name target) = D'.value (targetMembers name target) :=
  value_congr (asks_targetMembers name target) fun _ => h.eq_of_isStateless

theorem value_endpointThrough (chosen : Option (ObjectName × ServerInstance)) :
    D.value (endpointThrough name target chosen) = D'.value (endpointThrough name target chosen) :=
  value_congr (asks_endpointThrough name target chosen) fun _ => h.eq_of_isStateless

theorem value_serverList :
    D.value (getReferences .root "ServerRuntimes") =
      D'.value (getReferences .root "ServerRuntimes") :=
  value_congr (P := Outside.Question.IsStateless) (asks_getReferences (by simp)) fun _ =>
    h.eq_of_isStateless

theorem reply_name (runtime : ObjectName) :
    D.reply (.get runtime "Name") = D'.reply (.get runtime "Name") :=
  h.eq_of_isStateless (q := .call (.get runtime "Name")) (by simp)

theorem isBystander_iff :
    D.IsBystander name target runtime ↔ D'.IsBystander name target runtime := by
  unfold IsBystander
  rw [h.value_targetMembers, h.reply_name]

/-- Servers that are no bystanders are read alike. -/
theorem value_readServer (hruntime : ¬D.IsBystander name target runtime) :
    D.value (readServer runtime) = D'.value (readServer runtime) := by
  refine value_readServer_congr (h.reply_name runtime) ?_ fun arguments => ?_
  · rcases h (.call (.get runtime "State")) with heq | ⟨other, hother, hq | ⟨_, hq⟩⟩
    · exact heq
    · cases hq
      exact (hruntime hother).elim
    · cases hq
  · rcases h (.call (.invoke runtime "getURL" arguments)) with heq | ⟨other, hother, hq | ⟨_, hq⟩⟩
    · exact heq
    · cases hq
    · cases hq
      exact (hruntime hother).elim

/-- Bystanders that respond are not picked, whatever they say. -/
theorem pick_eq {runtimes : List ObjectName}
    (hmembers : D.value (targetMembers name target) = .ok members)
    (hD : ∀ runtime ∈ runtimes, D.IsBystander name target runtime → D.Responds runtime)
    (hD' : ∀ runtime ∈ runtimes, D'.IsBystander name target runtime → D'.Responds runtime) :
    D.pick members runtimes = D'.pick members runtimes := by
  refine pick_congr fun runtime hruntime => ?_
  by_cases hbystander : D.IsBystander name target runtime
  · have hresponds := hD runtime hruntime hbystander
    have hresponds' := hD' runtime hruntime (h.isBystander_iff.1 hbystander)
    obtain ⟨own, hname, hown⟩ := hbystander
    have hname' := (h.reply_name runtime).symm.trans hname
    obtain ⟨server, hserver, rfl⟩ := value_readServer_of_responds hresponds hname
    obtain ⟨server', hserver', hsame⟩ := value_readServer_of_responds hresponds' hname'
    exact .inr ⟨server, server', hserver, hserver', hown members hmembers,
      hsame ▸ hown members hmembers⟩
  · exact .inl (h.value_readServer hbystander)

theorem value_buildEndpoint_eq (hD : D.IsUnhindered name target)
    (hD' : D'.IsUnhindered name target) :
    D.value (buildEndpoint name target) = D'.value (buildEndpoint name target) := by
  simp only [buildEndpoint_eq, value_bind, ← h.value_endpointThrough, ← h.value_targetMembers]
  cases hmembers : D.value (targetMembers name target) with
  | error e => rfl
  | ok members =>
      refine congrArg (· >>= fun chosen => D.value (endpointThrough name target chosen)) ?_
      -- a target without members is given up before any server is read
      by_cases hempty : members = []
      · subst hempty
        rfl
      · rw [value_runningMember hempty, value_runningMember hempty, ← h.value_serverList]
        cases hruntimes : D.value (getReferences .root "ServerRuntimes") with
        | error e => rfl
        | ok runtimes =>
            exact h.pick_eq hmembers (hD members runtimes hmembers hempty hruntimes)
              (hD' members runtimes (h.value_targetMembers ▸ hmembers) hempty
                (h.value_serverList ▸ hruntimes))

end DiffersInBystanders

theorem responds_of_value_readServers {runtimes : List ObjectName}
    {servers : List (ObjectName × ServerInstance)}
    (h : D.value (readServers runtimes) = .ok servers) :
    ∀ runtime ∈ runtimes, D.Responds runtime := by
  induction runtimes generalizing servers with
  | nil => simp
  | cons runtime rest ih =>
      obtain ⟨server, hserver, h₁⟩ := value_bind_eq_ok.1 h
      obtain ⟨behind, hbehind, -⟩ := value_bind_eq_ok.1 h₁
      exact List.forall_mem_cons.2 ⟨responds_of_value_readServer hserver, ih hbehind⟩

/-- Where an endpoint is found, all servers have been read. -/
theorem isUnhindered_of_value_buildEndpoint {e : Endpoint}
    (h : D.value (buildEndpoint name target) = .ok e) : D.IsUnhindered name target := by
  rw [buildEndpoint_eq] at h
  obtain ⟨members, hmembers, h₁⟩ := value_bind_eq_ok.1 h
  obtain ⟨chosen, hchosen, -⟩ := value_bind_eq_ok.1 h₁
  intro members' runtimes hmembers' hempty hruntimes runtime hruntime _
  obtain rfl := Except.ok.inj (hmembers.symm.trans hmembers')
  rw [value_runningMember hempty, hruntimes] at hchosen
  cases hservers : D.value (readServers runtimes) with
  | error e =>
      have hpick : D.pick members runtimes = .error e := by
        rw [pick, hservers]
        rfl
      cases hpick.symm.trans hchosen
  | ok servers => exact responds_of_value_readServers hservers runtime hruntime

/-- Between domains that differ in bystanders only, the result is the same when the bystanders
respond in both; and if one of them shows an endpoint, it is the same in no other case. -/
theorem value_buildEndpoint_bystanders {D D' : Static Outside} {name target : String}
    (h : D.DiffersInBystanders D' name target) :
    (D.IsUnhindered name target ∧ D'.IsUnhindered name target →
      D.value (buildEndpoint name target) = D'.value (buildEndpoint name target)) ∧
    ∀ e, D.value (buildEndpoint name target) = .ok e ∨
        D'.value (buildEndpoint name target) = .ok e →
      (D.value (buildEndpoint name target) = D'.value (buildEndpoint name target) ↔
        D.IsUnhindered name target ∧ D'.IsUnhindered name target) := by
  have same (hboth : D.IsUnhindered name target ∧ D'.IsUnhindered name target) :=
    h.value_buildEndpoint_eq hboth.1 hboth.2
  refine ⟨same, fun e he => ⟨fun heq => ?_, same⟩⟩
  -- equal results are endpoints both, and there is no endpoint unless all servers are read
  have hD : D.value (buildEndpoint name target) = .ok e := by
    rcases he with he | he
    · exact he
    · exact heq.trans he
  exact ⟨isUnhindered_of_value_buildEndpoint hD,
    isUnhindered_of_value_buildEndpoint (heq.symm.trans hD)⟩

/-- The same surroundings but for the address of one server. -/
def withAddress (D : Static Outside) (runtime : ObjectName) (address : Except DeployError Reading) :
    Static Outside := fun q =>
  match q with
  | .call (.invoke object operation arguments) =>
    if object = runtime ∧ operation = "getURL" then address
    else D (.call (.invoke object operation arguments))
  | q => D q

theorem differsInBystanders_withAddress {address address' : Except DeployError Reading}
    (h : (D.withAddress runtime address).IsBystander name target runtime) :
    (D.withAddress runtime address).DiffersInBystanders (D.withAddress runtime address')
      name target := by
  intro q
  match q with
  | .call (.invoke object operation arguments) =>
      by_cases hq : object = runtime ∧ operation = "getURL"
      · obtain ⟨rfl, rfl⟩ := hq
        exact .inr ⟨object, h, .inr ⟨arguments, rfl⟩⟩
      · exact .inl (by simp [withAddress, hq])
  | .call (.get _ _) | .call (.upload ..) => exact .inl rfl
  | .connect | .disconnect | .runTool .. | .sleep _ => exact .inl rfl

/-- A domain that serves a deployment on one server, and lists another server before it that gives
the address. -/
def crowded (address : Except DeployError Reading) : Static Outside :=
  withAddress (fun q => (Rehearsal.outside q { domain := {
    Deployer.serving with
    attributes := [
      ("#ServerRuntimes", [.ok (.references [⟨"other"⟩, ⟨"server"⟩])]),
      ("other#Name", [.ok (.text "other")]),
      ("other#State", [.ok (.text "RUNNING")])] ++ Deployer.serving.attributes } }).1)
    ⟨"other"⟩ address

theorem isBystander_crowded (address : Except DeployError Reading) :
    (crowded address).IsBystander "foo" "AdminServer" ⟨"other"⟩ := by
  refine ⟨"other", rfl, fun members hmembers => ?_⟩
  have hserver : (crowded address).value (targetMembers "foo" "AdminServer") =
      .ok ["AdminServer"] := rfl
  obtain rfl := Except.ok.inj (hserver.symm.trans hmembers)
  simp

theorem isUnhindered_crowded (url : String) :
    (crowded (.ok (.text url))).IsUnhindered "foo" "AdminServer" := by
  intro members runtimes _ _ hruntimes runtime hruntime _
  have hlist : (crowded (.ok (.text url))).value (getReferences .root "ServerRuntimes") =
      .ok [⟨"other"⟩, ⟨"server"⟩] := rfl
  obtain rfl := Except.ok.inj (hlist.symm.trans hruntimes)
  rcases List.mem_cons.1 hruntime with rfl | hruntime
  · exact ⟨"RUNNING", rfl, fun _ => ⟨url, rfl⟩⟩
  · obtain rfl := List.mem_singleton.1 hruntime
    exact ⟨"RUNNING", rfl, fun _ => ⟨"http://10.0.0.5:7001", rfl⟩⟩

/-- The address that the other server gives makes no difference. -/
theorem value_buildEndpoint_bystanders_crowded :
    let D := crowded (.ok (.text "http://10.0.0.9:7003"))
    let D' := crowded (.ok (.text "http://10.0.0.9:7005"))
    let e : Endpoint := ⟨"10.0.0.5", 7001, [⟨"Main", "/"⟩]⟩
    D.DiffersInBystanders D' "foo" "AdminServer" ∧
      D.value (buildEndpoint "foo" "AdminServer") = .ok e ∧
        D'.value (buildEndpoint "foo" "AdminServer") = .ok e := by
  intro D D' e
  have h : D.DiffersInBystanders D' "foo" "AdminServer" :=
    differsInBystanders_withAddress (isBystander_crowded _)
  have served : (D.value (buildEndpoint "foo" "AdminServer")).toOption = some e := by
    decide +kernel
  have he := eq_ok_of_toOption served
  have heq := ((value_buildEndpoint_bystanders h).2 e (.inl he)).2
    ⟨isUnhindered_crowded _, isUnhindered_crowded _⟩
  exact ⟨h, he, heq.symm.trans he⟩

/-- That it gives none hides the endpoint. -/
theorem crowded_hides_endpoint :
    let D := crowded (.ok (.text "http://10.0.0.9:7003"))
    let D' := crowded (.error (.protocol (.noOperation "getURL" ⟨"other"⟩)))
    D.DiffersInBystanders D' "foo" "AdminServer" ∧
      D.value (buildEndpoint "foo" "AdminServer") =
        .ok ⟨"10.0.0.5", 7001, [⟨"Main", "/"⟩]⟩ ∧
      D'.value (buildEndpoint "foo" "AdminServer") =
        .error (.protocol (.noOperation "getURL" ⟨"other"⟩)) := by
  intro D D'
  have served : (D.value (buildEndpoint "foo" "AdminServer")).toOption =
      some ⟨"10.0.0.5", 7001, [⟨"Main", "/"⟩]⟩ := by decide +kernel
  exact ⟨differsInBystanders_withAddress (isBystander_crowded _), eq_ok_of_toOption served, rfl⟩

end Program.Static

end DomainDeploy
