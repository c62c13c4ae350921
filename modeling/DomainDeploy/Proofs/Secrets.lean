import DomainDeploy.Proofs.Arguments
import DomainDeploy.Proofs.ChildEnvironment
import DomainDeploy.Proofs.Validation

/-!
# Secrets on their way to the tool

Two secrets of the settings are meant for the tool: the password of the administrator, which stands
among the arguments, and the pass phrase of the trust store, which stands in a property for the
modes that have one and in the environment for every mode but the built-in one. The password
arrives as it was given. The pass phrase arrives without the blanks around it, so it is the one that
was given exactly when there are none (`handsOver_iff`).
-/

namespace DomainDeploy

open Text

/-- The keys of the properties that hand over a pass phrase. -/
def passPhraseKeys : List String :=
  ["weblogic.security.CustomTrustKeyStorePassPhrase",
    "weblogic.security.JavaStandardTrustKeyStorePassPhrase"]

/-- The pass phrase that a property hands over. -/
def Property.passPhrase? (p : Property) : Option String :=
  if p.key ∈ passPhraseKeys then p.value else none

/-- The pass phrases that are handed over. -/
def Invocation.passPhrases (i : Invocation) : List String :=
  i.properties.filterMap Property.passPhrase?

namespace ToolCommand

/-- Wherever a pass phrase is handed over for a mode of trust, it is this one. -/
structure HandsOver (command : ToolCommand) (inherited : String → Option String) (mode : TrustMode)
    (phrase : String) : Prop where
  property : mode = .custom ∨ mode = .standard →
    ∃ i, Invocation.read command.arguments = some i ∧ i.passPhrases = [phrase]
  environment : mode ≠ .builtIn →
    command.environment inherited TrustStore.passwordVariable = some phrase

theorem passPhrases_assigned (rows : List (String × Option String)) :
    (assigned rows).filterMap Property.passPhrase? =
      rows.filterMap fun (key, value?) => if key ∈ passPhraseKeys then value? else none := by
  rw [assigned, List.filterMap_filterMap]
  refine List.filterMap_congr fun (key, value?) _ => ?_
  cases value? <;> simp [Property.passPhrase?]

theorem passPhrases_invocation (c : Configuration) (action : ToolAction) (name : String)
    (source : Option String) (target : String) :
    (invocation c action name source target).passPhrases =
      if c.trust.mode = .custom ∨ c.trust.mode = .standard then
        (c.trust.password.filter (· != "")).toList
      else [] := by
  rw [Invocation.passPhrases, invocation, passPhrases_assigned]
  unfold trustRows otherRows
  cases c.trust.mode <;> cases c.trust.password.filter (· != "") <;>
    simp [passPhraseKeys]

variable {files : FileSystem} {environment inherited : String → Option String} {s : Settings}
  {c : Configuration} {g g' : TrustGuard} {phrase : String}

/-- The password arrives as it was given, and the pass phrase without the blanks around it. -/
theorem handsOver_iff (accepted : Configuration.ofSettings files environment s = .ok c)
    (given : s.trustPassword = some phrase) (visible : isAllBlank phrase = false)
    (entered : g.enter c.trust = (.ok (), g')) (action : ToolAction) (name : String)
    (source : Option String) (target : String) :
    let command := (build c action name source target).withTrustStore g'.current
    (∃ i, Invocation.read command.arguments = some i ∧ i.password = s.password) ∧
      command.arguments[command.passwordIndex]? = some s.password ∧
      command.HandsOver inherited c.trust.mode (trim phrase) ∧
      (command.HandsOver inherited c.trust.mode phrase ↔
        c.trust.mode = .builtIn ∨ trim phrase = phrase) := by
  intro command
  obtain ⟨-, -, htrust, -, hpassword⟩ := Configuration.ofSettings_eq_ok accepted
  have trimmed : c.trust.password = some (trim phrase) :=
    (Configuration.trustOf_eq_ok htrust).2.trans
      (nonBlank_eq_some_iff.2 ⟨phrase, given, visible, rfl⟩)
  have read : Invocation.read command.arguments = some (invocation c action name source target) :=
    read_arguments c action name source target
  have inProperty (h : c.trust.mode = .custom ∨ c.trust.mode = .standard) :
      (invocation c action name source target).passPhrases = [trim phrase] := by
    rw [passPhrases_invocation, if_pos h, trimmed, Option.filter_some,
      if_pos (bne_iff_ne.2 (trim_ne_empty visible))]
    rfl
  have inEnvironment (configured : c.trust.mode ≠ .builtIn) :
      command.environment inherited TrustStore.passwordVariable = some (trim phrase) := by
    rw [environment_withTrustStore, TrustStore.lookup_childVariables, if_neg (by decide),
      if_pos rfl, TrustGuard.current_of_enter_eq_ok entered, TrustGuard.publishedOver,
      if_neg configured, trimmed]
    rfl
  have handed : command.HandsOver inherited c.trust.mode (trim phrase) :=
    ⟨fun h => ⟨_, read, inProperty h⟩, inEnvironment⟩
  refine ⟨⟨_, read, hpassword⟩, by simp [command, withTrustStore, build, hpassword], handed, ?_⟩
  constructor
  · intro h
    by_cases configured : c.trust.mode = .builtIn
    · exact .inl configured
    · have same := (inEnvironment configured).symm.trans (h.environment configured)
      exact .inr (Option.some.inj same)
  · rintro (builtIn | same)
    · exact ⟨by simp [builtIn], fun configured => absurd builtIn configured⟩
    · rwa [same] at handed

/-- A file system that holds a trust store and nothing else. -/
def customFiles : FileSystem :=
  ⟨fun path => if path == "/trust.jks" then .ok (.file []) else .error .notFound⟩

/-- Settings that ask for a trust store with a pass phrase. -/
def customSettings (phrase : String) : Settings where
  adminUrl := "t3://admin:7001"
  userName := "weblogic"
  password := " welcome1 "
  target := "AdminServer"
  strategy := .rest
  customTrust := true
  trustLocation := some "/trust.jks"
  trustPassword := some phrase

/-- What such settings become, whether there are blanks around the pass phrase or not. -/
def customConfiguration : Configuration where
  adminUrl := "t3://admin:7001"
  admin := ⟨.t3, "admin", 7001⟩
  management := ⟨.t3, "admin", 7001⟩
  userName := "weblogic"
  password := " welcome1 "
  target := "AdminServer"
  strategy := .rest
  trust := { mode := .custom, location := some "/trust.jks", password := some "changeit" }
  tool := ⟨"java", "", false⟩
  remoteMachine := false
  timeouts := ⟨200, 90, 600, 30⟩
  logMessages := false

theorem ofSettings_customSettings (h : phrase = "changeit" ∨ phrase = "changeit ") :
    Configuration.ofSettings customFiles (fun _ => none) (customSettings phrase) =
      .ok customConfiguration := by
  rcases h with rfl | rfl <;> exact eq_ok_of_toOption (by decide +kernel)

/-- The command of an operation on a domain where nothing is inherited. -/
def customCommand : ToolCommand :=
  (build customConfiguration .undeploy "foo" none "AdminServer").withTrustStore
    ((TrustGuard.ofPublished .nowhere).enter customConfiguration.trust).2.current

/-- A pass phrase without blanks around it is handed over. -/
theorem handsOver_changeit :
    Configuration.ofSettings customFiles (fun _ => none) (customSettings "changeit") =
        .ok customConfiguration ∧
      customCommand.HandsOver (fun _ => none) .custom "changeit" := by
  have accepted := ofSettings_customSettings (.inl rfl)
  have entered : (TrustGuard.ofPublished .nowhere).enter customConfiguration.trust = (.ok (), _) :=
    rfl
  obtain ⟨-, -, -, handsOver⟩ :=
    handsOver_iff accepted rfl (by decide) entered .undeploy "foo" none "AdminServer"
  exact ⟨accepted, handsOver.2 (.inr (by decide))⟩

/-- A blank behind the pass phrase is lost on the way. -/
theorem not_handsOver_blank :
    Configuration.ofSettings customFiles (fun _ => none) (customSettings "changeit ") =
        .ok customConfiguration ∧
      isAllBlank "changeit " = false ∧
      (Invocation.read customCommand.arguments).map (·.passPhrases) = some ["changeit"] ∧
      customCommand.environment (fun _ => none) TrustStore.passwordVariable = some "changeit" ∧
      ¬customCommand.HandsOver (fun _ => none) .custom "changeit " := by
  have sees : customCommand.environment (fun _ => none) TrustStore.passwordVariable =
      some "changeit" := rfl
  refine ⟨ofSettings_customSettings (.inr rfl), by decide, by decide +kernel, sees, fun h => ?_⟩
  have same : "changeit" = "changeit " :=
    Option.some.inj (sees.symm.trans (h.environment (by decide)))
  exact absurd same (by decide)

end ToolCommand

end DomainDeploy
