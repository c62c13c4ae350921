import DomainDeploy.Command
import DomainDeploy.Proofs.Dialogue
import DomainDeploy.Proofs.Validation

/-!
# Targets of commands

Two ways lead to the target of a command: an argument names it, or it is the configured one.
Nothing else of a command depends on which way is taken (`Command.ofArguments_of_agrees`). The text
of an argument is trimmed and the configured text is not, so the two ways lead to the same target
exactly when the configured text has no blanks around it (`Command.ofArguments_named_iff`). A target
is never blank, whichever way it comes.
-/

namespace DomainDeploy

open Text

namespace Command

/-- The target of a command. -/
def target : Command → String
  | deploy _ target => target
  | undeploy _ target => target
  | status target => target

/-- The same command for another target. -/
def onto (target : String) : Command → Command
  | deploy artifact _ => deploy artifact target
  | undeploy name _ => undeploy name target
  | status _ => status target

theorem onto_eq_self_iff {target : String} {command : Command} :
    command.onto target = command ↔ target = command.target := by
  cases command <;> simp [onto, Command.target]

variable {arguments arguments' : List (String × String)} {c : Configuration} {command : Command}

/-! ### Where the target comes from -/

/-- Arguments that name a target in addition and say the same apart from that. -/
structure Names (arguments arguments' : List (String × String)) (text : String) : Prop where
  unnamed : arguments.lookup "target" = none
  named : arguments'.lookup "target" = some text
  others : ∀ name ≠ "target", arguments'.lookup name = arguments.lookup name

/-- Arguments that differ in the target at most differ in nothing but the target of the command. -/
theorem ofArguments_of_agrees
    (others : ∀ name ≠ "target", arguments'.lookup name = arguments.lookup name) :
    ofArguments arguments' c = (ofArguments arguments c).map (onto (targetOf arguments' c)) := by
  simp only [ofArguments, others "deploy" (by decide), others "undeploy" (by decide),
    others "status" (by decide)]
  cases arguments.lookup "deploy" with
  | some artifact => rfl
  | none =>
      cases arguments.lookup "undeploy" with
      | some text =>
          dsimp only
          cases deploymentNameAt? text <;> rfl
      | none => cases arguments.lookup "status" <;> rfl

theorem target_of_ofArguments (h : ofArguments arguments c = .ok command) :
    command.target = targetOf arguments c := by
  have same : ofArguments arguments c =
      (ofArguments arguments c).map (onto (targetOf arguments c)) :=
    ofArguments_of_agrees fun _ _ => rfl
  rw [h] at same
  exact (onto_eq_self_iff.1 (Except.ok.inj same).symm).symm

theorem targetOf_of_given {text : String} (h : IsGiven (arguments.lookup "target") text) :
    targetOf arguments c = text := by
  rw [targetOf, nonBlank_eq_some_iff.2 h, Option.getD_some]

theorem targetOf_of_not_given (h : ∀ text, ¬IsGiven (arguments.lookup "target") text) :
    targetOf arguments c = c.target := by
  rw [targetOf, nonBlank_eq_none_iff.2 h, Option.getD_none]

/-! ### Both ways -/

variable {files : FileSystem} {environment : String → Option String} {s : Settings}

theorem isAllBlank_trim (text : String) : isAllBlank (trim text) = isAllBlank text := by
  rw [← isEmpty_trim, trim_trim, isEmpty_trim]

/-- The configured target is the one of the settings as it stands there. -/
theorem target_of_ofSettings (h : Configuration.ofSettings files environment s = .ok c) :
    c.target = s.target := by
  unfold Configuration.ofSettings at h
  simp only [bind_eq_ok] at h
  obtain ⟨_, -, _, -, _, -, _, -, _, -, _, -, _, -, _, -, _, -, _, -, h⟩ := h
  obtain rfl := Except.ok.inj h
  rfl

/-- A target that is named by an argument is trimmed. -/
theorem targetOf_of_names {text : String} (h : Names arguments arguments' text)
    (visible : isAllBlank text = false) : targetOf arguments' c = trim text :=
  targetOf_of_given ⟨text, h.named, visible, rfl⟩

/-- Naming the configured target in addition changes nothing exactly when that target has no blanks
around it, or when there is no command in any case. No command is for a blank target, and the target
of a command has blanks around it exactly when it is the configured one and that one has. -/
theorem ofArguments_named_iff (accepted : Configuration.ofSettings files environment s = .ok c)
    (names : Names arguments arguments' s.target) :
    (ofArguments arguments' c = ofArguments arguments c ↔
      trim s.target = s.target ∨ ∃ e, ofArguments arguments c = .error e) ∧
    ∀ given command, ofArguments given c = .ok command →
      isAllBlank command.target = false ∧
      (trim command.target = command.target ↔
        trim s.target = s.target ∨ ∃ text, IsGiven (given.lookup "target") text) := by
  have visible : isAllBlank s.target = false :=
    (Configuration.exists_ofSettings_eq_ok_iff.1 ⟨c, accepted⟩).target_given
  have configured : c.target = s.target := target_of_ofSettings accepted
  constructor
  · rw [ofArguments_of_agrees names.others, targetOf_of_names names visible]
    cases h : ofArguments arguments c with
    | error e => simp [Except.map]
    | ok command =>
        have stays : command.target = s.target := by
          rw [target_of_ofArguments h, targetOf_of_not_given, configured]
          rintro text ⟨raw, hraw, -⟩
          exact Option.some_ne_none raw (hraw.symm.trans names.unnamed)
        simp [Except.map, onto_eq_self_iff, stays]
  · intro given command h
    rw [target_of_ofArguments h]
    by_cases named : ∃ text, IsGiven (given.lookup "target") text
    · obtain ⟨text, raw, hraw, seen, rfl⟩ := named
      have isGiven : IsGiven (given.lookup "target") (trim raw) := ⟨raw, hraw, seen, rfl⟩
      rw [targetOf_of_given isGiven, isAllBlank_trim, trim_trim]
      exact ⟨seen, iff_of_true rfl (.inr ⟨_, isGiven⟩)⟩
    · rw [targetOf_of_not_given (not_exists.1 named), configured]
      exact ⟨visible, by simp [named]⟩

/-- Settings for a target with the given name. -/
def targetSettings (target : String) : Settings where
  adminUrl := "t3://localhost:7001"
  userName := "weblogic"
  password := "welcome1"
  target := target
  strategy := .rest

/-- What such settings become. -/
def targetConfiguration (target : String) : Configuration where
  adminUrl := "t3://localhost:7001"
  admin := ⟨.t3, "localhost", 7001⟩
  management := ⟨.t3, "localhost", 7001⟩
  userName := "weblogic"
  password := "welcome1"
  target := target
  strategy := .rest
  trust := { mode := .builtIn, location := none }
  tool := ⟨"java", "", false⟩
  remoteMachine := false
  timeouts := ⟨200, 90, 600, 30⟩
  logMessages := false

theorem ofSettings_targetSettings {target : String}
    (h : target = "cluster 1" ∨ target = " cluster 1") :
    Configuration.ofSettings ⟨fun _ => .error .notFound⟩ (fun _ => none) (targetSettings target) =
      .ok (targetConfiguration target) := by
  rcases h with rfl | rfl <;> exact eq_ok_of_toOption (by decide +kernel)

/-- A target with a blank inside, configured and named. -/
theorem ofArguments_named_inside :
    Configuration.ofSettings ⟨fun _ => .error .notFound⟩ (fun _ => none)
        (targetSettings "cluster 1") = .ok (targetConfiguration "cluster 1") ∧
      Names [("undeploy", "foo")] [("undeploy", "foo"), ("target", "cluster 1")] "cluster 1" ∧
      ofArguments [("undeploy", "foo"), ("target", "cluster 1")] (targetConfiguration "cluster 1") =
        ofArguments [("undeploy", "foo")] (targetConfiguration "cluster 1") := by
  have accepted := ofSettings_targetSettings (.inl rfl)
  have names : Names [("undeploy", "foo")] [("undeploy", "foo"), ("target", "cluster 1")]
      "cluster 1" := by
    refine ⟨rfl, rfl, fun name h => ?_⟩
    simp [List.lookup_cons, beq_eq_false_iff_ne.2 h]
  exact ⟨accepted, names, (ofArguments_named_iff accepted names).1.2 (.inl (by decide))⟩

/-- A blank before the configured target stays there, and it is dropped from the argument. -/
theorem ofArguments_named_ne :
    Configuration.ofSettings ⟨fun _ => .error .notFound⟩ (fun _ => none)
        (targetSettings " cluster 1") = .ok (targetConfiguration " cluster 1") ∧
      isAllBlank " cluster 1" = false ∧
      ofArguments [("deploy", "foo.war")] (targetConfiguration " cluster 1") =
        .ok (.deploy "foo.war" " cluster 1") ∧
      ofArguments [("deploy", "foo.war"), ("target", " cluster 1")]
          (targetConfiguration " cluster 1") = .ok (.deploy "foo.war" "cluster 1") ∧
      ofArguments [("deploy", "foo.war"), ("target", " cluster 1")]
          (targetConfiguration " cluster 1") ≠
        ofArguments [("deploy", "foo.war")] (targetConfiguration " cluster 1") := by
  have configured : ofArguments [("deploy", "foo.war")] (targetConfiguration " cluster 1") =
      .ok (.deploy "foo.war" " cluster 1") := rfl
  have named : ofArguments [("deploy", "foo.war"), ("target", " cluster 1")]
      (targetConfiguration " cluster 1") = .ok (.deploy "foo.war" "cluster 1") :=
    eq_ok_of_toOption (by decide +kernel)
  refine ⟨ofSettings_targetSettings (.inr rfl), by decide, configured, named, fun same => ?_⟩
  rw [configured, named] at same
  have differ : "cluster 1" ≠ " cluster 1" := by decide
  exact differ (Command.deploy.inj (Except.ok.inj same)).2

end Command

end DomainDeploy
