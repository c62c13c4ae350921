import DomainDeploy.Configuration
import DomainDeploy.Proofs.Hosts
import DomainDeploy.Proofs.Results
import DomainDeploy.Proofs.Trimming

/-!
# Which settings are valid

Settings are checked in one order (`Check.order`), and each check fails for a reason of its own
(`Fails`). The first check that fails is the fault that is told, and settings that pass all of them
become a configuration (`ofSettings_checksInOrder`). What a check asks for is told here without the
code that makes it: where a home directory, a trust store or the archive of the tool is found
(`Locates`, `IsStore`, `IsArchive`), and what the class path is (`IsClassPath`).
-/

namespace DomainDeploy

open Text

/-! ### Places -/

/-- A directory is named by a setting, or else by a variable that is not empty. -/
inductive Locates (environment : String → Option String) (setting : Option String)
    (name : String) : String → Prop
  | given {path : String} (given : IsGiven setting path) : Locates environment setting name path
  | inherited {path : String} (leftOut : ∀ path, ¬IsGiven setting path)
      (found : environment name = some path) (nonempty : path ≠ "") :
      Locates environment setting name path

namespace Settings

/-- The settings ask for a mode of trust. -/
inductive AsksFor (s : Settings) : TrustMode → Prop
  | demo (flag : s.demoTrust = true) : AsksFor s .demo
  | custom (flag : s.customTrust = true) : AsksFor s .custom
  | standard (flag : s.standardTrust = true) : AsksFor s .standard

section

variable (environment : String → Option String) (s : Settings)

/-- The path is where a mode of trust has its store. -/
inductive IsStore : TrustMode → String → Prop
  | demo {home : String} (located : Locates environment s.home "WL_HOME" home) :
      IsStore .demo (FileSystem.join home "server/lib/DemoTrust.jks")
  | custom {path : String} (given : IsGiven s.trustLocation path) : IsStore .custom path
  | standard {home : String} (located : Locates environment s.javaHome "JAVA_HOME" home) :
      IsStore .standard (FileSystem.join home "lib/security/cacerts")

/-- The path is where the archive of the tool is to be found. -/
inductive IsArchive : String → Prop
  | given {path : String} (given : IsGiven s.archive path) : IsArchive path
  | home {home : String} (leftOut : ∀ path, ¬IsGiven s.archive path)
      (located : Locates environment s.home "WL_HOME" home) :
      IsArchive (FileSystem.join home "server/lib/weblogic.jar")

/-- The archive and the further entries make up the class path, as far as there are any. -/
inductive IsClassPath : String → Prop
  | empty (noArchive : ∀ path, ¬IsArchive environment s path)
      (noEntries : ∀ entries, ¬IsGiven s.classPath entries) : IsClassPath ""
  | archive {path : String} (archive : IsArchive environment s path)
      (noEntries : ∀ entries, ¬IsGiven s.classPath entries) : IsClassPath path
  | entries {entries : String} (noArchive : ∀ path, ¬IsArchive environment s path)
      (given : IsGiven s.classPath entries) : IsClassPath entries
  | both {path entries : String} (archive : IsArchive environment s path)
      (given : IsGiven s.classPath entries) : IsClassPath (path ++ ":" ++ entries)

end

end Settings

/-! ### Checks -/

/-- What is checked of settings. -/
inductive Check where
  | adminUrlGiven
  | userNameGiven
  | passwordGiven
  | targetGiven
  | adminUrl
  | managementUrl
  | trust
  | tool
  | deployTimeout
  | requestTimeout
deriving DecidableEq

/-- The order in which the checks are made. -/
def Check.order : List Check :=
  [.adminUrlGiven, .userNameGiven, .passwordGiven, .targetGiven, .adminUrl, .managementUrl, .trust,
    .tool, .deployTimeout, .requestTimeout]

theorem Check.mem_order (check : Check) : check ∈ order := by
  cases check <;> decide

/-- How it is told that a mode of trust has no place for its store, or no file there. -/
inductive TrustMode.Tells :
    TrustMode → ConfigurationFault → (String → ConfigurationFault) → Prop
  | demo : Tells .demo .demoTrustWithoutHome .demoTrustNotFound
  | custom : Tells .custom .customTrustWithoutLocation .customTrustNotFound
  | standard : Tells .standard .standardTrustWithoutHome .standardTrustNotFound

theorem TrustMode.Tells.unique {mode : TrustMode} {noPlace noPlace' : ConfigurationFault}
    {noFile noFile' : String → ConfigurationFault} (told : mode.Tells noPlace noFile)
    (told' : mode.Tells noPlace' noFile') : noPlace = noPlace' ∧ noFile = noFile' := by
  cases told <;> cases told' <;> exact ⟨rfl, rfl⟩

namespace Settings

section

variable (files : FileSystem) (environment : String → Option String) (s : Settings)

/-- Settings fail a check, and the reason. -/
inductive Fails : Check → ConfigurationFault → Prop
  | adminUrlGiven (blank : isAllBlank s.adminUrl = true) : Fails .adminUrlGiven .adminUrlMissing
  | userNameGiven (blank : isAllBlank s.userName = true) : Fails .userNameGiven .userNameMissing
  | passwordGiven (blank : isAllBlank s.password = true) : Fails .passwordGiven .passwordMissing
  | targetGiven (blank : isAllBlank s.target = true) : Fails .targetGiven .targetMissing
  | adminUrl {fault : ConfigurationFault}
      (unreadable : AdminUrl.parse s.adminUrl = .error (.configuration fault)) :
      Fails .adminUrl fault
  | managementUrl {url : String} {fault : ConfigurationFault} (given : s.managementUrl = some url)
      (visible : isAllBlank url = false)
      (unreadable : AdminUrl.parse url = .error (.configuration fault)) :
      Fails .managementUrl fault
  | severalModes {mode mode' : TrustMode} (asked : s.AsksFor mode) (asked' : s.AsksFor mode')
      (differ : mode ≠ mode') : Fails .trust .severalTrustModes
  | noStore {mode : TrustMode} {noPlace : ConfigurationFault} {noFile : String → ConfigurationFault}
      (asked : ∀ mode', s.AsksFor mode' ↔ mode' = mode) (told : mode.Tells noPlace noFile)
      (nowhere : ∀ path, ¬s.IsStore environment mode path) : Fails .trust noPlace
  | storeMissing {mode : TrustMode} {noPlace : ConfigurationFault}
      {noFile : String → ConfigurationFault} {path : String}
      (asked : ∀ mode', s.AsksFor mode' ↔ mode' = mode) (told : mode.Tells noPlace noFile)
      (store : s.IsStore environment mode path) (missing : files.isFile path = false) :
      Fails .trust (noFile path)
  | noArchive (byTool : s.strategy = .process) (nowhere : ∀ path, ¬s.IsArchive environment path) :
      Fails .tool .toolWithoutArchive
  | archiveMissing {path : String} (byTool : s.strategy = .process)
      (archive : s.IsArchive environment path) (missing : files.isFile path = false) :
      Fails .tool (.toolArchiveNotFound path)
  | deployTimeout (zero : s.deployTimeout = 0) : Fails .deployTimeout .deployTimeoutZero
  | requestTimeout (zero : s.requestTimeout = 0) : Fails .requestTimeout .requestTimeoutZero

/-- The first of the checks that fails, and the reason. -/
inductive FirstFault : List Check → ConfigurationFault → Prop
  | here {check : Check} {later : List Check} {fault : ConfigurationFault}
      (fails : s.Fails files environment check fault) : FirstFault (check :: later) fault
  | later {check : Check} {later : List Check} {fault : ConfigurationFault}
      (passed : ∀ fault, ¬s.Fails files environment check fault)
      (first : FirstFault later fault) : FirstFault (check :: later) fault

/-- Settings that pass every check. -/
structure IsValid : Prop where
  adminUrl_given : isAllBlank s.adminUrl = false
  userName_given : isAllBlank s.userName = false
  password_given : isAllBlank s.password = false
  target_given : isAllBlank s.target = false
  adminUrl : ∃ url, AdminUrl.parse s.adminUrl = .ok url
  managementUrl : ∀ text, s.managementUrl = some text → isAllBlank text = false →
    ∃ url, AdminUrl.parse text = .ok url
  oneMode : ∀ mode mode', s.AsksFor mode → s.AsksFor mode' → mode = mode'
  store : ∀ mode, s.AsksFor mode →
    ∃ path, s.IsStore environment mode path ∧ files.isFile path = true
  archive : s.strategy = .process →
    ∃ path, s.IsArchive environment path ∧ files.isFile path = true
  deployTimeout : 0 < s.deployTimeout
  requestTimeout : 0 < s.requestTimeout

/-- What a configuration takes from the settings that it is made of. -/
structure Becomes (c : Configuration) : Prop where
  admin : AdminUrl.parse s.adminUrl = .ok c.admin
  overridden : ∀ text, s.managementUrl = some text → isAllBlank text = false →
    AdminUrl.parse text = .ok c.management
  notOverridden : (∀ text, s.managementUrl = some text → isAllBlank text = true) →
    c.management = c.admin
  configured_iff : c.trust.mode ≠ .builtIn ↔ c.trust.location ≠ none
  asksFor_iff : ∀ mode, s.AsksFor mode ↔ mode = c.trust.mode ∧ mode ≠ .builtIn
  location : ∀ path, c.trust.location = some path →
    s.IsStore environment c.trust.mode path ∧ files.isFile path = true
  classPath : s.IsClassPath environment c.tool.classPath

end

end Settings

/-! ### Faults of addresses -/

theorem Protocol.exists_of_ofText_eq_error {text : String} {e : DeployError}
    (h : ofText text = .error e) : ∃ fault, e = .configuration fault := by
  unfold ofText at h
  dsimp only at h
  split at h
  · cases h
  · exact ⟨_, (Except.error.inj h).symm⟩

namespace AdminUrl

theorem parse_trim (text : String) : parse (trim text) = parse text := by
  rw [parse, parse, trim_trim]

/-- What is wrong with an address is told as a fault of the configuration. -/
theorem exists_of_parse_eq_error {text : String} {e : DeployError} (h : parse text = .error e) :
    ∃ fault, e = .configuration fault := by
  unfold parse at h
  dsimp only at h
  split at h
  next => exact ⟨_, (Except.error.inj h).symm⟩
  next =>
    split at h
    next url _ =>
      cases hprotocol : Protocol.ofText url.scheme with
      | error cause =>
          simp only [hprotocol, bind, Except.bind, pure, Except.pure] at h
          exact Except.error.inj h ▸ Protocol.exists_of_ofText_eq_error hprotocol
      | ok protocol =>
          simp only [hprotocol, bind, Except.bind, pure, Except.pure] at h
          split at h
          · exact ⟨_, (Except.error.inj h).symm⟩
          · cases h
    next => exact ⟨_, (Except.error.inj h).symm⟩

end AdminUrl

/-! ### Modes of trust -/

namespace Settings

variable {files : FileSystem} {environment : String → Option String} {s : Settings}

@[simp] theorem asksFor_demo : s.AsksFor .demo ↔ s.demoTrust = true :=
  ⟨fun | .demo flag => flag, .demo⟩

@[simp] theorem asksFor_custom : s.AsksFor .custom ↔ s.customTrust = true :=
  ⟨fun | .custom flag => flag, .custom⟩

@[simp] theorem asksFor_standard : s.AsksFor .standard ↔ s.standardTrust = true :=
  ⟨fun | .standard flag => flag, .standard⟩

/-- Settings ask for several modes of trust, for one, or for none. -/
theorem asks_cases (s : Settings) :
    (∃ mode mode', s.AsksFor mode ∧ s.AsksFor mode' ∧ mode ≠ mode') ∨
      (∃ mode, ∀ mode', s.AsksFor mode' ↔ mode' = mode) ∨ ∀ mode, ¬s.AsksFor mode := by
  by_cases several : ∃ mode mode', s.AsksFor mode ∧ s.AsksFor mode' ∧ mode ≠ mode'
  · exact .inl several
  by_cases asked : ∃ mode, s.AsksFor mode
  · obtain ⟨mode, asked⟩ := asked
    refine .inr (.inl ⟨mode, fun mode' => ⟨fun asked' => ?_, fun same => same ▸ asked⟩⟩)
    by_contra differ
    exact several ⟨mode', mode, asked', asked, differ⟩
  · exact .inr (.inr (not_exists.1 asked))

/-- What is wrong with the store of the one mode that is asked for. -/
theorem fails_trust_iff_of_one {mode : TrustMode} {noPlace fault : ConfigurationFault}
    {noFile : String → ConfigurationFault} (asked : ∀ mode', s.AsksFor mode' ↔ mode' = mode)
    (told : mode.Tells noPlace noFile) :
    s.Fails files environment .trust fault ↔
      ((∀ path, ¬s.IsStore environment mode path) ∧ fault = noPlace) ∨
        ∃ path, s.IsStore environment mode path ∧ files.isFile path = false ∧
          fault = noFile path := by
  constructor
  · intro fails
    cases fails with
    | severalModes one other differ =>
        exact absurd (((asked _).1 one).trans ((asked _).1 other).symm) differ
    | noStore one told' nowhere =>
        obtain rfl := (asked _).1 ((one _).2 rfl)
        exact .inl ⟨nowhere, (told'.unique told).1⟩
    | storeMissing one told' store missing =>
        obtain rfl := (asked _).1 ((one _).2 rfl)
        exact .inr ⟨_, store, missing, congrFun (told'.unique told).2 _⟩
  · rintro (⟨nowhere, rfl⟩ | ⟨path, store, missing, rfl⟩)
    · exact .noStore asked told nowhere
    · exact .storeMissing asked told store missing

theorem AsksFor.ne_builtIn {mode : TrustMode} (asked : s.AsksFor mode) : mode ≠ .builtIn := by
  rintro rfl
  cases asked

theorem AsksFor.exists_tells {mode : TrustMode} (asked : s.AsksFor mode) :
    ∃ noPlace noFile, mode.Tells noPlace noFile := by
  cases asked with
  | demo => exact ⟨_, _, .demo⟩
  | custom => exact ⟨_, _, .custom⟩
  | standard => exact ⟨_, _, .standard⟩

end Settings

namespace Configuration

variable {files : FileSystem} {environment : String → Option String} {s : Settings}

/-! ### Where things are found -/

theorem homeOf_eq_some_iff {setting : Option String} {name path : String} :
    homeOf environment setting name = some path ↔ Locates environment setting name path := by
  simp only [homeOf, nonBlank_orElse_eq_some_iff, Option.filter_eq_some_iff, bne_iff_ne]
  constructor
  · rintro (given | ⟨leftOut, found, nonempty⟩)
    · exact .given given
    · exact .inherited leftOut found nonempty
  · rintro (given | ⟨leftOut, found, nonempty⟩)
    · exact .inl given
    · exact .inr ⟨leftOut, found, nonempty⟩

/-- Where a mode of trust has its store, if that can be told. -/
def store? (environment : String → Option String) (s : Settings) : TrustMode → Option String
  | .builtIn => none
  | .demo => (home environment s).map (FileSystem.join · demoTrustPath)
  | .custom => nonBlank s.trustLocation
  | .standard => (javaHome environment s).map (FileSystem.join · standardTrustPath)

theorem store?_eq_some_iff {mode : TrustMode} {path : String} :
    store? environment s mode = some path ↔ s.IsStore environment mode path := by
  constructor
  · intro h
    cases mode with
    | builtIn => cases h
    | demo =>
        obtain ⟨home, located, rfl⟩ := Option.map_eq_some_iff.1 h
        exact .demo (homeOf_eq_some_iff.1 located)
    | custom => exact .custom (nonBlank_eq_some_iff.1 h)
    | standard =>
        obtain ⟨home, located, rfl⟩ := Option.map_eq_some_iff.1 h
        exact .standard (homeOf_eq_some_iff.1 located)
  · intro h
    cases h with
    | demo located => exact Option.map_eq_some_iff.2 ⟨_, homeOf_eq_some_iff.2 located, rfl⟩
    | custom given => exact nonBlank_eq_some_iff.2 given
    | standard located => exact Option.map_eq_some_iff.2 ⟨_, homeOf_eq_some_iff.2 located, rfl⟩

theorem store?_eq_none_iff {mode : TrustMode} :
    store? environment s mode = none ↔ ∀ path, ¬s.IsStore environment mode path := by
  simp only [← store?_eq_some_iff, Option.eq_none_iff_forall_ne_some, ne_eq]

theorem isStore_unique {mode : TrustMode} {path path' : String}
    (store : s.IsStore environment mode path) (store' : s.IsStore environment mode path') :
    path = path' :=
  Option.some.inj ((store?_eq_some_iff.2 store).symm.trans (store?_eq_some_iff.2 store'))

theorem archive?_eq_some_iff {path : String} :
    archive? environment s = some path ↔ s.IsArchive environment path := by
  simp only [archive?, nonBlank_orElse_eq_some_iff, Option.map_eq_some_iff]
  constructor
  · rintro (given | ⟨leftOut, home, located, rfl⟩)
    · exact .given given
    · exact .home leftOut (homeOf_eq_some_iff.1 located)
  · rintro (given | ⟨leftOut, located⟩)
    · exact .inl given
    · exact .inr ⟨leftOut, _, homeOf_eq_some_iff.2 located, rfl⟩

theorem archive?_eq_none_iff :
    archive? environment s = none ↔ ∀ path, ¬s.IsArchive environment path := by
  simp only [← archive?_eq_some_iff, Option.eq_none_iff_forall_ne_some, ne_eq]

theorem isArchive_unique {path path' : String} (archive : s.IsArchive environment path)
    (archive' : s.IsArchive environment path') : path = path' :=
  Option.some.inj ((archive?_eq_some_iff.2 archive).symm.trans (archive?_eq_some_iff.2 archive'))

/-! ### The steps of the validation -/

variable {e : DeployError}

theorem require_eq_error_iff {value : String} {fault : ConfigurationFault} :
    require value fault = .error e ↔ isAllBlank value = true ∧ e = .configuration fault := by
  unfold require
  split
  next blank => simp [blank, @eq_comm _ e]
  next visible => simp [visible]

theorem requirePositive_eq_error_iff {n : Nat} {fault : ConfigurationFault} :
    requirePositive n fault = .error e ↔ n = 0 ∧ e = .configuration fault := by
  unfold requirePositive
  split
  next zero => simp [beq_iff_eq.1 zero, @eq_comm _ e]
  next positive => simp [beq_eq_false_iff_ne.1 (Bool.eq_false_of_not_eq_true positive)]

/-- The file at a place that must be known and must hold one. -/
def existing (files : FileSystem) (place : Option String) (noPlace : ConfigurationFault)
    (noFile : String → ConfigurationFault) : Except DeployError String :=
  need place noPlace >>= fun path => needFile files path noFile

variable {place : Option String} {noPlace : ConfigurationFault}
  {noFile : String → ConfigurationFault}

theorem existing_eq_ok_iff {path : String} :
    existing files place noPlace noFile = .ok path ↔
      place = some path ∧ files.isFile path = true := by
  unfold existing need needFile
  cases place with
  | none => simp [bind, Except.bind]
  | some stated =>
      simp only [bind, Except.bind, Option.some.injEq]
      split
      next there =>
        constructor
        · intro h
          obtain rfl := Except.ok.inj h
          exact ⟨rfl, there⟩
        · rintro ⟨rfl, -⟩
          rfl
      next missing =>
        constructor
        · intro h
          cases h
        · rintro ⟨rfl, there⟩
          exact absurd there missing

theorem existing_eq_error_iff :
    existing files place noPlace noFile = .error e ↔
      (place = none ∧ e = .configuration noPlace) ∨
        ∃ path, place = some path ∧ files.isFile path = false ∧
          e = .configuration (noFile path) := by
  unfold existing need needFile
  cases place with
  | none => simp [bind, Except.bind, @eq_comm _ e]
  | some stated =>
      cases hfile : files.isFile stated <;> simp [bind, Except.bind, hfile, @eq_comm _ e]

theorem one_lt_trustModeCount {mode mode' : TrustMode} (asked : s.AsksFor mode)
    (asked' : s.AsksFor mode') (differ : mode ≠ mode') : 1 < trustModeCount s := by
  unfold trustModeCount
  cases asked <;> cases asked' <;> simp_all <;> cases s.demoTrust <;> decide

theorem trustStoreOf_of_several {mode mode' : TrustMode} (asked : s.AsksFor mode)
    (asked' : s.AsksFor mode') (differ : mode ≠ mode') :
    trustStoreOf files environment s = .error (.configuration .severalTrustModes) := by
  unfold trustStoreOf
  rw [if_pos (one_lt_trustModeCount asked asked' differ)]
  rfl

theorem trustStoreOf_of_one {mode : TrustMode} (asked : ∀ mode', s.AsksFor mode' ↔ mode' = mode)
    (told : mode.Tells noPlace noFile) :
    trustStoreOf files environment s =
      existing files (store? environment s mode) noPlace noFile >>= fun path =>
        .ok (mode, some path) := by
  -- each flag is told by the mode, since only that of the mode is set
  have hdemo : s.demoTrust = decide (TrustMode.demo = mode) := by
    rw [Bool.eq_iff_iff, decide_eq_true_iff, ← asked, Settings.asksFor_demo]
  have hcustom : s.customTrust = decide (TrustMode.custom = mode) := by
    rw [Bool.eq_iff_iff, decide_eq_true_iff, ← asked, Settings.asksFor_custom]
  have hstandard : s.standardTrust = decide (TrustMode.standard = mode) := by
    rw [Bool.eq_iff_iff, decide_eq_true_iff, ← asked, Settings.asksFor_standard]
  unfold trustStoreOf trustModeCount existing store?
  rw [hdemo, hcustom, hstandard]
  cases told with
  | demo => cases home environment s <;> rfl
  | custom => cases nonBlank s.trustLocation <;> rfl
  | standard => cases javaHome environment s <;> rfl

theorem trustStoreOf_of_none (notAsked : ∀ mode, ¬s.AsksFor mode) :
    trustStoreOf files environment s = .ok (.builtIn, none) := by
  have hdemo : s.demoTrust = false := by simpa using notAsked .demo
  have hcustom : s.customTrust = false := by simpa using notAsked .custom
  have hstandard : s.standardTrust = false := by simpa using notAsked .standard
  unfold trustStoreOf trustModeCount
  rw [hdemo, hcustom, hstandard]
  rfl

/-! ### The first fault -/

section

variable (files environment s) {α : Type}

/-- A step fails when a check does, and for the same reason. -/
def Makes (step : Except DeployError α) (check : Check) : Prop :=
  ∀ e, step = .error e ↔ ∃ fault, e = .configuration fault ∧ s.Fails files environment check fault

/-- Steps fail with the first fault of some checks. -/
def MakesInOrder (steps : Except DeployError α) (checks : List Check) : Prop :=
  ∀ e, steps = .error e ↔
    ∃ fault, e = .configuration fault ∧ s.FirstFault files environment checks fault

end

section

variable {α β : Type} {a : α} {step : Except DeployError α} {check : Check}
  {steps : α → Except DeployError β} {checks : List Check}

theorem makesInOrder_ok : MakesInOrder files environment s (.ok a) [] := by
  intro e
  constructor
  · intro h
    cases h
  · rintro ⟨fault, -, first⟩
    cases first

theorem Makes.bind (first : Makes files environment s step check)
    (later : ∀ a, step = .ok a → MakesInOrder files environment s (steps a) checks) :
    MakesInOrder files environment s (step >>= steps) (check :: checks) := by
  intro e
  cases hstep : step with
  | error cause =>
      -- the step has failed, so nothing behind it runs, and its check is the first to fail
      obtain ⟨fault, rfl, fails⟩ := (first cause).1 hstep
      constructor
      · intro h
        exact ⟨fault, (Except.error.inj h).symm, .here fails⟩
      · rintro ⟨fault', rfl, first'⟩
        cases first' with
        | here fails' =>
            rw [← Except.error.inj (hstep.symm.trans ((first _).2 ⟨fault', rfl, fails'⟩))]
            rfl
        | later passed => exact absurd fails (passed fault)
  | ok a =>
      have passed (fault : ConfigurationFault) : ¬s.Fails files environment check fault := by
        intro fails
        cases hstep.symm.trans ((first _).2 ⟨fault, rfl, fails⟩)
      refine (later a hstep e).trans ⟨?_, ?_⟩
      · rintro ⟨fault, rfl, first'⟩
        exact ⟨fault, rfl, .later passed first'⟩
      · rintro ⟨fault, rfl, first'⟩
        cases first' with
        | here fails => exact absurd fails (passed fault)
        | later _ first' => exact ⟨fault, rfl, first'⟩

end

variable {check : Check} {fault : ConfigurationFault}

/-- A step that fails under one condition, for one reason. -/
theorem makes_of_iff {α : Type} {step : Except DeployError α} {condition : Prop}
    (step_iff : ∀ e, step = .error e ↔ condition ∧ e = .configuration fault)
    (fails : condition → s.Fails files environment check fault)
    (only : ∀ fault', s.Fails files environment check fault' → condition ∧ fault' = fault) :
    Makes files environment s step check := by
  intro e
  rw [step_iff]
  constructor
  · rintro ⟨met, rfl⟩
    exact ⟨fault, rfl, fails met⟩
  · rintro ⟨fault', rfl, fails'⟩
    obtain ⟨met, rfl⟩ := only fault' fails'
    exact ⟨met, rfl⟩

theorem makes_require {value : String}
    (fails : isAllBlank value = true → s.Fails files environment check fault)
    (only : ∀ fault', s.Fails files environment check fault' →
      isAllBlank value = true ∧ fault' = fault) :
    Makes files environment s (require value fault) check :=
  makes_of_iff (fun _ => require_eq_error_iff) fails only

theorem makes_requirePositive {n : Nat}
    (fails : n = 0 → s.Fails files environment check fault)
    (only : ∀ fault', s.Fails files environment check fault' → n = 0 ∧ fault' = fault) :
    Makes files environment s (requirePositive n fault) check :=
  makes_of_iff (fun _ => requirePositive_eq_error_iff) fails only

theorem makes_adminUrl : Makes files environment s (AdminUrl.parse s.adminUrl) .adminUrl := by
  intro e
  constructor
  · intro h
    obtain ⟨fault, rfl⟩ := AdminUrl.exists_of_parse_eq_error h
    exact ⟨fault, rfl, .adminUrl h⟩
  · rintro ⟨fault, rfl, fails⟩
    cases fails with
    | adminUrl unreadable => exact unreadable

theorem managementOf_of_given {admin : AdminUrl} {text : String}
    (given : s.managementUrl = some text) (visible : isAllBlank text = false) :
    managementOf s admin = AdminUrl.parse text := by
  rw [managementOf, nonBlank_eq_some_iff.2 ⟨text, given, visible, rfl⟩]
  exact AdminUrl.parse_trim text

theorem managementOf_of_leftOut {admin : AdminUrl}
    (leftOut : ∀ text, s.managementUrl = some text → isAllBlank text = true) :
    managementOf s admin = .ok admin := by
  have blank : nonBlank s.managementUrl = none := by
    rw [nonBlank_eq_none_iff]
    rintro text ⟨raw, given, visible, -⟩
    rw [leftOut raw given] at visible
    cases visible
  rw [managementOf, blank]

theorem makes_managementUrl {admin : AdminUrl} :
    Makes files environment s (managementOf s admin) .managementUrl := by
  intro e
  by_cases leftOut : ∀ text, s.managementUrl = some text → isAllBlank text = true
  · rw [managementOf_of_leftOut leftOut]
    constructor
    · intro h
      cases h
    · rintro ⟨fault, rfl, fails⟩
      cases fails with
      | managementUrl given visible => rw [leftOut _ given] at visible; cases visible
  · push Not at leftOut
    obtain ⟨text, given, visible⟩ := leftOut
    rw [ne_eq, Bool.not_eq_true] at visible
    rw [managementOf_of_given given visible]
    constructor
    · intro h
      obtain ⟨fault, rfl⟩ := AdminUrl.exists_of_parse_eq_error h
      exact ⟨fault, rfl, .managementUrl given visible h⟩
    · rintro ⟨fault, rfl, fails⟩
      cases fails with
      | managementUrl given' _ unreadable =>
          obtain rfl := Option.some.inj (given.symm.trans given')
          exact unreadable

theorem trustOf_eq_error_iff : trustOf files environment s = .error e ↔
    trustStoreOf files environment s = .error e := by
  simp [trustOf, bind_eq_error, pure, Except.pure]

theorem makes_trust : Makes files environment s (trustOf files environment s) .trust := by
  intro e
  rw [trustOf_eq_error_iff]
  rcases s.asks_cases with ⟨mode, mode', asked, asked', differ⟩ | ⟨mode, asked⟩ | notAsked
  · rw [trustStoreOf_of_several asked asked' differ]
    constructor
    · intro h
      exact ⟨_, (Except.error.inj h).symm, .severalModes asked asked' differ⟩
    · rintro ⟨fault, rfl, fails⟩
      cases fails with
      | severalModes => rfl
      | noStore one => exact absurd (((one _).1 asked).trans ((one _).1 asked').symm) differ
      | storeMissing one => exact absurd (((one _).1 asked).trans ((one _).1 asked').symm) differ
  · obtain ⟨noPlace, noFile, told⟩ := ((asked mode).2 rfl).exists_tells
    rw [trustStoreOf_of_one asked told]
    simp only [bind_eq_error, existing_eq_error_iff, store?_eq_none_iff, store?_eq_some_iff,
      reduceCtorEq, and_false, exists_false, or_false, Settings.fails_trust_iff_of_one asked told]
    constructor
    · rintro (⟨nowhere, rfl⟩ | ⟨path, store, missing, rfl⟩)
      · exact ⟨_, rfl, .inl ⟨nowhere, rfl⟩⟩
      · exact ⟨_, rfl, .inr ⟨path, store, missing, rfl⟩⟩
    · rintro ⟨fault, rfl, ⟨nowhere, rfl⟩ | ⟨path, store, missing, rfl⟩⟩
      · exact .inl ⟨nowhere, rfl⟩
      · exact .inr ⟨path, store, missing, rfl⟩
  · rw [trustStoreOf_of_none notAsked]
    constructor
    · intro h
      cases h
    · rintro ⟨fault, rfl, fails⟩
      cases fails with
      | severalModes asked => exact absurd asked (notAsked _)
      | noStore one => exact absurd ((one _).2 rfl) (notAsked _)
      | storeMissing one => exact absurd ((one _).2 rfl) (notAsked _)

theorem toolOf_eq_error_iff : toolOf files environment s = .error e ↔
    s.strategy = .process ∧
      existing files (archive? environment s) .toolWithoutArchive .toolArchiveNotFound =
        .error e := by
  unfold toolOf existing
  cases s.strategy with
  | process => simp [bind_eq_error, pure, Except.pure]
  | rest => simp [pure, Except.pure]

theorem makes_tool : Makes files environment s (toolOf files environment s) .tool := by
  intro e
  rw [toolOf_eq_error_iff, existing_eq_error_iff, archive?_eq_none_iff]
  simp only [archive?_eq_some_iff]
  constructor
  · rintro ⟨byTool, ⟨nowhere, rfl⟩ | ⟨path, archive, missing, rfl⟩⟩
    · exact ⟨_, rfl, .noArchive byTool nowhere⟩
    · exact ⟨_, rfl, .archiveMissing byTool archive missing⟩
  · rintro ⟨fault, rfl, fails⟩
    cases fails with
    | noArchive byTool nowhere => exact ⟨byTool, .inl ⟨nowhere, rfl⟩⟩
    | archiveMissing byTool archive missing => exact ⟨byTool, .inr ⟨_, archive, missing, rfl⟩⟩

theorem makesInOrder_ofSettings :
    MakesInOrder files environment s (ofSettings files environment s) Check.order :=
  (makes_require .adminUrlGiven fun _ (.adminUrlGiven blank) => ⟨blank, rfl⟩).bind fun _ _ =>
  (makes_require .userNameGiven fun _ (.userNameGiven blank) => ⟨blank, rfl⟩).bind fun _ _ =>
  (makes_require .passwordGiven fun _ (.passwordGiven blank) => ⟨blank, rfl⟩).bind fun _ _ =>
  (makes_require .targetGiven fun _ (.targetGiven blank) => ⟨blank, rfl⟩).bind fun _ _ =>
  makes_adminUrl.bind fun _ _ =>
  makes_managementUrl.bind fun _ _ =>
  makes_trust.bind fun _ _ =>
  makes_tool.bind fun _ _ =>
  (makes_requirePositive .deployTimeout fun _ (.deployTimeout zero) => ⟨zero, rfl⟩).bind fun _ _ =>
  (makes_requirePositive .requestTimeout fun _ (.requestTimeout zero) => ⟨zero, rfl⟩).bind
    fun _ _ => makesInOrder_ok

/-! ### What is accepted -/

theorem trustStoreOf_eq_ok {mode : TrustMode} {location : Option String}
    (h : trustStoreOf files environment s = .ok (mode, location)) :
    ((∀ mode', ¬s.AsksFor mode') ∧ mode = .builtIn ∧ location = none) ∨
      (∀ mode', s.AsksFor mode' ↔ mode' = mode) ∧ ∃ path, location = some path ∧
        s.IsStore environment mode path ∧ files.isFile path = true := by
  rcases s.asks_cases with ⟨one, other, asked, asked', differ⟩ | ⟨one, asked⟩ | notAsked
  · rw [trustStoreOf_of_several asked asked' differ] at h
    cases h
  · obtain ⟨noPlace, noFile, told⟩ := ((asked one).2 rfl).exists_tells
    rw [trustStoreOf_of_one asked told] at h
    obtain ⟨path, found, h⟩ := bind_eq_ok.1 h
    obtain ⟨rfl, rfl⟩ := Prod.mk.inj (Except.ok.inj h)
    obtain ⟨store, there⟩ := existing_eq_ok_iff.1 found
    exact .inr ⟨asked, path, rfl, store?_eq_some_iff.1 store, there⟩
  · rw [trustStoreOf_of_none notAsked] at h
    obtain ⟨rfl, rfl⟩ := Prod.mk.inj (Except.ok.inj h)
    exact .inl ⟨notAsked, rfl, rfl⟩

theorem trustOf_eq_ok {trust : TrustContext} (h : trustOf files environment s = .ok trust) :
    trustStoreOf files environment s = .ok (trust.mode, trust.location) ∧
      trust.password = nonBlank s.trustPassword := by
  obtain ⟨⟨mode, location⟩, store, h⟩ := bind_eq_ok.1 h
  obtain rfl := Except.ok.inj h
  exact ⟨store, rfl⟩

theorem isClassPath_classPathOf : s.IsClassPath environment
    (classPathOf ((archive? environment s).toList ++ (nonBlank s.classPath).toList)) := by
  cases harchive : archive? environment s with
  | none =>
      have noArchive := archive?_eq_none_iff.1 harchive
      cases hentries : nonBlank s.classPath with
      | none => exact .empty noArchive (nonBlank_eq_none_iff.1 hentries)
      | some entries => exact .entries noArchive (nonBlank_eq_some_iff.1 hentries)
  | some path =>
      have archive := archive?_eq_some_iff.1 harchive
      cases hentries : nonBlank s.classPath with
      | none => exact .archive archive (nonBlank_eq_none_iff.1 hentries)
      | some entries => exact .both archive (nonBlank_eq_some_iff.1 hentries)

theorem toolOf_eq_ok {tool : ToolOptions} (h : toolOf files environment s = .ok tool) :
    tool.classPath =
      classPathOf ((archive? environment s).toList ++ (nonBlank s.classPath).toList) := by
  unfold toolOf at h
  dsimp only at h
  split at h
  · obtain ⟨_, -, h⟩ := bind_eq_ok.1 h
    obtain ⟨_, -, h⟩ := bind_eq_ok.1 h
    obtain rfl := Except.ok.inj h
    rfl
  · obtain rfl := Except.ok.inj h
    rfl

/-- What accepted settings have become, step by step. -/
theorem ofSettings_eq_ok {c : Configuration} (h : ofSettings files environment s = .ok c) :
    AdminUrl.parse s.adminUrl = .ok c.admin ∧ managementOf s c.admin = .ok c.management ∧
      trustOf files environment s = .ok c.trust ∧ toolOf files environment s = .ok c.tool ∧
      c.password = s.password := by
  unfold ofSettings at h
  simp only [bind_eq_ok] at h
  obtain ⟨_, -, _, -, _, -, _, -, admin, hadmin, management, hmanagement, trust, htrust, tool,
    htool, _, -, _, -, h⟩ := h
  obtain rfl := Except.ok.inj h
  exact ⟨hadmin, hmanagement, htrust, htool, rfl⟩

theorem becomes_of_ofSettings {c : Configuration} (h : ofSettings files environment s = .ok c) :
    s.Becomes files environment c := by
  obtain ⟨hadmin, hmanagement, htrust, htool, -⟩ := ofSettings_eq_ok h
  refine {
    admin := hadmin
    overridden := fun text given visible => ?overridden
    notOverridden := fun leftOut => ?notOverridden
    configured_iff := ?configured
    asksFor_iff := ?asksFor
    location := ?location
    classPath := toolOf_eq_ok htool ▸ isClassPath_classPathOf }
  case overridden => rwa [managementOf_of_given given visible] at hmanagement
  case notOverridden =>
    rw [managementOf_of_leftOut leftOut] at hmanagement
    exact (Except.ok.inj hmanagement).symm
  all_goals
    obtain ⟨notAsked, mode, location⟩ | ⟨asked, path, location, store, there⟩ :=
      trustStoreOf_eq_ok (trustOf_eq_ok htrust).1
  case configured.inl => simp [mode, location]
  case configured.inr => simp [((asked _).2 rfl).ne_builtIn, location]
  case asksFor.inl => exact fun mode' => ⟨fun h => absurd h (notAsked mode'), by simp [mode]⟩
  case asksFor.inr =>
    exact fun mode' => ⟨fun h => ⟨(asked mode').1 h, h.ne_builtIn⟩, fun h => (asked mode').2 h.1⟩
  case location.inl => simp [location]
  case location.inr =>
    intro path' location'
    obtain rfl := Option.some.inj (location.symm.trans location')
    exact ⟨store, there⟩

theorem not_fails_of_isValid (valid : s.IsValid files environment) :
    ¬s.Fails files environment check fault := by
  intro fails
  cases fails with
  | adminUrlGiven blank => simp [valid.adminUrl_given] at blank
  | userNameGiven blank => simp [valid.userName_given] at blank
  | passwordGiven blank => simp [valid.password_given] at blank
  | targetGiven blank => simp [valid.target_given] at blank
  | adminUrl unreadable =>
      obtain ⟨url, readable⟩ := valid.adminUrl
      cases readable.symm.trans unreadable
  | managementUrl given visible unreadable =>
      obtain ⟨url, readable⟩ := valid.managementUrl _ given visible
      cases readable.symm.trans unreadable
  | severalModes asked asked' differ => exact differ (valid.oneMode _ _ asked asked')
  | noStore asked _ nowhere =>
      obtain ⟨path, store, -⟩ := valid.store _ ((asked _).2 rfl)
      exact nowhere path store
  | storeMissing asked _ store missing =>
      obtain ⟨path, store', there⟩ := valid.store _ ((asked _).2 rfl)
      obtain rfl := isStore_unique store store'
      cases missing.symm.trans there
  | noArchive byTool nowhere =>
      obtain ⟨path, archive, -⟩ := valid.archive byTool
      exact nowhere path archive
  | archiveMissing byTool archive missing =>
      obtain ⟨path, archive', there⟩ := valid.archive byTool
      obtain rfl := isArchive_unique archive archive'
      cases missing.symm.trans there
  | deployTimeout zero => exact absurd zero valid.deployTimeout.ne'
  | requestTimeout zero => exact absurd zero valid.requestTimeout.ne'

theorem isValid_of_not_fails (passed : ∀ check fault, ¬s.Fails files environment check fault) :
    s.IsValid files environment := by
  have readable {text : String} (h : ∀ fault, AdminUrl.parse text ≠ .error (.configuration fault)) :
      ∃ url, AdminUrl.parse text = .ok url := by
    cases htext : AdminUrl.parse text with
    | error e =>
        obtain ⟨fault, rfl⟩ := AdminUrl.exists_of_parse_eq_error htext
        exact absurd htext (h fault)
    | ok url => exact ⟨url, rfl⟩
  have found {P : String → Prop} (somewhere : ¬∀ path, ¬P path)
      (there : ∀ path, P path → files.isFile path ≠ false) :
      ∃ path, P path ∧ files.isFile path = true := by
    obtain ⟨path, h⟩ := not_forall_not.1 somewhere
    exact ⟨path, h, Bool.eq_true_of_not_eq_false (there path h)⟩
  have oneMode (mode mode' : TrustMode) (asked : s.AsksFor mode) (asked' : s.AsksFor mode') :
      mode = mode' := by
    by_contra differ
    exact passed _ _ (.severalModes asked asked' differ)
  refine {
    adminUrl_given := Bool.eq_false_of_not_eq_true fun blank => passed _ _ (.adminUrlGiven blank)
    userName_given := Bool.eq_false_of_not_eq_true fun blank => passed _ _ (.userNameGiven blank)
    password_given := Bool.eq_false_of_not_eq_true fun blank => passed _ _ (.passwordGiven blank)
    target_given := Bool.eq_false_of_not_eq_true fun blank => passed _ _ (.targetGiven blank)
    adminUrl := readable fun fault unreadable => passed _ _ (.adminUrl unreadable)
    managementUrl := fun text given visible =>
      readable fun fault unreadable => passed _ _ (.managementUrl given visible unreadable)
    oneMode
    store := fun mode asked => ?store
    archive := fun byTool => found (fun nowhere => passed _ _ (.noArchive byTool nowhere))
      fun path archive missing => passed _ _ (.archiveMissing byTool archive missing)
    deployTimeout := Nat.pos_of_ne_zero fun zero => passed _ _ (.deployTimeout zero)
    requestTimeout := Nat.pos_of_ne_zero fun zero => passed _ _ (.requestTimeout zero) }
  have asked_iff (mode' : TrustMode) : s.AsksFor mode' ↔ mode' = mode :=
    ⟨fun asked' => oneMode _ _ asked' asked, fun same => same ▸ asked⟩
  obtain ⟨noPlace, noFile, told⟩ := asked.exists_tells
  exact found (fun nowhere => passed _ _ (.noStore asked_iff told nowhere))
    fun path store missing => passed _ _ (.storeMissing asked_iff told store missing)

theorem exists_firstFault_iff {checks : List Check} :
    (∃ fault, s.FirstFault files environment checks fault) ↔
      ∃ check ∈ checks, ∃ fault, s.Fails files environment check fault := by
  induction checks with
  | nil =>
      constructor
      · rintro ⟨fault, first⟩
        cases first
      · rintro ⟨check, hcheck, -⟩
        cases hcheck
  | cons check checks ih =>
      rw [List.exists_mem_cons_iff, ← ih]
      constructor
      · rintro ⟨fault, first⟩
        cases first with
        | here fails => exact .inl ⟨fault, fails⟩
        | later _ first => exact .inr ⟨fault, first⟩
      · intro h
        by_cases failed : ∃ fault, s.Fails files environment check fault
        · obtain ⟨fault, fails⟩ := failed
          exact ⟨fault, .here fails⟩
        · obtain ⟨fault, first⟩ := h.resolve_left failed
          exact ⟨fault, .later (not_exists.1 failed) first⟩

theorem exists_ofSettings_eq_ok_iff :
    (∃ c, ofSettings files environment s = .ok c) ↔ s.IsValid files environment := by
  constructor
  · rintro ⟨c, accepted⟩
    refine isValid_of_not_fails fun check fault fails => ?_
    obtain ⟨fault, first⟩ :=
      exists_firstFault_iff.2 ⟨check, check.mem_order, fault, fails⟩
    cases accepted.symm.trans ((makesInOrder_ofSettings _).2 ⟨fault, rfl, first⟩)
  · intro valid
    cases h : ofSettings files environment s with
    | error e =>
        obtain ⟨fault, -, first⟩ := (makesInOrder_ofSettings e).1 h
        obtain ⟨check, -, fault, fails⟩ := exists_firstFault_iff.1 ⟨fault, first⟩
        exact absurd fails (not_fails_of_isValid valid)
    | ok c => exact ⟨c, rfl⟩

/-- Settings become a configuration exactly when they are valid, and otherwise the first check that
fails is the fault that is told. -/
theorem ofSettings_checksInOrder (files : FileSystem) (environment : String → Option String)
    (s : Settings) :
    ((∃ c, ofSettings files environment s = .ok c) ↔ s.IsValid files environment) ∧
      (∀ e, ofSettings files environment s = .error e ↔
        ∃ fault, e = .configuration fault ∧ s.FirstFault files environment Check.order fault) ∧
      ∀ c, ofSettings files environment s = .ok c → s.Becomes files environment c :=
  ⟨exists_ofSettings_eq_ok_iff, makesInOrder_ofSettings, fun _ => becomes_of_ofSettings⟩

/-- Files with a demonstration store below `/wls` and nothing else. -/
def storeFiles : FileSystem :=
  ⟨fun path =>
    if path == "/wls/server/lib/DemoTrust.jks" then .ok (.file []) else .error .notFound⟩

/-- An environment that tells where the server software is installed. -/
def homeVariable (name : String) : Option String := if name == "WL_HOME" then some "/wls" else none

/-- Settings that ask for the demonstration store. -/
def demoSettings : Settings where
  adminUrl := "t3://admin:7001"
  userName := "weblogic"
  password := "welcome1"
  target := "AdminServer"
  strategy := .rest
  demoTrust := true

/-- Settings that find their store below a home that they inherit, and the same settings with two
faults, of which the first is told. -/
theorem ofSettings_checksInOrder_demo :
    (∃ c, ofSettings storeFiles homeVariable demoSettings = .ok c ∧
      demoSettings.Becomes storeFiles homeVariable c) ∧
    Settings.FirstFault storeFiles homeVariable
      { demoSettings with target := " ", requestTimeout := 0 } Check.order .targetMissing := by
  constructor
  · have accepted : (ofSettings storeFiles homeVariable demoSettings).toOption.isSome = true := by
      decide +kernel
    cases h : ofSettings storeFiles homeVariable demoSettings with
    | error e => rw [h] at accepted; cases accepted
    | ok c => exact ⟨c, rfl, (ofSettings_checksInOrder _ _ _).2.2 c h⟩
  · have refused : ofSettings storeFiles homeVariable
        { demoSettings with target := " ", requestTimeout := 0 } =
          .error (.configuration .targetMissing) := rfl
    obtain ⟨fault, told, first⟩ := ((ofSettings_checksInOrder _ _ _).2.1 _).1 refused
    exact DeployError.configuration.inj told ▸ first

end Configuration

end DomainDeploy
