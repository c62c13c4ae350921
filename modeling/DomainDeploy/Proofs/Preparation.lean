import Mathlib.Data.List.TakeWhile
import DomainDeploy.CommandLine
import DomainDeploy.Proofs.Dialogue
import DomainDeploy.Proofs.Encoding

/-!
# What is settled before anything is asked

The program reads its settings, sets its log up, checks the settings, and picks a command before it
asks its surroundings anything; a deploy then makes sure that its artifact is there and has a name.
When one of these steps is refused nothing is sent, no tool runs and nothing sleeps (`Rejected`).
Otherwise all that is asked is what the command asks, and the program succeeds when the command
does. An argument that asks for the version goes before all of this, wherever it stands
(`program_preparesFirst`).

The checks see the files as the log leaves them (`Prepared`), and that can make a difference: a log
may make the very directory that is to be deployed, and where its file cannot be opened no check is
made at all (`log_precedes_checks`).
-/

namespace DomainDeploy

open Program

namespace Program

variable {S : Signature} {ν μ σ α : Type} (w : Responder S σ) (s : σ)

/-! ### What is noted makes no difference to a run -/

theorem value_run_noteAll (lines : List ν) (p : Program S ν α) :
    ((noteAll lines p).run w s).value = (p.run w s).value := by
  induction lines with
  | nil => rfl
  | cons l lines ih => exact ih

theorem dialogue_run_noteAll (lines : List ν) (p : Program S ν α) :
    ((noteAll lines p).run w s).dialogue = (p.run w s).dialogue := by
  induction lines with
  | nil => rfl
  | cons l lines ih => exact ih

theorem value_run_renote (f : ν → List μ) (p : Program S ν α) :
    ((p.renote f).run w s).value = (p.run w s).value := by
  induction p generalizing s with
  | done a => rfl
  | note l p ih => exact (value_run_noteAll w s _ _).trans (ih s)
  | ask q k ih => exact ih _ _

theorem state_run_noteAll (lines : List ν) (p : Program S ν α) :
    ((noteAll lines p).run w s).state = (p.run w s).state := by
  induction lines with
  | nil => rfl
  | cons l lines ih => exact ih

theorem state_run_renote (f : ν → List μ) (p : Program S ν α) :
    ((p.renote f).run w s).state = (p.run w s).state := by
  induction p generalizing s with
  | done a => rfl
  | note l p ih => exact (state_run_noteAll w s _ _).trans (ih s)
  | ask q k ih => exact ih _ _

theorem dialogue_run_renote (f : ν → List μ) (p : Program S ν α) :
    ((p.renote f).run w s).dialogue = (p.run w s).dialogue := by
  induction p generalizing s with
  | done a => rfl
  | note l p ih => exact (dialogue_run_noteAll w s _ _).trans (ih s)
  | ask q k ih => exact congrArg (_ :: ·) (ih _ _)

end Program

/-- A file with an encoded text is read as the text. -/
theorem FileSystem.textAt_of_bytesAt {files : FileSystem} {path text : String}
    (h : files.bytesAt path = .ok (Text.Utf8.encode text)) : files.textAt path = .ok text := by
  have hdecoded : Text.Utf8.decode (Text.Utf8.encode text) = .ok text :=
    eq_ok_of_toOption (Text.Utf8.decode?_encode text)
  rw [textAt, bind_eq_ok]
  exact ⟨_, h, by rw [hdecoded]; rfl⟩

namespace CommandLine

/-! ### The version argument -/

/-- An argument that asks for the version: the word with a value, behind any number of dashes, or
the bare word behind at least two. -/
def IsVersionArgument (argument : String) : Prop :=
  ∃ dashes rest, argument.toList = List.replicate dashes '-' ++ ("version".toList ++ rest) ∧
    (rest.head? = some '=' ∨ rest = [] ∧ 2 ≤ dashes)

theorem dropWhile_beq_eq_iff {c : Char} {text rest : List Char} (h : rest.head? ≠ some c) :
    text.dropWhile (· == c) = rest ↔ ∃ n, text = List.replicate n c ++ rest := by
  constructor
  · rintro rfl
    induction text with
    | nil => exact ⟨0, rfl⟩
    | cons a text ih =>
        by_cases hac : a = c
        · subst hac
          rw [List.dropWhile_cons_of_pos (by simp)] at h ⊢
          obtain ⟨n, hn⟩ := ih h
          exact ⟨n + 1, congrArg (a :: ·) hn⟩
        · rw [List.dropWhile_cons_of_neg (by simpa using hac)]
          exact ⟨0, rfl⟩
  · rintro ⟨n, rfl⟩
    induction n with
    | zero =>
        cases rest with
        | nil => rfl
        | cons a rest => exact List.dropWhile_cons_of_neg (by simpa using h)
    | succ n ih => simpa [List.replicate_succ] using ih

theorem trimLeading_eq_version_iff {text : List Char} :
    Text.trimLeading '-' (String.ofList text) = "version" ↔
      ∃ n, text = List.replicate n '-' ++ "version".toList := by
  rw [← dropWhile_beq_eq_iff (by decide), Text.trimLeading, ← String.toList_inj]
  simp

/-- Two dashes in front of the word are dashes of it. -/
theorem dashes_isPrefixOf_iff {n : Nat} :
    ['-', '-'].isPrefixOf (List.replicate n '-' ++ "version".toList) = true ↔ 2 ≤ n := by
  match n with
  | 0 => decide
  | 1 => decide
  | n + 2 => simp [List.replicate_succ]

/-- An argument is named by what stands before its first equals sign. -/
theorem named?_append {front value : List Char} (h : '=' ∉ front) :
    named? (String.ofList (front ++ '=' :: value)) =
      some (Text.trimLeading '-' (String.ofList front), String.ofList value) := by
  have hplain : ∀ c ∈ front, (c != '=') = true := fun c hc => bne_iff_ne.2 fun heq => h (heq ▸ hc)
  rw [named?, String.toList_ofList, List.takeWhile_append_of_pos hplain,
    List.dropWhile_append_of_pos hplain]
  simp

theorem named?_of_not_mem {text : List Char} (h : '=' ∉ text) :
    named? (String.ofList text) =
      if ['-', '-'].isPrefixOf text then
        some (Text.trimLeading '-' (String.ofList text), "true")
      else none := by
  have hplain : ∀ c ∈ text, (c != '=') = true := fun c hc => bne_iff_ne.2 fun heq => h (heq ▸ hc)
  rw [named?, String.toList_ofList, List.dropWhile_eq_nil_iff.2 hplain]

theorem not_mem_dashes_version (dashes : Nat) :
    '=' ∉ List.replicate dashes '-' ++ "version".toList := by
  simp

theorem named?_eq_version_iff {argument : String} :
    (∃ value, named? argument = some ("version", value)) ↔ IsVersionArgument argument := by
  constructor
  · rintro ⟨value, h⟩
    rw [← String.ofList_toList (s := argument)] at h
    by_cases hequals : '=' ∈ argument.toList
    · obtain ⟨front, rest, hargument, hfront⟩ := List.eq_append_cons_of_mem hequals
      rw [hargument, named?_append hfront] at h
      obtain ⟨hname, -⟩ := Prod.mk.inj (Option.some.inj h)
      obtain ⟨dashes, rfl⟩ := trimLeading_eq_version_iff.1 hname
      exact ⟨dashes, '=' :: rest, by rw [hargument, List.append_assoc], .inl rfl⟩
    · rw [named?_of_not_mem hequals] at h
      obtain ⟨hdashes, h⟩ := Option.ite_none_right_eq_some.1 h
      obtain ⟨hname, -⟩ := Prod.mk.inj (Option.some.inj h)
      obtain ⟨dashes, hargument⟩ := trimLeading_eq_version_iff.1 hname
      rw [hargument] at hdashes
      exact ⟨dashes, [], by rw [hargument, List.append_nil],
        .inr ⟨rfl, dashes_isPrefixOf_iff.1 hdashes⟩⟩
  · rintro ⟨dashes, rest, hargument, h⟩
    have plain := not_mem_dashes_version dashes
    have hname := trimLeading_eq_version_iff.2 ⟨dashes, rfl⟩
    rw [← List.append_assoc] at hargument
    rw [← String.ofList_toList (s := argument), hargument]
    rcases h with hrest | ⟨rfl, hdashes⟩
    · obtain ⟨value, rfl⟩ := List.head?_eq_some_iff.1 hrest
      exact ⟨String.ofList value, by rw [named?_append plain, hname]⟩
    · have long := dashes_isPrefixOf_iff.2 hdashes
      exact ⟨"true", by rw [List.append_nil, named?_of_not_mem plain, if_pos long, hname]⟩

theorem isSome_lookup_version (arguments : List String) :
    ((namedArguments arguments).lookup "version").isSome = true ↔
      ∃ argument ∈ arguments, IsVersionArgument argument := by
  simp only [← named?_eq_version_iff]
  rw [List.lookup_isSome_iff, namedArguments]
  constructor
  · rintro ⟨⟨key, value⟩, hmem, hkey⟩
    obtain ⟨argument, hargument, hnamed⟩ := List.mem_filterMap.1 (List.mem_reverse.1 hmem)
    obtain rfl : "version" = key := by simpa using hkey
    exact ⟨argument, hargument, value, hnamed⟩
  · rintro ⟨argument, hargument, value, hnamed⟩
    have hmem := List.mem_filterMap.2 ⟨argument, hargument, hnamed⟩
    exact ⟨("version", value), List.mem_reverse.2 hmem, by simp⟩

/-! ### Refusals -/

section

variable (files : FileSystem) (environment : String → Option String) (opening : LogOpening)
  (named : List (String × String))

/-- What there is when the checks begin: the settings, and the files as the log leaves them. -/
structure Prepared (settings : Settings) (there : FileSystem) : Prop where
  settings_read : Settings.ofFile files (settingsPath named) = .ok settings
  log_opened : (logOptions settings).openFile? opening files = some there

/-- What has been settled when a command starts to run. -/
structure Admitted (settings : Settings) (there : FileSystem) (c : Configuration)
    (command : Command) : Prop extends Prepared files opening named settings there where
  checked : Configuration.ofSettings there environment settings = .ok c
  picked : Command.ofArguments named c = .ok command

/-- A step before the first question is refused. -/
inductive Rejected : Prop
  | settings {e : DeployError} (h : Settings.ofFile files (settingsPath named) = .error e)
  | configuration {settings : Settings} {there : FileSystem} {e : DeployError}
      (prepared : Prepared files opening named settings there)
      (h : Configuration.ofSettings there environment settings = .error e)
  | command {settings : Settings} {there : FileSystem} {c : Configuration} {e : DeployError}
      (prepared : Prepared files opening named settings there)
      (checked : Configuration.ofSettings there environment settings = .ok c)
      (h : Command.ofArguments named c = .error e)
  | artifact {settings : Settings} {there : FileSystem} {c : Configuration}
      {artifact target : String}
      (admitted : Admitted files environment opening named settings there c
        (.deploy artifact target))
      (h : there.holds artifact = false ∨ deploymentNameAt? artifact = none)

end

section

variable {files : FileSystem} {environment : String → Option String} {opening : LogOpening}
  {named : List (String × String)} {version : Version}

/-- Once there is a log, a command is admitted or a step is refused. -/
theorem Prepared.exists_admitted_or_rejected {settings : Settings} {there : FileSystem}
    (h : Prepared files opening named settings there) :
    (∃ c command, Admitted files environment opening named settings there c command) ∨
      Rejected files environment opening named := by
  cases hchecked : Configuration.ofSettings there environment settings with
  | error e => exact .inr (.configuration h hchecked)
  | ok c =>
      cases hpicked : Command.ofArguments named c with
      | error e => exact .inr (.command h hchecked hpicked)
      | ok command => exact .inl ⟨c, command, h, hchecked, hpicked⟩

/-- A deploy is rejected whatever the settings are, if its artifact has no name or is nowhere among
the files that the log leaves. -/
theorem Prepared.rejected_of_lookup_deploy {settings : Settings} {there : FileSystem}
    (prepared : Prepared files opening named settings there) (artifact : String)
    (hdeploy : named.lookup "deploy" = some artifact)
    (h : there.holds artifact = false ∨ deploymentNameAt? artifact = none) :
    Rejected files environment opening named := by
  rcases prepared.exists_admitted_or_rejected with ⟨c, command, hadmitted⟩ | hrejected
  · have hpicked : Command.ofArguments named c =
        .ok (.deploy artifact (Command.targetOf named c)) := by
      unfold Command.ofArguments
      rw [hdeploy]
    exact .artifact ⟨prepared, hadmitted.checked, hpicked⟩ h
  · exact hrejected

theorem ofArtifact_eq_error {artifact target : String}
    (h : files.holds artifact = false ∨ deploymentNameAt? artifact = none) :
    ∃ e, DeploymentRequest.ofArtifact files artifact target = .error e := by
  unfold DeploymentRequest.ofArtifact
  split
  next hholds =>
    have hname : deploymentNameAt? artifact = none := by simpa [hholds] using h
    rw [hname]
    exact ⟨_, rfl⟩
  next => exact ⟨_, rfl⟩

/-- A deploy without a usable artifact is over at once. -/
theorem perform_of_ofArtifact_eq_error {c : Configuration} {artifact target : String}
    {e : DeployError} (h : DeploymentRequest.ofArtifact files artifact target = .error e) :
    perform files environment c (.deploy artifact target) = pure (.error e) := by
  unfold perform
  simp only [Command.run, h]
  rfl

/-! ### Runs of the program -/

variable {σ : Type} (w : Responder Wire σ) (s : σ)

theorem value_run_ending {ν : Type} (lines : List ν) (exit : Exit) :
    ((ending lines exit).run w s).value = exit := value_run_noteAll w s lines _

theorem dialogue_run_ending {ν : Type} (lines : List ν) (exit : Exit) :
    ((ending lines exit).run w s).dialogue = [] := dialogue_run_noteAll w s lines _

variable (environment opening version) in
/-- The program fails at once when there are no settings. -/
theorem program_of_ofFile_eq_error {arguments : List String} {e : DeployError}
    (hversion : ((namedArguments arguments).lookup "version").isSome = false)
    (h : Settings.ofFile files (settingsPath (namedArguments arguments)) = .error e) :
    ∃ lines, program files environment opening version arguments = ending lines .failure := by
  unfold program
  dsimp only
  rw [if_neg (ne_true_of_eq_false hversion), h]
  exact ⟨_, rfl⟩

variable (environment version) in
/-- A log file that cannot be opened breaks the program off, whatever else the settings say. -/
theorem program_of_openFile?_eq_none {arguments : List String} {settings : Settings}
    (hversion : ((namedArguments arguments).lookup "version").isSome = false)
    (hsettings : Settings.ofFile files (settingsPath (namedArguments arguments)) = .ok settings)
    (h : (logOptions settings).openFile? opening files = none) :
    program files environment opening version arguments = ending [] .brokenOff := by
  unfold program LogSetup.install?
  dsimp only
  rw [if_neg (ne_true_of_eq_false hversion), hsettings]
  dsimp only
  rw [h]
  rfl

variable (environment version) in
/-- Once there is a log, the program does its work among the files that the log leaves, and only
what is noted differs. -/
theorem Prepared.exists_program_eq {arguments : List String} {settings : Settings}
    {there : FileSystem} (h : Prepared files opening (namedArguments arguments) settings there)
    (hversion : ((namedArguments arguments).lookup "version").isSome = false) :
    ∃ f, program files environment opening version arguments =
      (work there environment version settings (namedArguments arguments)).renote f := by
  unfold program LogSetup.install?
  dsimp only
  rw [if_neg (ne_true_of_eq_false hversion), h.settings_read]
  dsimp only
  rw [h.log_opened]
  exact ⟨_, rfl⟩

/-- What the program says of what a command came to. -/
def conclusion : Except DeployError Outcome → Program Wire Utterance Exit
  | .ok outcome => ending (report outcome) .success
  | .error e => ending (complaints e) .failure

theorem value_run_conclusion_eq_success (result : Except DeployError Outcome) :
    ((conclusion result).run w s).value = .success ↔ ∃ outcome, result = .ok outcome := by
  cases result with
  | ok outcome => exact ⟨fun _ => ⟨outcome, rfl⟩, fun _ => value_run_ending w s _ .success⟩
  | error e =>
      rw [conclusion, value_run_ending]
      exact ⟨nofun, nofun⟩

theorem value_run_conclusion_error (e : DeployError) :
    ((conclusion (.error e)).run w s).value = .failure := value_run_ending w s _ .failure

theorem dialogue_run_conclusion (result : Except DeployError Outcome) :
    ((conclusion result).run w s).dialogue = [] := by
  cases result <;> exact dialogue_run_ending w s _ _

variable (version) in
theorem Admitted.exists_work_eq {settings : Settings} {there : FileSystem} {c : Configuration}
    {command : Command} (h : Admitted files environment opening named settings there c command) :
    ∃ greeting, work there environment version settings named =
      note greeting (((perform there environment c command).renote fun n => [.note n]).andThen
        conclusion) := by
  unfold work
  rw [h.checked]
  dsimp only
  rw [h.picked]
  refine ⟨_, congrArg (note _) (congrArg (andThen _) (funext fun result => ?_))⟩
  cases result <;> rfl

variable {arguments : List String}

variable (version) in
/-- A command that was picked is all that is performed, and what it comes to decides how the program
ends. -/
theorem Admitted.run_program {settings : Settings} {there : FileSystem} {c : Configuration}
    {command : Command}
    (h : Admitted files environment opening (namedArguments arguments) settings there c command)
    (hversion : ((namedArguments arguments).lookup "version").isSome = false) :
    let played := (program files environment opening version arguments).run w s
    let performed := (perform there environment c command).run w s
    played.value = ((conclusion performed.value).run w performed.state).value ∧
      played.dialogue = performed.dialogue := by
  intro played performed
  obtain ⟨f, hprogram⟩ := h.toPrepared.exists_program_eq environment version hversion
  obtain ⟨greeting, hwork⟩ := h.exists_work_eq version
  unfold played
  rw [hprogram, value_run_renote, dialogue_run_renote, hwork]
  constructor
  · change (Played.value (run w (andThen _ _) s)) = _
    rw [value_run_andThen, value_run_renote, state_run_renote]
  · change Played.dialogue (run w (andThen _ _) s) = _
    rw [dialogue_run_andThen, dialogue_run_conclusion, dialogue_run_renote, List.append_nil]

theorem Admitted.value_run_program {settings : Settings} {there : FileSystem} {c : Configuration}
    {command : Command}
    (h : Admitted files environment opening (namedArguments arguments) settings there c command)
    (hversion : ((namedArguments arguments).lookup "version").isSome = false) :
    ((program files environment opening version arguments).run w s).value = .success ↔
      ∃ outcome, ((perform there environment c command).run w s).value = .ok outcome := by
  rw [(h.run_program version w s hversion).1, value_run_conclusion_eq_success]

/-- Work that only says something and ends leaves nothing asked. -/
theorem Prepared.run_program_of_work_eq_ending {settings : Settings} {there : FileSystem}
    {lines : List Utterance}
    (h : Prepared files opening (namedArguments arguments) settings there)
    (hversion : ((namedArguments arguments).lookup "version").isSome = false)
    (hwork : work there environment version settings (namedArguments arguments) =
      ending lines .failure) :
    ((program files environment opening version arguments).run w s).value = .failure ∧
      ((program files environment opening version arguments).run w s).dialogue = [] := by
  obtain ⟨f, hprogram⟩ := h.exists_program_eq environment version hversion
  rw [hprogram, hwork, value_run_renote, dialogue_run_renote]
  exact ⟨value_run_ending w s _ _, dialogue_run_ending w s _ _⟩

theorem Rejected.run_program
    (hversion : ((namedArguments arguments).lookup "version").isSome = false)
    (h : Rejected files environment opening (namedArguments arguments)) :
    ((program files environment opening version arguments).run w s).value = .failure ∧
      ((program files environment opening version arguments).run w s).dialogue = [] := by
  cases h with
  | settings h =>
      obtain ⟨lines, hprogram⟩ := program_of_ofFile_eq_error environment opening version hversion h
      rw [hprogram]
      exact ⟨value_run_ending w s _ _, dialogue_run_ending w s _ _⟩
  | @configuration settings there e prepared h =>
      have hwork : work there environment version settings (namedArguments arguments) =
          ending [complaint e.message] .failure := by
        unfold work
        rw [h]
      exact prepared.run_program_of_work_eq_ending w s hversion hwork
  | @command settings there c e prepared checked h =>
      have hwork : work there environment version settings (namedArguments arguments) =
          ending [complaint e.message] .failure := by
        unfold work
        rw [checked]
        dsimp only
        rw [h]
      exact prepared.run_program_of_work_eq_ending w s hversion hwork
  | artifact admitted h =>
      -- the command is picked, but performing it is over before anything is asked
      obtain ⟨e, he⟩ := ofArtifact_eq_error h
      obtain ⟨hvalue, hdialogue⟩ := admitted.run_program version w s hversion
      rw [perform_of_ofArtifact_eq_error he] at hvalue hdialogue
      exact ⟨hvalue.trans (value_run_conclusion_error w s e), hdialogue⟩

/-- Without a command that was admitted the program does not succeed and asks nothing. -/
theorem run_program_of_not_admitted
    (hversion : ((namedArguments arguments).lookup "version").isSome = false)
    (h : ¬∃ settings there c command,
      Admitted files environment opening (namedArguments arguments) settings there c command) :
    ((program files environment opening version arguments).run w s).value ≠ .success ∧
      ((program files environment opening version arguments).run w s).dialogue = [] := by
  have hrejected (h : Rejected files environment opening (namedArguments arguments)) :
      ((program files environment opening version arguments).run w s).value ≠ .success ∧
        ((program files environment opening version arguments).run w s).dialogue = [] := by
    obtain ⟨hvalue, hdialogue⟩ := h.run_program w s hversion
    exact ⟨by rw [hvalue]; nofun, hdialogue⟩
  cases hsettings : Settings.ofFile files (settingsPath (namedArguments arguments)) with
  | error e => exact hrejected (.settings hsettings)
  | ok settings =>
      cases hopened : (logOptions settings).openFile? opening files with
      | none =>
          rw [program_of_openFile?_eq_none environment version hversion hsettings hopened,
            value_run_ending]
          exact ⟨nofun, dialogue_run_ending w s _ _⟩
      | some there =>
          rcases Prepared.exists_admitted_or_rejected ⟨hsettings, hopened⟩ with
            ⟨c, command, hadmitted⟩ | hrejected'
          · exact absurd ⟨settings, there, c, command, hadmitted⟩ h
          · exact hrejected hrejected'

theorem program_of_lookup_version
    (h : ((namedArguments arguments).lookup "version").isSome = true) :
    program files environment opening version arguments =
      ending [.out version.toJson.pretty] .success :=
  if_pos h

end

/-- With an argument that asks for the version the program succeeds whatever the files, the
variables and the log are, and asks nothing. Without one it fails and asks nothing if a step before
the first question is refused, asks nothing unless a command was admitted, and succeeds only if one
was and came to an outcome. -/
theorem program_preparesFirst (files : FileSystem) (environment : String → Option String)
    (opening : LogOpening) (version : Version) (arguments : List String) :
    ((∃ argument ∈ arguments, IsVersionArgument argument) →
      (∀ files' environment' opening',
        program files environment opening version arguments =
          program files' environment' opening' version arguments) ∧
      ∀ {σ : Type} (w : Responder Wire σ) (s : σ),
        let played := (program files environment opening version arguments).run w s
        played.value = .success ∧ played.dialogue = []) ∧
    ((¬∃ argument ∈ arguments, IsVersionArgument argument) →
      ∀ {σ : Type} (w : Responder Wire σ) (s : σ),
        let played := (program files environment opening version arguments).run w s
        (Rejected files environment opening (namedArguments arguments) →
          played.value = .failure ∧ played.dialogue = []) ∧
        ((¬∃ settings there c command, Admitted files environment opening
            (namedArguments arguments) settings there c command) → played.dialogue = []) ∧
        (played.value = .success ↔ ∃ settings there c command outcome,
          Admitted files environment opening (namedArguments arguments) settings there c command ∧
            ((perform there environment c command).run w s).value = .ok outcome)) := by
  rw [← isSome_lookup_version]
  constructor
  · intro h
    refine ⟨fun files' environment' opening' => ?_, fun w s => ?_⟩
    · rw [program_of_lookup_version h, program_of_lookup_version h]
    · rw [program_of_lookup_version h]
      exact ⟨value_run_ending w s _ _, dialogue_run_ending w s _ _⟩
  · intro h σ w s
    have hversion := Bool.eq_false_iff.2 h
    refine ⟨Rejected.run_program w s hversion,
      fun hnone => (run_program_of_not_admitted w s hversion hnone).2, fun hsuccess => ?_, ?_⟩
    · by_contra hnone
      -- an admitted command comes to an outcome, and without one there is no success
      refine (run_program_of_not_admitted w s hversion ?_).1 hsuccess
      rintro ⟨settings, there, c, command, hadmitted⟩
      obtain ⟨outcome, houtcome⟩ := (hadmitted.value_run_program w s hversion).1 hsuccess
      exact hnone ⟨settings, there, c, command, outcome, hadmitted, houtcome⟩
    · rintro ⟨settings, there, c, command, outcome, hadmitted, houtcome⟩
      exact (hadmitted.value_run_program w s hversion).2 ⟨outcome, houtcome⟩

/-- Settings for a domain that is asked over HTTP, with a log in the directory `apps`. -/
def logged : Settings where
  logLevel := .error
  logDir := some "apps"
  adminUrl := "https://localhost"
  userName := "weblogic"
  password := "welcome1"
  target := "AdminServer"
  strategy := .rest

/-- These settings as they stand in a file. -/
def loggedText : String :=
  (Json.object [("admin_password", .string "welcome1"), ("admin_url", .string "https://localhost"),
    ("admin_user_name", .string "weblogic"), ("log_dir", .string "apps"),
    ("log_level", .string "error"), ("submission_strategy", .string "rest"),
    ("target", .string "AdminServer")]).compact

/-- The bytes of that file. -/
def loggedBytes : List UInt8 := Text.Utf8.encode loggedText

theorem parse_loggedText : Settings.parse loggedText = .ok logged := by
  -- the characters are read as they are written, without spelling a text with them
  rw [loggedText, Settings.parse, Json.readText, Json.compact, String.toList_ofList]
  exact eq_ok_of_toOption (by decide +kernel)

theorem ofFile_eq_logged {files : FileSystem} {named : List (String × String)}
    (hread : files.bytesAt Settings.defaultFile = .ok loggedBytes)
    (hpath : settingsPath named = Settings.defaultFile) :
    Settings.ofFile files (settingsPath named) = .ok logged := by
  rw [hpath, Settings.ofFile, bind_eq_ok]
  exact ⟨loggedText, mapError_eq_ok.2 (FileSystem.textAt_of_bytesAt hread),
    mapError_eq_ok.2 parse_loggedText⟩

/-- The settings file and nothing else. -/
def untouched : FileTree := .ofPaths [(Settings.defaultFile, .file loggedBytes)]

/-- The settings file, and a file where the directory for the log should be. -/
def blocked : FileTree := .ofPaths [("apps", .file []), (Settings.defaultFile, .file loggedBytes)]

/-- The log of a day in a tree of files. -/
abbrev daily (tree : FileTree) : LogOpening := .inTree tree "2026-11-20"

/-- The files behind `untouched`, once the log has been opened. -/
def behindLog : FileTree :=
  ⟨[(["apps", "wlsdeployer.log.2026-11-20"], .file []), (["apps"], .directory),
    (["wlsdeployer.json"], .file loggedBytes)]⟩

theorem daily_untouched : daily untouched "apps" = some behindLog.view := by
  have hopened : untouched.opened? "apps" (LogSetup.fileName "2026-11-20") = some behindLog := by
    rfl
  rw [daily, LogOpening.inTree, hopened]
  rfl

theorem daily_blocked : daily blocked "apps" = none := by
  have hopened : blocked.opened? "apps" (LogSetup.fileName "2026-11-20") = none := by
    rfl
  rw [daily, LogOpening.inTree, hopened]
  rfl

theorem bytesAt_untouched : untouched.view.bytesAt Settings.defaultFile = .ok loggedBytes := by
  rfl

theorem bytesAt_blocked : blocked.view.bytesAt Settings.defaultFile = .ok loggedBytes := by
  rfl

theorem prepared_logged {files there : FileSystem} {opening : LogOpening}
    {named : List (String × String)}
    (hread : files.bytesAt Settings.defaultFile = .ok loggedBytes)
    (hpath : settingsPath named = Settings.defaultFile)
    (hopened : opening "apps" = some there) : Prepared files opening named logged there :=
  ⟨ofFile_eq_logged hread hpath, hopened⟩

theorem not_isVersionArgument {arguments : List String}
    (h : ((namedArguments arguments).lookup "version").isSome = false) :
    ¬∃ argument ∈ arguments, IsVersionArgument argument := by
  rw [← isSome_lookup_version, h]
  nofun

/-- A domain that lists nothing. -/
def quiet : Responder Wire Unit
  | .send _, s =>
    (.answered 200 (Text.Utf8.encode (Json.object [("name", .string "empty"),
      ("items", .array [])]).compact) true, s)
  | .runTool .., s => (.notStarted "", s)
  | .sleep _, s => (true, s)

/-- The program among the files of a tree, without variables, asking the quiet domain. -/
def rehearse (tree : FileTree) (arguments : List String) : Played Wire Output Unit Exit :=
  (program tree.view (fun _ => none) (daily tree) {} arguments).run quiet ()

/-- What was rehearsed of `untouched` is the work among the files behind the log. -/
theorem rehearse_untouched {arguments : List String}
    (hversion : ((namedArguments arguments).lookup "version").isSome = false)
    (hpath : settingsPath (namedArguments arguments) = Settings.defaultFile) :
    let worked :=
      (work behindLog.view (fun _ => none) {} logged (namedArguments arguments)).run quiet ()
    (rehearse untouched arguments).value = worked.value ∧
      (rehearse untouched arguments).dialogue = worked.dialogue := by
  intro worked
  have hprepared := prepared_logged bytesAt_untouched hpath daily_untouched
  obtain ⟨f, hprogram⟩ := hprepared.exists_program_eq (fun _ => none) {} hversion
  rw [rehearse, hprogram]
  exact ⟨value_run_renote _ _ _ _, dialogue_run_renote _ _ _ _⟩

theorem value_rehearse_status : (rehearse untouched ["--status"]).value = .success := by
  rw [(rehearse_untouched (by decide +kernel) (by decide +kernel)).1]
  decide +kernel

/-- A version argument behind another one, an artifact that is not there, a log file that cannot be
opened, and a command that succeeds. -/
theorem program_preparesFirst_logged :
    ((rehearse untouched ["--deploy=foo.war", "-version="]).value = .success ∧
        (rehearse untouched ["--deploy=foo.war", "-version="]).dialogue = []) ∧
      (Rejected untouched.view (fun _ => none) (daily untouched)
          (namedArguments ["--deploy=foo.war"]) ∧
        (rehearse untouched ["--deploy=foo.war"]).value = .failure ∧
        (rehearse untouched ["--deploy=foo.war"]).dialogue = []) ∧
      ((¬∃ settings there c command, Admitted blocked.view (fun _ => none) (daily blocked)
          (namedArguments ["--status"]) settings there c command) ∧
        (rehearse blocked ["--status"]).dialogue = []) ∧
      (rehearse untouched ["--status"]).value = .success ∧ ∃ settings there c command outcome,
        Admitted untouched.view (fun _ => none) (daily untouched) (namedArguments ["--status"])
          settings there c command ∧
          ((perform there (fun _ => none) c command).run quiet ()).value = .ok outcome := by
  have hquick : ∃ argument ∈ ["--deploy=foo.war", "-version="], IsVersionArgument argument :=
    ⟨"-version=", by simp, 1, ['='], by decide, .inl rfl⟩
  have hrefused : ¬∃ argument ∈ ["--deploy=foo.war"], IsVersionArgument argument :=
    not_isVersionArgument (by decide +kernel)
  have hstatus : ¬∃ argument ∈ ["--status"], IsVersionArgument argument :=
    not_isVersionArgument (by decide +kernel)
  have hrejected : Rejected untouched.view (fun _ => none) (daily untouched)
      (namedArguments ["--deploy=foo.war"]) :=
    (prepared_logged bytesAt_untouched (by decide +kernel) daily_untouched).rejected_of_lookup_deploy
      "foo.war" (by decide +kernel) (.inl (by decide +kernel))
  have hblocked : ¬∃ settings there c command, Admitted blocked.view (fun _ => none)
      (daily blocked) (namedArguments ["--status"]) settings there c command := by
    rintro ⟨settings, there, c, command, hadmitted⟩
    have hread : Settings.ofFile blocked.view (settingsPath (namedArguments ["--status"])) =
        .ok logged := ofFile_eq_logged bytesAt_blocked (by decide +kernel)
    obtain rfl := Except.ok.inj (hadmitted.settings_read.symm.trans hread)
    cases daily_blocked.symm.trans hadmitted.log_opened
  exact ⟨((program_preparesFirst _ _ _ _ _).1 hquick).2 quiet (),
    ⟨hrejected, ((program_preparesFirst _ _ _ _ _).2 hrefused quiet ()).1 hrejected⟩,
    ⟨hblocked, ((program_preparesFirst _ _ _ _ _).2 hstatus quiet ()).2.1 hblocked⟩,
    value_rehearse_status,
    ((program_preparesFirst _ _ _ _ _).2 hstatus quiet ()).2.2.1 value_rehearse_status⟩

/-- A log that leaves the files as they are. -/
def still (files : FileSystem) : LogOpening := fun _ => some files

/-- Two runs that are refused if they are judged by the files at the start. But one log makes the
directory that is to be deployed, and the domain is asked about it; and the other run is broken off
by its log before anything is judged. -/
theorem log_precedes_checks :
    ((¬∃ argument ∈ ["--deploy=apps"], IsVersionArgument argument) ∧
      Rejected untouched.view (fun _ => none) (still untouched.view)
        (namedArguments ["--deploy=apps"]) ∧
      (rehearse untouched ["--deploy=apps"]).dialogue ≠ []) ∧
    (¬∃ argument ∈ ["--deploy=foo.war"], IsVersionArgument argument) ∧
      Rejected blocked.view (fun _ => none) (still blocked.view)
        (namedArguments ["--deploy=foo.war"]) ∧
      (rehearse blocked ["--deploy=foo.war"]).value ≠ .failure := by
  constructor
  · refine ⟨not_isVersionArgument (by decide +kernel), ?_, ?_⟩
    · exact (prepared_logged bytesAt_untouched (by decide +kernel) rfl).rejected_of_lookup_deploy
        "apps" (by decide +kernel) (.inl (by decide +kernel))
    · rw [(rehearse_untouched (by decide +kernel) (by decide +kernel)).2, ← List.isEmpty_eq_false_iff]
      decide +kernel
  · refine ⟨not_isVersionArgument (by decide +kernel), ?_, ?_⟩
    · exact (prepared_logged bytesAt_blocked (by decide +kernel) rfl).rejected_of_lookup_deploy
        "foo.war" (by decide +kernel) (.inl (by decide +kernel))
    · have hbroken : program blocked.view (fun _ => none) (daily blocked) {} ["--deploy=foo.war"] =
          ending [] .brokenOff :=
        program_of_openFile?_eq_none _ _ (by decide +kernel)
          (ofFile_eq_logged bytesAt_blocked (by decide +kernel)) daily_blocked
      rw [rehearse, hbroken, value_run_ending]
      nofun

end CommandLine

end DomainDeploy
