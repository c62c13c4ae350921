import Mathlib.Data.List.TakeWhile
import DomainDeploy.Tool.Command

/-!
# The arguments of the tool, read back

The program that runs the tool takes the value behind `-classpath`, then the properties, and the
next argument names the class to run. All that follows is for the tool: options with the argument
behind each of them as its value, then flags. `Invocation.read` reads arguments in this way, and
what was written by `Invocation.written` is what it reads (`read_eq_some_iff`), whatever the values
look like; only the first argument behind the properties must not look like a property.

So the arguments of a command say who asks for what, and no other arguments say the same
(`read_arguments_build`).
-/

namespace DomainDeploy

/-- A property of the program that runs the tool. -/
structure Property where
  key : String
  /-- What stands behind the first `=`, if there is one. -/
  value : Option String
deriving DecidableEq

namespace Property

/-- The argument that sets the property. -/
def written (p : Property) : String := "-D" ++ p.key ++ (p.value.map ("=" ++ ·)).getD ""

theorem written_some (key value : String) :
    written ⟨key, some value⟩ = "-D" ++ key ++ "=" ++ value := by
  simp [written, String.append_assoc]

/-- The property that an argument sets, if it sets one. -/
def read? (argument : String) : Option Property :=
  match argument.toList with
  | '-' :: 'D' :: text =>
    some ⟨String.ofList (text.takeWhile (· != '=')),
      match text.dropWhile (· != '=') with
      | [] => none
      | _ :: value => some (String.ofList value)⟩
  | _ => none

/-- Whether the key ends where a reader takes it to end. -/
def IsLegible (p : Property) : Prop := '=' ∉ p.key.toList

variable {p : Property} {argument : String}

theorem toList_written (p : Property) :
    p.written.toList =
      '-' :: 'D' :: (p.key.toList ++ (p.value.map ('=' :: ·.toList)).getD []) := by
  cases hvalue : p.value <;> simp [written, hvalue]

theorem read?_written (h : p.IsLegible) : read? p.written = some p := by
  have hkey : ∀ c ∈ p.key.toList, (c != '=') = true := by
    intro c hc
    have hne : c ≠ '=' := fun heq => h (heq ▸ hc)
    simpa using hne
  obtain ⟨key, value⟩ := p
  rw [read?, toList_written]
  cases value with
  | none => simp [List.takeWhile_eq_self_iff.2 hkey, List.dropWhile_eq_nil_iff.2 hkey]
  | some value =>
      simp [List.takeWhile_append_of_pos hkey, List.dropWhile_append_of_pos hkey]

theorem written_of_read? (h : read? argument = some p) : argument = p.written ∧ p.IsLegible := by
  unfold read? at h
  split at h
  · rename_i text htext
    obtain rfl := Option.some.inj h
    have split : text.takeWhile (· != '=') ++ text.dropWhile (· != '=') = text :=
      List.takeWhile_append_dropWhile
    constructor
    · rw [← String.toList_inj, toList_written, htext]
      cases hrest : text.dropWhile (· != '=') with
      | nil => simpa [hrest] using split.symm
      | cons c value =>
          have hc : c = '=' := by
            have stopped := List.head?_dropWhile_not (· != '=') text
            simpa [hrest] using stopped
          simpa [hrest, hc] using split.symm
    · intro hmem
      have hkept := List.mem_takeWhile_imp (by simpa using hmem)
      simp at hkept
  · cases h

theorem read?_eq_some_iff : read? argument = some p ↔ argument = p.written ∧ p.IsLegible := by
  constructor
  · exact written_of_read?
  · intro h
    obtain ⟨rfl, legible⟩ := h
    exact read?_written legible

end Property

/-- The arguments for an option that may be left out. -/
def writtenOption (name : String) : Option String → List String
  | none => []
  | some value => [name, value]

/-- The arguments for a flag. -/
def writtenFlag (name : String) : Bool → List String
  | false => []
  | true => [name]

/-- What is read from the front of arguments, with the arguments behind it. -/
abbrev ArgumentReader (α : Type) := StateT (List String) Option α

namespace ArgumentReader

variable {α β : Type}

/-- The next argument, whatever it is. -/
def argument : ArgumentReader String
  | [] => none
  | value :: rest => some (value, rest)

/-- The value of an option that must stand there. -/
def option (name : String) : ArgumentReader String
  | given :: value :: rest => if given = name then some (value, rest) else none
  | _ => none

/-- The value of an option that may stand there. -/
def option? (name : String) : ArgumentReader (Option String)
  | given :: value :: rest =>
    some (if given = name then (some value, rest) else (none, given :: value :: rest))
  | rest => some (none, rest)

/-- Whether a flag stands there. -/
def flag (name : String) : ArgumentReader Bool
  | given :: rest => some (if given = name then (true, rest) else (false, given :: rest))
  | [] => some (false, [])

/-- What the tool is asked for. -/
def verb : ArgumentReader ToolAction
  | "-deploy" :: rest => some (.deploy, rest)
  | "-undeploy" :: rest => some (.undeploy, rest)
  | _ => none

/-- All properties up to the first argument that sets none. -/
def properties : ArgumentReader (List Property)
  | [] => some ([], [])
  | given :: rest =>
    match Property.read? given with
    | none => some ([], given :: rest)
    | some p => (properties rest).map fun (ps, behind) => (p :: ps, behind)

/-- Nothing more stands there. -/
def nothing : ArgumentReader Unit
  | [] => some ((), [])
  | _ :: _ => none

variable {name value : String} {arguments rest : List String}

theorem bind_eq_some_iff {x : ArgumentReader α} {f : α → ArgumentReader β} {b : β} :
    (x >>= f) arguments = some (b, rest) ↔
      ∃ a between, x arguments = some (a, between) ∧ f a between = some (b, rest) := by
  change (x arguments).bind (fun (a, between) => f a between) = some (b, rest) ↔ _
  simp [Option.bind_eq_some_iff]

theorem pure_eq_some_iff {a b : α} :
    (pure a : ArgumentReader α) arguments = some (b, rest) ↔ a = b ∧ arguments = rest := by
  change some (a, arguments) = some (b, rest) ↔ _
  simp

theorem argument_eq_some_iff :
    argument arguments = some (value, rest) ↔ arguments = value :: rest := by
  cases arguments <;> simp [argument]

theorem option_eq_some_iff :
    option name arguments = some (value, rest) ↔ arguments = name :: value :: rest := by
  unfold option
  split
  · simp
  · rename_i none_stands
    refine iff_of_false nofun fun h => none_stands _ _ _ h

theorem option?_eq_some_iff {value? : Option String} :
    option? name arguments = some (value?, rest) ↔
      arguments = writtenOption name value? ++ rest ∧
        (value? = none → ∀ value behind, rest ≠ name :: value :: behind) := by
  unfold option? writtenOption
  split
  · rename_i given value behind
    by_cases hname : given = name
    · cases value? with
      | none => grind
      | some value => simp [hname]
    · cases value? with
      | none => grind
      | some value => simp [hname]
  · rename_i none_stands
    cases value? with
    | none => grind
    | some value =>
        refine iff_of_false nofun fun h => none_stands _ _ _ h.1

theorem flag_eq_some_iff {b : Bool} :
    flag name arguments = some (b, rest) ↔
      arguments = writtenFlag name b ++ rest ∧ (b = false → rest.head? ≠ some name) := by
  cases arguments with
  | nil => cases b <;> grind [flag, writtenFlag]
  | cons given behind =>
      by_cases hname : given = name
      · cases b <;> grind [flag, writtenFlag]
      · cases b <;> grind [flag, writtenFlag]

theorem verb_eq_some_iff {action : ToolAction} :
    verb arguments = some (action, rest) ↔ arguments = action.option :: rest := by
  unfold verb
  split <;> cases action <;> simp_all [ToolAction.option]

theorem nothing_eq_some_iff {u : Unit} :
    nothing arguments = some (u, rest) ↔ arguments = [] ∧ rest = [] := by
  cases arguments <;> simp [nothing, eq_comm]

/-- Properties that were written are read, up to the first argument that sets none. -/
theorem properties_written {ps : List Property} (legible : ∀ p ∈ ps, p.IsLegible)
    (stops : ∀ next ∈ rest.head?, Property.read? next = none) :
    properties (ps.map Property.written ++ rest) = some (ps, rest) := by
  induction ps with
  | nil =>
      cases rest with
      | nil => rfl
      | cons next behind => rw [List.map_nil, List.nil_append, properties, stops next rfl]
  | cons p ps ih =>
      obtain ⟨hp, hps⟩ := List.forall_mem_cons.1 legible
      rw [List.map_cons, List.cons_append, properties, Property.read?_written hp, ih hps]
      rfl

/-- Properties that are read were written, and no property stands behind them. -/
theorem eq_written_of_properties {ps : List Property}
    (h : properties arguments = some (ps, rest)) :
    arguments = ps.map Property.written ++ rest ∧ (∀ p ∈ ps, p.IsLegible) ∧
      ∀ next ∈ rest.head?, Property.read? next = none := by
  induction arguments generalizing ps with
  | nil =>
      obtain ⟨rfl, rfl⟩ := Prod.mk.inj (Option.some.inj h)
      simp
  | cons given behind ih =>
      rw [properties] at h
      cases hgiven : Property.read? given with
      | none =>
          rw [hgiven] at h
          obtain ⟨rfl, rfl⟩ := Prod.mk.inj (Option.some.inj h)
          simp [hgiven]
      | some p =>
          rw [hgiven] at h
          obtain ⟨⟨qs, left⟩, hbehind, heq⟩ := Option.map_eq_some_iff.1 h
          obtain ⟨rfl, rfl⟩ := Prod.mk.inj heq
          obtain ⟨hwritten, hlegible⟩ := Property.read?_eq_some_iff.1 hgiven
          obtain ⟨hsplit, legible, stops⟩ := ih hbehind
          refine ⟨?_, List.forall_mem_cons.2 ⟨hlegible, legible⟩, stops⟩
          rw [hwritten, hsplit]
          rfl

theorem properties_eq_some_iff {ps : List Property} :
    properties arguments = some (ps, rest) ↔
      arguments = ps.map Property.written ++ rest ∧ (∀ p ∈ ps, p.IsLegible) ∧
        ∀ next ∈ rest.head?, Property.read? next = none := by
  constructor
  · exact eq_written_of_properties
  · rintro ⟨rfl, legible, stops⟩
    exact properties_written legible stops

/-! ### The parts of an invocation -/

/-- What the program that runs the tool takes: a class path, properties, and a class. -/
def launch : ArgumentReader (String × List Property × String) := do
  let classPath ← option "-classpath"
  let properties ← properties
  let mainClass ← argument
  return (classPath, properties, mainClass)

/-- Where the domain is administrated, and who asks. -/
def administration : ArgumentReader (String × String × String) := do
  let adminUrl ← option "-adminurl"
  let userName ← option "-username"
  let password ← option "-password"
  return (adminUrl, userName, password)

/-- What is deployed, from where, and to which target. -/
def deployment : ArgumentReader (String × Option String × String) := do
  let name ← option "-name"
  let source ← option? "-source"
  let target ← option "-targets"
  return (name, source, target)

/-- The flags at the end. -/
def flags : ArgumentReader (Bool × Bool × Bool) := do
  let upload ← flag "-upload"
  let debug ← flag "-debug"
  let remote ← flag "-remote"
  nothing
  return (upload, debug, remote)

theorem launch_eq_some_iff {classPath mainClass : String} {ps : List Property} :
    launch arguments = some ((classPath, ps, mainClass), rest) ↔
      arguments = "-classpath" :: classPath :: (ps.map Property.written ++ mainClass :: rest) ∧
        (∀ p ∈ ps, p.IsLegible) ∧ Property.read? mainClass = none := by
  simp only [launch, bind_eq_some_iff, pure_eq_some_iff, option_eq_some_iff,
    properties_eq_some_iff, argument_eq_some_iff]
  constructor
  · rintro ⟨_, _, rfl, _, _, ⟨rfl, legible, unread⟩, _, _, rfl, h, rfl⟩
    cases h
    exact ⟨rfl, legible, unread _ rfl⟩
  · rintro ⟨rfl, legible, unread⟩
    exact ⟨_, _, rfl, _, _, ⟨rfl, legible, by simpa using unread⟩, _, _, rfl, rfl, rfl⟩

theorem administration_eq_some_iff {adminUrl userName password : String} :
    administration arguments = some ((adminUrl, userName, password), rest) ↔
      arguments = "-adminurl" :: adminUrl :: "-username" :: userName :: "-password" ::
        password :: rest := by
  simp only [administration, bind_eq_some_iff, pure_eq_some_iff, option_eq_some_iff]
  constructor
  · rintro ⟨_, _, rfl, _, _, rfl, _, _, rfl, h, rfl⟩
    cases h
    rfl
  · rintro rfl
    exact ⟨_, _, rfl, _, _, rfl, _, _, rfl, rfl, rfl⟩

theorem deployment_eq_some_iff {name target : String} {source : Option String} :
    deployment arguments = some ((name, source, target), rest) ↔
      arguments = "-name" :: name ::
        (writtenOption "-source" source ++ "-targets" :: target :: rest) := by
  simp only [deployment, bind_eq_some_iff, pure_eq_some_iff, option_eq_some_iff,
    option?_eq_some_iff]
  constructor
  · rintro ⟨_, _, rfl, _, _, ⟨rfl, -⟩, _, _, rfl, h, rfl⟩
    cases h
    rfl
  · rintro rfl
    exact ⟨_, _, rfl, _, _, ⟨rfl, by simp⟩, _, _, rfl, rfl, rfl⟩

theorem flags_eq_some_iff {upload debug remote : Bool} :
    flags arguments = some ((upload, debug, remote), rest) ↔
      arguments = writtenFlag "-upload" upload ++
        (writtenFlag "-debug" debug ++ writtenFlag "-remote" remote) ∧ rest = [] := by
  simp only [flags, bind_eq_some_iff, pure_eq_some_iff, flag_eq_some_iff, nothing_eq_some_iff]
  constructor
  · rintro ⟨_, _, ⟨rfl, -⟩, _, _, ⟨rfl, -⟩, _, _, ⟨rfl, -⟩, _, _, ⟨rfl, rfl⟩, h, rfl⟩
    cases h
    simp
  · rintro ⟨rfl, rfl⟩
    refine ⟨upload, _, ⟨rfl, ?_⟩, debug, _, ⟨rfl, ?_⟩, remote, [],
      ⟨(List.append_nil _).symm, by simp⟩, (), [], ⟨rfl, rfl⟩, rfl, rfl⟩
    · cases debug <;> cases remote <;> simp [writtenFlag]
    · cases remote <;> simp [writtenFlag]

end ArgumentReader

/-- What the arguments of the tool say. -/
structure Invocation where
  classPath : String
  properties : List Property
  mainClass : String
  adminUrl : String
  userName : String
  password : String
  action : ToolAction
  name : String
  source : Option String
  target : String
  upload : Bool
  debug : Bool
  remote : Bool
deriving DecidableEq

namespace Invocation

/-- The arguments that say so. -/
def written (i : Invocation) : List String :=
  "-classpath" :: i.classPath :: (i.properties.map Property.written ++
    i.mainClass :: "-adminurl" :: i.adminUrl :: "-username" :: i.userName ::
      "-password" :: i.password :: i.action.option :: "-name" :: i.name ::
        (writtenOption "-source" i.source ++ "-targets" :: i.target ::
          (writtenFlag "-upload" i.upload ++
            (writtenFlag "-debug" i.debug ++ writtenFlag "-remote" i.remote))))

open ArgumentReader in
/-- Reads what the program that runs the tool takes, and then what the tool takes. -/
def reader : ArgumentReader Invocation := do
  let (classPath, properties, mainClass) ← launch
  let (adminUrl, userName, password) ← administration
  let action ← verb
  let (name, source, target) ← deployment
  let (upload, debug, remote) ← flags
  return ⟨classPath, properties, mainClass, adminUrl, userName, password, action, name, source,
    target, upload, debug, remote⟩

/-- What arguments say, if they can be read. -/
def read (arguments : List String) : Option Invocation := (reader arguments).map (·.1)

/-- Whether the properties end where a reader takes them to end. -/
structure IsLegible (i : Invocation) : Prop where
  properties : ∀ p ∈ i.properties, p.IsLegible
  mainClass : Property.read? i.mainClass = none

variable {arguments rest : List String} {i : Invocation}

theorem reader_eq_some_iff :
    reader arguments = some (i, rest) ↔ (arguments = i.written ∧ i.IsLegible) ∧ rest = [] := by
  simp only [reader, ArgumentReader.bind_eq_some_iff, ArgumentReader.pure_eq_some_iff,
    Prod.exists, ArgumentReader.launch_eq_some_iff, ArgumentReader.administration_eq_some_iff,
    ArgumentReader.verb_eq_some_iff, ArgumentReader.deployment_eq_some_iff,
    ArgumentReader.flags_eq_some_iff]
  constructor
  · rintro ⟨_, _, _, _, ⟨rfl, legible, unread⟩, _, _, _, _, rfl, _, _, rfl, _, _, _, _, rfl,
      _, _, _, _, ⟨rfl, rfl⟩, rfl, rfl⟩
    exact ⟨⟨rfl, legible, unread⟩, rfl⟩
  · rintro ⟨⟨rfl, legible, unread⟩, rfl⟩
    exact ⟨_, _, _, _, ⟨rfl, legible, unread⟩, _, _, _, _, rfl, _, _, rfl, _, _, _, _, rfl,
      _, _, _, _, ⟨rfl, rfl⟩, rfl, rfl⟩

/-- What is read is what was written, so nothing is said in two ways. -/
theorem read_eq_some_iff : read arguments = some i ↔ arguments = i.written ∧ i.IsLegible := by
  simp [read, reader_eq_some_iff]

/-- A value may look like an option. -/
example : (read ["-classpath", "-Dkey", "-Dkey=a=b", "Main", "-adminurl", "-username", "-username",
    "-password", "-password", "-adminurl", "-undeploy", "-name", "-source", "-targets", "-targets",
    "-debug"]).map (fun i => (i.properties, i.password, i.name, i.source, i.target)) =
      some ([⟨"key", some "a=b"⟩], "-adminurl", "-source", none, "-targets") := by
  decide +kernel

end Invocation

namespace ToolCommand

/-! ### What the arguments of a command say -/

/-- The properties that rows of keys set, those that have a value. -/
def assigned (rows : List (String × Option String)) : List Property :=
  rows.filterMap fun (key, value?) => value?.map fun value => ⟨key, some value⟩

/-- The rows for a mode of trust. -/
def trustRows (trust : TrustContext) : List (String × Option String) :=
  let isCustom := trust.mode = .custom
  let isStandard := trust.mode = .standard
  let passPhrase := trust.password.filter (· != "")
  [("weblogic.security.TrustKeyStore",
      match trust.mode with
      | .builtIn => none
      | .demo => some "DemoTrust"
      | .custom => some "CustomTrust"
      | .standard => some "JavaStandardTrust"),
    ("weblogic.security.CustomTrustKeyStoreFileName", if isCustom then trust.location else none),
    ("weblogic.security.TrustKeystoreType", if isCustom then some "jks" else none),
    ("weblogic.security.CustomTrustKeyStorePassPhrase", if isCustom then passPhrase else none),
    ("weblogic.security.JavaStandardTrustKeyStorePassPhrase",
      if isStandard then passPhrase else none)]

/-- The rows for everything else. -/
def otherRows (c : Configuration) : List (String × Option String) :=
  [("weblogic.security.SSL.ignoreHostnameVerification",
      if c.trust.ignoreHostName then some "true" else none),
    ("weblogic.security.SSL.hostnameVerifier", c.trust.verifierClass),
    ("java.security.egd", if c.tool.useUrandom then some "file:/dev/./urandom" else none)]

/-- What the arguments for one deployment are to say. -/
def invocation (c : Configuration) (action : ToolAction) (name : String) (source : Option String)
    (target : String) : Invocation where
  classPath := c.tool.classPath
  properties := assigned (trustRows c.trust ++ otherRows c)
  mainClass := "weblogic.Deployer"
  adminUrl := c.adminUrl
  userName := c.userName
  password := c.password
  action := action
  name := name
  source := source
  target := target
  upload := action == .deploy
  debug := true
  remote := action == .deploy && c.remoteMachine

@[simp] theorem assigned_nil : assigned [] = [] := rfl

@[simp] theorem assigned_cons_none (key : String) (rows : List (String × Option String)) :
    assigned ((key, none) :: rows) = assigned rows := rfl

@[simp] theorem assigned_cons_some (key value : String) (rows : List (String × Option String)) :
    assigned ((key, some value) :: rows) = ⟨key, some value⟩ :: assigned rows := rfl

theorem assigned_append (rows rows' : List (String × Option String)) :
    assigned (rows ++ rows') = assigned rows ++ assigned rows' := List.filterMap_append

theorem passPhrase_eq (name : String) (password : Option String) :
    passPhrase name password =
      (assigned [("weblogic.security." ++ name, password.filter (· != ""))]).map
        Property.written := by
  unfold passPhrase
  cases password.filter (· != "") with
  | none => rfl
  | some p =>
      have hstart : "-D" ++ ("weblogic.security." ++ name) = "-Dweblogic.security." ++ name := by
        rw [← String.append_assoc]
        rfl
      simp [Property.written_some, hstart, toString]

theorem trustProperties_eq (trust : TrustContext) :
    trustProperties trust = (assigned (trustRows trust)).map Property.written := by
  unfold trustProperties trustRows
  simp only [passPhrase_eq]
  cases trust.mode with
  | builtIn => rfl
  | demo => rfl
  | custom =>
      cases trust.location with
      | none => cases trust.password.filter (· != "") <;> rfl
      | some location =>
          cases trust.password.filter (· != "") <;> simp [Property.written_some, toString]
  | standard => cases trust.password.filter (· != "") <;> rfl

theorem properties_eq (c : Configuration) :
    properties c = (assigned (trustRows c.trust ++ otherRows c)).map Property.written := by
  rw [properties, trustProperties_eq, assigned_append, List.map_append, List.append_assoc,
    List.append_assoc]
  congr 1
  unfold otherRows
  cases c.trust.verifierClass with
  | none => cases c.trust.ignoreHostName <;> cases c.tool.useUrandom <;> rfl
  | some name =>
      cases c.trust.ignoreHostName <;> cases c.tool.useUrandom <;>
        simp [Property.written_some, toString]

variable (c : Configuration) (action : ToolAction) (name : String) (source : Option String)
  (target : String)

theorem trailing_eq : trailing c action name source target =
    action.option :: "-name" :: name :: (writtenOption "-source" source ++
      "-targets" :: target :: (writtenFlag "-upload" (action == .deploy) ++
        (writtenFlag "-debug" true ++
          writtenFlag "-remote" (action == .deploy && c.remoteMachine)))) := by
  unfold trailing
  cases source <;> cases action <;> cases c.remoteMachine <;> rfl

theorem arguments_build : (build c action name source target).arguments =
    (invocation c action name source target).written := by
  simp only [build, leading, properties_eq, trailing_eq]
  simp [Invocation.written, invocation, mainClass]

theorem isLegible_of_mem_assigned {rows : List (String × Option String)}
    (h : ∀ row ∈ rows, '=' ∉ row.1.toList) : ∀ p ∈ assigned rows, p.IsLegible := by
  intro p hp
  obtain ⟨⟨key, value?⟩, hrow, hvalue⟩ := List.mem_filterMap.1 hp
  obtain ⟨value, -, rfl⟩ := Option.map_eq_some_iff.1 hvalue
  exact h _ hrow

theorem isLegible_invocation : (invocation c action name source target).IsLegible := by
  have unread : Property.read? "weblogic.Deployer" = none := by decide
  refine ⟨isLegible_of_mem_assigned ?_, unread⟩
  simp [trustRows, otherRows]

theorem read_arguments : Invocation.read (build c action name source target).arguments =
    some (invocation c action name source target) :=
  Invocation.read_eq_some_iff.2
    ⟨arguments_build c action name source target, isLegible_invocation c action name source target⟩

/-- Another argument where the password stands is another password. -/
theorem set_password (password : String) :
    (build c action name source target).arguments.set
        (build c action name source target).passwordIndex password =
      (build { c with password } action name source target).arguments := by
  simp only [build, List.set_append_right, Nat.le_refl, Nat.sub_self, List.set_cons_zero]
  rfl

/-- The arguments of a command say what they are to say, and no others say the same. The password
stands at its index: another argument there is read as another password, and as nothing else. -/
theorem read_arguments_build (c : Configuration) (action : ToolAction) (name : String)
    (source : Option String) (target : String) :
    let command := build c action name source target
    let said := invocation c action name source target
    (∀ arguments, Invocation.read arguments = some said ↔ arguments = command.arguments) ∧
      command.arguments[command.passwordIndex]? = some c.password ∧
        ∀ password, Invocation.read (command.arguments.set command.passwordIndex password) =
          some { said with password } := by
  intro command said
  have hwritten : command.arguments = said.written := arguments_build c action name source target
  refine ⟨fun arguments => ?_, by simp [command, build], fun password => ?_⟩
  · rw [Invocation.read_eq_some_iff, hwritten]
    exact and_iff_left (isLegible_invocation c action name source target)
  · rw [set_password]
    exact read_arguments { c with password } action name source target

end ToolCommand

end DomainDeploy
