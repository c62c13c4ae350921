import Mathlib.Logic.Function.Basic
import DomainDeploy.Proofs.Records
import DomainDeploy.Settings

/-!
# Settings by their fields

Settings are what their fields hold (`ofValues`), and what a text of settings says of a field is a
value of its kind in any of its spellings (`Kind.Spells`). An assignment gives values to some of the
fields. An object shows it when each of these fields is a member once and no other field is one,
whatever other members there are and wherever they all stand (`Assignment.Shows`); a list shows it
when it holds the values of the first fields in their order (`Assignment.Lists`). Either is read as
the settings with these values and the defaults elsewhere, and an object that holds a field twice is
refused (`parse_dependsOnFields`).
-/

namespace DomainDeploy.Settings

open Json

/-! ### Fields -/

/-- A kind of value that settings hold. -/
inductive Kind where
  | level | text | optionalText | strategy | flag | time
deriving DecidableEq, Repr

/-- The values of a kind. -/
def Kind.Value : Kind → Type
  | level => LogLevel
  | text => String
  | optionalText => Option String
  | strategy => SubmissionStrategy
  | flag => Bool
  | time => Nat

/-- The reader of a kind. -/
def Kind.reader : (kind : Kind) → Json.Reader kind.Value
  | level => Settings.level
  | text => Json.text
  | optionalText => Settings.optionalText
  | strategy => strategyName
  | flag => Json.flag
  | time => natural 64

/-- How a value of the kind may stand in a text. A level is a word for it in any letter case, and a
strategy is its name or an object that maps the name to null. -/
def Kind.Spells : (kind : Kind) → List Char → kind.Value → Prop
  | level, v, a => ∃ body word, v = quote body ∧ SpellsText body word.toList ∧
      LogLevel.ofText? word = some a
  | text, v, s => ∃ body, v = quote body ∧ SpellsText body (String.toList s)
  | optionalText, v, none => v = nullText
  | optionalText, v, some s => ∃ body, v = quote body ∧ SpellsText body (String.toList s)
  | strategy, v, a => (∃ body, v = quote body ∧ SpellsText body a.name.toList) ∨
      ∃ close m, v = objectText close [m] ∧ IsSpacing close ∧ m.IsSpaced ∧
        SpellsText m.name a.name.toList ∧ m.value = nullText
  | flag, v, b => v = flagWord b
  | time, v, (n : Nat) => IsWhole v ∧ Nat.ofDigitChars 10 v 0 = n ∧ n < Nat.pow 2 64

/-- A field of settings. -/
inductive Key where
  | logLevel | logDir | adminUrl | userName | password | target | managementUrl | home | archive
  | classPath | javaHome | strategy | demoTrust | customTrust | standardTrust | trustLocation
  | trustPassword | ignoreHostName | verifierClass | useUrandom | remoteMachine | deployTimeout
  | serverTimeout | toolTimeout | requestTimeout | logMessages
deriving DecidableEq, Repr

namespace Key

/-- The name of a field in a text, and the kind of its value. -/
def entry : Key → String × Kind
  | logLevel => ("log_level", .level)
  | logDir => ("log_dir", .optionalText)
  | adminUrl => ("admin_url", .text)
  | userName => ("admin_user_name", .text)
  | password => ("admin_password", .text)
  | target => ("target", .text)
  | managementUrl => ("management_url", .optionalText)
  | home => ("wl_home", .optionalText)
  | archive => ("weblogic_jar_path", .optionalText)
  | classPath => ("class_path", .optionalText)
  | javaHome => ("java_home", .optionalText)
  | strategy => ("submission_strategy", .strategy)
  | demoTrust => ("use_demo_trust", .flag)
  | customTrust => ("use_custom_trust", .flag)
  | standardTrust => ("use_java_standard_trust", .flag)
  | trustLocation => ("trust_store_location", .optionalText)
  | trustPassword => ("trust_store_password", .optionalText)
  | ignoreHostName => ("ignore_host_name_verification", .flag)
  | verifierClass => ("hostname_verifier_class", .optionalText)
  | useUrandom => ("use_urandom", .flag)
  | remoteMachine => ("remote_machine", .flag)
  | deployTimeout => ("deploy_timeout_secs", .time)
  | serverTimeout => ("server_timeout_secs", .time)
  | toolTimeout => ("tool_timeout_secs", .time)
  | requestTimeout => ("request_timeout_secs", .time)
  | logMessages => ("log_rest_messages", .flag)

/-- The name of a field in a text. -/
def name (k : Key) : String := k.entry.1

/-- The kind of a field's value. -/
def kind (k : Key) : Kind := k.entry.2

/-- The fields in the order of their declaration. -/
def all : List Key := [
  logLevel, logDir, adminUrl, userName, password, target, managementUrl, home, archive, classPath,
  javaHome, strategy, demoTrust, customTrust, standardTrust, trustLocation, trustPassword,
  ignoreHostName, verifierClass, useUrandom, remoteMachine, deployTimeout, serverTimeout,
  toolTimeout, requestTimeout, logMessages]

/-- The value of a field. -/
def get (s : Settings) : (k : Key) → k.kind.Value
  | logLevel => s.logLevel
  | logDir => s.logDir
  | adminUrl => s.adminUrl
  | userName => s.userName
  | password => s.password
  | target => s.target
  | managementUrl => s.managementUrl
  | home => s.home
  | archive => s.archive
  | classPath => s.classPath
  | javaHome => s.javaHome
  | strategy => s.strategy
  | demoTrust => s.demoTrust
  | customTrust => s.customTrust
  | standardTrust => s.standardTrust
  | trustLocation => s.trustLocation
  | trustPassword => s.trustPassword
  | ignoreHostName => s.ignoreHostName
  | verifierClass => s.verifierClass
  | useUrandom => s.useUrandom
  | remoteMachine => s.remoteMachine
  | deployTimeout => s.deployTimeout
  | serverTimeout => s.serverTimeout
  | toolTimeout => s.toolTimeout
  | requestTimeout => s.requestTimeout
  | logMessages => s.logMessages

end Key

/-- Settings whose fields hold the given values. -/
def ofValues (f : (k : Key) → k.kind.Value) : Settings where
  logLevel := f .logLevel
  logDir := f .logDir
  adminUrl := f .adminUrl
  userName := f .userName
  password := f .password
  target := f .target
  managementUrl := f .managementUrl
  home := f .home
  archive := f .archive
  classPath := f .classPath
  javaHome := f .javaHome
  strategy := f .strategy
  demoTrust := f .demoTrust
  customTrust := f .customTrust
  standardTrust := f .standardTrust
  trustLocation := f .trustLocation
  trustPassword := f .trustPassword
  ignoreHostName := f .ignoreHostName
  verifierClass := f .verifierClass
  useUrandom := f .useUrandom
  remoteMachine := f .remoteMachine
  deployTimeout := f .deployTimeout
  serverTimeout := f .serverTimeout
  toolTimeout := f .toolTimeout
  requestTimeout := f .requestTimeout
  logMessages := f .logMessages

theorem get_ofValues (f : (k : Key) → k.kind.Value) : Key.get (ofValues f) = f := by
  funext k
  cases k <;> rfl

theorem ofValues_get (s : Settings) : ofValues (Key.get s) = s := rfl

/-- Stores the value of a field. -/
def put (k : Key) (s : Settings) (a : k.kind.Value) : Settings :=
  ofValues (Function.update (Key.get s) k a)

theorem put_ofValues (k : Key) (f : (k : Key) → k.kind.Value) (a : k.kind.Value) :
    put k (ofValues f) a = ofValues (Function.update f k a) := by
  rw [put, get_ofValues]

theorem fields_eq : fields = Key.all.map fun k => field k.name k.kind.reader (put k) := rfl

theorem find?_name (k : Key) : Key.all.find? (·.name == k.name) = some k := by
  cases k <;> rfl

theorem name_injective {k k' : Key} (h : k.name = k'.name) : k = k' := by
  have found := find?_name k
  rw [h, find?_name] at found
  exact (Option.some.inj found).symm

theorem fieldNamed_name (k : Key) :
    fieldNamed fields k.name = some (field k.name k.kind.reader (put k)) := by
  rw [fieldNamed, fields_eq, List.find?_map]
  have found : Key.all.find? ((·.name == k.name) ∘ fun k => field k.name k.kind.reader (put k)) =
      some k := find?_name k
  rw [found, Option.map_some]

theorem fieldNamed_eq_none {name : String} (h : ∀ k : Key, k.name ≠ name) :
    fieldNamed fields name = none := by
  rw [fieldNamed, fields_eq, List.find?_eq_none]
  intro field hfield
  obtain ⟨k, -, rfl⟩ := List.mem_map.1 hfield
  exact fun same => h k (eq_of_beq same)

theorem required_eq_false {f : Json.Field Settings} (h : f ∈ fields) : f.required = false := by
  rw [fields_eq] at h
  obtain ⟨k, -, rfl⟩ := List.mem_map.1 h
  rfl

/-! ### Values of a kind -/

/-- A value is read from every spelling of it. -/
theorem reads_of_spells {kind : Kind} {v : List Char} {a : kind.Value} (h : kind.Spells v a) :
    Reads kind.reader v a := by
  cases kind with
  | level =>
      obtain ⟨body, word, rfl, spells, known⟩ := h
      intro space left hspace stops
      refine (reads_text spells space left hspace stops).bind ?_
      rw [known]
      exact takes_pure _ _
  | text =>
      obtain ⟨body, rfl, spells⟩ := h
      exact reads_text spells
  | optionalText =>
      cases a with
      | none =>
          obtain rfl := h
          exact reads_optional_none _
      | some s =>
          obtain ⟨body, rfl, spells⟩ := h
          exact reads_optional_text spells
  | strategy =>
      have known : List.lookup a.name [("process", SubmissionStrategy.process), ("rest", .rest)] =
          some a := by
        cases a <;> rfl
      obtain ⟨body, rfl, spells⟩ | ⟨close, m, rfl, hclose, spaced, spells, null⟩ := h
      · exact reads_choice spells known
      · exact reads_choice_object hclose spaced spells null known
  | flag =>
      obtain rfl := h
      exact reads_flag a
  | time =>
      obtain ⟨whole, value, fits⟩ := h
      exact reads_natural whole value fits (Nat.le_refl _)

theorem keepsWithin_reader {v : List Char} (kind : Kind) (h : IsValue v) :
    KeepsWithin kind.reader v := by
  cases kind with
  | level =>
      intro space left hspace stops
      refine (keepsWithin_textAs h _ space left hspace stops).bind fun word => ?_
      split
      · exact (takes_pure _ _).ends
      · exact (yields_failLater _).ends _ _
  | text => exact keepsWithin_textAs h _
  | optionalText => exact keepsWithin_optional h (keepsWithin_textAs h _)
  | strategy => exact keepsWithin_choice h
  | flag => exact keepsWithin_flag h
  | time => exact keepsWithin_natural h 64

theorem isValue_of_spells {kind : Kind} {v : List Char} {a : kind.Value} (h : kind.Spells v a) :
    IsValue v := by
  cases kind with
  | level =>
      obtain ⟨body, word, rfl, spells, -⟩ := h
      exact .text spells.isTextBody
  | text =>
      obtain ⟨body, rfl, spells⟩ := h
      exact .text spells.isTextBody
  | optionalText =>
      cases a with
      | none =>
          obtain rfl := h
          exact .nullWord
      | some s =>
          obtain ⟨body, rfl, spells⟩ := h
          exact .text spells.isTextBody
  | strategy =>
      obtain ⟨body, rfl, spells⟩ | ⟨close, m, rfl, hclose, spaced, spells, null⟩ := h
      · exact .text spells.isTextBody
      · have value : IsValue m.value := null ▸ .nullWord
        exact .object hclose (by simpa using spaced) (by simpa using spells.isTextBody)
          (by simpa using value)
  | flag =>
      obtain rfl := h
      cases a
      · exact .falseWord
      · exact .trueWord
  | time => exact .unsigned (by simpa using IsUnsigned.mk h.1 .none .none)

/-! ### Assignments -/

/-- Values for some of the fields. -/
abbrev Assignment := (k : Key) → Option k.kind.Value

namespace Assignment

/-- The settings with the given values, and the defaults elsewhere. -/
def settings (a : Assignment) : Settings := ofValues fun k => (a k).getD (Key.get {} k)

/-- An object shows an assignment: a field with a value is a member once, and a field without one
is none. -/
def Shows (a : Assignment) (members : List (String × Member)) : Prop :=
  ∀ k, List.Forall₂ (fun value m => k.kind.Spells m.2.value value) (a k).toList
    (members.filter (·.1 == k.name))

/-- A list shows an assignment: its items are the values of the first fields in their order. -/
structure Lists (a : Assignment) (n : Nat) (items : List Item) : Prop where
  spaced : ∀ i ∈ items, i.IsSpaced
  values : List.Forall₂ (fun k i => ∃ value, a k = some value ∧ k.kind.Spells i.value value)
    (Key.all.take n) items
  others : ∀ k, (a k).isSome → k ∈ Key.all.take n

variable {a : Assignment} {n : Nat} {items : List Item} {members : List (String × Member)}

theorem get_settings (a : Assignment) (k : Key) :
    Key.get a.settings k = (a k).getD (Key.get {} k) := by
  rw [settings, get_ofValues]

/-- A value may be put before the others are, which are put over the defaults. -/
theorem getD_update {k : Key} {value : k.kind.Value} (h : a k = some value)
    (f : (k : Key) → k.kind.Value) :
    (fun k' => (Function.update a k none k').getD (Function.update f k value k')) =
      fun k' => (a k').getD (f k') := by
  funext k'
  by_cases same : k' = k
  · subst same
    simp [h]
  · simp [same]

/-- Without members there is nothing to show. -/
theorem Shows.eq_none (h : a.Shows []) (k : Key) : a k = none := by
  have shown := h k
  cases hvalue : a k with
  | none => rfl
  | some value =>
      rw [hvalue] at shown
      cases shown

/-- Once the value of a field has been read, the other members show the other fields. -/
theorem Shows.of_cons {k : Key} {m : Member} (h : a.Shows ((k.name, m) :: members)) :
    ∃ value, a k = some value ∧ k.kind.Spells m.value value ∧
      Shows (Function.update a k none) members := by
  have first := h k
  rw [List.filter_cons_of_pos (by simp)] at first
  cases hvalue : a k with
  | none =>
      rw [hvalue] at first
      cases first
  | some value =>
      rw [hvalue] at first
      obtain ⟨spells, none⟩ := List.forall₂_cons.1 first
      refine ⟨value, rfl, spells, fun k' => ?_⟩
      by_cases same : k' = k
      · subst same
        rwa [Function.update_self]
      · have other : ¬ ((k.name, m).1 == k'.name) = true := by
          simpa using fun same' => same (name_injective same').symm
        have later := h k'
        rw [List.filter_cons, if_neg other] at later
        rwa [Function.update_of_ne same]

/-- Members of other names show nothing. -/
theorem Shows.of_foreign {name : String} {m : Member} (foreign : ∀ k : Key, k.name ≠ name)
    (h : a.Shows ((name, m) :: members)) : a.Shows members := by
  intro k
  have later := h k
  rwa [List.filter_cons_of_neg (by simpa using Ne.symm (foreign k))] at later

/-- An object that shows an assignment fills the settings with it, from any settings on. -/
theorem Shows.fills (h : a.Shows members) {seen : List String}
    (fresh : ∀ k, (a k).isSome → k.name ∉ seen) (f : (k : Key) → k.kind.Value) :
    Fills fields seen (ofValues f) members (ofValues fun k => (a k).getD (f k)) := by
  induction members generalizing a seen f with
  | nil =>
      simp only [h.eq_none, Option.getD_none]
      exact .nil fun field hfield required => by
        rw [required_eq_false hfield] at required
        cases required
  | cons head members ih =>
      obtain ⟨name, m⟩ := head
      by_cases known : ∃ k : Key, k.name = name
      · obtain ⟨k, rfl⟩ := known
        obtain ⟨value, hvalue, spells, later⟩ := h.of_cons
        have fresh' : ∀ k', (Function.update a k none k').isSome → k'.name ∉ k.name :: seen := by
          intro k' hk'
          by_cases same : k' = k
          · rw [same, Function.update_self] at hk'
            cases hk'
          · rw [Function.update_of_ne same] at hk'
            have other : k'.name ≠ k.name := fun same' => same (name_injective same')
            simp [other, fresh k' hk']
        have filled := ih later fresh' (Function.update f k value)
        rw [getD_update hvalue, ← put_ofValues] at filled
        exact .known (fieldNamed_name k) (fresh k (by simp [hvalue]))
          ((reads_of_spells spells).map fun v s => put k s v) filled
      · have foreign := not_exists.1 known
        exact .foreign (fieldNamed_eq_none foreign) (ih (h.of_foreign foreign) fresh f)

/-- The values of some fields in a row fill the settings with them, from any settings on. -/
theorem fillsInOrder {ks : List Key} (ks' : List Key) (spaced : ∀ i ∈ items, i.IsSpaced)
    (values : List.Forall₂ (fun k i => ∃ value, a k = some value ∧ k.kind.Spells i.value value)
      ks items) (f : (k : Key) → k.kind.Value) :
    FillsInOrder ((ks ++ ks').map fun k => field k.name k.kind.reader (put k)) (ofValues f) items
      (ofValues fun k => if k ∈ ks then (a k).getD (f k) else f k) := by
  induction values generalizing f with
  | nil =>
      refine .nil fun field hfield => ?_
      obtain ⟨k, -, rfl⟩ := List.mem_map.1 hfield
      rfl
  | @cons k i ks items head later ih =>
      obtain ⟨value, hvalue, spells⟩ := head
      obtain ⟨head_spaced, spaced⟩ := List.forall_mem_cons.1 spaced
      have settled : (fun k' => if k' ∈ ks then (a k').getD (Function.update f k value k') else
            Function.update f k value k') =
          fun k' => if k' ∈ k :: ks then (a k').getD (f k') else f k' := by
        funext k'
        by_cases same : k' = k
        · subst same
          simp [hvalue]
        · simp [same]
      have filled := ih spaced (Function.update f k value)
      rw [settled, ← put_ofValues] at filled
      exact .cons ⟨head_spaced, isValue_of_spells spells,
        (reads_of_spells spells).map fun v s => put k s v⟩ filled

theorem Lists.fillsInOrder (h : a.Lists n items) : FillsInOrder fields {} items a.settings := by
  have filled := Assignment.fillsInOrder (Key.all.drop n) h.spaced h.values (Key.get {})
  rw [List.take_append_drop, ← fields_eq, ofValues_get] at filled
  have settled : (fun k => if k ∈ Key.all.take n then (a k).getD (Key.get {} k) else Key.get {} k) =
      fun k => (a k).getD (Key.get {} k) := by
    funext k
    split
    next => rfl
    next other =>
      have none : a k = none := by simpa using mt (h.others k) other
      rw [none, Option.getD_none]
  rwa [settled] at filled

variable {lead close trail : List Char}

theorem parse_of_shows (h : a.Shows members) (named : ∀ m ∈ members, m.2.IsNamed m.1)
    (hlead : IsSpacing lead) (hclose : IsSpacing close) (htrail : IsSpacing trail) :
    parse (String.ofList (lead ++ (objectText close (members.map Prod.snd) ++ trail))) =
      .ok a.settings := by
  have unseen : ∀ k, (a k).isSome → k.name ∉ ([] : List String) := fun _ _ => List.not_mem_nil
  have taken := takes_record_object (h.fills unseen (Key.get {})) named hclose hlead "Settings" []
  rw [List.append_nil] at taken
  rw [← List.append_assoc]
  exact readText_of_takes taken htrail

theorem parse_of_lists (h : a.Lists n items) (hlead : IsSpacing lead) (hclose : IsSpacing close)
    (htrail : IsSpacing trail) :
    parse (String.ofList (lead ++ (listText close items ++ trail))) = .ok a.settings := by
  have taken := takes_record_list h.fillsInOrder hclose hlead "Settings" []
  rw [List.append_nil] at taken
  rw [← List.append_assoc]
  exact readText_of_takes taken htrail

end Assignment

/-- A field that occurs twice is refused, wherever it stands and whatever values it has. -/
theorem exists_parse_of_twice {members : List (String × Member)} {k : Key}
    (twice : 2 ≤ (members.map Prod.fst).count k.name) (named : ∀ m ∈ members, m.2.IsNamed m.1)
    {lead close : List Char} (hlead : IsSpacing lead) (hclose : IsSpacing close)
    (trail : List Char) : ∃ fault,
      parse (String.ofList (lead ++ (objectText close (members.map Prod.snd) ++ trail))) =
        .error fault := by
  have keeps : ∀ f ∈ fields, ∀ v, IsValue v → KeepsWithin f.read v := by
    intro f hf v hv
    rw [fields_eq] at hf
    obtain ⟨k, -, rfl⟩ := List.mem_map.1 hf
    exact (keepsWithin_reader k.kind hv).map fun v s => put k s v
  have refused : Refuses (record "Settings" ({} : Settings) fields) _ :=
    refuses_record_object keeps (by rw [fieldNamed_name]; rfl) twice named hclose hlead
      "Settings" []
  rw [List.append_nil] at refused
  rw [← List.append_assoc]
  exact exists_readText_of_refuses refused trail

/-- Settings hang on the fields alone, not on how they are laid out. -/
theorem parse_dependsOnFields (a : Assignment) {lead close trail : List Char}
    (hlead : IsSpacing lead) (hclose : IsSpacing close) (htrail : IsSpacing trail) :
    (∀ k, Key.get a.settings k = (a k).getD (Key.get {} k)) ∧
    (∀ members : List (String × Member), (∀ m ∈ members, m.2.IsNamed m.1) → a.Shows members →
      parse (String.ofList (lead ++ (objectText close (members.map Prod.snd) ++ trail))) =
        .ok a.settings) ∧
    (∀ (members : List (String × Member)) (k : Key), (∀ m ∈ members, m.2.IsNamed m.1) →
      2 ≤ (members.map Prod.fst).count k.name → ∃ fault,
        parse (String.ofList (lead ++ (objectText close (members.map Prod.snd) ++ trail))) =
          .error fault) ∧
    ∀ n items, a.Lists n items →
      parse (String.ofList (lead ++ (listText close items ++ trail))) = .ok a.settings := by
  refine ⟨a.get_settings, fun members named shown => ?_, fun members k named twice => ?_,
    fun n items listed => ?_⟩
  · exact Assignment.parse_of_shows shown named hlead hclose htrail
  · exact exists_parse_of_twice twice named hlead hclose trail
  · exact Assignment.parse_of_lists listed hlead hclose htrail

/-- A level, and no directory for log files. -/
def quietAssignment : Assignment
  | .logLevel => some .warn
  | .logDir => some none
  | _ => none

/-- A member without white space around it. -/
def plainMember (name : String) (value : List Char) : String × Member :=
  (name, ⟨[], name.toList.flatMap escapeChar, [], [], value, []⟩)

theorem isNamed_plainMember (name : String) {value : List Char} (h : IsValue value) :
    (plainMember name value).2.IsNamed (plainMember name value).1 :=
  ⟨⟨isSpacing_nil, isSpacing_nil, isSpacing_nil, isSpacing_nil⟩, spells_escapeChar _, h⟩

/-- A level in capitals. -/
def capitalLevel : List Char := quote ("WARN".toList.flatMap escapeChar)

theorem spells_capitalLevel : Kind.Spells .level capitalLevel LogLevel.warn := by
  have known : LogLevel.ofText? "WARN" = some .warn := by decide +kernel
  exact ⟨_, "WARN", rfl, spells_escapeChar _, known⟩

/-- The two fields behind a member of another name, the second field twice, and a list of both. -/
theorem parse_dependsOnFields_quiet :
    parse (String.ofList (objectText [] ([plainMember "x" ['[', '1', ']'],
      plainMember "log_dir" nullText, plainMember "log_level" capitalLevel].map Prod.snd))) =
        .ok { logLevel := .warn } ∧
    (∃ fault, parse (String.ofList (objectText [] ([plainMember "log_dir" nullText,
      plainMember "log_dir" nullText].map Prod.snd))) = .error fault) ∧
    parse (String.ofList (listText [] [⟨[], capitalLevel, []⟩, ⟨[], nullText, []⟩])) =
      .ok { logLevel := .warn } := by
  obtain ⟨-, object, twice, list⟩ := parse_dependsOnFields quietAssignment isSpacing_nil
    isSpacing_nil isSpacing_nil
  simp only [List.nil_append, List.append_nil] at object twice list
  have whole : IsWhole ['1'] := .digits rfl (by decide) (fun _ h => by cases h)
  have number : IsValue ['1'] := .unsigned (by simpa using IsUnsigned.mk whole .none .none)
  have foreign : IsValue (listText [] [⟨[], ['1'], []⟩]) :=
    .list isSpacing_nil (by simpa using ⟨isSpacing_nil, isSpacing_nil⟩) (by simpa using number)
  have level := spells_capitalLevel
  have named := isNamed_plainMember "log_level" (isValue_of_spells level)
  have named' := isNamed_plainMember "log_dir" .nullWord
  refine ⟨object _ ?_ fun k => ?_, twice _ .logDir ?_ (by decide),
    list 2 _ ⟨?_, ?_, fun k hk => ?_⟩⟩
  · simp only [List.forall_mem_cons]
    exact ⟨isNamed_plainMember "x" foreign, named', named, nofun⟩
  · cases k with
    | logLevel => exact .cons level .nil
    | logDir => exact .cons rfl .nil
    | _ => exact .nil
  · simp only [List.forall_mem_cons]
    exact ⟨named', named', nofun⟩
  · simp only [List.forall_mem_cons]
    exact ⟨⟨isSpacing_nil, isSpacing_nil⟩, ⟨isSpacing_nil, isSpacing_nil⟩, nofun⟩
  · exact .cons ⟨_, rfl, level⟩ (.cons ⟨_, rfl, rfl⟩ .nil)
  · cases k with
    | logLevel => decide
    | logDir => decide
    | _ => cases hk

end DomainDeploy.Settings
