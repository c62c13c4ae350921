import DomainDeploy.Proofs.Dialogue
import DomainDeploy.Resolution

/-!
# Walks through the domain

Reading the domain is a walk from object to object, and a walk that succeeds has a dialogue that is
known turn by turn: which attribute was read of which object and what came back. Each lemma here
says for one part of the walk, and in both directions, which dialogues those are. The domain may
change between two turns, so nothing is said about an attribute that was not read, and an attribute
that was read twice may stand there with two readings.
-/

namespace DomainDeploy

open Program Activity

variable {d : Dialogue Outside} {object found : ObjectName} {name : String}

/-- Reading an attribute, with what came back. -/
abbrev look (object : ObjectName) (name : String) (reading : Reading) : Turn Outside :=
  ⟨.call (.get object name), .ok reading⟩

/-! ### Single steps -/

@[simp] theorem leadsTo_ofResult {α : Type} {r r' : Except DeployError α} :
    (ofResult r).run.LeadsTo d r' ↔ d = [] ∧ r = r' := Iff.rfl

@[simp] theorem leadsTo_log {level : LogLevel} {text : String} {r : Except DeployError Unit} :
    (Activity.note level text).run.LeadsTo d r ↔ d = [] ∧ .ok () = r := Iff.rfl

theorem leadsTo_log_bind {α : Type} {level : LogLevel} {text : String} {f : Unit → Activity α}
    {r : Except DeployError α} :
    (Activity.note level text >>= f).run.LeadsTo d r ↔ (f ()).run.LeadsTo d r := Iff.rfl

theorem leadsTo_call {c : Call} {r : Except DeployError Reading} :
    (call c).run.LeadsTo d r ↔ d = [⟨.call c, r⟩] := leadsTo_request (S := Outside)

/-- Reading an attribute as some kind of value. -/
theorem leadsTo_getAs {α : Type} {f : Reading → Except DeployError α} {a : α} :
    (get object name >>= fun reading => ofResult (f reading)).run.LeadsTo d (.ok a) ↔
      ∃ reading, f reading = .ok a ∧ d = [look object name reading] := by
  rw [leadsTo_bind_ok]
  constructor
  · intro h
    rcases h with ⟨_, reading, _, rfl, h, rfl, hread⟩
    obtain rfl := leadsTo_call.1 h
    exact ⟨reading, hread, rfl⟩
  · intro h
    rcases h with ⟨reading, hread, rfl⟩
    exact ⟨_, reading, [], rfl, leadsTo_call.2 rfl, rfl, hread⟩

theorem Reading.toText_eq_ok {r : Reading} {s : String} : r.toText = .ok s ↔ r = .text s := by
  cases r <;> simp [toText, refuse]

theorem leadsTo_getText {text : String} :
    (getText object name).run.LeadsTo d (.ok text) ↔ d = [look object name (.text text)] := by
  unfold getText
  rw [leadsTo_getAs]
  simp [Reading.toText_eq_ok]

theorem leadsTo_getReferences {objects : List ObjectName} :
    (getReferences object name).run.LeadsTo d (.ok objects) ↔
      ∃ listing : Reading, listing.toReferences = .ok objects ∧ d = [look object name listing] :=
  leadsTo_getAs

theorem Reading.toReference_eq_some {r : Reading} {found : ObjectName} :
    r.toReference = .ok (some found) ↔ r = .reference found := by
  cases r <;> simp [toReference, refuse]

theorem leadsTo_getReference :
    (getReference object name).run.LeadsTo d (.ok found) ↔
      d = [look object name (.reference found)] := by
  unfold getReference
  rw [leadsTo_bind_ok]
  constructor
  · intro h
    rcases h with ⟨d₁, reading, d₂, rfl, h₁, h₂⟩
    obtain rfl := leadsTo_call.1 h₁
    obtain ⟨_, read, d₃, rfl, ⟨rfl, hread⟩, h₃⟩ := leadsTo_bind_ok.1 h₂
    cases read with
    | none => cases h₃.2
    | some found' =>
        obtain ⟨rfl, h⟩ := h₃
        cases h
        rw [Reading.toReference_eq_some.1 hread]
        rfl
  · rintro rfl
    exact ⟨_, .reference found, [], rfl, leadsTo_call.2 rfl, rfl, rfl⟩

/-- When each item of a list gives one value, reading the list is reading the items one after the
other. -/
theorem leadsTo_readList {α β : Type} (readItem : α → Activity β)
    (readList : List α → Activity (List β)) {P : α → β → Prop} {turns : α → β → Dialogue Outside}
    (nil : readList [] = pure [])
    (cons : ∀ item rest, readList (item :: rest) =
      readItem item >>= fun value => readList rest >>= fun values => pure (value :: values))
    (item : ∀ a b d, (readItem a).run.LeadsTo d (.ok b) ↔ P a b ∧ d = turns a b)
    {items : List α} {values : List β} :
    (readList items).run.LeadsTo d (.ok values) ↔
      ∃ read : List (α × β), items = read.map (·.1) ∧ values = read.map (·.2) ∧
        (∀ p ∈ read, P p.1 p.2) ∧ d = read.flatMap fun p => turns p.1 p.2 := by
  induction items generalizing d values with
  | nil =>
      rw [nil]
      constructor
      · intro h
        rcases h with ⟨rfl, h⟩
        cases h
        exact ⟨[], rfl, rfl, by simp, rfl⟩
      · intro h
        rcases h with ⟨read, h, rfl, -, rfl⟩
        obtain rfl := List.map_eq_nil_iff.1 h.symm
        exact ⟨rfl, rfl⟩
  | cons a rest ih =>
      rw [cons, leadsTo_bind_ok]
      constructor
      · intro h
        rcases h with ⟨_, value, _, rfl, h₁, h₂⟩
        obtain ⟨hvalue, rfl⟩ := (item a value _).1 h₁
        obtain ⟨_, _, _, rfl, h₃, rfl, h₄⟩ := leadsTo_bind_ok.1 h₂
        cases h₄
        obtain ⟨read, rfl, rfl, hread, rfl⟩ := ih.1 h₃
        exact ⟨(a, value) :: read, rfl, rfl, List.forall_mem_cons.2 ⟨hvalue, hread⟩, by simp⟩
      · intro h
        rcases h with ⟨read, hitems, rfl, hread, rfl⟩
        cases read with
        | nil => cases hitems
        | cons p read =>
            obtain ⟨rfl, rfl⟩ := List.cons.inj hitems
            obtain ⟨hvalue, hrest⟩ := List.forall_mem_cons.1 hread
            refine ⟨_, p.2, _, rfl, (item p.1 p.2 _).2 ⟨hvalue, rfl⟩, leadsTo_bind_ok.2 ?_⟩
            exact ⟨_, _, [], (List.append_nil _).symm, ih.2 ⟨read, rfl, rfl, hrest, rfl⟩, rfl, rfl⟩

/-! ### Names -/

/-- Reading the names of objects, each with the name that came back. -/
def nameTurns (named : List (ObjectName × String)) : Dialogue Outside :=
  named.map fun (object, name) => look object "Name" (.text name)

@[simp] theorem nameTurns_nil : nameTurns [] = [] := rfl

@[simp] theorem nameTurns_cons (p : ObjectName × String) (named : List (ObjectName × String)) :
    nameTurns (p :: named) = look p.1 "Name" (.text p.2) :: nameTurns named := rfl

theorem leadsTo_firstNamed_cons {rest : List ObjectName} {r : Option ObjectName} :
    (firstNamed name (object :: rest)).run.LeadsTo d (.ok r) ↔
      ∃ text d', d = look object "Name" (.text text) :: d' ∧
        (text = name ∧ d' = [] ∧ r = some object ∨
          text ≠ name ∧ (firstNamed name rest).run.LeadsTo d' (.ok r)) := by
  rw [firstNamed, leadsTo_bind_ok]
  constructor
  · intro h
    rcases h with ⟨_, text, d', rfl, h₁, h₂⟩
    obtain rfl := leadsTo_getText.1 h₁
    refine ⟨text, d', rfl, ?_⟩
    by_cases htext : text = name
    · rw [if_pos (by simpa using htext)] at h₂
      obtain ⟨rfl, h⟩ := h₂
      cases h
      exact .inl ⟨htext, rfl, rfl⟩
    · rw [if_neg (by simpa using htext)] at h₂
      exact .inr ⟨htext, h₂⟩
  · intro h
    rcases h with ⟨text, d', rfl, h⟩
    refine ⟨_, text, d', rfl, leadsTo_getText.2 rfl, ?_⟩
    rcases h with ⟨htext, rfl, rfl⟩ | ⟨htext, h⟩
    · rw [if_pos (by simpa using htext)]
      exact ⟨rfl, rfl⟩
    · rw [if_neg (by simpa using htext)]
      exact h

/-- A search that finds an object has read other names before it and nothing behind it. -/
theorem leadsTo_firstNamed_some {objects : List ObjectName} :
    (firstNamed name objects).run.LeadsTo d (.ok (some found)) ↔
      ∃ passed rest, objects = passed.map (·.1) ++ found :: rest ∧ (∀ p ∈ passed, p.2 ≠ name) ∧
        d = nameTurns passed ++ [look found "Name" (.text name)] := by
  induction objects generalizing d with
  | nil =>
      constructor
      · intro h
        rcases h with ⟨-, h⟩
        cases h
      · intro h
        rcases h with ⟨passed, rest, h, -, -⟩
        simp at h
  | cons object rest ih =>
      rw [leadsTo_firstNamed_cons]
      constructor
      · intro h
        rcases h with ⟨text, d', rfl, ⟨rfl, rfl, h⟩ | ⟨htext, h⟩⟩
        · cases h
          exact ⟨[], rest, rfl, by simp, rfl⟩
        · obtain ⟨passed, rest', rfl, hpassed, rfl⟩ := ih.1 h
          exact ⟨(object, text) :: passed, rest', rfl, by simpa [htext] using hpassed, rfl⟩
      · intro h
        rcases h with ⟨passed, rest', hobjects, hpassed, rfl⟩
        cases passed with
        | nil =>
            obtain ⟨rfl, rfl⟩ := List.cons.inj hobjects
            exact ⟨name, [], rfl, .inl ⟨rfl, rfl, rfl⟩⟩
        | cons p passed =>
            obtain ⟨rfl, rfl⟩ := List.cons.inj hobjects
            exact ⟨p.2, _, rfl, .inr ⟨hpassed p (by simp),
              ih.2 ⟨passed, rest', rfl, fun q hq => hpassed q (by simp [hq]), rfl⟩⟩⟩

/-- A search that finds nothing has read a name of every object, and all are others. -/
theorem leadsTo_firstNamed_none {objects : List ObjectName} :
    (firstNamed name objects).run.LeadsTo d (.ok none) ↔
      ∃ passed, objects = passed.map (·.1) ∧ (∀ p ∈ passed, p.2 ≠ name) ∧
        d = nameTurns passed := by
  induction objects generalizing d with
  | nil =>
      constructor
      · intro h
        rcases h with ⟨rfl, -⟩
        exact ⟨[], rfl, by simp, rfl⟩
      · intro h
        rcases h with ⟨passed, h, -, rfl⟩
        obtain rfl := List.map_eq_nil_iff.1 h.symm
        exact ⟨rfl, rfl⟩
  | cons object rest ih =>
      rw [leadsTo_firstNamed_cons]
      constructor
      · intro h
        rcases h with ⟨text, d', rfl, ⟨-, -, h⟩ | ⟨htext, h⟩⟩
        · cases h
        · obtain ⟨passed, rfl, hpassed, rfl⟩ := ih.1 h
          exact ⟨(object, text) :: passed, rfl, by simpa [htext] using hpassed, rfl⟩
      · intro h
        rcases h with ⟨passed, hobjects, hpassed, rfl⟩
        cases passed with
        | nil => cases hobjects
        | cons p passed =>
            obtain ⟨rfl, rfl⟩ := List.cons.inj hobjects
            exact ⟨p.2, _, rfl, .inr ⟨hpassed p (by simp),
              ih.2 ⟨passed, rfl, fun q hq => hpassed q (by simp [hq]), rfl⟩⟩⟩

/-- A search through the objects that an attribute lists, with what it comes to. -/
inductive Search (holder : ObjectName) (links name : String) :
    Option ObjectName → Dialogue Outside → Prop
  /-- The first object of that name was found behind others. -/
  | found {listing : Reading} {passed : List (ObjectName × String)} {object : ObjectName}
      {rest : List ObjectName}
      (listed : listing.toReferences = .ok (passed.map (·.1) ++ object :: rest))
      (others : ∀ p ∈ passed, p.2 ≠ name) :
      Search holder links name (some object)
        (look holder links listing :: (nameTurns passed ++ [look object "Name" (.text name)]))
  /-- All objects have other names. -/
  | missed {listing : Reading} {passed : List (ObjectName × String)}
      (listed : listing.toReferences = .ok (passed.map (·.1)))
      (others : ∀ p ∈ passed, p.2 ≠ name) :
      Search holder links name none (look holder links listing :: nameTurns passed)

theorem leadsTo_search {holder : ObjectName} {links : String} {r : Option ObjectName} :
    (getReferences holder links >>= firstNamed name).run.LeadsTo d (.ok r) ↔
      Search holder links name r d := by
  rw [leadsTo_bind_ok]
  constructor
  · intro h
    rcases h with ⟨_, objects, d', rfl, h₁, h₂⟩
    obtain ⟨listing, hlisting, rfl⟩ := leadsTo_getReferences.1 h₁
    cases r with
    | none =>
        obtain ⟨passed, rfl, hpassed, rfl⟩ := leadsTo_firstNamed_none.1 h₂
        exact .missed hlisting hpassed
    | some object =>
        obtain ⟨passed, rest, rfl, hpassed, rfl⟩ := leadsTo_firstNamed_some.1 h₂
        exact .found hlisting hpassed
  · intro h
    rcases h with ⟨hlisting, hpassed⟩ | ⟨hlisting, hpassed⟩
    · exact ⟨_, _, _, rfl, leadsTo_getReferences.2 ⟨_, hlisting, rfl⟩,
        leadsTo_firstNamed_some.2 ⟨_, _, rfl, hpassed, rfl⟩⟩
    · exact ⟨_, _, _, rfl, leadsTo_getReferences.2 ⟨_, hlisting, rfl⟩,
        leadsTo_firstNamed_none.2 ⟨_, rfl, hpassed, rfl⟩⟩

theorem leadsTo_search_bind {α : Type} {holder : ObjectName} {links : String}
    {f : Option ObjectName → Activity α} {came : Except DeployError α} :
    (getReferences holder links >>= fun objects => firstNamed name objects >>= f).run.LeadsTo d
        came ↔
      (∃ e, came = .error e ∧
        (getReferences holder links >>= firstNamed name).run.LeadsTo d (.error e)) ∨
      ∃ d₁ r d₂, d = d₁ ++ d₂ ∧ Search holder links name r d₁ ∧ (f r).run.LeadsTo d₂ came := by
  rw [← bind_assoc, leadsTo_bind]
  simp only [leadsTo_search]

namespace Resolution

/-! ### Deployments and targets -/

theorem leadsTo_findDeployment {r : Option ObjectName} :
    (findDeployment name).run.LeadsTo d (.ok r) ↔
      ∃ domain d', d = look .root "DomainConfiguration" (.reference domain) :: d' ∧
        Search domain "AppDeployments" name r d' := by
  rw [findDeployment, leadsTo_bind_ok]
  constructor
  · intro h
    rcases h with ⟨_, domain, d', rfl, h₁, h₂⟩
    obtain rfl := leadsTo_getReference.1 h₁
    exact ⟨domain, d', rfl, leadsTo_search.1 h₂⟩
  · intro h
    rcases h with ⟨domain, d', rfl, h⟩
    exact ⟨_, domain, d', rfl, leadsTo_getReference.2 rfl, leadsTo_search.2 h⟩

theorem leadsTo_confirmAbsent {absent : Bool} :
    (confirmAbsent name).run.LeadsTo d (.ok absent) ↔
      ∃ r : Option ObjectName, (findDeployment name).run.LeadsTo d (.ok r) ∧ r.isNone = absent := by
  rw [confirmAbsent, leadsTo_bind_pure]
  constructor
  · intro h
    obtain ⟨first, h, hfirst⟩ := h
    obtain ⟨r, rfl, hr⟩ := map_eq_ok.1 hfirst
    exact ⟨r, h, hr⟩
  · intro h
    obtain ⟨r, h, hr⟩ := h
    exact ⟨.ok r, h, congrArg Except.ok hr⟩

theorem leadsTo_findTarget {deployment : ObjectName} {target : String} :
    (findTarget deployment name target).run.LeadsTo d (.ok object) ↔
      Search deployment "Targets" target (some object) d := by
  rw [findTarget, leadsTo_search_bind]
  constructor
  · intro h
    rcases h with ⟨e, he, -⟩ | ⟨d₁, r, d₂, rfl, h₁, h₂⟩
    · cases he
    · cases r with
      | none => cases h₂.2
      | some found =>
          obtain ⟨rfl, h₂⟩ := h₂
          cases h₂
          rw [List.append_nil]
          exact h₁
  · intro h
    exact .inr ⟨d, some object, [], by simp, h, rfl, rfl⟩

theorem leadsTo_namesOf {objects : List ObjectName} {names : List String} :
    (namesOf objects).run.LeadsTo d (.ok names) ↔
      ∃ named, objects = named.map (·.1) ∧ names = named.map (·.2) ∧ d = nameTurns named := by
  have hname : ∀ object name d, (getText object "Name").run.LeadsTo d (.ok name) ↔
      True ∧ d = [look object "Name" (.text name)] := by
    intro object name d
    rw [leadsTo_getText, true_and]
  rw [leadsTo_readList (getText · "Name") namesOf rfl (fun _ _ => rfl) hname]
  simp [nameTurns, List.map_eq_flatMap]

theorem leadsTo_clusterMembers {cluster : ObjectName} {names : List String} :
    (clusterMembers cluster).run.LeadsTo d (.ok names) ↔
      ∃ (listing : Reading) (named : List (ObjectName × String)),
        listing.toReferences = .ok (named.map (·.1)) ∧ names = named.map (·.2) ∧
          d = look cluster "Servers" listing :: nameTurns named := by
  rw [clusterMembers, leadsTo_bind_ok]
  constructor
  · intro h
    rcases h with ⟨_, objects, _, rfl, h₁, h₂⟩
    obtain ⟨listing, hlisting, rfl⟩ := leadsTo_getReferences.1 h₁
    obtain ⟨named, rfl, rfl, rfl⟩ := leadsTo_namesOf.1 h₂
    exact ⟨listing, named, hlisting, rfl, rfl⟩
  · intro h
    rcases h with ⟨listing, named, hlisting, rfl, rfl⟩
    exact ⟨_, _, _, rfl, leadsTo_getReferences.2 ⟨listing, hlisting, rfl⟩,
      leadsTo_namesOf.2 ⟨named, rfl, rfl, rfl⟩⟩

/-- Reading the servers that a server or a cluster stands for, with what it comes to. -/
inductive Membership (targetObject : ObjectName) (target : String) :
    List String → Dialogue Outside → Prop
  | server : Membership targetObject target [target] [look targetObject "Type" (.text "Server")]
  | cluster {listing : Reading} {named : List (ObjectName × String)}
      (listed : listing.toReferences = .ok (named.map (·.1))) :
      Membership targetObject target (named.map (·.2))
        (look targetObject "Type" (.text "Cluster") ::
          look targetObject "Servers" listing :: nameTurns named)

theorem ofText_eq_server {type : String} : TargetKind.ofText type = .server ↔ type = "Server" := by
  unfold TargetKind.ofText
  split <;> simp_all

theorem ofText_eq_cluster {type : String} :
    TargetKind.ofText type = .cluster ↔ type = "Cluster" := by
  unfold TargetKind.ofText
  split <;> simp_all

/-- A target of any other type stands for no server. -/
theorem leadsTo_membersOf {targetObject : ObjectName} {target : String} {members : List String} :
    (membersOf targetObject target).run.LeadsTo d (.ok members) ↔
      Membership targetObject target members d ∨
        ∃ type, TargetKind.ofText type = .other ∧ members = [] ∧
          d = [look targetObject "Type" (.text type)] := by
  rw [membersOf, leadsTo_bind_ok]
  constructor
  · intro h
    rcases h with ⟨_, type, d', rfl, h₁, h₂⟩
    obtain rfl := leadsTo_getText.1 h₁
    split at h₂
    next htype =>
      obtain ⟨rfl, h₂⟩ := h₂
      cases h₂
      rw [ofText_eq_server.1 htype]
      exact .inl .server
    next htype =>
      obtain ⟨listing, named, hlisting, rfl, rfl⟩ := leadsTo_clusterMembers.1 h₂
      rw [ofText_eq_cluster.1 htype]
      exact .inl (.cluster hlisting)
    next htype =>
      obtain ⟨rfl, h₂⟩ := h₂
      cases h₂
      exact .inr ⟨type, htype, rfl, rfl⟩
  · intro h
    rcases h with (_ | hlisting) | ⟨type, htype, rfl, rfl⟩
    · exact ⟨_, "Server", [], rfl, leadsTo_getText.2 rfl, rfl, rfl⟩
    · exact ⟨_, "Cluster", _, rfl, leadsTo_getText.2 rfl,
        leadsTo_clusterMembers.2 ⟨_, _, hlisting, rfl, rfl⟩⟩
    · refine ⟨_, type, [], rfl, leadsTo_getText.2 rfl, ?_⟩
      rw [htype]
      exact ⟨rfl, rfl⟩

/-! ### Servers -/

/-- Asking a server for its address, with what came back. -/
abbrev urlTurn (runtime : ObjectName) (reading : Reading) : Turn Outside :=
  ⟨.call (.invoke runtime "getURL" (.object [("protocol", .string "http")])), .ok reading⟩

/-- Reading a server, with what came back; the address is asked last, if it is asked. -/
def serverTurns (runtime : ObjectName) (server : ServerInstance) : Dialogue Outside :=
  look runtime "Name" (.text server.name) :: look runtime "State" (.text server.state) ::
    (server.baseUrl.map fun url => urlTurn runtime (.text url)).toList

theorem leadsTo_askUrl {runtime : ObjectName} {url : String} :
    (askUrl runtime).run.LeadsTo d (.ok url) ↔ d = [urlTurn runtime (.text url)] := by
  rw [askUrl, leadsTo_bind_ok]
  constructor
  · intro h
    rcases h with ⟨_, reading, _, rfl, h, rfl, hread⟩
    obtain rfl := leadsTo_call.1 h
    rw [Reading.toText_eq_ok.1 hread]
    rfl
  · rintro rfl
    exact ⟨_, .text url, [], rfl, leadsTo_call.2 rfl, rfl, rfl⟩

/-- An address is asked of running servers and of no others. -/
theorem leadsTo_readServer {runtime : ObjectName} {server : ServerInstance} :
    (readServer runtime).run.LeadsTo d (.ok server) ↔
      server.baseUrl.isSome = server.isRunning ∧ d = serverTurns runtime server := by
  rw [readServer, leadsTo_bind_ok]
  constructor
  · intro h
    rcases h with ⟨_, name, _, rfl, h₁, h₂⟩
    obtain rfl := leadsTo_getText.1 h₁
    obtain ⟨_, state, _, rfl, h₃, h₄⟩ := leadsTo_bind_ok.1 h₂
    obtain rfl := leadsTo_getText.1 h₃
    split at h₄
    next hstate =>
      obtain ⟨_, url, _, rfl, h₅, rfl, h₆⟩ := leadsTo_bind_ok.1 h₄
      obtain rfl := leadsTo_askUrl.1 h₅
      cases h₆
      exact ⟨hstate.symm, rfl⟩
    next hstate =>
      obtain ⟨rfl, h₄⟩ := h₄
      cases h₄
      exact ⟨(Bool.eq_false_iff.2 hstate).symm, rfl⟩
  · intro h
    rcases h with ⟨haddress, rfl⟩
    obtain ⟨name, state, url⟩ := server
    refine ⟨_, name, _, rfl, leadsTo_getText.2 rfl, leadsTo_bind_ok.2 ?_⟩
    refine ⟨_, state, _, rfl, leadsTo_getText.2 rfl, ?_⟩
    cases url with
    | none =>
        have hstate : ¬(state == ServerInstance.running) = true := Bool.eq_false_iff.1 haddress.symm
        rw [if_neg hstate]
        exact ⟨rfl, rfl⟩
    | some url =>
        have hstate : (state == ServerInstance.running) = true := haddress.symm
        rw [if_pos hstate]
        exact leadsTo_bind_ok.2 ⟨_, url, [], rfl, leadsTo_askUrl.2 rfl, rfl, rfl⟩

/-- Reading a server as one item of a list of them, together with its object. -/
theorem leadsTo_readServer_pair {runtime : ObjectName} {p : ObjectName × ServerInstance} :
    (readServer runtime >>= fun server => pure (runtime, server)).run.LeadsTo d (.ok p) ↔
      (p.1 = runtime ∧ p.2.baseUrl.isSome = p.2.isRunning) ∧ d = serverTurns p.1 p.2 := by
  rw [leadsTo_bind_pure]
  constructor
  · intro h
    obtain ⟨first, h, hp⟩ := h
    obtain ⟨server, rfl, rfl⟩ := map_eq_ok.1 hp
    obtain ⟨haddress, rfl⟩ := leadsTo_readServer.1 h
    exact ⟨⟨rfl, haddress⟩, rfl⟩
  · intro h
    rcases h with ⟨⟨rfl, haddress⟩, rfl⟩
    exact ⟨.ok p.2, leadsTo_readServer.2 ⟨haddress, rfl⟩, rfl⟩

theorem leadsTo_readServers {runtimes : List ObjectName}
    {servers : List (ObjectName × ServerInstance)} :
    (readServers runtimes).run.LeadsTo d (.ok servers) ↔
      runtimes = servers.map (·.1) ∧ (∀ p ∈ servers, p.2.baseUrl.isSome = p.2.isRunning) ∧
        d = servers.flatMap fun p => serverTurns p.1 p.2 := by
  have hcons : ∀ runtime rest, readServers (runtime :: rest) =
      (readServer runtime >>= fun server => pure (runtime, server)) >>= fun p =>
        readServers rest >>= fun servers => pure (p :: servers) := by
    intro runtime rest
    rw [bind_assoc]
    rfl
  rw [leadsTo_readList _ readServers rfl hcons fun _ _ _ => leadsTo_readServer_pair]
  constructor
  · intro h
    rcases h with ⟨read, rfl, rfl, hread, rfl⟩
    refine ⟨?_, ?_, ?_⟩
    · rw [List.map_map]
      exact List.map_congr_left fun p hp => (hread p hp).1.symm
    · intro q hq
      obtain ⟨p, hp, rfl⟩ := List.mem_map.1 hq
      exact (hread p hp).2
    · rw [List.flatMap_map]
  · intro h
    rcases h with ⟨rfl, haddresses, rfl⟩
    refine ⟨servers.map fun p => (p.1, p), ?_, ?_, ?_, ?_⟩
    · rw [List.map_map]
      rfl
    · rw [List.map_map]
      exact (List.map_id _).symm
    · intro q hq
      obtain ⟨p, hp, rfl⟩ := List.mem_map.1 hq
      exact ⟨rfl, haddresses p hp⟩
    · rw [List.flatMap_map]

/-- Reading the servers of the domain, with what it comes to. -/
inductive Roster : List (ObjectName × ServerInstance) → Dialogue Outside → Prop
  | read {listing : Reading} {servers : List (ObjectName × ServerInstance)}
      (listed : listing.toReferences = .ok (servers.map (·.1)))
      (addressed : ∀ p ∈ servers, p.2.baseUrl.isSome = p.2.isRunning) :
      Roster servers (look .root "ServerRuntimes" listing ::
        servers.flatMap fun p => serverTurns p.1 p.2)

theorem leadsTo_serverRuntimes {servers : List (ObjectName × ServerInstance)} :
    serverRuntimes.run.LeadsTo d (.ok servers) ↔ Roster servers d := by
  rw [serverRuntimes, leadsTo_bind_ok]
  constructor
  · intro h
    rcases h with ⟨_, runtimes, _, rfl, h₁, h₂⟩
    obtain ⟨listing, hlisting, rfl⟩ := leadsTo_getReferences.1 h₁
    obtain ⟨rfl, haddresses, rfl⟩ := leadsTo_readServers.1 h₂
    exact .read hlisting haddresses
  · intro h
    rcases h with ⟨hlisting, haddresses⟩
    exact ⟨_, _, _, rfl, leadsTo_getReferences.2 ⟨_, hlisting, rfl⟩,
      leadsTo_readServers.2 ⟨rfl, haddresses, rfl⟩⟩

/-- A server that runs and is one of the members. -/
def isRunningMember (members : List String) (p : ObjectName × ServerInstance) : Bool :=
  p.2.isRunning && members.contains p.2.name

theorem leadsTo_runningMember_some {members : List String} {p : ObjectName × ServerInstance} :
    (runningMember members).run.LeadsTo d (.ok (some p)) ↔
      members ≠ [] ∧ ∃ servers, Roster servers d ∧
        servers.find? (isRunningMember members) = some p := by
  unfold runningMember
  split
  next hmembers =>
    rw [List.isEmpty_iff] at hmembers
    simp [hmembers]
  next hmembers =>
    rw [List.isEmpty_iff] at hmembers
    rw [leadsTo_bind_ok]
    constructor
    · intro h
      rcases h with ⟨_, servers, _, rfl, h₁, rfl, h₂⟩
      refine ⟨hmembers, servers, ?_, Except.ok.inj h₂⟩
      simpa using leadsTo_serverRuntimes.1 h₁
    · intro h
      rcases h with ⟨-, servers, h, hfirst⟩
      exact ⟨d, servers, [], by simp, leadsTo_serverRuntimes.2 h, rfl, congrArg Except.ok hfirst⟩

end Resolution

end DomainDeploy
