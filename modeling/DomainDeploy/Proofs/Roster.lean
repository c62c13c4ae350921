import DomainDeploy.Proofs.Walk
import DomainDeploy.Rehearsal.Basic

/-!
# Listing the servers

The servers of a domain are listed by reading one after the other, in the order in which the domain
names their runtime objects: name, state, and the address of those that run. `Roster` says which
dialogues lead to a list, and `BrokenRoster` which ones lead to an error; between them they are all
that can happen (`leadsTo_listServers`, `leadsTo_listServers_error`).

Both are told turn by turn, so what a maintainer asks of a list is read off them. An address is
asked once for each server that was read as running and of no other, also where reading breaks off
(`AsksRunning`), and a reply that is not what was wanted is the last one that there is
(`SpoiltAtLast.ends`). `listServers_isComplete` says so of every run, whatever the domain replies
and however it changes meanwhile.
-/

namespace DomainDeploy

open Program Activity

/-! ### Replies that lack a value -/

/-- A reply from which no value is read, with the error that is told of it: the call failed, or
the answer is of another kind than the wanted one. -/
inductive Lacks {α : Type} (wanted : ValueKind) (f : Reading → Except DeployError α) :
    Except DeployError Reading → DeployError → Prop
  | failed (e : DeployError) : Lacks wanted f (.error e) e
  | otherKind {reading : Reading} (other : ∀ a, f reading ≠ .ok a) :
      Lacks wanted f (.ok reading) (.protocol (.wrongKind wanted reading.kind))

/-- No text is read from the reply. -/
abbrev LacksText : Except DeployError Reading → DeployError → Prop := Lacks .text Reading.toText

/-- No list of references is read from the reply. -/
abbrev LacksReferences : Except DeployError Reading → DeployError → Prop :=
  Lacks .references Reading.toReferences

section

variable {α : Type} {wanted : ValueKind} {f : Reading → Except DeployError α}
  {reply : Except DeployError Reading} {d : Dialogue Outside} {e e' : DeployError}

theorem Lacks.unique (h : Lacks wanted f reply e) (h' : Lacks wanted f reply e') : e = e' := by
  cases h <;> cases h' <;> rfl

theorem not_lacksText_text (text : String) : ¬LacksText (.ok (.text text)) e := by
  intro h
  cases h with
  | otherKind other => exact other text rfl

theorem not_lacksReferences {reading : Reading} {objects : List ObjectName}
    (h : reading.toReferences = .ok objects) : ¬LacksReferences (.ok reading) e := by
  intro lacks
  cases lacks with
  | otherKind other => exact other objects h

/-- What is refused is refused for its kind. -/
def RefusesKind (wanted : ValueKind) (f : Reading → Except DeployError α) : Prop :=
  ∀ reading e, f reading = .error e → e = .protocol (.wrongKind wanted reading.kind)

theorem refusesKind_toText : RefusesKind .text Reading.toText := by
  intro reading e h
  cases reading <;> cases h <;> rfl

theorem refusesKind_toReferences : RefusesKind .references Reading.toReferences := by
  intro reading e h
  cases reading <;> cases h <;> rfl

/-- A call whose answer is wanted as some kind of value fails when its reply lacks one. -/
theorem leadsTo_callAs_error (hf : RefusesKind wanted f) {c : Call} :
    (call c >>= fun reading => ofResult (f reading)).run.LeadsTo d (.error e) ↔
      ∃ reply, Lacks wanted f reply e ∧ d = [⟨.call c, reply⟩] := by
  rw [leadsTo_bind_error]
  constructor
  · intro h
    rcases h with h | ⟨_, reading, _, rfl, h, rfl, hread⟩
    · exact ⟨_, .failed e, leadsTo_call.1 h⟩
    · obtain rfl := leadsTo_call.1 h
      have other : ∀ a, f reading ≠ .ok a := fun a ha => nomatch ha.symm.trans hread
      rw [hf reading e hread]
      exact ⟨_, .otherKind other, rfl⟩
  · intro h
    obtain ⟨reply, lacks, rfl⟩ := h
    cases lacks with
    | failed => exact .inl (leadsTo_call.2 rfl)
    | @otherKind reading other =>
        refine .inr ⟨_, reading, [], rfl, leadsTo_call.2 rfl, rfl, ?_⟩
        cases hread : f reading with
        | ok a => exact (other a hread).elim
        | error e' => rw [hf reading e' hread]

theorem leadsTo_getText_error {object : ObjectName} {name : String} :
    (getText object name).run.LeadsTo d (.error e) ↔
      ∃ reply, LacksText reply e ∧ d = [⟨.call (.get object name), reply⟩] :=
  leadsTo_callAs_error refusesKind_toText

theorem leadsTo_getReferences_error {object : ObjectName} {name : String} :
    (getReferences object name).run.LeadsTo d (.error e) ↔
      ∃ reply, LacksReferences reply e ∧ d = [⟨.call (.get object name), reply⟩] :=
  leadsTo_callAs_error refusesKind_toReferences

end

namespace Resolution

variable {d : Dialogue Outside} {e e' : DeployError} {runtime : ObjectName}

/-! ### Servers that cannot be read -/

/-- Asking a server for its address. -/
abbrev urlCall (runtime : ObjectName) : Call :=
  .invoke runtime "getURL" (.object [("protocol", .string "http")])

/-- Reading a server up to the reply from which no text is read. -/
inductive BrokenServer (runtime : ObjectName) (e : DeployError) : Dialogue Outside → Prop
  | name {reply : Except DeployError Reading} (lacks : LacksText reply e) :
      BrokenServer runtime e [⟨.call (.get runtime "Name"), reply⟩]
  | state {name : String} {reply : Except DeployError Reading} (lacks : LacksText reply e) :
      BrokenServer runtime e
        [look runtime "Name" (.text name), ⟨.call (.get runtime "State"), reply⟩]
  | address {name : String} {reply : Except DeployError Reading} (lacks : LacksText reply e) :
      BrokenServer runtime e
        [look runtime "Name" (.text name), look runtime "State" (.text ServerInstance.running),
          ⟨.call (urlCall runtime), reply⟩]

theorem leadsTo_askUrl_error :
    (askUrl runtime).run.LeadsTo d (.error e) ↔
      ∃ reply, LacksText reply e ∧ d = [⟨.call (urlCall runtime), reply⟩] :=
  leadsTo_callAs_error refusesKind_toText

theorem leadsTo_readServer_error :
    (readServer runtime).run.LeadsTo d (.error e) ↔ BrokenServer runtime e d := by
  rw [readServer, leadsTo_bind_error]
  constructor
  · intro h
    rcases h with hname | ⟨_, name, _, rfl, hname, behindName⟩
    · obtain ⟨reply, lacks, rfl⟩ := leadsTo_getText_error.1 hname
      exact .name lacks
    obtain rfl := leadsTo_getText.1 hname
    rcases leadsTo_bind_error.1 behindName with hstate | ⟨_, state, _, rfl, hstate, behindState⟩
    · obtain ⟨reply, lacks, rfl⟩ := leadsTo_getText_error.1 hstate
      exact .state lacks
    obtain rfl := leadsTo_getText.1 hstate
    split at behindState
    next running =>
      obtain ⟨first, haddress, hfirst⟩ := leadsTo_bind_pure.1 behindState
      obtain rfl := map_eq_error.1 hfirst
      obtain ⟨reply, lacks, rfl⟩ := leadsTo_askUrl_error.1 haddress
      rw [eq_of_beq running]
      exact .address lacks
    next => cases behindState.2
  · intro h
    cases h with
    | name lacks => exact .inl (leadsTo_getText_error.2 ⟨_, lacks, rfl⟩)
    | @state name _ lacks =>
        refine .inr ⟨_, name, _, rfl, leadsTo_getText.2 rfl, leadsTo_bind_error.2 (.inl ?_)⟩
        exact leadsTo_getText_error.2 ⟨_, lacks, rfl⟩
    | @address name _ lacks =>
        refine .inr ⟨_, name, _, rfl, leadsTo_getText.2 rfl, leadsTo_bind_error.2 (.inr ?_)⟩
        refine ⟨_, ServerInstance.running, _, rfl, leadsTo_getText.2 rfl, ?_⟩
        rw [if_pos (beq_self_eq_true _), leadsTo_bind_error]
        exact .inl (leadsTo_askUrl_error.2 ⟨_, lacks, rfl⟩)

/-! ### Lists that break off -/

/-- Each of the servers was read to its end: those that run have an address, and no others. -/
def Addressed (servers : List (ObjectName × ServerInstance)) : Prop :=
  ∀ p ∈ servers, p.2.baseUrl.isSome = p.2.isRunning

/-- Reading servers one after the other. -/
def rosterTurns (servers : List (ObjectName × ServerInstance)) : Dialogue Outside :=
  servers.flatMap fun p => serverTurns p.1 p.2

/-- Reading stops within one server, behind others that were read and before others that are not
read any more. -/
theorem leadsTo_readServers_error {runtimes : List ObjectName} :
    (readServers runtimes).run.LeadsTo d (.error e) ↔
      ∃ servers runtime rest broken, runtimes = servers.map (·.1) ++ runtime :: rest ∧
        Addressed servers ∧ BrokenServer runtime e broken ∧ d = rosterTurns servers ++ broken := by
  -- the server that cannot be read is the first one, or one of those behind it
  induction runtimes generalizing d with
  | nil =>
      constructor
      · intro h
        cases h.2
      · intro h
        obtain ⟨servers, runtime, rest, _, h, -⟩ := h
        simp at h
  | cons first others ih =>
      rw [readServers, leadsTo_bind_error]
      constructor
      · intro h
        rcases h with h | ⟨_, server, _, rfl, hserver, h⟩
        · exact ⟨[], first, others, d, rfl, nofun, leadsTo_readServer_error.1 h, rfl⟩
        · obtain ⟨addressed, rfl⟩ := leadsTo_readServer.1 hserver
          obtain ⟨came, h, hcame⟩ := leadsTo_bind_pure.1 h
          obtain rfl := map_eq_error.1 hcame
          obtain ⟨servers, runtime, rest, broken, rfl, hservers, hbroken, rfl⟩ := ih.1 h
          refine ⟨(first, server) :: servers, runtime, rest, broken, rfl,
            List.forall_mem_cons.2 ⟨addressed, hservers⟩, hbroken, ?_⟩
          simp [rosterTurns]
      · intro h
        obtain ⟨servers, runtime, rest, broken, hruntimes, hservers, hbroken, rfl⟩ := h
        cases servers with
        | nil =>
            obtain ⟨rfl, rfl⟩ := List.cons.inj hruntimes
            exact .inl (leadsTo_readServer_error.2 hbroken)
        | cons p servers =>
            obtain ⟨rfl, rfl⟩ := List.cons.inj hruntimes
            obtain ⟨addressed, hservers⟩ := List.forall_mem_cons.1 hservers
            refine .inr ⟨serverTurns p.1 p.2, p.2, rosterTurns servers ++ broken, ?_,
              leadsTo_readServer.2 ⟨addressed, rfl⟩, leadsTo_bind_pure.2 ⟨.error e, ?_, rfl⟩⟩
            · simp [rosterTurns]
            · exact ih.2 ⟨servers, runtime, rest, broken, rfl, hservers, hbroken, rfl⟩

/-- Reading the servers of the domain up to the reply that lacks a value. -/
inductive BrokenRoster (e : DeployError) : Dialogue Outside → Prop
  /-- The domain does not tell which servers there are. -/
  | unlisted {reply : Except DeployError Reading} (lacks : LacksReferences reply e) :
      BrokenRoster e [⟨.call (.get .root "ServerRuntimes"), reply⟩]
  /-- Servers were read, but not the one behind them. -/
  | unread {listing : Reading} {servers : List (ObjectName × ServerInstance)}
      {runtime : ObjectName} {rest : List ObjectName} {broken : Dialogue Outside}
      (listed : listing.toReferences = .ok (servers.map (·.1) ++ runtime :: rest))
      (addressed : Addressed servers) (brokenOff : BrokenServer runtime e broken) :
      BrokenRoster e
        (look .root "ServerRuntimes" listing :: (rosterTurns servers ++ broken))

theorem leadsTo_listServers {servers : List ServerInstance} :
    listServers.run.LeadsTo d (.ok servers) ↔
      ∃ read, Roster read d ∧ servers = read.map (·.2) := by
  rw [listServers, leadsTo_bind_pure]
  constructor
  · intro h
    obtain ⟨first, h, hfirst⟩ := h
    obtain ⟨read, rfl, rfl⟩ := map_eq_ok.1 hfirst
    exact ⟨read, leadsTo_serverRuntimes.1 h, rfl⟩
  · intro h
    obtain ⟨read, h, rfl⟩ := h
    exact ⟨.ok read, leadsTo_serverRuntimes.2 h, rfl⟩

theorem leadsTo_listServers_error :
    listServers.run.LeadsTo d (.error e) ↔ BrokenRoster e d := by
  rw [listServers, leadsTo_bind_pure]
  simp only [map_eq_error, exists_eq_right, serverRuntimes, leadsTo_bind_error]
  constructor
  · intro h
    rcases h with h | ⟨_, runtimes, _, rfl, hlisted, h⟩
    · obtain ⟨reply, lacks, rfl⟩ := leadsTo_getReferences_error.1 h
      exact .unlisted lacks
    · obtain ⟨listing, listed, rfl⟩ := leadsTo_getReferences.1 hlisted
      obtain ⟨servers, runtime, rest, broken, rfl, addressed, brokenOff, rfl⟩ :=
        leadsTo_readServers_error.1 h
      exact .unread listed addressed brokenOff
  · intro h
    cases h with
    | unlisted lacks => exact .inl (leadsTo_getReferences_error.2 ⟨_, lacks, rfl⟩)
    | unread listed addressed brokenOff =>
        refine .inr ⟨_, _, _, rfl, leadsTo_getReferences.2 ⟨_, listed, rfl⟩, ?_⟩
        exact leadsTo_readServers_error.2 ⟨_, _, _, _, rfl, addressed, brokenOff, rfl⟩

/-! ### Addresses -/

/-- The server that a turn asks for its address. -/
def askedFor? : Turn Outside → Option ObjectName
  | ⟨.call (.invoke runtime operation _), _⟩ => if operation = "getURL" then some runtime else none
  | _ => none

/-- The server whose state a turn reads as running. -/
def readAsRunning? : Turn Outside → Option ObjectName
  | ⟨.call (.get runtime name), .ok (.text state)⟩ =>
    if name = "State" ∧ state = "RUNNING" then some runtime else none
  | _ => none

theorem readAsRunning?_of_ne {name : String} {reply : Except DeployError Reading}
    (other : name ≠ "State") : readAsRunning? ⟨.call (.get runtime name), reply⟩ = none := by
  unfold readAsRunning?
  split
  next turn =>
    cases turn
    exact if_neg fun h => other h.1
  next => rfl

theorem readAsRunning?_name {reply : Except DeployError Reading} :
    readAsRunning? ⟨.call (.get runtime "Name"), reply⟩ = none :=
  readAsRunning?_of_ne (by decide)

theorem readAsRunning?_of_lacksText {name : String} {reply : Except DeployError Reading}
    (lacks : LacksText reply e) : readAsRunning? ⟨.call (.get runtime name), reply⟩ = none := by
  cases lacks with
  | failed => rfl
  | @otherKind reading other =>
      cases reading with
      | text s => exact (other s rfl).elim
      | _ => rfl

/-- The servers that are asked for their addresses are those that are read as running, each as
often as it is read so. -/
def AsksRunning (d : Dialogue Outside) : Prop :=
  d.filterMap askedFor? = d.filterMap readAsRunning?

theorem asksRunning_nil : AsksRunning [] := rfl

/-- A turn that neither asks for an address nor tells that a server runs does not matter. -/
theorem AsksRunning.cons {t : Turn Outside} (h : AsksRunning d) (asks : askedFor? t = none)
    (tells : readAsRunning? t = none) : AsksRunning (t :: d) := by
  rw [AsksRunning, List.filterMap_cons_none asks, List.filterMap_cons_none tells, h]

/-- A server that runs is asked for its address at once. -/
theorem asksRunning_url (reply : Except DeployError Reading) :
    AsksRunning [look runtime "State" (.text "RUNNING"), ⟨.call (urlCall runtime), reply⟩] := rfl

theorem AsksRunning.append {d' : Dialogue Outside} (h : AsksRunning d) (h' : AsksRunning d') :
    AsksRunning (d ++ d') := by
  rw [AsksRunning, List.filterMap_append, List.filterMap_append, h, h']

theorem asksRunning_serverTurns {server : ServerInstance}
    (addressed : server.baseUrl.isSome = server.isRunning) :
    AsksRunning (serverTurns runtime server) := by
  obtain ⟨name, state, url⟩ := server
  cases url with
  | none =>
      have idle : state ≠ "RUNNING" := by
        simpa [ServerInstance.isRunning, ServerInstance.running] using addressed.symm
      have unread : readAsRunning? (look runtime "State" (.text state)) = none :=
        if_neg fun h => idle h.2
      exact (asksRunning_nil.cons rfl unread).cons rfl readAsRunning?_name
  | some url =>
      obtain rfl : state = "RUNNING" := by
        simpa [ServerInstance.isRunning, ServerInstance.running] using addressed.symm
      exact (asksRunning_url _).cons rfl readAsRunning?_name

theorem asksRunning_rosterTurns {servers : List (ObjectName × ServerInstance)}
    (addressed : Addressed servers) : AsksRunning (rosterTurns servers) := by
  induction servers with
  | nil => exact asksRunning_nil
  | cons p rest ih =>
      obtain ⟨hp, hrest⟩ := List.forall_mem_cons.1 addressed
      rw [rosterTurns, List.flatMap_cons]
      exact (asksRunning_serverTurns hp).append (ih hrest)

theorem BrokenServer.asksRunning (h : BrokenServer runtime e d) : AsksRunning d := by
  cases h with
  | name lacks => exact asksRunning_nil.cons rfl readAsRunning?_name
  | state lacks =>
      exact (asksRunning_nil.cons rfl (readAsRunning?_of_lacksText lacks)).cons rfl
        readAsRunning?_name
  | address lacks => exact (asksRunning_url _).cons rfl readAsRunning?_name

theorem readAsRunning?_listing {reply : Except DeployError Reading} :
    readAsRunning? ⟨.call (.get .root "ServerRuntimes"), reply⟩ = none :=
  readAsRunning?_of_ne (by decide)

theorem Roster.asksRunning {servers : List (ObjectName × ServerInstance)}
    (h : Roster servers d) : AsksRunning d := by
  obtain ⟨listed, addressed⟩ := h
  exact (asksRunning_rosterTurns addressed).cons rfl readAsRunning?_listing

theorem BrokenRoster.asksRunning (h : BrokenRoster e d) : AsksRunning d := by
  cases h with
  | unlisted lacks => exact asksRunning_nil.cons rfl readAsRunning?_listing
  | unread listed addressed brokenOff =>
      exact ((asksRunning_rosterTurns addressed).append brokenOff.asksRunning).cons rfl
        readAsRunning?_listing

/-! ### Replies that end the reading -/

/-- Asking the domain for the runtime objects of its servers. -/
abbrev listingCall : Call := .get .root "ServerRuntimes"

/-- A reply that is not what listing the servers wants of the call: the references to the runtime
objects, and a text of any other call. -/
inductive Spoils : Turn Outside → DeployError → Prop
  | listing {reply : Except DeployError Reading} {e : DeployError}
      (lacks : LacksReferences reply e) : Spoils ⟨.call listingCall, reply⟩ e
  | text {c : Call} {reply : Except DeployError Reading} {e : DeployError}
      (other : c ≠ listingCall) (lacks : LacksText reply e) : Spoils ⟨.call c, reply⟩ e

theorem Spoils.unique {t : Turn Outside} (h : Spoils t e) (h' : Spoils t e') : e = e' := by
  cases h with
  | listing lacks =>
      cases h' with
      | listing lacks' => exact lacks.unique lacks'
      | text other => exact (other rfl).elim
  | text other lacks =>
      cases h' with
      | listing => exact (other rfl).elim
      | text _ lacks' => exact lacks.unique lacks'

theorem name_ne_listingCall : Call.get runtime "Name" ≠ listingCall := by simp

theorem state_ne_listingCall : Call.get runtime "State" ≠ listingCall := by simp

theorem urlCall_ne_listingCall : urlCall runtime ≠ listingCall := nofun

/-- No reply spoils the reading. -/
def Unspoilt (d : Dialogue Outside) : Prop := ∀ t ∈ d, ∀ e, ¬Spoils t e

theorem unspoilt_nil : Unspoilt [] := nofun

theorem Unspoilt.append {d' : Dialogue Outside} (h : Unspoilt d) (h' : Unspoilt d') :
    Unspoilt (d ++ d') := List.forall_mem_append.2 ⟨h, h'⟩

theorem Unspoilt.cons_text {c : Call} {text : String} (h : Unspoilt d) (other : c ≠ listingCall) :
    Unspoilt (⟨.call c, .ok (.text text)⟩ :: d) := by
  refine List.forall_mem_cons.2 ⟨fun e spoils => ?_, h⟩
  cases spoils with
  | listing => exact other rfl
  | text _ lacks => exact not_lacksText_text text lacks

theorem Unspoilt.cons_listing {listing : Reading} {objects : List ObjectName} (h : Unspoilt d)
    (listed : listing.toReferences = .ok objects) :
    Unspoilt (look .root "ServerRuntimes" listing :: d) := by
  refine List.forall_mem_cons.2 ⟨fun e spoils => ?_, h⟩
  cases spoils with
  | listing lacks => exact not_lacksReferences listed lacks
  | text other => exact other rfl

theorem unspoilt_serverTurns {server : ServerInstance} : Unspoilt (serverTurns runtime server) := by
  have address : Unspoilt (server.baseUrl.map fun url => urlTurn runtime (.text url)).toList := by
    cases server.baseUrl with
    | none => exact unspoilt_nil
    | some url => exact unspoilt_nil.cons_text urlCall_ne_listingCall
  exact (address.cons_text state_ne_listingCall).cons_text name_ne_listingCall

theorem unspoilt_rosterTurns (servers : List (ObjectName × ServerInstance)) :
    Unspoilt (rosterTurns servers) := by
  induction servers with
  | nil => exact unspoilt_nil
  | cons p rest ih =>
      rw [rosterTurns, List.flatMap_cons]
      exact unspoilt_serverTurns.append ih

theorem Roster.unspoilt {servers : List (ObjectName × ServerInstance)} (h : Roster servers d) :
    Unspoilt d := by
  obtain ⟨listed, -⟩ := h
  exact (unspoilt_rosterTurns servers).cons_listing listed

/-- The last reply spoils the reading and no other does. -/
inductive SpoiltAtLast (e : DeployError) : Dialogue Outside → Prop
  | intro {good : Dialogue Outside} {last : Turn Outside} (unspoilt : Unspoilt good)
      (spoils : Spoils last e) : SpoiltAtLast e (good ++ [last])

theorem BrokenServer.spoiltAtLast (h : BrokenServer runtime e d) : SpoiltAtLast e d := by
  cases h with
  | name lacks => exact .intro unspoilt_nil (.text name_ne_listingCall lacks)
  | state lacks =>
      exact .intro (unspoilt_nil.cons_text name_ne_listingCall) (.text state_ne_listingCall lacks)
  | address lacks =>
      exact .intro ((unspoilt_nil.cons_text state_ne_listingCall).cons_text name_ne_listingCall)
        (.text urlCall_ne_listingCall lacks)

theorem SpoiltAtLast.append {d' : Dialogue Outside} (h : SpoiltAtLast e d') (before : Unspoilt d) :
    SpoiltAtLast e (d ++ d') := by
  obtain ⟨unspoilt, spoils⟩ := h
  rw [← List.append_assoc]
  exact .intro (before.append unspoilt) spoils

theorem BrokenRoster.spoiltAtLast (h : BrokenRoster e d) : SpoiltAtLast e d := by
  cases h with
  | unlisted lacks => exact .intro unspoilt_nil (.listing lacks)
  | @unread listing servers _ _ _ listed addressed brokenOff =>
      rw [← List.cons_append]
      exact brokenOff.spoiltAtLast.append ((unspoilt_rosterTurns servers).cons_listing listed)

/-- Behind a reply that spoils the reading there is nothing. -/
theorem SpoiltAtLast.ends {before after : Dialogue Outside} {t : Turn Outside}
    (h : SpoiltAtLast e (before ++ t :: after)) (spoils : Spoils t e') : e' = e ∧ after = [] := by
  generalize hd : before ++ t :: after = d at h
  obtain ⟨unspoilt, last⟩ := h
  rcases List.eq_nil_or_concat after with rfl | ⟨rest, final, rfl⟩
  · obtain ⟨-, ht⟩ := List.append_inj' hd rfl
    obtain rfl := List.singleton_inj.1 ht
    exact ⟨spoils.unique last, rfl⟩
  · rw [List.concat_eq_append, ← List.cons_append, ← List.append_assoc] at hd
    obtain ⟨rfl, -⟩ := List.append_inj' hd rfl
    exact (unspoilt t (by simp) e' spoils).elim

/-- Listing the servers comes to a list when every server was read to its end, and to an error when
one was not; addresses are asked of running servers only, each time that one was read as running;
and a reply that is not what was wanted ends the reading with its error. -/
theorem listServers_isComplete {σ : Type} (w : Responder Outside σ) (s : σ) :
    let played := listServers.run.run w s
    let d := played.dialogue
    (∀ servers, played.value = .ok servers ↔
        ∃ read, Roster read d ∧ servers = read.map (·.2)) ∧
      (∀ e, played.value = .error e ↔ BrokenRoster e d) ∧
      d.filterMap askedFor? = d.filterMap readAsRunning? ∧
      ∀ before t after e, d = before ++ t :: after → Spoils t e →
        played.value = .error e ∧ after = [] := by
  intro played d
  have listed : ∀ servers, played.value = .ok servers ↔
      ∃ read, Roster read d ∧ servers = read.map (·.2) := by
    intro servers
    exact value_run_eq_iff.trans leadsTo_listServers
  have broken : ∀ e, played.value = .error e ↔ BrokenRoster e d := by
    intro e
    exact value_run_eq_iff.trans leadsTo_listServers_error
  cases hvalue : played.value with
  | ok servers =>
      obtain ⟨read, roster, -⟩ := (listed servers).1 hvalue
      refine ⟨hvalue ▸ listed, hvalue ▸ broken, roster.asksRunning,
        fun before t after e hd spoils => ?_⟩
      exact (roster.unspoilt t (by simp [hd]) e spoils).elim
  | error cause =>
      have brokenOff := (broken cause).1 hvalue
      refine ⟨hvalue ▸ listed, hvalue ▸ broken, brokenOff.asksRunning,
        fun before t after e hd spoils => ?_⟩
      obtain ⟨rfl, hafter⟩ := (hd ▸ brokenOff.spoiltAtLast).ends spoils
      exact ⟨rfl, hafter⟩

/-- A domain of four servers: one runs, one starts, and the state of the third is a number. -/
def mixed : Rehearsal where
  domain := {
    attributes := [
      ("#ServerRuntimes", [.ok (.references [⟨"one"⟩, ⟨"two"⟩, ⟨"three"⟩, ⟨"four"⟩])]),
      ("one#Name", [.ok (.text "AdminServer")]),
      ("one#State", [.ok (.text "RUNNING")]),
      ("two#Name", [.ok (.text "Server1")]),
      ("two#State", [.ok (.text "STARTING")]),
      ("three#Name", [.ok (.text "Server2")]),
      ("three#State", [.ok (.number 3)])]
    operations := [("one#getURL", [.ok (.text "http://10.0.0.5:7001")])] }

/-- Reading it ends with the state of the third server, and only the first one is asked for its
address. -/
theorem listServers_isComplete_mixed :
    let played := listServers.run.run Rehearsal.outside mixed
    let state : Turn Outside := look ⟨"three"⟩ "State" (.number 3)
    let refusal : DeployError := .protocol (.wrongKind .text .number)
    (∃ before, played.dialogue = before ++ [state]) ∧ Spoils state refusal ∧
      played.value = .error refusal ∧
      played.dialogue.filterMap readAsRunning? = [⟨"one"⟩] ∧
      played.dialogue.filterMap askedFor? = [⟨"one"⟩] := by
  intro played state refusal
  have split : played.dialogue = played.dialogue.take 7 ++ [state] := rfl
  have spoils : Spoils state refusal := .text state_ne_listingCall (.otherKind nofun)
  have running : played.dialogue.filterMap readAsRunning? = [⟨"one"⟩] := rfl
  obtain ⟨-, -, asked, ends⟩ := listServers_isComplete Rehearsal.outside mixed
  obtain ⟨failed, -⟩ := ends _ state [] refusal split spoils
  exact ⟨⟨_, split⟩, spoils, failed, running, asked.trans running⟩

end Resolution

end DomainDeploy
