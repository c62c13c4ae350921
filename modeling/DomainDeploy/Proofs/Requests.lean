import DomainDeploy.Proofs.Carriage

/-!
# Reading over the management endpoint

An attribute that lies in a resource is read by one request, and its reading is told by the reply:
by the status, and by what was received of the body (`received`). A body that broke off counts as an
empty one, so its resource reads as if it had no fields, and its collection as if it had no items.
-/

namespace DomainDeploy.Rest

open Program

variable {d : Dialogue Wire} {object : ObjectName} {fields name : String}

namespace Channel

variable {c : Channel} {body : Json}

/-- What is received of a body: all of it or nothing. -/
def received (bytes : List UInt8) (complete : Bool) : String :=
  if complete then Text.Utf8.decodeLenient bytes else ""

theorem leadsTo_readReply {method : Http.Method} {url : Url} {status : Nat} {bytes : List UInt8}
    {complete : Bool} :
    (c.readReply method url status bytes complete).run.LeadsTo d (.ok body) ↔
      d = [] ∧ Http.isSuccess status = true ∧ parseBody (received bytes complete) = .ok body := by
  unfold readReply
  by_cases hstatus : Http.isSuccess status = true
  · simp only [hstatus, if_true, true_and]
    cases c.logMessages <;> exact Iff.rfl
  · simp only [hstatus]
    constructor
    · intro h
      cases hlog : c.logMessages <;> rw [hlog] at h <;> cases h.2
    · intro h
      rcases h with ⟨-, h, -⟩
      cases h

/-- A request succeeds when it can be sent, is answered with a success, and what was received of the
body can be read. -/
theorem leadsTo_exchange {method : Http.Method} {url : Url} {carried : Http.Body} :
    (c.exchange method url carried).run.LeadsTo d (.ok body) ↔
      Http.canSendTo url.withoutCredentials = true ∧ ∃ status bytes complete,
        d = [⟨.send ⟨method, url.withoutCredentials, c.userName, c.password, headers method,
          carried⟩, .answered status bytes complete⟩] ∧ Http.isSuccess status = true ∧
          parseBody (received bytes complete) = .ok body := by
  unfold exchange
  by_cases hsend : Http.canSendTo url.withoutCredentials = true
  · simp only [hsend]
    constructor
    · intro h
      rcases h with ⟨reply, rest, rfl, h⟩
      cases reply with
      | lost => cases h.2
      | answered status bytes complete =>
          obtain ⟨rfl, hread⟩ := leadsTo_readReply.1 h
          exact ⟨trivial, status, bytes, complete, rfl, hread⟩
    · intro h
      rcases h with ⟨-, status, bytes, complete, rfl, hread⟩
      exact ⟨.answered status bytes complete, [], rfl, leadsTo_readReply.2 ⟨rfl, hread⟩⟩
  · simp only [hsend]
    constructor
    · intro h
      cases h.2
    · intro h
      rcases h with ⟨h, -⟩
      cases h

/-- The request for some fields of the resource at a URL. -/
def readRequest (c : Channel) (url : Url) (fields : String) : Http.Request :=
  ⟨.get, (url.addQuery [("fields", fields), ("links", "none")]).withoutCredentials, c.userName,
    c.password, headers .get, .nothing⟩

/-- Some fields of a resource were read by that turn. -/
inductive Fetch (c : Channel) (object : ObjectName) (fields : String) (body : Json) :
    Turn Wire → Prop
  | read {url : Url} {status : Nat} {bytes : List UInt8} {complete : Bool}
      (located : c.resourceUrl object none = .ok url) (success : Http.isSuccess status = true)
      (parsed : parseBody (received bytes complete) = .ok body) :
      Fetch c object fields body ⟨.send (c.readRequest url fields), .answered status bytes complete⟩

theorem fetch_of_leadsTo_get (h : (c.get object fields).run.LeadsTo d (.ok body)) :
    ∃ t, d = [t] ∧ c.Fetch object fields body t := by
  obtain ⟨_, _, _, rfl, h₁, h₂⟩ := leadsTo_bind_ok.1 h
  unfold ensureOpen at h₁
  split at h₁
  · cases h₁.2
  obtain ⟨rfl, -⟩ := h₁
  obtain ⟨_, url, _, rfl, ⟨rfl, hurl⟩, h₃⟩ := leadsTo_bind_ok.1 h₂
  obtain ⟨_, _, _, rfl, ⟨rfl, -⟩, h₄⟩ := leadsTo_bind_ok.1 h₃
  obtain ⟨-, status, bytes, complete, rfl, hstatus, hread⟩ := leadsTo_exchange.1 h₄
  exact ⟨_, rfl, .read hurl hstatus hread⟩

/-- The names in a collection. -/
def namesIn (body : Json) : List String :=
  (((body.member? "items").bind Json.items?).getD []).filterMap fun item =>
    (item.member? "name").bind Json.text?

/-- What a resource says of an attribute that is one of its fields. -/
def fieldReading (object : ObjectName) (name : String) (body : Json) : Reading :=
  match body.member? (fieldName name) with
  | some value => Reading.ofJson (treeOf object) value
  | none => byPlace object name

theorem fetch_of_leadsTo_children {reading : Reading} (hkind : AttributeKind.of name = .children)
    (h : (c.getAttribute object name).run.LeadsTo d (.ok reading)) :
    ∃ body t, d = [t] ∧ c.Fetch (below object name) "name" body t ∧
      reading = .references ((namesIn body).map (below object name).child) := by
  unfold getAttribute at h
  rw [hkind] at h
  obtain ⟨_, body, _, rfl, h₁, rfl, h₂⟩ := leadsTo_bind_ok.1 h
  obtain ⟨t, rfl, hfetch⟩ := fetch_of_leadsTo_get h₁
  cases h₂
  exact ⟨body, t, rfl, hfetch, rfl⟩

theorem fetch_of_leadsTo_field {reading : Reading} (hkind : AttributeKind.of name = .field)
    (h : (c.getAttribute object name).run.LeadsTo d (.ok reading)) :
    ∃ body t, d = [t] ∧ c.Fetch object (fieldName name) body t ∧
      reading = fieldReading object name body := by
  unfold getAttribute at h
  rw [hkind] at h
  obtain ⟨_, body, _, rfl, h₁, h₂⟩ := leadsTo_bind_ok.1 h
  obtain ⟨t, rfl, hfetch⟩ := fetch_of_leadsTo_get h₁
  unfold fieldReading
  split at h₂
  next value hvalue =>
    obtain ⟨rfl, h₂⟩ := h₂
    cases h₂
    exact ⟨body, t, rfl, hfetch, by rw [hvalue]⟩
  next hnone =>
    obtain ⟨rfl, h₂⟩ := h₂
    cases h₂
    exact ⟨body, t, rfl, hfetch, by rw [hnone]⟩

end Channel

/-! ### Behind an open channel -/

section

variable {files : FileSystem} {environment : String → Option String} {c : Configuration}
  {channel : Channel} {s s' : Option Channel}

theorem leadsTo_bridge_call {call : Call} {r : Except DeployError Reading} :
    (bridge files environment c (.call call) (some channel)).LeadsTo d (r, s) ↔
      (channel.call files call).run.LeadsTo d r ∧ s = some channel := by
  constructor
  · intro h
    obtain ⟨d₁, r', _, rfl, h₁, rfl, h₂⟩ := leadsTo_andThen.1 h
    cases h₂
    exact ⟨by simpa using h₁, rfl⟩
  · intro h
    rcases h with ⟨h, rfl⟩
    exact leadsTo_andThen.2 ⟨d, r, [], by simp, h, rfl, rfl⟩

/-- While a channel is in use it stays the same. -/
theorem channel_kept {q : Outside.Question} {r : Outside.Answer q} (hq : q.IsInner)
    (h : (bridge files environment c q (some channel)).LeadsTo d (r, s)) : s = some channel := by
  match q with
  | .call call => exact (leadsTo_bridge_call.1 h).2
  | .runTool _ _ | .sleep _ =>
      obtain ⟨_, _, _, rfl, _, _, h₂⟩ := leadsTo_andThen.1 h
      cases h₂
      rfl

theorem channel_kept_of_carried {front : Dialogue Outside} (hfront : ∀ t ∈ front, t.1.IsInner)
    (h : Carried (bridge files environment c) (some channel) front d s) : s = some channel := by
  induction front generalizing d with
  | nil =>
      cases h
      rfl
  | cons t front ih =>
      cases h with
      | cons answered later =>
          obtain ⟨hfirst, hrest⟩ := List.forall_mem_cons.1 hfront
          obtain rfl := channel_kept hfirst answered
          exact ih hrest later

theorem ofBase_of_leadsTo_connect
    (h : (connect files environment c).run.LeadsTo d (.ok channel)) :
    Channel.ofBase c.management.httpBase c.userName c.password c.logMessages = .ok channel := by
  obtain ⟨_, certificates, _, rfl, -, h₁⟩ := leadsTo_bind_ok.1 h
  -- what the address is parsed to does not matter here
  generalize Channel.ofBase c.management.httpBase c.userName c.password c.logMessages = based
    at h₁ ⊢
  by_cases hcertificates : certificates.all Trust.Certificate.isWellFormed = true
  · simp only [hcertificates, Bool.not_true, Bool.false_eq_true, if_false] at h₁
    obtain ⟨_, opened, _, rfl, ⟨-, hopened⟩, h₂⟩ := leadsTo_bind_ok.1 h₁
    obtain ⟨_, _, _, rfl, -, h₃⟩ := leadsTo_bind_ok.1 h₂
    obtain ⟨_, _, _, rfl, -, -, h₄⟩ := leadsTo_bind_ok.1 h₃
    cases h₄
    exact hopened
  · simp only [hcertificates] at h₁
    cases h₁.2

/-- A channel that could be opened leads to the management endpoint of the configuration. -/
theorem channel_of_connect
    (h : (bridge files environment c .connect s).LeadsTo d (.ok (), s')) :
    ∃ channel, s' = some channel ∧
      Channel.ofBase c.management.httpBase c.userName c.password c.logMessages = .ok channel := by
  obtain ⟨_, opened, _, rfl, h₁, h₂⟩ := leadsTo_andThen.1 h
  cases opened with
  | error e => cases h₂.2
  | ok channel =>
      obtain ⟨-, h₂⟩ := h₂
      cases h₂
      exact ⟨channel, rfl, ofBase_of_leadsTo_connect h₁⟩

/-- Closing a channel asks nothing. -/
theorem nothing_behind_disconnect {closed : Except DeployError Unit}
    (h : Carried (bridge files environment c) (some channel) [⟨.disconnect, closed⟩] d s) :
    d = [] := by
  cases h with
  | cons answered later =>
      cases later
      obtain ⟨_, _, _, rfl, hclose, rfl, -⟩ := leadsTo_andThen.1 answered
      unfold Channel.close at hclose
      split at hclose <;> obtain ⟨rfl, -⟩ := hclose <;> rfl

end

end DomainDeploy.Rest
