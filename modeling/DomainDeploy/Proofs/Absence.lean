import DomainDeploy.Proofs.Requests
import DomainDeploy.Proofs.Session

/-!
# What a successful undeploy relied on

An undeploy succeeds when no deployment of the name is on record. Over the management endpoint that
is told by one listing and by the resources that it lists, and the verdict is right when the listing
says so. It may be wrong in two ways, and `listing_of_undeploy_eq_ok` says that there are no others:
a listing that broke off lists nothing, and an item whose own reply broke off is called by the last
part of its name.
-/

namespace DomainDeploy

open Program Activity Resolution

namespace Rest

/-- The collection of the deployments on record. -/
def deployments : ObjectName := ⟨"domainConfig/appDeployments"⟩

/-- The name that an item is listed under, with the request for the item's own name and its
reply. -/
structure ItemReply where
  name : String
  request : Http.Request
  status : Nat
  bytes : List UInt8
  complete : Bool

namespace ItemReply

/-- Asking an item for its name. -/
def turn (i : ItemReply) : Turn Wire := ⟨.send i.request, .answered i.status i.bytes i.complete⟩

/-- If all of the reply was received, it reports the name that the item is listed under. -/
def IsTruthful (i : ItemReply) : Prop :=
  i.complete = true → ∀ body, Channel.parseBody (Channel.received i.bytes i.complete) = .ok body →
    body.member? "name" = some (.string i.name)

/-- The item was asked over the channel and is taken to be called `shown`. -/
structure Shows (i : ItemReply) (c : Channel) (shown : String) : Prop where
  fetched : ∃ url, c.resourceUrl (deployments.child i.name) none = .ok url ∧
    i.request = c.readRequest url "name"
  success : Http.isSuccess i.status = true
  read : ∃ body, Channel.parseBody (Channel.received i.bytes i.complete) = .ok body ∧
    Channel.fieldReading (deployments.child i.name) "Name" body = .text shown

/-- A truthful item that was received completely is called what it is listed under. -/
theorem Shows.eq_name {i : ItemReply} {c : Channel} {shown : String} (h : i.Shows c shown)
    (htruthful : i.IsTruthful) (hcomplete : i.complete = true) : shown = i.name := by
  obtain ⟨body, hbody, hread⟩ := h.read
  have hname : body.member? (fieldName "Name") = some (.string i.name) :=
    htruthful hcomplete body hbody
  rw [Channel.fieldReading, hname] at hread
  exact (Reading.text.inj hread).symm

end ItemReply

/-- The reply to the listing of the deployments, with what was asked about the items. -/
structure Listing where
  request : Http.Request
  status : Nat
  bytes : List UInt8
  complete : Bool
  items : List ItemReply

namespace Listing

/-- Asking for the listing and then for the name of each item. -/
def turns (l : Listing) : Dialogue Wire :=
  ⟨.send l.request, .answered l.status l.bytes l.complete⟩ :: l.items.map ItemReply.turn

/-- The listing and its items were read over the channel, and no item is taken to be called
`name`. -/
structure IsReadWithout (l : Listing) (c : Channel) (name : String) : Prop where
  fetched : ∃ url, c.resourceUrl deployments none = .ok url ∧ l.request = c.readRequest url "name"
  success : Http.isSuccess l.status = true
  listed : ∃ body, Channel.parseBody (Channel.received l.bytes l.complete) = .ok body ∧
    l.items.map (·.name) = Channel.namesIn body
  others : ∀ i ∈ l.items, ∃ shown, i.Shows c shown ∧ shown ≠ name

/-- All of the listing was received, and it lists no item of that name. -/
def Denies (l : Listing) (name : String) : Prop :=
  l.complete = true ∧ name ∉ l.items.map (·.name)

/-- A listing of truthful items denies a name exactly when neither the listing broke off nor the
reply of an item that it lists under that name. -/
theorem IsReadWithout.denies_iff {l : Listing} {c : Channel} {name : String}
    (h : l.IsReadWithout c name) (htruthful : ∀ i ∈ l.items, i.IsTruthful) :
    l.Denies name ↔ l.complete = true ∧ ∀ i ∈ l.items, i.name = name → i.complete = true := by
  constructor
  · intro h
    rcases h with ⟨hcomplete, hname⟩
    refine ⟨hcomplete, fun i hi hiname => ?_⟩
    exact (hname (List.mem_map.2 ⟨i, hi, hiname⟩)).elim
  · intro h
    rcases h with ⟨hcomplete, hitems⟩
    refine ⟨hcomplete, fun hname => ?_⟩
    obtain ⟨i, hi, hiname⟩ := List.mem_map.1 hname
    obtain ⟨shown, hshows, hother⟩ := h.others i hi
    exact hother ((hshows.eq_name (htruthful i hi) (hitems i hi hiname)).trans hiname)

end Listing

/-! ### Reading the listing -/

section

variable {files : FileSystem} {environment : String → Option String} {c : Configuration}
  {channel : Channel} {d : Dialogue Wire} {s : Option Channel} {name : String}

theorem itemReply_of_fetch {listed shown : String} {body : Json} {t : Turn Wire}
    (h : channel.Fetch (deployments.child listed) (fieldName "Name") body t)
    (hread : Channel.fieldReading (deployments.child listed) "Name" body = .text shown) :
    ∃ i : ItemReply, t = i.turn ∧ i.name = listed ∧ i.Shows channel shown := by
  cases h with
  | @read url status bytes complete located success parsed =>
      exact ⟨⟨listed, _, status, bytes, complete⟩, rfl, rfl, ⟨url, located, rfl⟩, success,
        body, parsed, hread⟩

/-- Reading the names of listed items is asking them one after the other. -/
theorem itemReplies_of_carried {names : List String} {passed : List (ObjectName × String)}
    (hpassed : passed.map (·.1) = names.map deployments.child) (others : ∀ p ∈ passed, p.2 ≠ name)
    (h : Carried (bridge files environment c) (some channel) (nameTurns passed) d s) :
    ∃ items : List ItemReply, d = items.map ItemReply.turn ∧ items.map (·.name) = names ∧
      ∀ i ∈ items, ∃ shown, i.Shows channel shown ∧ shown ≠ name := by
  -- along the listed names: every reading of a name is one request, over the same channel
  induction names generalizing passed d with
  | nil =>
      obtain rfl := List.map_eq_nil_iff.1 hpassed
      cases h
      exact ⟨[], rfl, rfl, by simp⟩
  | cons listed names ih =>
      obtain ⟨⟨object, shown⟩, rest, rfl, hobject, hrest⟩ := List.map_eq_cons_iff.1 hpassed
      obtain ⟨hother, hothers⟩ := List.forall_mem_cons.1 others
      cases h with
      | cons answered later =>
          obtain ⟨hcall, rfl⟩ := leadsTo_bridge_call.1 answered
          obtain ⟨body, t, rfl, hfetch, hread⟩ :=
            Channel.fetch_of_leadsTo_field (show AttributeKind.of "Name" = .field from rfl) hcall
          subst hobject
          obtain ⟨i, rfl, hi, hshows⟩ := itemReply_of_fetch hfetch hread.symm
          obtain ⟨items, rfl, hnames, hitems⟩ := ih hrest hothers later
          exact ⟨i :: items, rfl, by simp [hi, hnames],
            List.forall_mem_cons.2 ⟨⟨shown, hshows, hother⟩, hitems⟩⟩

/-- Finding no deployment is reading the listing without it. -/
theorem listing_of_carried {front : Dialogue Outside}
    (hfront : (findDeployment name).run.LeadsTo front (.ok none))
    (h : Carried (bridge files environment c) (some channel) front d s) :
    ∃ l : Listing, d = l.turns ∧ l.IsReadWithout channel name := by
  obtain ⟨domain, front', rfl, hsearch⟩ := leadsTo_findDeployment.1 hfront
  cases hsearch with
  | @missed listing passed listed others =>
      cases h with
      | cons answered later =>
          obtain ⟨hcall, rfl⟩ := leadsTo_bridge_call.1 answered
          obtain ⟨rfl, hdomain⟩ := hcall
          cases hdomain
          cases later with
          | cons answered later =>
              obtain ⟨hcall, rfl⟩ := leadsTo_bridge_call.1 answered
              obtain ⟨body, t, rfl, hfetch, rfl⟩ :=
                Channel.fetch_of_leadsTo_children
                  (show AttributeKind.of "AppDeployments" = .children from rfl) hcall
              obtain ⟨items, rfl, hnames, hitems⟩ :=
                itemReplies_of_carried (Except.ok.inj listed).symm others later
              cases hfetch with
              | @read url status bytes complete located success parsed =>
                  exact ⟨⟨_, status, bytes, complete, items⟩, rfl, ⟨url, located, rfl⟩, success,
                    ⟨body, parsed, hnames⟩, hitems⟩

end

end Rest

namespace Deployer

open Rest

variable {σ : Type} {files : FileSystem} {environment : String → Option String}

/-- An undeploy that succeeds has found no deployment at its end. -/
theorem absent_of_leadsTo_undeployBody {D : Deployer} {name target : String} {store : TrustStore}
    {d : Dialogue Outside} (h : (D.undeployBody name target store).run.LeadsTo d (.ok ())) :
    ∃ before after, d = before ++ after ∧ (findDeployment name).run.LeadsTo after (.ok none) := by
  obtain ⟨d₁, handle, _, rfl, -, h₂⟩ := leadsTo_bind_ok.1 h
  obtain ⟨d₂, _, _, rfl, -, h₃⟩ := leadsTo_bind_ok.1 h₂
  obtain ⟨d₃, absent, _, rfl, h₄, h₅⟩ := leadsTo_bind_ok.1 h₃
  obtain ⟨found, hfound, rfl⟩ := leadsTo_confirmAbsent.1 h₄
  cases found with
  | some object => cases h₅.2
  | none =>
      obtain ⟨rfl, -⟩ := h₅
      exact ⟨d₁ ++ d₂, d₃, by simp, hfound⟩

theorem listing_of_leadsTo_undeploy {D : Deployer} {name target : String} {g g' : TrustGuard}
    {d : Dialogue Wire} {s : Option Channel}
    (h : ((D.undeploy name target g).via (bridge files environment D.configuration) none).LeadsTo d
      ((.ok (), g'), s)) :
    ∃ channel before l, d = before ++ Listing.turns l ∧
      Channel.ofBase D.configuration.management.httpBase D.configuration.userName
        D.configuration.password D.configuration.logMessages = .ok channel ∧
      l.IsReadWithout channel name := by
  obtain ⟨front, hfront, hcarried⟩ := leadsTo_via.1 h
  have session := session_of_perform (t := .undeploy name target) hfront
  generalize hresult : (Except.ok () : Except DeployError Unit) = result at session
  cases session with
  | barred entered => cases hresult
  | refused entered => cases hresult
  | @held g₁ during came closed entered body_leadsTo =>
      cases came with
      | error cause => cases hresult
      | ok u =>
          have inner := (D.asks_undeployBody name target g₁.current).of_leadsTo body_leadsTo
          obtain ⟨before, after, rfl, hafter⟩ := absent_of_leadsTo_undeployBody body_leadsTo
          cases hcarried with
          | @cons _ _ _ s₁ _ opening _ _ answered later =>
              -- the body neither opens nor closes, so its calls all go over the opened channel
              obtain ⟨channel, rfl, hbase⟩ := channel_of_connect answered
              obtain ⟨_, s₂, _, rfl, hduring, hclosing⟩ := carried_append.1 later
              obtain ⟨d₁, s₃, d₂, rfl, hbefore, hlast⟩ := carried_append.1 hduring
              obtain rfl := channel_kept_of_carried
                (fun t ht => inner t (List.mem_append_left _ ht)) hbefore
              obtain ⟨l, rfl, hread⟩ := listing_of_carried hafter hlast
              obtain rfl := channel_kept_of_carried
                (fun t ht => inner t (List.mem_append_right _ ht)) hlast
              obtain rfl := nothing_behind_disconnect hclosing
              exact ⟨channel, opening ++ d₁, l, by simp, hbase, hread⟩

/-- Whatever the management endpoint answers, an undeploy that succeeds has read a listing of the
deployments without the name, and that was the last that it asked. If items report the names that
they are listed under, then the listing denies the name exactly when neither it broke off nor the
reply of an item of that name. -/
theorem listing_of_undeploy_eq_ok (D : Deployer) (w : Responder Wire σ) (name target : String)
    (g : TrustGuard) (s : σ)
    (h : (((D.undeploy name target g).via (bridge files environment D.configuration) none).run w
      s).value.1.1 = .ok ()) :
    ∃ (channel : Channel) (before : Dialogue Wire) (l : Listing),
      (((D.undeploy name target g).via (bridge files environment D.configuration) none).run w
        s).dialogue = before ++ l.turns ∧
      Channel.ofBase D.configuration.management.httpBase D.configuration.userName
        D.configuration.password D.configuration.logMessages = .ok channel ∧
      l.IsReadWithout channel name ∧
      ((∀ i ∈ l.items, i.IsTruthful) →
        (l.Denies name ↔
          l.complete = true ∧ ∀ i ∈ l.items, i.name = name → i.complete = true)) := by
  have led := leadsTo_run w
    ((D.undeploy name target g).via (bridge files environment D.configuration) none) s
  generalize ((D.undeploy name target g).via (bridge files environment D.configuration) none).run w
    s = played at h led ⊢
  have hvalue : played.value = ((.ok (), played.value.1.2), played.value.2) := by rw [← h]
  rw [hvalue] at led
  obtain ⟨channel, before, l, hdialogue, hbase, hread⟩ := listing_of_leadsTo_undeploy led
  exact ⟨channel, before, l, hdialogue, hbase, hread, hread.denies_iff⟩

/-- A deployer that asks for no certificates. -/
def trusting : Deployer := { sample with configuration.trust := {} }

/-- Whether a request is one for the listing of the deployments. -/
def asksForListing (request : Http.Request) : Bool :=
  request.url.path.chars == "/management/weblogic/latest/domainConfig/appDeployments".toList

/-- A server that lists one deployment and calls every resource by its name; the listing may break
off. -/
def listing (name : String) (complete : Bool) : Rehearsal where
  server := fun request =>
    let item := Json.object [("name", .string name)]
    if asksForListing request then
      let all := Json.object [("items", .array [item])]
      .answered 200 (Text.Utf8.encode all.compact) complete
    else .answered 200 (Text.Utf8.encode item.compact) true

/-- Undeploying `foo` from such a server. -/
def undeployFoo (r : Rehearsal) :
    Played Wire Note Rehearsal ((Except DeployError Unit × TrustGuard) × Option Channel) :=
  ((trusting.undeploy "foo" "AdminServer" (.ofPublished .nowhere)).via
    (bridge .empty (fun _ => none) trusting.configuration) none).run Rehearsal.wire r

/-- Where another deployment is listed, `foo` is undeployed. -/
theorem listing_of_undeploy_eq_ok_other :
    (undeployFoo (listing "bar" true)).value.1.1 = .ok () ∧
      ∃ (channel : Channel) (before : Dialogue Wire) (l : Listing),
        (undeployFoo (listing "bar" true)).dialogue = before ++ l.turns ∧
        Channel.ofBase trusting.configuration.management.httpBase trusting.configuration.userName
          trusting.configuration.password trusting.configuration.logMessages = .ok channel ∧
        l.IsReadWithout channel "foo" ∧
        ((∀ i ∈ l.items, i.IsTruthful) →
          (l.Denies "foo" ↔
            l.complete = true ∧ ∀ i ∈ l.items, i.name = "foo" → i.complete = true)) := by
  have undeployed : (undeployFoo (listing "bar" true)).value.1.1.toOption = some () := by
    decide +kernel
  have h := eq_ok_of_toOption undeployed
  exact ⟨h, listing_of_undeploy_eq_ok trusting _ "foo" "AdminServer" _ _ h⟩

/-- Whether a turn is one that asks for the listing. -/
def isListingTurn : Turn Wire → Bool
  | ⟨.send request, _⟩ => asksForListing request
  | _ => false

/-- Whether a turn got all of a reply. -/
def isCompleteTurn : Turn Wire → Bool
  | ⟨.send _, .answered _ _ complete⟩ => complete
  | _ => false

/-- Where `foo` itself is listed, it counts as still deployed if the listing was received, and as
undeployed if the one listing that was asked for broke off. -/
theorem undeploy_eq_ok_of_brokenOff :
    (undeployFoo (listing "foo" true)).value.1.1.toOption = none ∧
      (undeployFoo (listing "foo" false)).value.1.1 = .ok () ∧
      ((undeployFoo (listing "foo" false)).dialogue.filter isListingTurn).map isCompleteTurn =
        [false] := by
  have deployed : (undeployFoo (listing "foo" true)).value.1.1.toOption = none := by
    decide +kernel
  have undeployed : (undeployFoo (listing "foo" false)).value.1.1.toOption = some () ∧
      ((undeployFoo (listing "foo" false)).dialogue.filter isListingTurn).map isCompleteTurn =
        [false] := by
    decide +kernel
  exact ⟨deployed, eq_ok_of_toOption undeployed.1, undeployed.2⟩

end Deployer

end DomainDeploy
