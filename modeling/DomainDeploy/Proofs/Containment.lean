import DomainDeploy.Proofs.Address
import DomainDeploy.Proofs.Usability

/-!
# Where requests go

Whatever an object is called, its URL is put together from the base address of a channel, so every
request goes to the host and the port of that address. Whether it also stays below the root of the
management endpoint is told by the names on the way (`Climbs`): dots are passed over where they are
written as such, but two dots with a tab or a line end between them take away the segment before
them, which is the last one of the root unless another name stands in between.

Different objects have different URLs, and the way to an object is read back from its URL, as long
as each name on the way can stand there (`IsProperName`).
-/

namespace DomainDeploy

open Program

/-- Dots that stand for no name. -/
def IsDots (name : String) : Prop := name = "." ∨ name = ".."

/-- A name that a URL takes for the segment above: two dots, with tabs or line ends around them that
a URL drops. -/
def IsClimbing (name : String) : Prop :=
  name ≠ ".." ∧ name.toList.filter (!Url.isDropped ·) = ['.', '.']

/-- The first of the names that is not dots is a climbing one. -/
inductive Climbs : List String → Prop
  | here {name : String} {names : List String} (climbing : IsClimbing name) : Climbs (name :: names)
  | later {name : String} {names : List String} (dots : IsDots name) (behind : Climbs names) :
      Climbs (name :: names)

theorem not_isDots_of_isClimbing {name : String} (h : IsClimbing name) : ¬ IsDots name := by
  rintro (rfl | rfl)
  · exact absurd h.2 (by decide)
  · exact h.1 rfl

namespace Url

variable {name : String} {names : List String} {parts front more : List (List Char)}

/-! ### One more segment -/

theorem pushSegment_of_isDots (h : IsDots name) : pushSegment true parts name = parts := by
  rcases h with rfl | rfl <;> rfl

theorem pushSegment_of_not_isDots (h : ¬ IsDots name) (hparts : parts ≠ [[]]) :
    pushSegment true parts name =
      addSegment parts (spelled (String.ofList (name.toList.filter (!isDropped ·)))) true := by
  have hname : (name == "." || name == "..") = false := by
    simpa [IsDots] using h
  simp [pushSegment, hname, hparts, spelled]

theorem pushSegment_of_isClimbing (h : IsClimbing name) (hparts : parts ≠ [[]]) :
    pushSegment true parts name = parts.dropLast ++ [[]] := by
  have hdots : isDoubleDot (spelled "..") = true := by decide
  rw [pushSegment_of_not_isDots (not_isDots_of_isClimbing h) hparts, h.2]
  exact if_pos hdots

/-- A segment that does not climb is put behind the others. -/
theorem exists_pushSegment_eq (hdots : ¬ IsDots name) (h : ¬ IsClimbing name)
    (hparts : parts ≠ [[]]) : ∃ segment, pushSegment true parts name = parts ++ [segment] := by
  have hkept : String.ofList (name.toList.filter (!isDropped ·)) ≠ ".." := by
    intro hkept
    refine h ⟨fun hname => hdots (.inr hname), ?_⟩
    rw [← String.toList_ofList (l := name.toList.filter _), hkept]
    rfl
  rw [pushSegment_of_not_isDots hdots hparts, addSegment, isDoubleDot_spelled hkept]
  simp only [Bool.false_eq_true, if_false, if_true]
  split
  · exact ⟨_, rfl⟩
  · exact ⟨_, rfl⟩

/-- What a name does to a path: nothing, or it takes the last segment away, or it adds one. -/
theorem pushSegment_cases (name : String) (hparts : parts ≠ [[]]) :
    pushSegment true parts name = parts ∨
      pushSegment true parts name = parts.dropLast ++ [[]] ∨
      ∃ segment, pushSegment true parts name = parts ++ [segment] := by
  by_cases hdots : IsDots name
  · exact .inl (pushSegment_of_isDots hdots)
  · by_cases hclimbing : IsClimbing name
    · exact .inr (.inl (pushSegment_of_isClimbing hclimbing hparts))
    · exact .inr (.inr (exists_pushSegment_eq hdots hclimbing hparts))

/-! ### Any number of segments -/

theorem append_ne_singleton {segment : List Char} (hfront : front ≠ []) (hmore : more ≠ []) :
    front ++ more ≠ [segment] := by
  simp [List.append_eq_singleton_iff, hfront, hmore]

/-- What stands before the last segment stays. -/
theorem exists_foldl_pushSegment_eq (names : List String) (hfront : front ≠ [])
    (hmore : more ≠ []) :
    ∃ more', more' ≠ [] ∧ names.foldl (pushSegment true) (front ++ more) = front ++ more' := by
  induction names generalizing more with
  | nil => exact ⟨more, hmore, rfl⟩
  | cons name names ih =>
      rw [List.foldl_cons]
      rcases pushSegment_cases name (append_ne_singleton hfront hmore) with h | h | ⟨segment, h⟩
      · rw [h]
        exact ih hmore
      · rw [h, List.dropLast_append_of_ne_nil hmore, List.append_assoc]
        exact ih (by simp)
      · rw [h, List.append_assoc]
        exact ih (by simp)

/-- An empty segment stays, since taking the last one away leaves an empty one. -/
theorem exists_foldl_pushSegment_eq_nil (names : List String) (hfront : front ≠ []) :
    ∃ more', names.foldl (pushSegment true) (front ++ [] :: more) = front ++ [] :: more' := by
  have hlong : front ++ [[]] ≠ [] := by simp
  by_cases hmore : more = []
  · subst hmore
    induction names with
    | nil => exact ⟨[], rfl⟩
    | cons name names ih =>
        rw [List.foldl_cons]
        rcases pushSegment_cases name (append_ne_singleton hfront (List.cons_ne_nil [] [])) with
          h | h | ⟨segment, h⟩
        · rw [h]
          exact ih
        · rw [h, List.dropLast_concat]
          exact ih
        · rw [h]
          obtain ⟨more', -, hmore'⟩ :=
            exists_foldl_pushSegment_eq names hlong (List.cons_ne_nil segment [])
          exact ⟨more', by simpa using hmore'⟩
  · obtain ⟨more', -, hmore'⟩ := exists_foldl_pushSegment_eq names hlong hmore
    exact ⟨more', by simpa using hmore'⟩

theorem exists_foldl_pushSegment_of_climbs (h : Climbs names) (hfront : front ≠ [])
    (last : List Char) :
    ∃ more, names.foldl (pushSegment true) (front ++ [last]) = front ++ [] :: more := by
  induction h with
  | here climbing =>
      rw [List.foldl_cons, pushSegment_of_isClimbing climbing (append_ne_singleton hfront (by simp)),
        List.dropLast_concat]
      exact exists_foldl_pushSegment_eq_nil _ hfront
  | later dots _ ih =>
      rw [List.foldl_cons, pushSegment_of_isDots dots]
      exact ih

theorem exists_foldl_pushSegment_of_not_climbs (h : ¬ Climbs names) (hfront : front ≠ [])
    (hroot : front ≠ [[]]) :
    ∃ more, names.foldl (pushSegment true) front = front ++ more := by
  induction names with
  | nil => exact ⟨[], (List.append_nil front).symm⟩
  | cons name names ih =>
      rw [List.foldl_cons]
      by_cases hdots : IsDots name
      · rw [pushSegment_of_isDots hdots]
        exact ih fun hclimbs => h (.later hdots hclimbs)
      · obtain ⟨segment, hpush⟩ :=
          exists_pushSegment_eq hdots (fun hclimbing => h (.here hclimbing)) hroot
        rw [hpush]
        obtain ⟨more, -, hmore⟩ := exists_foldl_pushSegment_eq names hfront
          (List.cons_ne_nil segment [])
        exact ⟨more, hmore⟩

/-- The URL leads to the scheme, the host and the port of the base address. -/
structure IsAt (url base : Url) : Prop where
  scheme : url.scheme = base.scheme
  host : url.host? = base.host?
  port : url.port? = base.port?

end Url

/-! ### Resources -/

theorem ObjectName.ofPath_segments (object : ObjectName) : .ofPath object.segments = object := by
  have hslash : "/".toList = ['/'] := rfl
  have htexts : object.segments.map String.toList = object.path.toList.splitOn '/' := by
    simp [segments, Function.comp_def]
  rw [ofPath, ObjectName.mk.injEq, ← String.toList_inj, String.toList_intercalate, htexts, hslash]
  exact List.intercalate_splitOn '/'

namespace Rest.Channel

variable {c : Channel} {object : ObjectName} {operation : Option String}

/-- The names on the way from the root of the endpoint to an object, or to an operation of it. -/
def way (object : ObjectName) (operation : Option String) : List String :=
  object.segments.filter (· != "") ++ operation.toList

/-- The root of the endpoint in a path. -/
def rootSegments : List (List Char) := apiRoot.map String.toList

/-- The path of the URL starts at the root of the endpoint. -/
def StartsAtRoot (url : Url) : Prop := ∃ more, url.path = .segments (rootSegments ++ more)

/-- The base address is one whose path is just a slash, as that of an admin server is. -/
structure IsBare (c : Channel) : Prop where
  special : Url.isSpecialScheme c.base.scheme = true
  path : c.base.path = .segments [[]]

theorem IsBare.resourceUrl_eq (h : c.IsBare) (object : ObjectName) (operation : Option String) :
    c.resourceUrl object operation = .ok { c.base with
      path := .segments ((way object operation).foldl (Url.pushSegment true) rootSegments) } := by
  have hroot : apiRoot.foldl (Url.pushSegment true) [[]] = rootSegments := by decide
  rw [resourceUrl, List.append_assoc, Url.extend?, h.path]
  simp only [h.special, List.foldl_append, way]
  simp [hroot]

/-- Whether a URL leaves the root of the endpoint is told by the names on the way. -/
theorem startsAtRoot_iff {names : List String} {url : Url}
    (hpath : url.path = .segments (names.foldl (Url.pushSegment true) rootSegments)) :
    StartsAtRoot url ↔ ¬ Climbs names := by
  constructor
  · rintro ⟨more, hmore⟩ hclimbs
    have hfront : rootSegments = ["management".toList, "weblogic".toList] ++ ["latest".toList] := rfl
    rw [hpath, hfront] at hmore
    obtain ⟨more', hfallen⟩ := Url.exists_foldl_pushSegment_of_climbs hclimbs
      (List.cons_ne_nil "management".toList ["weblogic".toList]) "latest".toList
    rw [hfallen] at hmore
    simp at hmore
  · intro hclimbs
    have hroot : rootSegments ≠ [] ∧ rootSegments ≠ [[]] := by decide
    obtain ⟨more, hmore⟩ :=
      Url.exists_foldl_pushSegment_of_not_climbs hclimbs hroot.1 hroot.2
    exact ⟨more, by rw [hpath, hmore]⟩

theorem IsBare.resourceUrl_of_isProperName (h : c.IsBare)
    (hobject : ∀ name ∈ object.segments, IsProperName name)
    (hoperation : ∀ name ∈ operation.toList, IsProperName name) :
    c.resourceUrl object operation = .ok { c.base with
      path := .segments (rootSegments ++
        (object.segments ++ operation.toList).map Url.spelled) } := by
  have hway : way object operation = object.segments ++ operation.toList := by
    rw [way, List.filter_eq_self.2]
    intro name hname
    simpa using (hobject name hname).nonempty
  rw [h.resourceUrl_eq, hway, Url.foldl_pushSegment (by decide)]
  intro name hname
  rcases List.mem_append.1 hname with hname | hname
  · exact hobject name hname
  · exact hoperation name hname

/-! ### Requests -/

/-- The object, or the operation of an object, that a call is a request for. -/
def requested : Call → ObjectName × Option String
  | .get object name =>
    (if AttributeKind.of name = .children then below object name else object, none)
  | .invoke object operation _ => (object, some operation)
  | .upload object operation _ _ => (object, some operation)

/-- The URL of a resource, its query and credentials aside. -/
def IsSentTo (c : Channel) (object : ObjectName) (operation : Option String) (sent : Url) : Prop :=
  ∃ url, c.resourceUrl object operation = .ok url ∧ sent.IsAt url ∧ sent.path = url.path

/-- A request that goes to a resource. -/
def IsRequestTo (c : Channel) (object : ObjectName) (operation : Option String) :
    Wire.Question → Prop
  | .send request => c.IsSentTo object operation request.url
  | .runTool _ _ | .sleep _ => False

variable {P : Wire.Question → Prop} {method : Http.Method} {url : Url} {body : Http.Body}

theorem asks_readReply {status : Nat} {bytes : List UInt8} {complete : Bool} :
    (c.readReply method url status bytes complete).run.Asks P := by
  unfold readReply
  by_cases hstatus : Http.isSuccess status = true
  · simp only [hstatus, if_true]
    cases c.logMessages <;> trivial
  · simp only [hstatus]
    cases c.logMessages <;> trivial

theorem asks_exchange
    (h : ∀ request : Http.Request, request.url = url.withoutCredentials → P (.send request)) :
    (c.exchange method url body).run.Asks P := by
  unfold exchange
  by_cases hsend : Http.canSendTo url.withoutCredentials = true
  · simp only [hsend]
    refine ⟨h _ rfl, fun reply => ?_⟩
    cases reply with
    | lost => trivial
    | answered status bytes complete => exact asks_readReply
  · simp only [hsend]
    trivial

theorem asks_ensureOpen : c.ensureOpen.run.Asks P := by
  unfold ensureOpen
  split <;> trivial

theorem isAt_withoutCredentials (url : Url) : url.withoutCredentials.IsAt url where
  scheme := url.scheme_withoutCredentials
  host := url.host?_withoutCredentials
  port := by
    unfold Url.withoutCredentials
    split
    · rfl
    · unfold Url.port?
      cases url.authority <;> rfl

/-- Whatever is added to a resource's URL behind its path, the request goes to the resource. -/
theorem isRequestTo {resource : Url} (hresource : c.resourceUrl object operation = .ok resource)
    {query : Option (List Char)} {request : Http.Request}
    (h : request.url = { resource with query := query }.withoutCredentials) :
    c.IsRequestTo object operation (.send request) := by
  have hat := isAt_withoutCredentials { resource with query := query }
  refine ⟨resource, hresource, ?_, ?_⟩
  · rw [h]
    exact ⟨hat.scheme, hat.host, hat.port⟩
  · rw [h, Url.path_withoutCredentials]

theorem asks_get (c : Channel) (object : ObjectName) (fields : String) :
    (c.get object fields).run.Asks (c.IsRequestTo object none) := by
  refine asks_ensureOpen.bind fun _ => ?_
  cases hresource : c.resourceUrl object none with
  | error e => trivial
  | ok resource => exact asks_exchange fun request hrequest => isRequestTo hresource hrequest

theorem asks_post (c : Channel) (object : ObjectName) (operation : String) (arguments : Json) :
    (c.post object operation arguments).run.Asks (c.IsRequestTo object (some operation)) := by
  refine asks_ensureOpen.bind fun _ => ?_
  cases hresource : c.resourceUrl object (some operation) with
  | error e => trivial
  | ok resource =>
      have hexchange : (c.exchange .post resource (.json arguments.compact)).run.Asks
          (c.IsRequestTo object (some operation)) :=
        asks_exchange fun request hrequest => isRequestTo hresource hrequest
      cases c.logMessages <;> exact hexchange

theorem asks_upload (c : Channel) (files : FileSystem) (object : ObjectName) (operation : String)
    (arguments : Json) (file : String) :
    (c.upload files object operation arguments file).run.Asks
      (c.IsRequestTo object (some operation)) := by
  refine asks_ensureOpen.bind fun _ => ?_
  refine Asks.bind trivial fun bytes => ?_
  cases hresource : c.resourceUrl object (some operation) with
  | error e => trivial
  | ok resource => exact asks_exchange fun request hrequest => isRequestTo hresource hrequest

theorem asks_getAttribute (c : Channel) (object : ObjectName) (name : String) :
    (c.getAttribute object name).run.Asks
      (c.IsRequestTo (requested (.get object name)).1 none) := by
  unfold getAttribute
  cases hkind : AttributeKind.of name with
  | child => trivial
  | children =>
      rw [requested, if_pos hkind]
      refine (asks_get c (below object name) "name").bind fun body => ?_
      trivial
  | references | field =>
      rw [requested, if_neg (by simp [hkind])]
      refine (asks_get c object (fieldName name)).bind fun body => ?_
      cases body.member? (fieldName name) <;> trivial

/-- Every request that a call sends goes to the resource that the call is for. -/
theorem asks_call (c : Channel) (files : FileSystem) (call : Call) :
    (c.call files call).run.Asks (c.IsRequestTo (requested call).1 (requested call).2) := by
  cases call with
  | get object name => exact asks_getAttribute c object name
  | invoke object operation arguments => exact (asks_post _ _ _ _).bind fun _ => trivial
  | upload object operation arguments file => exact (asks_upload _ _ _ _ _ _).bind fun _ => trivial

/-! ### Keeping to the endpoint -/

/-- What a channel keeps to, whatever the objects are called. -/
structure KeepsToEndpoint (c : Channel) : Prop where
  /-- Every resource is looked for at the base address, and it is below the root of the endpoint
  exactly unless the names on the way to it climb. -/
  located : ∀ object operation, ∃ url, c.resourceUrl object operation = .ok url ∧
    url.IsAt c.base ∧ (StartsAtRoot url ↔ ¬ Climbs (way object operation))
  /-- Every request goes to the resource that the call is for. -/
  asked : ∀ files call,
    (c.call files call).run.Asks (c.IsRequestTo (requested call).1 (requested call).2)
  /-- The way to a resource is read back from its URL. -/
  readBack : ∀ object operation, (∀ name ∈ object.segments, IsProperName name) →
    (∀ name ∈ operation.toList, IsProperName name) →
    ∃ url parts, c.resourceUrl object operation = .ok url ∧
      url.path = .segments (rootSegments ++ parts) ∧
      parts.map (fun part => Text.Utf8.decode? (Url.decodeBytes part)) =
        (object.segments ++ operation.toList).map some
  /-- Different objects have different URLs. -/
  distinct : ∀ object object', (∀ name ∈ object.segments, IsProperName name) →
    (∀ name ∈ object'.segments, IsProperName name) →
    c.resourceUrl object none = c.resourceUrl object' none → object = object'

theorem map_decode?_spelled (names : List String) :
    (names.map Url.spelled).map (fun part => Text.Utf8.decode? (Url.decodeBytes part)) =
      names.map some := by
  rw [List.map_map]
  exact List.map_congr_left fun name _ => Url.decode?_spelled name

theorem spelled_injective : Function.Injective Url.spelled := by
  intro name name' h
  have hname := Url.decode?_spelled name
  rw [h, Url.decode?_spelled] at hname
  exact (Option.some.inj hname).symm

theorem IsBare.keepsToEndpoint (h : c.IsBare) : c.KeepsToEndpoint where
  located object operation :=
    ⟨_, h.resourceUrl_eq object operation, ⟨rfl, rfl, rfl⟩, startsAtRoot_iff rfl⟩
  asked := asks_call c
  readBack object operation hobject hoperation :=
    ⟨_, _, h.resourceUrl_of_isProperName hobject hoperation, rfl, map_decode?_spelled _⟩
  distinct object object' hobject hobject' hsame := by
    rw [h.resourceUrl_of_isProperName hobject (by simp),
      h.resourceUrl_of_isProperName hobject' (by simp)] at hsame
    have hsegments : object.segments.map Url.spelled = object'.segments.map Url.spelled := by
      simpa using hsame
    rw [← object.ofPath_segments, ← object'.ofPath_segments,
      List.map_injective_iff.2 spelled_injective hsegments]

end Rest.Channel

namespace AdminUrl

variable {text : String} {a : AdminUrl} {c : Rest.Channel} {userName password : String}
  {logMessages : Bool}

/-- A channel to an accepted address keeps to the endpoint there. -/
theorem keepsToEndpoint_of_ofBase (h : parse text = .ok a)
    (hc : Rest.Channel.ofBase a.httpBase userName password logMessages = .ok c) :
    c.base.scheme = a.protocol.httpScheme ∧
      (∃ host, Url.Host.ofSpecial a.host.toList = .ok host ∧
        c.base.host? = some (String.ofList host.chars)) ∧
      c.base.port? = some a.port ∧ c.KeepsToEndpoint := by
  rw [ofBase_httpBase h] at hc
  split at hc
  next host hhost =>
    obtain rfl := Except.ok.inj hc
    have hspecial : Url.isSpecialScheme a.protocol.httpScheme = true := by
      rcases httpScheme_eq a.protocol with hscheme | hscheme <;> rw [hscheme] <;> rfl
    have hbare : (a.channel host userName password logMessages).IsBare := ⟨hspecial, rfl⟩
    exact ⟨rfl, ⟨host, hhost, Url.host?_base (Url.Host.isHostText_of_ofSpecial hhost).ne_nil⟩,
      Url.port?_base, hbare.keepsToEndpoint⟩
  next => cases hc

/-- A channel to `admin`. -/
def toAdmin : Rest.Channel :=
  channel ⟨.t3, "admin", 7001⟩ (.domain "admin".toList) "user" "secret" false

theorem ofBase_admin :
    Rest.Channel.ofBase (httpBase ⟨.t3, "admin", 7001⟩) "user" "secret" false = .ok toAdmin := by
  have hparse : parse "t3://admin:7001" = .ok ⟨.t3, "admin", 7001⟩ := rfl
  have hhost : (Url.Host.ofSpecial "admin".toList).toOption =
      some (.domain "admin".toList) := by decide +kernel
  rw [ofBase_httpBase hparse, eq_ok_of_toOption hhost]
  rfl

theorem keepsToEndpoint_of_ofBase_admin : parse "t3://admin:7001" = .ok ⟨.t3, "admin", 7001⟩ ∧
    Rest.Channel.ofBase (httpBase ⟨.t3, "admin", 7001⟩) "user" "secret" false = .ok toAdmin ∧
    toAdmin.base.scheme = "http" ∧
    (∃ host, Url.Host.ofSpecial "admin".toList = .ok host ∧
      toAdmin.base.host? = some (String.ofList host.chars)) ∧
    toAdmin.base.port? = some 7001 ∧ toAdmin.KeepsToEndpoint := by
  have hparse : parse "t3://admin:7001" = .ok ⟨.t3, "admin", 7001⟩ := rfl
  exact ⟨hparse, ofBase_admin, keepsToEndpoint_of_ofBase hparse ofBase_admin⟩

/-- An object that is looked for above the root of the endpoint: its name is two dots with a tab
between them. -/
theorem resourceUrl_above_root :
    Rest.Channel.ofBase (httpBase ⟨.t3, "admin", 7001⟩) "user" "secret" false = .ok toAdmin ∧
      ∃ url, toAdmin.resourceUrl ⟨".\t."⟩ none = .ok url ∧
        url.path.chars = "/management/weblogic/".toList ∧ ¬ Rest.Channel.StartsAtRoot url := by
  have hbare : toAdmin.IsBare := ⟨rfl, rfl⟩
  have hway : Rest.Channel.way ⟨".\t."⟩ none = [".\t."] := by decide
  obtain ⟨url, hurl, -, hroot⟩ := hbare.keepsToEndpoint.located ⟨".\t."⟩ none
  refine ⟨ofBase_admin, url, hurl, ?_, ?_⟩
  · rw [hbare.resourceUrl_eq, hway] at hurl
    obtain rfl := Except.ok.inj hurl
    decide
  · rw [hroot, hway, not_not]
    exact .here ⟨by decide, by decide⟩

end AdminUrl

end DomainDeploy
