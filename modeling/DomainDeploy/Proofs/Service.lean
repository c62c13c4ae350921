import DomainDeploy.Proofs.References
import DomainDeploy.Proofs.Standing
import DomainDeploy.Proofs.Writing

/-!
# Reading what a server shows

A usable channel to a server that shows a domain reads from there what stands in the domain: the
texts of its objects, what they refer to, what they list and where servers are reached
(`DomainGraph.outcome_getAttribute_text` and the lemmas behind it). Nothing but the length of a URL
can stand in the way of a request (`Http.delivered`).
-/

namespace DomainDeploy

open Program

/-! ### Exchanges -/

namespace Program.Static

variable {α : Type} {W : Static Wire}

@[simp] theorem outcome_ofResult (r : Except DeployError α) :
    W.outcome (Exchange.ofResult r).run = r := rfl

@[simp] theorem outcome_noteLine (level : LogLevel) (text : String) :
    W.outcome (Exchange.note level text).run = .ok () := rfl

@[simp] theorem outcome_send (request : Http.Request) :
    W.outcome (Exchange.send request).run = .ok (W (.send request)) := rfl

end Program.Static

/-! ### Documents -/

namespace Json

/-- A value that is read from a body as it was written there. -/
structure IsDocument (j : Json) : Prop where
  plain : IsPlain depthLimit j
  sorted : j.sorted = j
  nonblank : Text.isAllBlank j.compact = false

variable {j : Json}

theorem IsDocument.parseBody_eq (h : IsDocument j) : Rest.Channel.parseBody j.compact = .ok j := by
  rw [Rest.Channel.parseBody, h.nonblank, parse_compact h.plain]
  simp [Except.map, Except.mapError, h.sorted]

theorem isAllBlank_compact_object (members : List (String × Json)) :
    Text.isAllBlank (object members).compact = false := by
  have hbrace : ∃ tail, (object members).compact.toList = '\x7b' :: tail := by
    rw [compact, String.toList_ofList]
    cases members with
    | nil => exact ⟨_, rfl⟩
    | cons m rest => exact ⟨_, by simp [write]; rfl⟩
  rcases hbrace with ⟨tail, htail⟩
  have visible : Text.isBlank '\x7b' = false := by decide
  rw [Text.isAllBlank, htail, List.all_cons, visible, Bool.false_and]

theorem sortedItems_eq {items : List Json} (h : ∀ item ∈ items, item.sorted = item) :
    sortedItems items = items := by
  induction items with
  | nil => rfl
  | cons item rest ih =>
      rw [sortedItems, h item List.mem_cons_self, ih fun i hi => h i (List.mem_cons_of_mem _ hi)]

theorem sorted_singleton {name : String} {value : Json} (h : value.sorted = value) :
    (object [(name, value)]).sorted = object [(name, value)] := by
  simp [Json.sorted, sortedValues, sortMembers, insertMember, h]

theorem sorted_array {items : List Json} (h : ∀ item ∈ items, item.sorted = item) :
    (array items).sorted = array items := by
  rw [Json.sorted, sortedItems_eq h]

theorem isDocument_empty : IsDocument (object []) where
  plain := IsPlain.object (d := 126) (by simp)
  sorted := rfl
  nonblank := isAllBlank_compact_object _

theorem isDocument_singleton {name : String} {value : Json} (plain : IsPlain (126 + 1) value)
    (sorted : value.sorted = value) : IsDocument (object [(name, value)]) where
  plain := IsPlain.object (d := 126) (by simpa using plain)
  sorted := sorted_singleton sorted
  nonblank := isAllBlank_compact_object _

theorem isPlain_texts (d : Nat) (texts : List String) :
    IsPlain (d + 2) (array (texts.map string)) := by
  refine .array fun item hitem => ?_
  rcases List.mem_map.1 hitem with ⟨s, -, rfl⟩
  exact .string s

theorem sorted_texts (texts : List String) :
    (array (texts.map string)).sorted = array (texts.map string) := by
  refine sorted_array fun item hitem => ?_
  rcases List.mem_map.1 hitem with ⟨s, -, rfl⟩
  rfl

end Json

section

open Json

variable {style : Style} {p : List String} {r : Resource} {s : Scalar} {l : Link} {b : Branch}
  {text : String} {targets : List Target} {names : List String}

theorem isPlain_identity (d : Nat) (t : Target) : IsPlain (d + 3) (style.identity p t) := by
  unfold Style.identity
  split
  · exact isPlain_texts (d + 1) _
  · refine .object fun m hm => ?_
    rw [List.mem_singleton.1 hm]
    exact isPlain_texts d _

theorem sorted_identity (t : Target) : (style.identity p t).sorted = style.identity p t := by
  unfold Style.identity
  split
  · exact sorted_texts _
  · exact sorted_singleton (sorted_texts _)

namespace Resource

theorem document_text (style : Style) (p : List String) (hs : r.text s = some text) :
    r.document style p s.field = .object [(s.field, .string text)] ∨
      s = .type ∧ r.isTypedByPlace = true ∧ r.document style p s.field = .object [] := by
  have hfind : Scalar.all.find? (·.field == s.field) = some s := by cases s <;> decide
  have notLink : Link.all.find? (·.field == s.field) = none := by cases s <;> rfl
  by_cases hleft : s = .type ∧ r.isTypedByPlace = true ∧ style.omitsType p = true
  · rcases hleft with ⟨rfl, typed, omitted⟩
    exact .inr ⟨rfl, typed, by simp [document, textField?, linkField?, hfind, notLink, hs, typed,
      omitted]⟩
  · refine .inl ?_
    rw [← and_assoc] at hleft
    simp [document, textField?, hfind, hs, hleft]

theorem document_links (hl : r.links l = some targets) :
    r.document style p l.field =
      .object [(l.field, .array (targets.map (style.identity p)))] := by
  have notText : Scalar.all.find? (·.field == l.field) = none := by cases l <;> decide
  have hfind : Link.all.find? (·.field == l.field) = some l := by cases l <;> rfl
  simp [document, textField?, linkField?, notText, hfind, hl]

theorem listing?_branch (hb : r.listed b = some names) :
    r.listing? b.field = some (namedItems names) := by
  have hfind : Branch.all.find? (·.field == b.field) = some b := by cases b <;> rfl
  simp [listing?, hfind, hb]

end Resource

theorem isDocument_text (name text : String) : IsDocument (.object [(name, .string text)]) :=
  isDocument_singleton (.string text) rfl

theorem isDocument_links (name : String) (targets : List Target) :
    IsDocument (.object [(name, .array (targets.map (style.identity p)))]) := by
  refine isDocument_singleton (.array (d := 125) fun item hitem => ?_)
    (sorted_array fun item hitem => ?_)
  · rcases List.mem_map.1 hitem with ⟨t, -, rfl⟩
    exact isPlain_identity 123 t
  · rcases List.mem_map.1 hitem with ⟨t, -, rfl⟩
    exact sorted_identity t

theorem isDocument_namedItems (names : List String) :
    IsDocument (Resource.namedItems names) := by
  refine isDocument_singleton (.array (d := 125) fun item hitem => ?_)
    (sorted_array fun item hitem => ?_)
  · rcases List.mem_map.1 hitem with ⟨n, -, rfl⟩
    exact .object (d := 124) fun m hm => by
      rw [List.mem_singleton.1 hm]
      exact .string n
  · rcases List.mem_map.1 hitem with ⟨n, -, rfl⟩
    exact sorted_singleton rfl

end

/-! ### Requests -/

namespace Http

/-- What comes of a request to a URL where a value can be read. -/
def delivered {α : Type} (url : Url) (a : α) : Except DeployError α :=
  if url.isTooLong then .error (.transport (.unsendable url.withoutCredentials.toText)) else .ok a

theorem delivered_bind_pure {α β : Type} (url : Url) (a : α) (f : α → Except DeployError β) {b : β}
    (h : f a = .ok b) : (delivered url a >>= f) = delivered url b := by
  unfold delivered
  split
  · rfl
  · exact h

end Http

namespace Rest.Channel

variable {W : Static Wire} {c : Channel} {p : List String} {j : Json}

theorem outcome_readReply {method : Http.Method} {url : Url} (document : j.IsDocument) :
    W.outcome (c.readReply method url 200 (Text.Utf8.encode j.compact) true).run = .ok j := by
  have success : Http.isSuccess 200 = true := by decide
  unfold readReply
  simp only [success, if_true, Text.Utf8.decodeLenient_encode]
  cases c.logMessages with
  | false =>
      simp only [Bool.false_eq_true, if_false, document.parseBody_eq, Static.outcome_ofResult]
  | true =>
      simp only [if_true, Static.outcome_run_bind, Static.outcome_noteLine, ok_bind,
        document.parseBody_eq, Static.outcome_ofResult]

theorem outcome_exchange (usable : c.IsUsable) {method : Http.Method} (url : Url)
    (body : Http.Body) (hscheme : url.scheme = c.base.scheme)
    (hauthority : url.authority = c.base.authority) (document : j.IsDocument)
    (shown : ∀ request : Http.Request, request.method = method →
      request.url = url.withoutCredentials →
      W (.send request) = .answered 200 (Text.Utf8.encode j.compact) true) :
    W.outcome (c.exchange method url body).run = Http.delivered url j := by
  have hsend := canSendTo_withoutCredentials usable hscheme hauthority
  unfold exchange Http.delivered
  simp only [hsend]
  cases long : url.isTooLong with
  | false =>
      simp only [Bool.not_false, Bool.not_true, Bool.false_eq_true, if_false,
        Static.outcome_run_bind, Static.outcome_send, shown, ok_bind, outcome_readReply document]
  | true => simp

theorem outcome_ensureOpen (usable : c.IsUsable) : W.outcome c.ensureOpen.run = .ok () := by
  rw [ensureOpen, usable.isOpen]
  rfl

/-- A field is read from the document that is answered with. -/
theorem outcome_get (usable : c.IsUsable) (h : IsProperPath p) (field : String)
    (document : j.IsDocument)
    (shown : ∀ request : Http.Request, request.method = .get →
      request.url = (c.fieldAddress p field).withoutCredentials →
      W (.send request) = .answered 200 (Text.Utf8.encode j.compact) true) :
    W.outcome (c.get (.ofPath p) field).run = Http.delivered (c.fieldAddress p field) j := by
  have hurl := resourceUrl_ofPath usable h none (by simp)
  rw [Option.toList_none, List.append_nil] at hurl
  have served := outcome_exchange usable (c.fieldAddress p field) .nothing rfl rfl document shown
  unfold get
  simp only [Static.outcome_run_bind, outcome_ensureOpen usable, hurl, Static.outcome_ofResult,
    Static.outcome_noteLine, ok_bind]
  exact served

/-- An operation comes to the document that is answered with. -/
theorem outcome_post (usable : c.IsUsable) (h : IsProperPath p) {operation : String}
    (hoperation : IsProperName operation) (document : j.IsDocument)
    (shown : ∀ request : Http.Request, request.method = .post →
      request.url = (c.address (p ++ [operation])).withoutCredentials →
      W (.send request) = .answered 200 (Text.Utf8.encode j.compact) true) (arguments : Json) :
    W.outcome (c.post (.ofPath p) operation arguments).run =
      Http.delivered (c.address (p ++ [operation])) j := by
  have hurl := resourceUrl_ofPath usable h (some operation) (by simpa using hoperation)
  have served := outcome_exchange usable (c.address (p ++ [operation])) (.json arguments.compact)
    rfl rfl document shown
  unfold post
  cases c.logMessages <;>
    simpa [Static.outcome_run_bind, outcome_ensureOpen usable, hurl, ok_bind] using served

end Rest.Channel

namespace DomainGraph

variable {g : DomainGraph} {style : Style} {c : Rest.Channel} {p : List String} {r : Resource}

/-- Surroundings in which a server below a base address shows the domain. -/
def service (g : DomainGraph) (style : Style) (base : Url) : Static Wire
  | .send request => g.serve style base request
  | .runTool _ _ => .timedOut
  | .sleep _ => true

theorem serve_get {request : Http.Request} {field : String} {j : Json}
    (hfield : field.toList.all Char.isAlphanum = true)
    (shown : g.document? style p field = some j) (hmethod : request.method = .get)
    (hurl : request.url = (c.fieldAddress p field).withoutCredentials) :
    g.serve style c.base request = .answered 200 (Text.Utf8.encode j.compact) true := by
  have hpath : path? c.base request.url = some p :=
    path?_eq (by rw [hurl, Url.path_withoutCredentials]; rfl)
  have hasked : request.url.askedField? = some field := by
    rw [hurl, Url.askedField?_withoutCredentials]
    exact Url.askedField?_addQuery hfield
  simp [serve, hpath, hmethod, hasked, shown]

theorem serve_post {request : Http.Request} {j : Json} (shown : g.result? p = some j)
    (hmethod : request.method = .post)
    (hurl : request.url = (c.address p).withoutCredentials) :
    g.serve style c.base request = .answered 200 (Text.Utf8.encode j.compact) true := by
  have hpath : path? c.base request.url = some p :=
    path?_eq (by rw [hurl, Url.path_withoutCredentials]; rfl)
  simp [serve, hpath, hmethod, shown]

/-- A field is read from the document that is shown at the path. -/
theorem outcome_get (usable : c.IsUsable) (h : IsProperPath p) {field : String} {j : Json}
    (hfield : field.toList.all Char.isAlphanum = true) (document : j.IsDocument)
    (shown : g.document? style p field = some j) :
    (g.service style c.base).outcome (c.get (.ofPath p) field).run =
      Http.delivered (c.fieldAddress p field) j :=
  Rest.Channel.outcome_get usable h field document fun _ hmethod hsent =>
    serve_get hfield shown hmethod hsent

/-- An operation comes to the document that it returns. -/
theorem outcome_post (style : Style) (usable : c.IsUsable) (h : IsProperPath p)
    {operation : String} {j : Json} (hoperation : IsProperName operation) (document : j.IsDocument)
    (shown : g.result? (p ++ [operation]) = some j) (arguments : Json) :
    (g.service style c.base).outcome (c.post (.ofPath p) operation arguments).run =
      Http.delivered (c.address (p ++ [operation])) j :=
  Rest.Channel.outcome_post usable h hoperation document
    (fun _ hmethod hsent => serve_post shown hmethod hsent) arguments

end DomainGraph

/-! ### References -/

section

variable {style : Style} {p : List String} {t : Target} {targets : List Target}

theorem configured_target (t : Target) : ObjectName.configured t.path.tail = t.object := by
  cases t <;> rfl

theorem isReference_identity (style : Style) (p : List String) (t : Target) :
    (style.identity p t).IsReference t.path.tail := by
  unfold Style.identity
  split
  · refine .bare ?_
    cases t <;> exact List.cons_ne_nil _ _
  · exact .holder rfl

theorem refersTo_links (style : Style) (p : List String) (targets : List Target) :
    (Json.array (targets.map (style.identity p))).RefersTo
      (targets.map fun t => t.path.tail) := by
  cases targets with
  -- an empty list says nothing of what its items would be; it is read as no references
  | nil => exact .nowhere
  | cons t rest =>
      refine .list (List.cons_ne_nil _ _) ?_
      rw [List.forall₂_map_left_iff, List.forall₂_map_right_iff, List.forall₂_same]
      exact fun t _ => isReference_identity style p t

theorem toReferences_links (style : Style) (p : List String) (targets : List Target) :
    (Json.array (targets.map (style.identity p))).referenceReading.toReferences =
      .ok (targets.map Target.object) := by
  rw [Json.toReferences_of_refersTo (refersTo_links style p targets), List.map_map]
  simp only [Function.comp_def, configured_target]

end

namespace DomainGraph

variable {g : DomainGraph} {style : Style} {c : Rest.Channel} {p : List String} {r : Resource}

/-! ### Attributes -/

section

variable {s : Scalar} {l : Link} {b : Branch} {text : String} {targets : List Target}
  {names : List String}

theorem outcome_getAttribute_text (style : Style) (usable : c.IsUsable) (h : g.Stands p r)
    (hs : r.text s = some text) :
    (g.service style c.base).outcome (c.getAttribute (.ofPath p) s.key).run =
      Http.delivered (c.fieldAddress p s.field) (.text text) := by
  have hkind : Rest.AttributeKind.of s.key = .field := by cases s <;> decide
  have hfield : Rest.fieldName s.key = s.field := by cases s <;> decide
  have plain : s.field.toList.all Char.isAlphanum = true := by cases s <;> decide
  have shown : g.document? style p s.field = some (r.document style p s.field) := by
    rw [document?, h.resource?_eq]
  unfold Rest.Channel.getAttribute
  simp only [hkind, hfield, Static.outcome_run_bind]
  -- the field is shown, or it is the type of a target, left out and told by the place
  rcases Resource.document_text style p hs with hdoc | ⟨rfl, typed, hdoc⟩
  · rw [hdoc] at shown
    rw [outcome_get usable h.isProperPath plain (isDocument_text _ _) shown]
    refine Http.delivered_bind_pure _ _ _ ?_
    simp [Json.member?, Reading.ofJson]
  · rw [hdoc] at shown
    rw [outcome_get usable h.isProperPath plain Json.isDocument_empty shown]
    refine Http.delivered_bind_pure _ _ _ ?_
    have htype := h.typeByCollection_eq typed
    simp [Json.member?, Rest.Channel.byPlace, Scalar.key, htype, hs]

theorem outcome_getAttribute_links (style : Style) (usable : c.IsUsable) (h : g.Stands p r)
    (hl : r.links l = some targets) : ∃ reading : Reading,
      reading.toReferences = .ok (targets.map Target.object) ∧
      (g.service style c.base).outcome (c.getAttribute (.ofPath p) l.key).run =
        Http.delivered (c.fieldAddress p l.field) reading := by
  have hkind : Rest.AttributeKind.of l.key = .references := by cases l <;> decide
  have hfield : Rest.fieldName l.key = l.field := by cases l <;> decide
  have plain : l.field.toList.all Char.isAlphanum = true := by cases l <;> decide
  have shown : g.document? style p l.field = some (r.document style p l.field) := by
    rw [document?, h.resource?_eq]
  refine ⟨_, toReferences_links style p targets, ?_⟩
  rw [Resource.document_links hl] at shown
  unfold Rest.Channel.getAttribute
  simp only [hkind, hfield, Static.outcome_run_bind]
  rw [outcome_get usable h.isProperPath plain (isDocument_links _ _) shown]
  refine Http.delivered_bind_pure _ _ _ ?_
  simp [Json.member?, Json.referenceReading]

theorem itemsOf_namedItems (h : IsProperPath p) :
    Rest.Channel.itemsOf (.ofPath p) (Resource.namedItems names) =
      names.map fun n => .ofPath (p ++ [n]) := by
  have hnames : (names.map fun n => Json.object [("name", .string n)]).filterMap
      (fun item => (item.member? "name").bind Json.text?) = names := by
    rw [List.filterMap_map]
    simp [Function.comp_def, Json.member?, Json.text?]
  calc Rest.Channel.itemsOf (.ofPath p) (Resource.namedItems names)
      = ((names.map fun n => Json.object [("name", .string n)]).filterMap
          fun item => (item.member? "name").bind Json.text?).map (ObjectName.ofPath p).child := rfl
    _ = names.map fun n => .ofPath (p ++ [n]) := by
      rw [hnames]
      exact List.map_congr_left fun n _ => ObjectName.child_ofPath h n

/-- The items of a collection are read where the collection starts. -/
theorem outcome_get_listing (usable : c.IsUsable) (h : g.Stands p r)
    (hb : r.listed b = some names) :
    (g.service style c.base).outcome (c.get (.ofPath (p ++ [b.field])) "name").run =
      Http.delivered (c.fieldAddress (p ++ [b.field]) "name") (Resource.namedItems names) := by
  have hpath : IsProperPath (p ++ [b.field]) :=
    h.isProperPath.append (by simpa using isProperName_field b)
  have shown : g.document? style (p ++ [b.field]) "name" = r.listing? b.field := by
    rw [document?, h.resource?_collection, List.dropLast_concat, h.resource?_eq]
    simp
  rw [Resource.listing?_branch hb] at shown
  exact outcome_get usable hpath (by decide) (isDocument_namedItems names) shown

theorem outcome_getAttribute_branch (style : Style) (usable : c.IsUsable) (h : g.Stands p r)
    (hb : r.listed b = some names) :
    (g.service style c.base).outcome (c.getAttribute (.ofPath p) b.key).run =
      Http.delivered (c.fieldAddress (p ++ [b.field]) "name")
        (.references (names.map fun n => .ofPath (p ++ [b.field, n]))) := by
  have hkind : Rest.AttributeKind.of b.key = .children := by cases b <;> decide
  have hbelow : Rest.below (.ofPath p) b.key = .ofPath (p ++ [b.field]) := by
    have hfield : Rest.fieldName b.key = b.field := by cases b <;> decide
    simp [Rest.below, ObjectName.isRoot_ofPath h.isProperPath, hfield,
      ObjectName.child_ofPath h.isProperPath]
  have hpath : IsProperPath (p ++ [b.field]) :=
    h.isProperPath.append (by simpa using isProperName_field b)
  unfold Rest.Channel.getAttribute
  simp only [hkind, hbelow, Static.outcome_run_bind, outcome_get_listing usable h hb]
  refine Http.delivered_bind_pure _ _ _ ?_
  simp [itemsOf_namedItems hpath]

theorem outcome_getAttribute_root_runtimes (style : Style) (usable : c.IsUsable) :
    (g.service style c.base).outcome (c.getAttribute .root Branch.runtimes.key).run =
      Http.delivered (c.fieldAddress (["domainRuntime"] ++ [Branch.runtimes.field]) "name")
        (.references (g.runtimes.names.map fun n =>
          .ofPath (["domainRuntime"] ++ [Branch.runtimes.field, n]))) := by
  have below := outcome_getAttribute_branch style usable (Stands.domain (g := g))
    (b := .runtimes) rfl
  rw [← below]
  rfl

/-- Where a running server is reached is what the operation returns. -/
theorem outcome_getURL (style : Style) (usable : c.IsUsable) (h : g.Stands p r) {url : String}
    (hurl : r.url? = some url) (files : FileSystem) (arguments : Json) :
    (g.service style c.base).outcome (c.call files (.invoke (.ofPath p) "getURL" arguments)).run =
      Http.delivered (c.address (p ++ ["getURL"])) (.text url) := by
  have shown : g.result? (p ++ ["getURL"]) = some (.object [("return", .string url)]) := by
    simp [result?, h.resource?_eq, hurl]
  have posted := outcome_post (c := c) style usable h.isProperPath (by decide)
    (isDocument_text _ _) shown arguments
  unfold Rest.Channel.call
  simp only [Static.outcome_run_bind, posted]
  refine Http.delivered_bind_pure _ _ _ ?_
  simp [Rest.Channel.operationResult, Json.member?, Reading.ofJson]

end

end DomainGraph

end DomainDeploy
