import DomainDeploy.Proofs.Requests
import DomainDeploy.Proofs.Service
import DomainDeploy.Proofs.Session

/-!
# Converting references

What a deployment is targeted to, and which servers a cluster has, is read from a field of a
resource over the management endpoint. Whatever is received there is converted all or nothing,
unless the field holds a single reference whose way is not made of texts: that is read as no
reference, and exactly then a malformed reference is read as fewer of them than were meant
(`Rest.Channel.getReferences_converts_iff`).
-/

namespace DomainDeploy

open Program

namespace Rest.Channel

variable {σ : Type} {c : Channel} {object : ObjectName} {name : String} {body value : Json}
  {w : Responder Wire σ} {s : σ}

theorem attributeKind_of_mem (h : name ∈ referenceAttributes) :
    AttributeKind.of name = .references := by
  rcases List.mem_cons.1 h with rfl | h
  · decide
  · obtain rfl := List.mem_singleton.1 h
    decide

theorem value_getAttribute_references (hname : name ∈ referenceAttributes)
    (hbody : ((c.get object (fieldName name)).run.run w s).value = .ok body)
    (hvalue : body.member? (fieldName name) = some value) :
    ((c.getAttribute object name).run.run w s).value = .ok value.referenceReading := by
  unfold getAttribute
  simp only [attributeKind_of_mem hname]
  rw [value_run_bind_of_ok hbody, hvalue]
  rfl

theorem value_getReferences (files : FileSystem) (environment : String → Option String)
    (configuration : Configuration) {reading : Reading}
    (h : ((c.getAttribute object name).run.run w s).value = .ok reading) :
    (((Activity.getReferences object name).run.via (bridge files environment configuration)
      (some c)).run w s).value = (reading.toReferences, some c) := by
  have hget : (((Activity.get object name).run.via (bridge files environment configuration)
      (some c)).run w s).value = (.ok reading, some c) := by
    have hprogram : (Activity.get object name).run.via (bridge files environment configuration)
        (some c) = ((c.getAttribute object name).run.andThen fun r => done (r, some c)).andThen
          done := rfl
    rw [hprogram, andThen_done, value_run_andThen, h]
    rfl
  rw [Activity.getReferences, run_bind_eq_andThen, via_andThen, value_run_andThen, hget]
  rfl

/-- Whatever surrounds a channel, a field of references that is received is converted all or
nothing, exactly unless it holds a single broken reference, which is read as none. -/
theorem getReferences_converts_iff (w : Responder Wire σ) (s : σ) (c : Channel)
    (object : ObjectName) (name : String) (body value : Json) (files : FileSystem)
    (environment : String → Option String) (configuration : Configuration)
    (hname : name ∈ referenceAttributes)
    (hbody : ((c.get object (fieldName name)).run.run w s).value = .ok body)
    (hvalue : body.member? (fieldName name) = some value) :
    ∃ reading references,
      ((c.getAttribute object name).run.run w s).value = .ok reading ∧
      (((Activity.getReferences object name).run.via (bridge files environment configuration)
        (some c)).run w s).value = (references, some c) ∧
      (∀ ways, ways ≠ [] → value.RefersTo ways →
        reading = .references (ways.map .configured)) ∧
      (value.Converts references ↔ ¬ value.IsBroken) ∧
      (value.IsBroken → references = .ok []) := by
  have hreading := value_getAttribute_references hname hbody hvalue
  refine ⟨_, _, hreading, value_getReferences files environment configuration hreading,
    fun ways nonempty hrefers => Json.referenceReading_of_refersTo hrefers nonempty,
    Json.converts_toReferences_iff, fun hbroken => ?_⟩
  rw [Json.referenceReading_of_isBroken hbroken]
  rfl

/-- A channel to a server on this machine. -/
def toLocalhost : Channel where
  base := ⟨"http", some ⟨[], none, .domain "localhost".toList, some 7001⟩, .segments [[]], none,
    none⟩
  userName := "weblogic"
  password := "welcome1"
  logMessages := false

theorem isUsable_toLocalhost : toLocalhost.IsUsable where
  isOpen := rfl
  scheme := .inl rfl
  host := by decide
  path := ⟨_, rfl⟩

/-- A resource with these targets. -/
def targeted (targets : Json) : Json := .object [("targets", targets)]

/-- A server whose resources are all targeted there. -/
def showing (targets : Json) : Static Wire
  | .send _ => .answered 200 (Text.Utf8.encode (targeted targets).compact) true
  | .runTool _ _ => .timedOut
  | .sleep _ => true

/-- A deployment. -/
def foo : ObjectName := .configured ["appDeployments", "foo"]

/-- Reading the targets of `foo` from such a server. -/
def readTargets (targets : Json) :
    Played Wire Note Unit (Except DeployError (List ObjectName) × Option Channel) :=
  ((Activity.getReferences foo "Targets").run.via
    (bridge .empty (fun _ => none) Deployer.sample.configuration) (some toLocalhost)).run
      (showing targets).responder ()

theorem value_get_targeted {targets : Json} (document : (targeted targets).IsDocument) :
    ((toLocalhost.get foo "targets").run.run (showing targets).responder ()).value =
      .ok (targeted targets) := by
  have proper : IsProperPath ["domainConfig", "appDeployments", "foo"] := ⟨by decide, by decide⟩
  have short : (toLocalhost.fieldAddress ["domainConfig", "appDeployments", "foo"]
      "targets").isTooLong = false := by decide +kernel
  have hget := outcome_get (W := showing targets) isUsable_toLocalhost proper "targets" document
    fun _ _ _ => rfl
  rw [Http.delivered, short, if_neg Bool.false_ne_true] at hget
  exact hget

/-- A server and a cluster, each referred to in another way. -/
def mixed : Json := .array [.object [("identity", .ofTexts ["servers", "a"])],
  .ofTexts ["clusters", "c"]]

/-- Both are read. -/
theorem getReferences_converts_iff_mixed :
    "Targets" ∈ referenceAttributes ∧
      ((toLocalhost.get foo (fieldName "Targets")).run.run (showing mixed).responder ()).value =
        .ok (targeted mixed) ∧
      (targeted mixed).member? (fieldName "Targets") = some mixed ∧
      mixed.RefersTo [["servers", "a"], ["clusters", "c"]] ∧ ¬ mixed.IsBroken ∧
      ∃ reading references,
        ((toLocalhost.getAttribute foo "Targets").run.run (showing mixed).responder ()).value =
          .ok reading ∧
        (readTargets mixed).value = (references, some toLocalhost) ∧
        (∀ ways, ways ≠ [] → mixed.RefersTo ways →
          reading = .references (ways.map .configured)) ∧
        (mixed.Converts references ↔ ¬ mixed.IsBroken) ∧
        (mixed.IsBroken → references = .ok []) := by
  have document : (targeted mixed).IsDocument :=
    @isDocument_links ⟨fun _ => false, fun _ t => t matches .cluster _⟩ [] "targets"
      [.server "a", .cluster "c"]
  have hfield : fieldName "Targets" = "targets" := by decide
  have hbody : ((toLocalhost.get foo (fieldName "Targets")).run.run (showing mixed).responder
      ()).value = .ok (targeted mixed) := by
    rw [hfield]
    exact value_get_targeted document
  have hmember : (targeted mixed).member? (fieldName "Targets") = some mixed := by
    rw [hfield]
    rfl
  exact ⟨by decide, hbody, hmember,
    .list (List.cons_ne_nil _ _) (.cons (.holder rfl) (.cons (.bare (List.cons_ne_nil _ _)) .nil)),
    nofun, getReferences_converts_iff _ _ _ _ _ _ _ _ _ _ (by decide) hbody hmember⟩

/-- A single reference whose way is not made of texts. -/
def broken : Json := .object [("identity", .array [.string "servers", .number (.natural 7)])]

/-- It refers to no object, and is read as no reference instead of being refused. -/
theorem readTargets_broken :
    (readTargets broken).value.1 = .ok [] ∧ (∀ ways, ¬ broken.RefersTo ways) ∧
      ¬ broken.Converts (readTargets broken).value.1 := by
  have hvalue : (readTargets broken).value.1.toOption = some [] := by decide +kernel
  have hread := eq_ok_of_toOption hvalue
  have hbroken : broken.IsBroken :=
    .holder rfl ⟨_, List.mem_cons_of_mem _ List.mem_cons_self, rfl⟩
  refine ⟨hread, fun ways => hbroken.not_refersTo, fun hconverts => ?_⟩
  obtain ⟨kind, hrefused⟩ := hconverts.refuses fun ways => hbroken.not_refersTo
  rw [hread] at hrefused
  cases hrefused

end Rest.Channel

end DomainDeploy
