import DomainDeploy.Proofs.Graph
import DomainDeploy.Proofs.Parts

/-!
# References in attributes

A deployment says which servers and clusters it is targeted to, and a cluster says which servers
belong to it, by a field that refers to configured objects. `Json.RefersTo` tells which values of
such a field refer to objects, and to which ones. A value that does is read as references to exactly
these objects, and any other value is refused, so that no target and no member is lost on the way;
the one exception is a single reference whose way is not made of texts (`Json.IsBroken`), which is
read as no reference at all (`Rest.Channel.getReferences_converts_iff`).
-/

namespace DomainDeploy

open Program

/-- The configured object at the end of a way from the root of the configuration. -/
def ObjectName.configured (way : List String) : ObjectName :=
  .ofPath (Rest.configurationTree :: way)

namespace Json

/-- A list of texts. -/
def ofTexts (texts : List String) : Json := .array (texts.map .string)

/-- An item of a list that refers to the object at the end of a way: it holds the way as its
identity, or is the way, which must then lead somewhere. -/
inductive IsReference : Json → List String → Prop
  | holder {members : List (String × Json)} {way : List String}
      (identity : members.lookup "identity" = some (ofTexts way)) : IsReference (.object members) way
  | bare {way : List String} (nonempty : way ≠ []) : IsReference (ofTexts way) way

/-- A value that refers to the objects at the ends of these ways. -/
inductive RefersTo : Json → List (List String) → Prop
  | null : RefersTo .null []
  | nowhere : RefersTo (.array []) []
  | single {members : List (String × Json)} {way : List String}
      (identity : members.lookup "identity" = some (ofTexts way)) :
      RefersTo (.object members) [way]
  | list {items : List Json} {ways : List (List String)} (nonempty : items ≠ [])
      (items_refer : List.Forall₂ IsReference items ways) : RefersTo (.array items) ways

/-- A single reference whose way is not made of texts. -/
inductive IsBroken : Json → Prop
  | holder {members : List (String × Json)} {items : List Json}
      (identity : members.lookup "identity" = some (.array items))
      (other : ∃ item ∈ items, item.text? = none) : IsBroken (.object members)

/-! ### Ways -/

variable {items : List Json} {item value : Json} {way : List String} {ways : List (List String)}
  {name : ObjectName}

theorem text?_eq_some_iff {s : String} : item.text? = some s ↔ item = .string s := by
  cases item <;> simp [text?]

theorem mapM_text?_eq_some_iff : items.mapM text? = some way ↔ items = way.map .string := by
  rw [mapM_eq_some]
  simp only [text?_eq_some_iff]
  rw [← List.forall₂_eq_eq_eq, List.forall₂_map_right_iff]

theorem mapM_text?_eq_none_iff : items.mapM text? = none ↔ ∃ item ∈ items, item.text? = none := by
  induction items with
  | nil => simp
  | cons item items ih =>
      rw [List.mapM_cons]
      cases htext : item.text? with
      | none => simp [htext]
      | some s =>
          simp only [Option.bind_eq_bind, Option.bind_some, Option.pure_def,
            Option.bind_eq_none_iff, reduceCtorEq, imp_false, ← Option.eq_none_iff_forall_ne_some,
            ih, List.exists_mem_cons_iff, htext, false_or]

theorem items?_eq_some_iff : value.items? = some items ↔ value = .array items := by
  cases value <;> simp [items?]

theorem identityMember?_object {members : List (String × Json)} :
    (object members).identityMember? = some items ↔
      members.lookup "identity" = some (.array items) := by
  rw [identityMember?, member?, Option.bind_eq_some_iff]
  simp only [items?_eq_some_iff, exists_eq_right]

theorem foldl_child {path : String} (h : path ≠ "") (way : List String) :
    way.foldl ObjectName.child ⟨path⟩ = ⟨"/".intercalate (path :: way)⟩ := by
  induction way generalizing path with
  | nil => simp
  | cons segment way ih =>
      have hroot : (⟨path⟩ : ObjectName).isRoot = false := by simpa [ObjectName.isRoot] using h
      have hne : path ++ "/" ++ segment ≠ "" := by
        rw [ne_eq, ← String.toList_inj]
        simp
      rw [List.foldl_cons, ObjectName.child, hroot, if_neg Bool.false_ne_true, ih hne,
        String.intercalate_cons_cons]
      cases way with
      | nil => simp
      | cons next way => simp [String.intercalate_cons_cons, String.append_assoc]

theorem ofIdentity?_eq_some_iff :
    ObjectName.ofIdentity? Rest.configurationTree items = some name ↔
      ∃ way, items = way.map .string ∧ name = .configured way := by
  have htree : Rest.configurationTree ≠ "" := by decide
  rw [ObjectName.ofIdentity?, Option.map_eq_some_iff]
  simp only [mapM_text?_eq_some_iff, foldl_child htree]
  constructor
  · rintro ⟨way, hitems, rfl⟩
    exact ⟨way, hitems, rfl⟩
  · rintro ⟨way, hitems, rfl⟩
    exact ⟨way, hitems, rfl⟩

theorem ofIdentity?_eq_none_iff :
    ObjectName.ofIdentity? Rest.configurationTree items = none ↔
      ∃ item ∈ items, item.text? = none := by
  rw [ObjectName.ofIdentity?, Option.map_eq_none_iff, mapM_text?_eq_none_iff]

/-! ### Items of a list -/

theorem identity?_array : (array items).identity? =
    if items.all isText && !items.isEmpty then some items else none := rfl

theorem reference?_eq_some_iff :
    (item.identity?.bind (ObjectName.ofIdentity? Rest.configurationTree)) = some name ↔
      ∃ way, IsReference item way ∧ name = .configured way := by
  rw [Option.bind_eq_some_iff]
  simp only [ofIdentity?_eq_some_iff]
  constructor
  · rintro ⟨identity, hidentity, way, rfl, rfl⟩
    refine ⟨way, ?_, rfl⟩
    cases item with
    | array items =>
        rw [identity?_array] at hidentity
        split at hidentity
        next hway =>
          obtain rfl := Option.some.inj hidentity
          refine .bare ?_
          simpa using (Bool.and_eq_true_iff.1 hway).2
        next => cases hidentity
    | object members => exact .holder (identityMember?_object.1 hidentity)
    | null | bool _ | number _ | string _ => cases hidentity
  · rintro ⟨way, href, rfl⟩
    cases href with
    | holder identity => exact ⟨_, identityMember?_object.2 identity, way, rfl, rfl⟩
    | bare nonempty =>
        refine ⟨way.map .string, ?_, way, rfl, rfl⟩
        rw [ofTexts, identity?_array]
        simp [isText, nonempty]

theorem IsReference.text?_eq_none (h : IsReference item way) : item.text? = none := by
  cases h <;> rfl

theorem references?_eq_some_iff {names : List ObjectName} :
    (items.mapM fun item => item.identity?.bind (ObjectName.ofIdentity? Rest.configurationTree)) =
        some names ↔
      ∃ ways, List.Forall₂ IsReference items ways ∧ names = ways.map .configured := by
  rw [mapM_eq_some]
  simp only [reference?_eq_some_iff]
  constructor
  · intro h
    induction h with
    | nil => exact ⟨[], .nil, rfl⟩
    | cons href _ ih =>
        obtain ⟨way, hway, rfl⟩ := href
        obtain ⟨ways, hways, rfl⟩ := ih
        exact ⟨way :: ways, .cons hway hways, rfl⟩
  · rintro ⟨ways, hways, rfl⟩
    rw [List.forall₂_map_right_iff]
    exact hways.imp fun _ way hway => ⟨way, hway, rfl⟩

/-! ### Values of fields -/

theorem references?_eq_none (nonempty : items ≠ [])
    (h : ∀ ways, ¬ RefersTo (.array items) ways) :
    (items.mapM fun item => item.identity?.bind (ObjectName.ofIdentity? Rest.configurationTree)) =
      none := by
  rw [Option.eq_none_iff_forall_ne_some]
  intro names hnames
  obtain ⟨ways, hways, -⟩ := references?_eq_some_iff.1 hnames
  exact h ways (.list nonempty hways)

/-- The reading of a field that names objects of the configuration. -/
def referenceReading (value : Json) : Reading :=
  Rest.Channel.asList (Reading.ofJson Rest.configurationTree value)

theorem referenceReading_of_refersTo (h : RefersTo value ways) (nonempty : ways ≠ []) :
    value.referenceReading = .references (ways.map .configured) := by
  cases h with
  | null | nowhere => exact (nonempty rfl).elim
  | @single members way identity =>
      have hway := ofIdentity?_eq_some_iff.2 ⟨way, rfl, rfl⟩
      rw [referenceReading, Reading.ofJson, identityMember?_object.2 identity]
      simp only [hway]
      rfl
  | @list items _ hitems items_refer =>
      cases items_refer with
      | nil => exact (hitems rfl).elim
      | @cons item way items ways href hrest =>
          have hnoTexts : (item :: items).mapM text? = none :=
            mapM_text?_eq_none_iff.2 ⟨item, List.mem_cons_self, href.text?_eq_none⟩
          have hnames := references?_eq_some_iff.2 ⟨_, .cons href hrest, rfl⟩
          rw [referenceReading, Reading.ofJson, hnoTexts]
          · simp only [Reading.ofItems, hnames]
            rfl
          · nofun

theorem toReferences_of_refersTo (h : RefersTo value ways) :
    value.referenceReading.toReferences = .ok (ways.map .configured) := by
  by_cases nonempty : ways = []
  · subst nonempty
    cases h with
    | null | nowhere => rfl
    | list hitems items_refer => exact (hitems (List.forall₂_nil_right_iff.1 items_refer)).elim
  · rw [referenceReading_of_refersTo h nonempty]
    rfl

theorem referenceReading_of_isBroken (h : IsBroken value) : value.referenceReading = .null := by
  cases h with
  | holder identity other =>
      have hnone := ofIdentity?_eq_none_iff.2 other
      rw [referenceReading, Reading.ofJson, identityMember?_object.2 identity]
      simp only [hnone]
      rfl

theorem IsBroken.not_refersTo (h : IsBroken value) : ¬ RefersTo value ways := by
  cases h with
  | holder identity other =>
      intro hrefers
      cases hrefers with
      | single hway =>
          rw [hway, Option.some_inj, ofTexts, array.injEq] at identity
          subst identity
          obtain ⟨item, hitem, htext⟩ := other
          obtain ⟨s, -, rfl⟩ := List.mem_map.1 hitem
          cases htext

/-- What neither refers to objects nor is broken is refused. -/
theorem toReferences_eq_error (hrefers : ∀ ways, ¬ RefersTo value ways)
    (hbroken : ¬ IsBroken value) :
    ∃ kind, value.referenceReading.toReferences =
      .error (.protocol (.wrongKind .references kind)) := by
  cases value with
  | null => exact (hrefers [] .null).elim
  | bool b => exact ⟨_, rfl⟩
  | number n =>
      rw [referenceReading, Reading.ofJson]
      cases n.toInt? <;> exact ⟨_, rfl⟩
  | string s => exact ⟨_, rfl⟩
  | array items =>
      cases items with
      | nil => exact (hrefers [] .nowhere).elim
      | cons item items =>
          rw [referenceReading, Reading.ofJson]
          · cases (item :: items).mapM text? with
            | some texts => exact ⟨_, rfl⟩
            | none =>
                simp only [Reading.ofItems, references?_eq_none (List.cons_ne_nil _ _) hrefers]
                exact ⟨_, rfl⟩
          · nofun
  | object members =>
      rw [referenceReading, Reading.ofJson]
      cases hidentity : (object members).identityMember? with
      | none => exact ⟨_, rfl⟩
      | some items =>
          have hmember := identityMember?_object.1 hidentity
          cases hitems : items.mapM text? with
          | some way =>
              obtain rfl := mapM_text?_eq_some_iff.1 hitems
              exact (hrefers [way] (.single hmember)).elim
          | none => exact (hbroken (.holder hmember (mapM_text?_eq_none_iff.1 hitems))).elim

/-- A value is converted all or nothing: to exactly the objects that it refers to, in their order,
or not at all. -/
structure Converts (value : Json) (r : Except DeployError (List ObjectName)) : Prop where
  refers : ∀ ways, RefersTo value ways → r = .ok (ways.map .configured)
  refuses : (∀ ways, ¬ RefersTo value ways) →
    ∃ kind, r = .error (.protocol (.wrongKind .references kind))

theorem converts_toReferences_iff :
    Converts value value.referenceReading.toReferences ↔ ¬ IsBroken value := by
  constructor
  · intro hconverts hbroken
    obtain ⟨kind, hkind⟩ := hconverts.refuses fun ways => hbroken.not_refersTo
    rw [referenceReading_of_isBroken hbroken] at hkind
    cases hkind
  · intro hbroken
    exact ⟨fun ways => toReferences_of_refersTo, fun hrefers =>
      toReferences_eq_error hrefers hbroken⟩

end Json

end DomainDeploy
