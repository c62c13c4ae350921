import Mathlib.Data.List.Nodup
import DomainDeploy.Proofs.Shapes

/-!
# Records of fields

What an object makes of a record is told member by member (`Fills`): a member of a field is read
once, a member of another name is left alone, and no field that is required is missing. What a list
makes of it is told item by item, in the order of the fields (`FillsInOrder`). A record is read as
just that from any text of the object or the list (`takes_record_object`, `takes_record_list`), and
an object that holds a field twice is refused (`refuses_record_object`).
-/

namespace DomainDeploy.Json

variable {α σ : Type}

/-! ### Lists of values -/

section

variable {r : Reader α} {close left space : List Char} {i : Item} {items : List Item}

/-- What a list still holds, from its first item on or from behind an item. -/
def itemsFrom (first : Bool) (close : List Char) (items : List Item) (left : List Char) :
    List Char :=
  if first then commaed (items.map Item.chars) ++ (close ++ ']' :: left)
  else itemsBehind close items left

theorem listText_append (close : List Char) (items : List Item) (left : List Char) :
    listText close items ++ left = '[' :: itemsFrom true close items left := by
  simp [listText, itemsFrom]

theorem itemsFrom_nil (first : Bool) (close left : List Char) :
    itemsFrom first close [] left = close ++ ']' :: left := by
  cases first <;> simp [itemsFrom, commaed]

theorem length_lt_itemsBehind (close : List Char) (items : List Item) (left : List Char) :
    items.length < (itemsBehind close items left).length := by
  induction items with
  | nil => simp
  | cons i items ih =>
      simp only [itemsBehind_cons, List.length_cons, List.length_append]
      omega

theorem length_le_itemsFrom (first : Bool) (close : List Char) (items : List Item)
    (left : List Char) : items.length ≤ (itemsFrom first close items left).length := by
  cases items with
  | nil => simp
  | cons i items =>
      have behind := length_lt_itemsBehind close items left
      cases first with
      | false => exact Nat.le_of_lt (length_lt_itemsBehind close (i :: items) left)
      | true =>
          simp [itemsFrom, commaed, itemsBehind] at behind ⊢
          omega

theorem takes_moreItems_none (hspace : IsSpacing space) (hclose : IsSpacing close) (first : Bool)
    (left : List Char) :
    Takes (moreItems first) (space ++ itemsFrom first close [] left) false (']' :: left) := by
  rw [itemsFrom_nil, ← List.append_assoc]
  exact takes_moreItems_end (isSpacing_append hspace hclose) first left

theorem takes_moreItems_item (hspace : IsSpacing space) (spaced : i.IsSpaced)
    (value : IsValue i.value) (first : Bool) (close left : List Char) (items : List Item) :
    Takes (moreItems first) (space ++ itemsFrom first close (i :: items) left) true
      (i.value ++ (i.after ++ itemsBehind close items left)) := by
  obtain ⟨c, tail, hvalue, hc, other⟩ := value.exists_cons
  cases first with
  | false =>
      simp only [itemsFrom, Bool.false_eq_true, if_false, itemsBehind_cons, Item.inner, hvalue,
        List.cons_append, List.append_assoc]
      exact takes_moreItems_next hspace spaced.before hc other _
  | true =>
      have front : space ++ itemsFrom true close (i :: items) left = (space ++ i.before) ++
          c :: (tail ++ (i.after ++ itemsBehind close items left)) := by
        simp [itemsFrom, commaed, itemsBehind, Item.chars, Item.inner, hvalue]
      rw [front, hvalue, List.cons_append]
      exact takes_moreItems_first (isSpacing_append hspace spaced.before) hc other _

/-- The item is a value that the reader takes for `a`. -/
structure Item.Holds (r : Reader α) (i : Item) (a : α) : Prop where
  spaced : i.IsSpaced
  value : IsValue i.value
  reads : Reads r i.value a

theorem takes_itemsOf_of_holds {as : List α} (h : List.Forall₂ (Item.Holds r) items as)
    (hclose : IsSpacing close) (hspace : IsSpacing space) (first : Bool) (left : List Char)
    {fuel : Nat} (enough : items.length < fuel) :
    Takes (itemsOf r first fuel) (space ++ itemsFrom first close items left) as (']' :: left) := by
  induction h generalizing first space fuel with
  | nil =>
      obtain ⟨fuel, rfl⟩ := Nat.exists_eq_add_one_of_ne_zero (Nat.ne_zero_of_lt enough)
      exact (takes_moreItems_none hspace hclose first left).bind (takes_pure _ _)
  | cons head later ih =>
      obtain ⟨fuel, rfl⟩ := Nat.exists_eq_add_one_of_ne_zero (Nat.ne_zero_of_lt enough)
      have behind := ih head.spaced.after false (Nat.lt_of_succ_lt_succ enough)
      refine (takes_moreItems_item hspace head.spaced head.value first close left _).bind ?_
      refine (head.reads [] _ isSpacing_nil
        (stops_itemsBehind head.spaced.after hclose _ left)).bind ?_
      exact behind.bind (takes_pure _ _)

/-- A list of values is read item by item. -/
theorem reads_list {as : List α} (h : List.Forall₂ (Item.Holds r) items as)
    (hclose : IsSpacing close) : Reads (list r) (listText close items) as := by
  intro space left hspace _
  rw [listText_append]
  refine takes_placeLate ((takes_peekValue hspace rfl _).bind ((takes_eat '[' _).bind ?_))
  refine takes_closing (takes_withFuel fun fuel enough => ?_) (takes_endList isSpacing_nil left)
  have many := length_le_itemsFrom true close items left
  exact takes_itemsOf_of_holds h hclose isSpacing_nil true left (by omega)

end

/-! ### Members of an object -/

section

variable {close left space : List Char} {name : String} {m : Member}
  {members : List (String × Member)}

/-- A member with the name that it spells, in front of a value. -/
structure Member.IsNamed (m : Member) (name : String) : Prop where
  spaced : m.IsSpaced
  spells : SpellsText m.name name.toList
  value : IsValue m.value

/-- What an object still holds, from its first member on or from behind a member. -/
def membersFrom (first : Bool) (close : List Char) (members : List (String × Member))
    (left : List Char) : List Char :=
  if first then commaed ((members.map Prod.snd).map Member.chars) ++ (close ++ '\x7d' :: left)
  else membersBehind close (members.map Prod.snd) left

theorem objectText_append (close : List Char) (members : List (String × Member))
    (left : List Char) : objectText close (members.map Prod.snd) ++ left =
      '\x7b' :: membersFrom true close members left := by
  simp [objectText, membersFrom]

theorem membersFrom_nil (first : Bool) (close left : List Char) :
    membersFrom first close [] left = close ++ '\x7d' :: left := by
  cases first <;> simp [membersFrom, commaed]

theorem length_lt_membersBehind (close : List Char) (members : List Member) (left : List Char) :
    members.length < (membersBehind close members left).length := by
  induction members with
  | nil => simp
  | cons m members ih =>
      simp only [membersBehind_cons, List.length_cons, List.length_append]
      omega

theorem length_le_membersFrom (first : Bool) (close : List Char)
    (members : List (String × Member)) (left : List Char) :
    members.length ≤ (membersFrom first close members left).length := by
  cases members with
  | nil => simp
  | cons m members =>
      have behind := length_lt_membersBehind close (members.map Prod.snd) left
      have behind' := length_lt_membersBehind close ((m :: members).map Prod.snd) left
      rw [List.length_map] at behind'
      cases first with
      | false => exact Nat.le_of_lt behind'
      | true =>
          simp [membersFrom, commaed, membersBehind] at behind ⊢
          omega

theorem takes_moreMembers_none (hspace : IsSpacing space) (hclose : IsSpacing close)
    (first : Bool) (left : List Char) :
    Takes (moreMembers first) (space ++ membersFrom first close [] left) false
      ('\x7d' :: left) := by
  rw [membersFrom_nil, ← List.append_assoc]
  exact takes_moreMembers_end (isSpacing_append hspace hclose) first left

theorem takes_moreMembers_member (hspace : IsSpacing space) (spaced : m.IsSpaced) (first : Bool)
    (name : String) (close left : List Char) (members : List (String × Member)) :
    Takes (moreMembers first) (space ++ membersFrom first close ((name, m) :: members) left) true
      (m.inner ++ membersBehind close (members.map Prod.snd) left) := by
  cases first with
  | false =>
      simp only [membersFrom, Bool.false_eq_true, if_false, List.map_cons, membersBehind_cons,
        Member.inner, quote_append, List.append_assoc, List.cons_append]
      exact takes_moreMembers_next hspace spaced.before _
  | true =>
      have front : space ++ membersFrom true close ((name, m) :: members) left =
          (space ++ m.before) ++ (m.inner ++ membersBehind close (members.map Prod.snd) left) := by
        simp [membersFrom, commaed, membersBehind, Member.chars]
      rw [front]
      simp only [Member.inner, quote_append, List.append_assoc, List.cons_append]
      rw [← List.append_assoc]
      exact takes_moreMembers_first (isSpacing_append hspace spaced.before) _

end

/-! ### Reading a record -/

section

variable {fields : List (Field σ)} {seen : List String} {blank s t : σ} {name : String}
  {m : Member} {members : List (String × Member)} {close left space : List Char}

/-- What the members of an object make of `s`, when the fields in `seen` have been read before. -/
inductive Fills (fields : List (Field σ)) : List String → σ → List (String × Member) → σ → Prop
  | nil {seen : List String} {s : σ}
      (complete : ∀ field ∈ fields, field.required = true → field.name ∈ seen) :
      Fills fields seen s [] s
  | known {seen : List String} {s t : σ} {name : String} {m : Member}
      {members : List (String × Member)} {field : Field σ} {update : σ → σ}
      (found : fieldNamed fields name = some field) (fresh : name ∉ seen)
      (reads : Reads field.read m.value update)
      (later : Fills fields (name :: seen) (update s) members t) :
      Fills fields seen s ((name, m) :: members) t
  | foreign {seen : List String} {s t : σ} {name : String} {m : Member}
      {members : List (String × Member)} (unknown : fieldNamed fields name = none)
      (later : Fills fields seen s members t) : Fills fields seen s ((name, m) :: members) t

/-- Reading a member of a record behind its name, and then the others. -/
def memberNamed (fields : List (Field σ)) (seen : List String) (s : σ) (fuel : Nat)
    (name : String) : Reader σ :=
  match fieldNamed fields name with
  | none => do
    colon
    skim
    recordMembers fields false seen s fuel
  | some field =>
    if seen.contains name then failLater (.duplicateField name)
    else do
      colon
      let update ← field.read
      recordMembers fields false (name :: seen) (update s) fuel

/-- The members are read up to behind the name of the first one. -/
theorem goesOn_recordMembers (named : m.IsNamed name) (hspace : IsSpacing space) (first : Bool)
    (fields : List (Field σ)) (seen : List String) (s : σ) (fuel : Nat)
    (members : List (String × Member)) (close left : List Char) :
    GoesOn (recordMembers fields first seen s (fuel + 1))
      (space ++ membersFrom first close ((name, m) :: members) left)
      (memberNamed fields seen s fuel name)
      (m.afterName ++ ':' :: (m.beforeValue ++ (m.value ++
        (m.after ++ membersBehind close (members.map Prod.snd) left)))) := by
  refine (takes_moreMembers_member hspace named.spaced first name close left members).goesOn ?_
  simp only [Member.inner, quote_append, List.append_assoc, List.cons_append]
  refine (takes_eat _ _).goesOn ((takes_restOfText_of_spells named.spells _).goesOn ?_)
  exact goesOn_refl _ _

theorem takes_recordMembers (h : Fills fields seen s members t)
    (named : ∀ m ∈ members, m.2.IsNamed m.1) (hclose : IsSpacing close) (hspace : IsSpacing space)
    (first : Bool) (left : List Char) {fuel : Nat} (enough : members.length < fuel) :
    Takes (recordMembers fields first seen s fuel) (space ++ membersFrom first close members left) t
      ('\x7d' :: left) := by
  induction h generalizing first space fuel with
  | @nil seen s complete =>
      obtain ⟨fuel, rfl⟩ := Nat.exists_eq_add_one_of_ne_zero (Nat.ne_zero_of_lt enough)
      have all : fields.find? (fun f => f.required && !seen.contains f.name) = none := by
        rw [List.find?_eq_none]
        intro field hfield missing
        simp only [Bool.and_eq_true, Bool.not_eq_true', List.contains_eq_mem,
          decide_eq_false_iff_not] at missing
        exact missing.2 (complete field hfield missing.1)
      refine (takes_moreMembers_none hspace hclose first left).bind ?_
      simp only [Bool.false_eq_true, if_false, all]
      exact takes_pure _ _
  | known found fresh reads later ih =>
      obtain ⟨fuel, rfl⟩ := Nat.exists_eq_add_one_of_ne_zero (Nat.ne_zero_of_lt enough)
      obtain ⟨head, named⟩ := List.forall_mem_cons.1 named
      have behind := ih named head.spaced.after false (Nat.lt_of_succ_lt_succ enough)
      refine (goesOn_recordMembers head hspace first _ _ _ fuel _ close left).takes ?_
      simp only [memberNamed, found, List.contains_eq_mem, fresh, decide_false, Bool.false_eq_true,
        if_false]
      refine (takes_colon head.spaced.afterName _).bind ?_
      exact (reads _ _ head.spaced.beforeValue
        (stops_membersBehind head.spaced.after hclose _ left)).bind behind
  | foreign unknown later ih =>
      obtain ⟨fuel, rfl⟩ := Nat.exists_eq_add_one_of_ne_zero (Nat.ne_zero_of_lt enough)
      obtain ⟨head, named⟩ := List.forall_mem_cons.1 named
      have behind := ih named head.spaced.after false (Nat.lt_of_succ_lt_succ enough)
      refine (goesOn_recordMembers head hspace first _ _ _ fuel _ close left).takes ?_
      simp only [memberNamed, unknown]
      refine (takes_colon head.spaced.afterName _).bind ?_
      exact (takes_skim head.value head.spaced.beforeValue
        (stops_membersBehind head.spaced.after hclose _ left)).bind behind

/-- A record is read from an object that fills it. -/
theorem takes_record_object (h : Fills fields [] blank members t)
    (named : ∀ m ∈ members, m.2.IsNamed m.1) (hclose : IsSpacing close) (hspace : IsSpacing space)
    (name : String) (left : List Char) :
    Takes (record name blank fields)
      (space ++ (objectText close (members.map Prod.snd) ++ left)) t left := by
  rw [objectText_append]
  refine takes_placeLate ((takes_peekValue hspace rfl _).bind ((takes_eat '\x7b' _).bind ?_))
  refine takes_closing (takes_withFuel fun fuel enough => ?_) (takes_endObject isSpacing_nil left)
  have many := length_le_membersFrom true close members left
  exact takes_recordMembers h named hclose isSpacing_nil true left (by omega)

/-! ### Fields that occur twice -/

/-- Members are refused when a field occurs twice in them and what has been read before. -/
theorem refuses_recordMembers (keeps : ∀ field ∈ fields, ∀ v, IsValue v → KeepsWithin field.read v)
    (known : (fieldNamed fields name).isSome) (distinct : seen.Nodup)
    (twice : 2 ≤ (seen ++ members.map Prod.fst).count name)
    (named : ∀ m ∈ members, m.2.IsNamed m.1) (hclose : IsSpacing close) (hspace : IsSpacing space)
    (first : Bool) (left : List Char) (fuel : Nat) :
    Refuses (recordMembers fields first seen s fuel)
      (space ++ membersFrom first close members left) := by
  induction members generalizing first space fuel seen s with
  | nil =>
      rw [List.map_nil, List.append_nil] at twice
      have once := List.nodup_iff_count_le_one.1 distinct name
      omega
  | cons head members ih =>
      obtain ⟨name', m⟩ := head
      obtain ⟨head, named⟩ := List.forall_mem_cons.1 named
      cases fuel with
      | zero => exact fun _ _ => ⟨_, rfl⟩
      | succ fuel =>
          refine (goesOn_recordMembers head hspace first _ _ _ fuel _ close left).refuses ?_
          have ends := stops_membersBehind head.spaced.after hclose (members.map Prod.snd) left
          unfold memberNamed
          split
          next unknown =>
            -- the name is another one, so the field is still to come
            have other : name' ≠ name := by
              rintro rfl
              simp [unknown] at known
            have later : 2 ≤ (seen ++ members.map Prod.fst).count name := by
              simpa [List.count_append, List.count_cons, other] using twice
            refine (takes_colon head.spaced.afterName _).bind_refuses ?_
            refine (takes_skim head.value head.spaced.beforeValue ends).bind_refuses ?_
            exact ih distinct later named head.spaced.after false fuel
          next field found =>
            split
            next => exact fun _ _ => ⟨_, rfl⟩
            next fresh =>
              have distinct' : (name' :: seen).Nodup :=
                List.nodup_cons.2 ⟨by simpa using fresh, distinct⟩
              have later : 2 ≤ (name' :: seen ++ members.map Prod.fst).count name := by
                rwa [List.map_cons, List.perm_middle.count_eq] at twice
              refine (takes_colon head.spaced.afterName _).bind_refuses ?_
              refine (keeps field (List.mem_of_find?_eq_some found) _ head.value _ _
                head.spaced.beforeValue ends).bind_refuses fun update => ?_
              exact ih distinct' later named head.spaced.after false fuel

/-- An object that holds a field twice is refused. -/
theorem refuses_record_object
    (keeps : ∀ field ∈ fields, ∀ v, IsValue v → KeepsWithin field.read v)
    (known : (fieldNamed fields name).isSome) (twice : 2 ≤ (members.map Prod.fst).count name)
    (named : ∀ m ∈ members, m.2.IsNamed m.1) (hclose : IsSpacing close) (hspace : IsSpacing space)
    (recordName : String) (left : List Char) :
    Refuses (record recordName blank fields)
      (space ++ (objectText close (members.map Prod.snd) ++ left)) := by
  rw [objectText_append]
  refine refuses_placeLate ((takes_peekValue hspace rfl _).bind_refuses
    ((takes_eat '\x7b' _).bind_refuses (refuses_closing (refuses_withFuel fun fuel => ?_) _)))
  exact refuses_recordMembers keeps known .nil twice named hclose isSpacing_nil true left fuel

end

/-! ### Records as lists -/

section

variable {fields : List (Field σ)} {blank s t : σ} {items : List Item}
  {close left space : List Char}

/-- What the items of a list make of `s`, when they are the values of the first of the fields. -/
inductive FillsInOrder : List (Field σ) → σ → List Item → σ → Prop
  | nil {fields : List (Field σ)} {s : σ} (optional : ∀ field ∈ fields, field.required = false) :
      FillsInOrder fields s [] s
  | cons {field : Field σ} {fields : List (Field σ)} {s t : σ} {i : Item} {items : List Item}
      {update : σ → σ} (head : i.Holds field.read update)
      (later : FillsInOrder fields (update s) items t) :
      FillsInOrder (field :: fields) s (i :: items) t

theorem exists_takes_recordItems (h : FillsInOrder fields s items t) (hclose : IsSpacing close)
    (hspace : IsSpacing space) (expected : String) (first : Bool) (count : Nat)
    (left : List Char) : ∃ between,
      Takes (recordItems expected first count s fields)
        (space ++ itemsFrom first close items left) t between ∧ Takes endList between () left := by
  induction h generalizing first count space with
  | @nil fields s optional =>
      cases fields with
      | nil =>
          refine ⟨_, takes_pure _ _, ?_⟩
          rw [itemsFrom_nil, ← List.append_assoc]
          exact takes_endList (isSpacing_append hspace hclose) left
      | cons field fields =>
          have none : (field :: fields).findIdx? (·.required) = none := by
            rw [List.findIdx?_eq_none_iff]
            intro field hfield
            exact optional field hfield
          refine ⟨']' :: left, ?_, takes_endList isSpacing_nil left⟩
          refine (takes_moreItems_none hspace hclose first left).bind ?_
          simp only [Bool.false_eq_true, if_false, none]
          exact takes_pure _ _
  | cons head later ih =>
      obtain ⟨between, behind, ended⟩ := ih head.spaced.after false (count + 1)
      refine ⟨between, ?_, ended⟩
      refine (takes_moreItems_item hspace head.spaced head.value first close left _).bind ?_
      exact (head.reads [] _ isSpacing_nil
        (stops_itemsBehind head.spaced.after hclose _ left)).bind behind

/-- A record is read from a list that fills it. -/
theorem takes_record_list (h : FillsInOrder fields blank items t) (hclose : IsSpacing close)
    (hspace : IsSpacing space) (name : String) (left : List Char) :
    Takes (record name blank fields) (space ++ (listText close items ++ left)) t left := by
  obtain ⟨between, inside, ended⟩ := exists_takes_recordItems h hclose isSpacing_nil
    s!"struct {name} with {fields.length} elements" true 0 left
  rw [listText_append]
  refine takes_placeLate ((takes_peekValue hspace rfl _).bind ((takes_eat '[' _).bind ?_))
  exact takes_closing inside ended

end

/-! ### What a record can only be -/

section

variable {fields : List (Field σ)} {P : σ → Prop} {s blank : σ}

theorem yields_closing {r : Reader α} {P : α → Prop} (h : Yields P r) (finish : Reader Unit) :
    Yields P (closing r finish) := by
  intro c a c' taken
  unfold closing at taken
  split at taken
  next inside =>
    unfold Reader.andThen at taken
    split at taken
    · cases taken
      exact h _ _ _ inside
    · cases taken
  next => cases taken
  next => cases taken

variable (kept : ∀ field ∈ fields, Yields (fun update => ∀ s, P s → P (update s)) field.read)

include kept in
/-- What every field keeps is kept by the members of an object. -/
theorem yields_recordMembers (h : P s) (first : Bool) (seen : List String) (fuel : Nat) :
    Yields P (recordMembers fields first seen s fuel) := by
  induction fuel generalizing first seen s with
  | zero => exact yields_failHere _
  | succ fuel ih =>
      refine .bind fun more => ?_
      split
      · refine .bind fun _ => .bind fun name => ?_
        split
        · exact .bind fun _ => .bind fun _ => ih h _ _
        next field found =>
          split
          · exact yields_failLater _
          · refine .bind fun _ => ?_
            exact (kept field (List.mem_of_find?_eq_some found)).bind_of fun update keeps =>
              ih (keeps s h) _ _
      · split
        · exact yields_failLater _
        · exact yields_pure h

include kept in
/-- What every field keeps is kept by the items of a list. -/
theorem yields_recordItems (h : P s) (expected : String) (first : Bool) (count : Nat) :
    Yields P (recordItems expected first count s fields) := by
  induction fields generalizing first count s with
  | nil => exact yields_pure h
  | cons field fields ih =>
      obtain ⟨head, later⟩ := List.forall_mem_cons.1 kept
      refine .bind fun more => ?_
      split
      · exact head.bind_of fun update keeps => ih later (keeps s h) _ _
      · split
        · exact yields_failLater _
        · exact yields_pure h

include kept in
/-- A record can only be what its fields keep. -/
theorem yields_record (h : P blank) (name : String) : Yields P (record name blank fields) := by
  refine yields_placeLate (.bind fun c => ?_)
  split
  · exact .bind fun _ => yields_closing (yields_recordItems kept h _ _ _) _
  · exact .bind fun _ => yields_closing
      (fun c a c' taken => yields_recordMembers kept h _ _ _ c a c' taken) _
  · intro c a c' taken
    exact (yields_refuse _ c a c' taken).elim

end

/-! ### Whole texts -/

theorem skipSpaceFrom_of_isSpacing {space : List Char} (h : IsSpacing space) (offset : Nat) :
    skipSpaceFrom space offset = ⟨[], offset + space.length⟩ := by
  induction space generalizing offset with
  | nil => rfl
  | cons c space ih =>
      obtain ⟨hc, hspace⟩ := List.forall_mem_cons.1 h
      rw [skipSpaceFrom, if_pos hc, ih hspace, List.length_cons, Nat.add_right_comm, Nat.add_assoc]

variable {r : Reader α} {front space : List Char} {a : α}

/-- A text is read that holds a value and nothing else but white space. -/
theorem readText_of_takes (h : Takes r front a []) (hspace : IsSpacing space) :
    readText r (String.ofList (front ++ space)) = .ok a := by
  obtain ⟨offset, taken⟩ := h space 0
  simp only [readText, String.toList_ofList, Reader.bind_apply, taken, peekToken, List.nil_append,
    skipSpaceFrom_of_isSpacing hspace, List.head?_nil, Reader.pure_apply]

theorem exists_readText_of_refuses (h : Refuses r front) (more : List Char) :
    ∃ fault, readText r (String.ofList (front ++ more)) = .error fault := by
  obtain ⟨trouble, refused⟩ := h more 0
  simp only [readText, String.toList_ofList, Reader.bind_apply, refused]
  cases trouble with
  | placed cause offset => exact ⟨_, rfl⟩
  | floating cause reached => exact ⟨_, rfl⟩

/-- What a reader can end with is all that can be read of a text. -/
theorem Yields.of_readText {P : α → Prop} {text : String} (h : Yields P r)
    (hread : readText r text = .ok a) : P a := by
  unfold readText at hread
  dsimp only at hread
  split at hread
  next taken =>
    obtain rfl := Except.ok.inj hread
    refine (h.bind_of fun a ha => .bind fun next => ?_) _ _ _ taken
    split
    · exact yields_pure ha
    · exact yields_failAhead _
  next => cases hread
  next => cases hread

end DomainDeploy.Json
