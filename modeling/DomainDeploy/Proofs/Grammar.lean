import DomainDeploy.Proofs.Numerals
import DomainDeploy.Proofs.Quotation

/-!
# Values by the grammar

Which texts are values, with white space wherever the grammar has it (`IsValue`). A value that
nobody wants is gone over up to its end, whatever it holds (`takes_skim`).
-/

namespace DomainDeploy.Json

/-- An item of a list, with the white space around its value. -/
structure Item where
  before : List Char
  value : List Char
  after : List Char

/-- A member of an object: the inside of its quoted name, its value, and the white space around
both. -/
structure Member where
  before : List Char
  name : List Char
  afterName : List Char
  beforeValue : List Char
  value : List Char
  after : List Char

namespace Item

/-- The item behind the white space before it. -/
def inner (i : Item) : List Char := i.value ++ i.after

/-- The item as it stands in a list. -/
def chars (i : Item) : List Char := i.before ++ i.inner

/-- Only white space stands around the value. -/
structure IsSpaced (i : Item) : Prop where
  before : IsSpacing i.before
  after : IsSpacing i.after

end Item

namespace Member

/-- The member behind the white space before it. -/
def inner (m : Member) : List Char :=
  quote m.name ++ (m.afterName ++ ':' :: (m.beforeValue ++ (m.value ++ m.after)))

/-- The member as it stands in an object. -/
def chars (m : Member) : List Char := m.before ++ m.inner

/-- Only white space stands around the name and the value. -/
structure IsSpaced (m : Member) : Prop where
  before : IsSpacing m.before
  afterName : IsSpacing m.afterName
  beforeValue : IsSpacing m.beforeValue
  after : IsSpacing m.after

end Member

/-- Parts with a comma between each two. -/
def commaed : List (List Char) → List Char
  | [] => []
  | part :: rest => part ++ rest.flatMap (',' :: ·)

/-- A list of the given items, with white space before its closing bracket. -/
def listText (close : List Char) (items : List Item) : List Char :=
  '[' :: (commaed (items.map Item.chars) ++ (close ++ [']']))

/-- An object of the given members, with white space before its closing brace. -/
def objectText (close : List Char) (members : List Member) : List Char :=
  '\x7b' :: (commaed (members.map Member.chars) ++ (close ++ ['\x7d']))

/-- A text that is a value. -/
inductive IsValue : List Char → Prop
  | nullWord : IsValue ['n', 'u', 'l', 'l']
  | trueWord : IsValue ['t', 'r', 'u', 'e']
  | falseWord : IsValue ['f', 'a', 'l', 's', 'e']
  | unsigned {text : List Char} (h : IsUnsigned text) : IsValue text
  | negative {text : List Char} (h : IsUnsigned text) : IsValue ('-' :: text)
  | text {body : List Char} (h : IsTextBody body) : IsValue (quote body)
  | list {close : List Char} {items : List Item} (hclose : IsSpacing close)
      (spaced : ∀ i ∈ items, i.IsSpaced) (values : ∀ i ∈ items, IsValue i.value) :
      IsValue (listText close items)
  | object {close : List Char} {members : List Member} (hclose : IsSpacing close)
      (spaced : ∀ m ∈ members, m.IsSpaced) (names : ∀ m ∈ members, IsTextBody m.name)
      (values : ∀ m ∈ members, IsValue m.value) : IsValue (objectText close members)

variable {v left space close : List Char}

theorem IsValue.exists_cons (h : IsValue v) :
    ∃ c tail, v = c :: tail ∧ isSpace c = false ∧ c ≠ ']' := by
  cases h with
  | nullWord => exact ⟨'n', _, rfl, rfl, by decide⟩
  | trueWord => exact ⟨'t', _, rfl, rfl, by decide⟩
  | falseWord => exact ⟨'f', _, rfl, rfl, by decide⟩
  | unsigned h =>
      obtain ⟨d, tail, rfl, digit⟩ := h.exists_cons
      exact ⟨d, tail, rfl, isSpace_of_isDigit digit, ne_of_isDigit digit rfl⟩
  | negative => exact ⟨'-', _, rfl, rfl, by decide⟩
  | text => exact ⟨'"', _, rfl, rfl, by decide⟩
  | list => exact ⟨'[', _, rfl, rfl, by decide⟩
  | object => exact ⟨'\x7b', _, rfl, rfl, by decide⟩

theorem isSpacing_append {space' : List Char} (h : IsSpacing space) (h' : IsSpacing space') :
    IsSpacing (space ++ space') := by
  intro c hc
  exact (List.mem_append.1 hc).elim (h c) (h' c)

theorem stops_append (h : IsSpacing space) (stops : Stops left) : Stops (space ++ left) := by
  cases space with
  | nil => exact stops
  | cons c space =>
      have blank := h c (List.mem_cons_self ..)
      simp only [isSpace, Bool.or_eq_true, beq_iff_eq] at blank
      rcases blank with ((rfl | rfl) | rfl) | rfl <;>
        exact .mk rfl (by decide) (by decide) (by decide)

theorem stops_comma (left : List Char) : Stops (',' :: left) :=
  .mk rfl (by decide) (by decide) (by decide)

theorem stops_bracket (left : List Char) : Stops (']' :: left) :=
  .mk rfl (by decide) (by decide) (by decide)

theorem stops_brace (left : List Char) : Stops ('\x7d' :: left) :=
  .mk rfl (by decide) (by decide) (by decide)

/-! ### What stands behind an item or a member -/

/-- What stands behind an item of a list: the other items and the end of the list. -/
def itemsBehind (close : List Char) (items : List Item) (left : List Char) : List Char :=
  (items.map Item.chars).flatMap (',' :: ·) ++ (close ++ ']' :: left)

/-- What stands behind a member of an object: the other members and the end of the object. -/
def membersBehind (close : List Char) (members : List Member) (left : List Char) : List Char :=
  (members.map Member.chars).flatMap (',' :: ·) ++ (close ++ '\x7d' :: left)

@[simp] theorem itemsBehind_nil (close left : List Char) :
    itemsBehind close [] left = close ++ ']' :: left := rfl

@[simp] theorem itemsBehind_cons (close : List Char) (i : Item) (items : List Item)
    (left : List Char) :
    itemsBehind close (i :: items) left =
      ',' :: (i.before ++ (i.inner ++ itemsBehind close items left)) := by
  simp [itemsBehind, Item.chars]

@[simp] theorem membersBehind_nil (close left : List Char) :
    membersBehind close [] left = close ++ '\x7d' :: left := rfl

@[simp] theorem membersBehind_cons (close : List Char) (m : Member) (members : List Member)
    (left : List Char) :
    membersBehind close (m :: members) left =
      ',' :: (m.before ++ (m.inner ++ membersBehind close members left)) := by
  simp [membersBehind, Member.chars]

theorem listText_nil_append (close left : List Char) :
    listText close [] ++ left = '[' :: (close ++ ']' :: left) := by
  simp [listText, commaed]

theorem listText_cons_append (close : List Char) (i : Item) (items : List Item)
    (left : List Char) :
    listText close (i :: items) ++ left =
      '[' :: (i.before ++ (i.inner ++ itemsBehind close items left)) := by
  simp [listText, commaed, itemsBehind, Item.chars]

theorem objectText_nil_append (close left : List Char) :
    objectText close [] ++ left = '\x7b' :: (close ++ '\x7d' :: left) := by
  simp [objectText, commaed]

theorem objectText_cons_append (close : List Char) (m : Member) (members : List Member)
    (left : List Char) :
    objectText close (m :: members) ++ left =
      '\x7b' :: (m.before ++ (m.inner ++ membersBehind close members left)) := by
  simp [objectText, commaed, membersBehind, Member.chars]

variable {i : Item} {items : List Item} {m : Member} {members : List Member}

theorem stops_itemsBehind (hspace : IsSpacing space) (hclose : IsSpacing close)
    (items : List Item) (left : List Char) : Stops (space ++ itemsBehind close items left) := by
  refine stops_append hspace ?_
  cases items with
  | nil =>
      rw [itemsBehind_nil]
      exact stops_append hclose (stops_bracket left)
  | cons i items =>
      rw [itemsBehind_cons]
      exact stops_comma _

theorem stops_membersBehind (hspace : IsSpacing space) (hclose : IsSpacing close)
    (members : List Member) (left : List Char) :
    Stops (space ++ membersBehind close members left) := by
  refine stops_append hspace ?_
  cases members with
  | nil =>
      rw [membersBehind_nil]
      exact stops_append hclose (stops_brace left)
  | cons m members =>
      rw [membersBehind_cons]
      exact stops_comma _

/-! ### Going over a value -/

/-- The value is gone over with enough fuel, whatever white space stands before it. -/
def IsSkimmed (v : List Char) : Prop :=
  ∀ fuel space left, 2 * v.length ≤ fuel → IsSpacing space → Stops left →
    Takes (skimValue fuel) (space ++ (v ++ left)) () left

theorem isSkimmed_of_pos (positive : 0 < v.length)
    (h : ∀ fuel space left, 2 * v.length ≤ fuel + 1 → IsSpacing space → Stops left →
      Takes (skimValue (fuel + 1)) (space ++ (v ++ left)) () left) : IsSkimmed v := by
  intro fuel space left enough hspace stops
  obtain ⟨fuel, rfl⟩ : ∃ n, fuel = n + 1 := ⟨fuel - 1, by omega⟩
  exact h fuel space left enough hspace stops

theorem takes_skimItems (hclose : IsSpacing close) (spaced : ∀ j ∈ i :: items, j.IsSpaced)
    (skimmed : ∀ j ∈ i :: items, IsSkimmed j.value) (hspace : IsSpacing space) (left : List Char)
    {fuel : Nat} (enough : 2 * (i.inner ++ itemsBehind close items []).length ≤ fuel) :
    Takes (skimItems fuel) (space ++ (i.inner ++ itemsBehind close items left)) () left := by
  induction items generalizing i space fuel with
  | nil =>
      obtain ⟨⟨-, hafter⟩, -⟩ := List.forall_mem_cons.1 spaced
      obtain ⟨value, -⟩ := List.forall_mem_cons.1 skimmed
      simp only [Item.inner, List.append_assoc, List.length_append] at enough ⊢
      obtain ⟨fuel, rfl⟩ : ∃ n, fuel = n + 1 := ⟨fuel - 1, by simp at enough; omega⟩
      refine (value fuel space _ (by simp at enough; omega) hspace
        (stops_itemsBehind hafter hclose [] left)).bind ?_
      rw [itemsBehind_nil, ← List.append_assoc]
      exact (takes_peekToken (isSpacing_append hafter hclose) rfl left).bind (takes_eat _ _)
  | cons j items ih =>
      obtain ⟨⟨-, hafter⟩, spaced⟩ := List.forall_mem_cons.1 spaced
      obtain ⟨value, skimmed⟩ := List.forall_mem_cons.1 skimmed
      have hbefore := (spaced j (List.mem_cons_self ..)).before
      simp only [Item.inner, List.append_assoc, List.length_append, itemsBehind_cons,
        List.length_cons] at enough ⊢
      obtain ⟨fuel, rfl⟩ : ∃ n, fuel = n + 1 := ⟨fuel - 1, by omega⟩
      refine (value fuel space _ (by omega) hspace
        (stops_append hafter (stops_comma _))).bind ?_
      refine (takes_peekToken hafter rfl _).bind ((takes_eat _ _).bind ?_)
      have later : Takes (skimItems fuel) _ () left := ih spaced skimmed hbefore
        (by simp only [Item.inner, List.length_append]; omega)
      rwa [Item.inner, List.append_assoc] at later

/-- A member is gone over from the quote of its name on. -/
theorem takes_skimMembers (hclose : IsSpacing close) (spaced : ∀ n ∈ m :: members, n.IsSpaced)
    (names : ∀ n ∈ m :: members, IsTextBody n.name)
    (skimmed : ∀ n ∈ m :: members, IsSkimmed n.value) (hspace : IsSpacing space)
    (left : List Char) {fuel : Nat}
    (enough : 2 * (m.inner ++ membersBehind close members []).length ≤ fuel) :
    Takes (skimMembers fuel) (space ++ (m.inner ++ membersBehind close members left)) () left := by
  induction members generalizing m space fuel with
  | nil =>
      obtain ⟨⟨-, hname, hcolon, hafter⟩, -⟩ := List.forall_mem_cons.1 spaced
      obtain ⟨name, -⟩ := List.forall_mem_cons.1 names
      obtain ⟨value, -⟩ := List.forall_mem_cons.1 skimmed
      simp only [Member.inner, quote_append, List.cons_append, List.append_assoc, List.length_cons,
        List.length_append] at enough ⊢
      obtain ⟨fuel, rfl⟩ : ∃ n, fuel = n + 1 := ⟨fuel - 1, by omega⟩
      refine (takes_peekToken hspace rfl _).bind ((takes_eat _ _).bind ?_)
      refine (takes_skimText name _).bind ?_
      refine (takes_peekToken hname rfl _).bind ((takes_eat _ _).bind ?_)
      refine (value fuel _ _ (by omega) hcolon (stops_membersBehind hafter hclose [] left)).bind ?_
      rw [membersBehind_nil, ← List.append_assoc]
      exact (takes_peekToken (isSpacing_append hafter hclose) rfl left).bind (takes_eat _ _)
  | cons n members ih =>
      obtain ⟨⟨-, hname, hcolon, hafter⟩, spaced⟩ := List.forall_mem_cons.1 spaced
      obtain ⟨name, names⟩ := List.forall_mem_cons.1 names
      obtain ⟨value, skimmed⟩ := List.forall_mem_cons.1 skimmed
      have hbefore := (spaced n (List.mem_cons_self ..)).before
      have later : _ → Takes (skimMembers (fuel - 1)) _ () left := ih spaced names skimmed hbefore
      simp only [Member.inner, quote_append, List.cons_append, List.append_assoc, List.length_cons,
        List.length_append, membersBehind_cons] at enough later ⊢
      obtain ⟨fuel, rfl⟩ : ∃ n, fuel = n + 1 := ⟨fuel - 1, by omega⟩
      refine (takes_peekToken hspace rfl _).bind ((takes_eat _ _).bind ?_)
      refine (takes_skimText name _).bind ?_
      refine (takes_peekToken hname rfl _).bind ((takes_eat _ _).bind ?_)
      refine (value fuel _ _ (by omega) hcolon (stops_append hafter (stops_comma _))).bind ?_
      refine (takes_peekToken hafter rfl _).bind ((takes_eat _ _).bind ?_)
      exact later (by omega)

/-- What is nested in a list is shorter by the two brackets, and so needs less fuel. -/
theorem isSkimmed_listText (hclose : IsSpacing close) (spaced : ∀ j ∈ items, j.IsSpaced)
    (values : ∀ j ∈ items, IsValue j.value) (skimmed : ∀ j ∈ items, IsSkimmed j.value) :
    IsSkimmed (listText close items) := by
  refine isSkimmed_of_pos (Nat.zero_lt_succ _) fun fuel space left enough hspace stops => ?_
  cases items with
  | nil =>
      rw [listText_nil_append]
      refine (takes_peekValue hspace rfl _).bind ((takes_eat '[' _).bind ?_)
      exact (takes_peekToken hclose rfl left).bind (takes_eat _ _)
  | cons i items =>
      obtain ⟨c, tail, hvalue, hc, other⟩ := (values i (List.mem_cons_self ..)).exists_cons
      have length := congrArg List.length (listText_cons_append close i items [])
      have nested : Takes (skimItems fuel) _ () left :=
        takes_skimItems hclose spaced skimmed isSpacing_nil left
          (by simp at length enough ⊢; omega)
      rw [listText_cons_append]
      simp only [Item.inner, hvalue, List.cons_append, List.nil_append] at nested ⊢
      refine (takes_peekValue hspace rfl _).bind ((takes_eat '[' _).bind ?_)
      refine (takes_peekToken (spaced i (List.mem_cons_self ..)).before hc _).bind ?_
      split
      next h => exact (other (Option.some.inj h)).elim
      next => exact nested
      next h => cases h

theorem isSkimmed_objectText (hclose : IsSpacing close) (spaced : ∀ n ∈ members, n.IsSpaced)
    (names : ∀ n ∈ members, IsTextBody n.name) (skimmed : ∀ n ∈ members, IsSkimmed n.value) :
    IsSkimmed (objectText close members) := by
  refine isSkimmed_of_pos (Nat.zero_lt_succ _) fun fuel space left enough hspace stops => ?_
  cases members with
  | nil =>
      rw [objectText_nil_append]
      refine (takes_peekValue hspace rfl _).bind ((takes_eat '\x7b' _).bind ?_)
      exact (takes_peekToken hclose rfl left).bind (takes_eat _ _)
  | cons m members =>
      have length := congrArg List.length (objectText_cons_append close m members [])
      have nested : Takes (skimMembers fuel) _ () left :=
        takes_skimMembers hclose spaced names skimmed isSpacing_nil left
          (by simp at length enough ⊢; omega)
      rw [objectText_cons_append]
      refine (takes_peekValue hspace rfl _).bind ((takes_eat '\x7b' _).bind ?_)
      exact (takes_peekToken (spaced m (List.mem_cons_self ..)).before rfl _).bind nested

/-- Whatever a value holds, it is gone over up to its end. -/
theorem isSkimmed_of_isValue (h : IsValue v) : IsSkimmed v := by
  induction h with
  | nullWord =>
      refine isSkimmed_of_pos (Nat.zero_lt_succ _) fun fuel space left enough hspace stops => ?_
      exact (takes_peekValue hspace rfl _).bind ((takes_eat 'n' _).bind (takes_word _ left))
  | trueWord =>
      refine isSkimmed_of_pos (Nat.zero_lt_succ _) fun fuel space left enough hspace stops => ?_
      exact (takes_peekValue hspace rfl _).bind ((takes_eat 't' _).bind (takes_word _ left))
  | falseWord =>
      refine isSkimmed_of_pos (Nat.zero_lt_succ _) fun fuel space left enough hspace stops => ?_
      exact (takes_peekValue hspace rfl _).bind ((takes_eat 'f' _).bind (takes_word _ left))
  | unsigned h =>
      obtain ⟨d, tail, rfl, digit⟩ := h.exists_cons
      refine isSkimmed_of_pos (Nat.zero_lt_succ _) fun fuel space left enough hspace stops => ?_
      refine (takes_peekValue hspace (isSpace_of_isDigit digit) _).bind ?_
      split
      case h_8 =>
        rw [if_pos digit]
        exact takes_skimNumber h stops
      all_goals cases digit
  | negative h =>
      refine isSkimmed_of_pos (Nat.zero_lt_succ _) fun fuel space left enough hspace stops => ?_
      exact (takes_peekValue hspace rfl _).bind ((takes_eat '-' _).bind (takes_skimNumber h stops))
  | @text body h =>
      refine isSkimmed_of_pos (Nat.zero_lt_succ _) fun fuel space left enough hspace stops => ?_
      rw [quote_append]
      exact (takes_peekValue hspace rfl _).bind ((takes_eat '"' _).bind (takes_skimText h left))
  | list hclose spaced values ih => exact isSkimmed_listText hclose spaced values ih
  | object hclose spaced names values ih => exact isSkimmed_objectText hclose spaced names ih

/-- A value that nobody wants is gone over, whatever white space stands before it. -/
theorem takes_skim (h : IsValue v) (hspace : IsSpacing space) (stops : Stops left) :
    Takes skim (space ++ (v ++ left)) () left := by
  intro rest offset
  refine isSkimmed_of_isValue h _ space left ?_ hspace stops rest offset
  simp only [List.length_append]
  omega

end DomainDeploy.Json
