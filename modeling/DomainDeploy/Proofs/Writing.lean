import DomainDeploy.Proofs.Quotation

/-!
# JSON that is read as it was written

Values are taken as they were written, in any layout that puts only white space between them, except
that members end up sorted (`takes_valueAt`); so a text that holds nothing else is read as the value
(`parse_compact`). Numbers are left out, since where they end depends on what stands behind them.
-/

namespace DomainDeploy.Json

/-- A quoted text behind its opening quote. -/
theorem takes_restOfText (s : String) (left : List Char) :
    Takes restOfText (s.toList.flatMap escapeChar ++ '"' :: left) s left :=
  takes_restOfText_of_spells (spells_escapeChar _) left

theorem quoted_append (s : String) (left : List Char) :
    quoted s ++ left = '"' :: (s.toList.flatMap escapeChar ++ '"' :: left) := by
  simp [quoted]

/-! ### Values -/

/-- A layout that puts only white space between items and members. -/
structure Layout.IsBlank (layout : Layout) : Prop where
  beforeItem : ∀ n, IsSpacing (layout.beforeItem n)
  beforeClose : ∀ n, IsSpacing (layout.beforeClose n)
  afterColon : IsSpacing layout.afterColon

/-- A value that holds no number and whose lists and objects are nested less than `d` deep. -/
inductive IsPlain : Nat → Json → Prop
  | null {d : Nat} : IsPlain (d + 1) null
  | bool {d : Nat} (b : Bool) : IsPlain (d + 1) (bool b)
  | string {d : Nat} (s : String) : IsPlain (d + 1) (string s)
  | array {d : Nat} {items : List Json} (items_plain : ∀ item ∈ items, IsPlain (d + 1) item) :
      IsPlain (d + 2) (array items)
  | object {d : Nat} {members : List (String × Json)}
      (members_plain : ∀ m ∈ members, IsPlain (d + 1) m.2) : IsPlain (d + 2) (object members)

section

variable {layout : Layout} {d n : Nat} {j : Json}

theorem write_eq_cons (h : IsPlain d j) (n : Nat) : ∃ c tail,
    write layout n j = c :: tail ∧ isSpace c = false ∧ c ≠ ']' := by
  cases h with
  | null => exact ⟨'n', _, rfl, rfl, by decide⟩
  | bool b =>
      cases b
      · exact ⟨'f', _, rfl, rfl, by decide⟩
      · exact ⟨'t', _, rfl, rfl, by decide⟩
  | string s => exact ⟨'"', _, rfl, rfl, by decide⟩
  | @array d items items_plain =>
      cases items with
      | nil => exact ⟨'[', _, rfl, rfl, by decide⟩
      | cons item rest => exact ⟨'[', _, by simp [write]; rfl, rfl, by decide⟩
  | @object d members members_plain =>
      cases members with
      | nil => exact ⟨'\x7b', _, rfl, rfl, by decide⟩
      | cons m rest => exact ⟨'\x7b', _, by simp [write]; rfl, rfl, by decide⟩

theorem length_le_writeItems (layout : Layout) (n : Nat) (items : List Json) :
    items.length ≤ (writeItems layout n items).length := by
  induction items with
  | nil => simp
  | cons item rest ih =>
      simp only [writeItems, List.length_cons, List.length_append]
      omega

theorem length_le_writeMembers (layout : Layout) (n : Nat) (members : List (String × Json)) :
    members.length ≤ (writeMembers layout n members).length := by
  induction members with
  | nil => simp
  | cons m rest ih =>
      simp only [writeMembers, List.length_cons, List.length_append]
      omega

/-- A value is taken, whatever white space stands before it. -/
def TakesValue (layout : Layout) (d : Nat) (j : Json) : Prop :=
  ∀ n space, IsSpacing space → Takes (valueAt d) (space ++ write layout n j) j.sorted []

theorem takes_itemsOf_nil (d : Nat) (left : List Char) :
    Takes (withFuel (itemsOf (valueAt d) true)) (']' :: left) [] (']' :: left) := by
  refine takes_withFuel fun fuel enough => ?_
  obtain ⟨fuel, rfl⟩ := Nat.exists_eq_add_one_of_ne_zero (Nat.ne_zero_of_lt enough)
  exact (takes_moreItems_end isSpacing_nil true left).bind (takes_pure _ _)

theorem takes_membersOf_nil (d : Nat) (left : List Char) :
    Takes (withFuel (membersOf (fun _ => valueAt d) true)) ('\x7d' :: left) []
      ('\x7d' :: left) := by
  refine takes_withFuel fun fuel enough => ?_
  obtain ⟨fuel, rfl⟩ := Nat.exists_eq_add_one_of_ne_zero (Nat.ne_zero_of_lt enough)
  exact (takes_moreMembers_end isSpacing_nil true left).bind (takes_pure _ _)

variable (blank : layout.IsBlank)

include blank in
theorem takes_itemsOf_rest {items : List Json} (plain : ∀ item ∈ items, IsPlain d item)
    (taken : ∀ item ∈ items, TakesValue layout d item) (n : Nat) (left : List Char) {fuel : Nat}
    (enough : items.length < fuel) :
    Takes (itemsOf (valueAt d) false fuel)
      (writeItems layout n items ++ (layout.beforeClose n ++ ']' :: left)) (sortedItems items)
        (']' :: left) := by
  induction items generalizing fuel with
  | nil =>
      obtain ⟨fuel, rfl⟩ := Nat.exists_eq_add_one_of_ne_zero (Nat.ne_zero_of_lt enough)
      exact (takes_moreItems_end (blank.beforeClose n) false left).bind (takes_pure _ _)
  | cons item rest ih =>
      obtain ⟨fuel, rfl⟩ := Nat.exists_eq_add_one_of_ne_zero (Nat.ne_zero_of_lt enough)
      obtain ⟨item_plain, rest_plain⟩ := List.forall_mem_cons.1 plain
      obtain ⟨item_taken, rest_taken⟩ := List.forall_mem_cons.1 taken
      obtain ⟨c, tail, hwrite, hc, other⟩ := write_eq_cons item_plain (n + 1)
      have value := (item_taken (n + 1) [] isSpacing_nil).append
        (writeItems layout n rest ++ (layout.beforeClose n ++ ']' :: left))
      have following := ih rest_plain rest_taken (Nat.lt_of_succ_lt_succ enough)
      have more := takes_moreItems_next isSpacing_nil (blank.beforeItem n) hc other
        (tail ++ (writeItems layout n rest ++ (layout.beforeClose n ++ ']' :: left)))
      rw [hwrite] at value
      simp only [writeItems, hwrite, List.append_assoc, List.cons_append, List.nil_append]
        at more value ⊢
      exact more.bind (value.bind (following.bind (takes_pure _ _)))

include blank in
/-- All items of a list behind its opening bracket. -/
theorem takes_itemsOf {item : Json} {items : List Json}
    (plain : ∀ j ∈ item :: items, IsPlain d j) (taken : ∀ j ∈ item :: items, TakesValue layout d j)
    (n : Nat) (left : List Char) :
    Takes (withFuel (itemsOf (valueAt d) true))
      (layout.beforeItem n ++ write layout (n + 1) item ++ writeItems layout n items ++
        layout.beforeClose n ++ ']' :: left) (sortedItems (item :: items)) (']' :: left) := by
  obtain ⟨item_plain, items_plain⟩ := List.forall_mem_cons.1 plain
  obtain ⟨item_taken, items_taken⟩ := List.forall_mem_cons.1 taken
  obtain ⟨c, tail, hwrite, hc, other⟩ := write_eq_cons item_plain (n + 1)
  refine takes_withFuel fun fuel enough => ?_
  obtain ⟨fuel, rfl⟩ := Nat.exists_eq_add_one_of_ne_zero (Nat.ne_zero_of_lt enough)
  have many : items.length < fuel := by
    have := length_le_writeItems layout n items
    simp only [List.length_append, List.length_cons] at enough
    omega
  have value := (item_taken (n + 1) [] isSpacing_nil).append
    (writeItems layout n items ++ (layout.beforeClose n ++ ']' :: left))
  have following := takes_itemsOf_rest blank items_plain items_taken n left many
  have more := takes_moreItems_first (blank.beforeItem n) hc other
    (tail ++ (writeItems layout n items ++ (layout.beforeClose n ++ ']' :: left)))
  rw [hwrite] at value
  simp only [hwrite, List.append_assoc, List.cons_append] at more value ⊢
  exact more.bind (value.bind (following.bind (takes_pure _ _)))

include blank in
/-- A member behind the opening quote of its name. -/
theorem takes_member (name : String) {value : Json} (taken : TakesValue layout d value) (n : Nat)
    {members : List (String × Json)} {fuel : Nat} {front left : List Char}
    (following : Takes (membersOf (fun _ => valueAt d) false fuel) front members left) :
    Takes (do
        eat
        let name ← restOfText
        colon
        let a ← valueAt d
        return (name, a) :: (← membersOf (fun _ => valueAt d) false fuel))
      (quoted name ++ ':' :: layout.afterColon ++ write layout n value ++ front)
      ((name, value.sorted) :: members) left := by
  have inside := (taken n layout.afterColon blank.afterColon).append front
  simp only [List.append_assoc, List.cons_append, quoted_append] at inside ⊢
  refine (takes_eat _ _).bind ((takes_restOfText name _).bind ?_)
  exact (takes_colon isSpacing_nil _).bind (inside.bind (following.bind (takes_pure _ _)))

include blank in
theorem takes_membersOf_rest {members : List (String × Json)}
    (taken : ∀ m ∈ members, TakesValue layout d m.2) (n : Nat) (left : List Char) {fuel : Nat}
    (enough : members.length < fuel) :
    Takes (membersOf (fun _ => valueAt d) false fuel)
      (writeMembers layout n members ++ (layout.beforeClose n ++ '\x7d' :: left))
        (sortedValues members) ('\x7d' :: left) := by
  induction members generalizing fuel with
  | nil =>
      obtain ⟨fuel, rfl⟩ := Nat.exists_eq_add_one_of_ne_zero (Nat.ne_zero_of_lt enough)
      exact (takes_moreMembers_end (blank.beforeClose n) false left).bind (takes_pure _ _)
  | cons m rest ih =>
      obtain ⟨fuel, rfl⟩ := Nat.exists_eq_add_one_of_ne_zero (Nat.ne_zero_of_lt enough)
      obtain ⟨m_taken, rest_taken⟩ := List.forall_mem_cons.1 taken
      obtain ⟨name, value⟩ := m
      have following := ih rest_taken (Nat.lt_of_succ_lt_succ enough)
      have member := takes_member blank name m_taken (n + 1) following
      have more := takes_moreMembers_next isSpacing_nil (blank.beforeItem n)
      simp only [writeMembers, List.append_assoc, List.cons_append, List.nil_append, quoted_append]
        at more member ⊢
      exact (more _).bind member

include blank in
/-- All members of an object behind its opening brace. -/
theorem takes_membersOf {name : String} {value : Json} {members : List (String × Json)}
    (taken : ∀ m ∈ (name, value) :: members, TakesValue layout d m.2) (n : Nat)
    (left : List Char) :
    Takes (withFuel (membersOf (fun _ => valueAt d) true))
      (layout.beforeItem n ++ quoted name ++ ':' :: layout.afterColon ++
        write layout (n + 1) value ++ writeMembers layout n members ++ layout.beforeClose n ++
          '\x7d' :: left) (sortedValues ((name, value) :: members)) ('\x7d' :: left) := by
  obtain ⟨m_taken, members_taken⟩ := List.forall_mem_cons.1 taken
  refine takes_withFuel fun fuel enough => ?_
  obtain ⟨fuel, rfl⟩ := Nat.exists_eq_add_one_of_ne_zero (Nat.ne_zero_of_lt enough)
  have many : members.length < fuel := by
    have := length_le_writeMembers layout n members
    simp only [List.length_append, List.length_cons] at enough
    omega
  have following := takes_membersOf_rest blank members_taken n left many
  have member := takes_member blank name m_taken (n + 1) following
  have more := takes_moreMembers_first (blank.beforeItem n)
  simp only [List.append_assoc, List.cons_append, quoted_append] at more member ⊢
  exact (more _).bind member

include blank in
/-- A value is taken as it was written, with its members sorted. -/
theorem takes_valueAt (h : IsPlain d j) : TakesValue layout d j := by
  -- what is nested inside is taken by the reader for one level less
  induction h with
  | null =>
      intro n space hspace
      refine (takes_peekValue hspace rfl _).bind ((takes_eat 'n' _).bind ?_)
      exact (takes_word ['u', 'l', 'l'] []).bind (takes_pure _ _)
  | bool b =>
      intro n space hspace
      cases b
      · refine (takes_peekValue hspace rfl _).bind ((takes_eat 'f' _).bind ?_)
        exact (takes_word ['a', 'l', 's', 'e'] []).bind (takes_pure _ _)
      · refine (takes_peekValue hspace rfl _).bind ((takes_eat 't' _).bind ?_)
        exact (takes_word ['r', 'u', 'e'] []).bind (takes_pure _ _)
  | string s =>
      intro n space hspace
      refine (takes_peekValue hspace rfl _).bind ((takes_eat '"' _).bind ?_)
      exact (takes_restOfText s []).bind (takes_pure _ _)
  | @array d items items_plain ih =>
      intro n space hspace
      cases items with
      | nil =>
          refine (takes_peekValue hspace rfl _).bind ((takes_eat '[' _).bind ?_)
          have inside := takes_itemsOf_nil (d + 1) []
          exact (takes_closing inside (takes_endList isSpacing_nil [])).bind (takes_pure _ _)
      | cons item rest =>
          have inside := takes_itemsOf blank items_plain ih n []
          simp only [write, List.append_assoc, List.cons_append] at inside ⊢
          refine (takes_peekValue hspace rfl _).bind ((takes_eat '[' _).bind ?_)
          exact (takes_closing inside (takes_endList isSpacing_nil [])).bind (takes_pure _ _)
  | @object d members members_plain ih =>
      intro n space hspace
      cases members with
      | nil =>
          refine (takes_peekValue hspace rfl _).bind ((takes_eat '\x7b' _).bind ?_)
          have inside := takes_membersOf_nil (d + 1) []
          exact (takes_closing inside (takes_endObject isSpacing_nil [])).bind (takes_pure _ _)
      | cons m rest =>
          obtain ⟨name, value⟩ := m
          have inside := takes_membersOf blank ih n []
          simp only [write, List.append_assoc, List.cons_append] at inside ⊢
          refine (takes_peekValue hspace rfl _).bind ((takes_eat '\x7b' _).bind ?_)
          exact (takes_closing inside (takes_endObject isSpacing_nil [])).bind (takes_pure _ _)

include blank in
/-- A text that holds a value and nothing else is read as that value. -/
theorem parse_write (h : IsPlain depthLimit j) :
    parse (String.ofList (write layout 0 j)) = .ok j.sorted := by
  obtain ⟨offset, htaken⟩ := takes_valueAt blank h 0 [] isSpacing_nil [] 0
  simp only [List.nil_append, List.append_nil] at htaken
  simp only [parse, readText, readValue, String.toList_ofList, Reader.bind_apply, htaken, peekToken,
    skipSpaceFrom, List.head?_nil, Reader.pure_apply]

end

theorem isBlank_tight : Layout.tight.IsBlank := by
  constructor <;> simp [Layout.tight, IsSpacing]

theorem isBlank_spread : Layout.spread.IsBlank := by
  have newline (n : Nat) : IsSpacing (newLine n) := by
    intro c hc
    rcases List.mem_cons.1 hc with rfl | hc
    · rfl
    · rw [List.eq_of_mem_replicate hc]
      rfl
  exact ⟨fun n => newline (n + 1), newline, by simp [Layout.spread, IsSpacing]; rfl⟩

theorem parse_compact {j : Json} (h : IsPlain depthLimit j) : parse j.compact = .ok j.sorted :=
  parse_write isBlank_tight h

end DomainDeploy.Json
