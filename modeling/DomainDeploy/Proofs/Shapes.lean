import DomainDeploy.Json.Shape
import DomainDeploy.Proofs.Grammar

/-!
# Values of a known shape

A reader of a known shape takes its value for what it spells, whatever white space stands before it
(`Reads`). Shown any other value, it refuses it or reads it up to its end and no further
(`KeepsWithin`), so that what stands behind a value never decides what becomes of it.
-/

namespace DomainDeploy.Json

variable {α β : Type}

/-- The reader takes the value for `a`, whatever white space stands before it. -/
def Reads (r : Reader α) (v : List Char) (a : α) : Prop :=
  ∀ space left, IsSpacing space → Stops left → Takes r (space ++ (v ++ left)) a left

/-- The reader takes nothing, or all of the value and nothing else. -/
def KeepsWithin (r : Reader α) (v : List Char) : Prop :=
  ∀ space left, IsSpacing space → Stops left → Ends r (space ++ (v ++ left)) left

variable {r : Reader α} {v body : List Char} {a : α}

theorem Reads.map (h : Reads r v a) (f : α → β) : Reads (do return f (← r)) v (f a) :=
  fun space left hspace stops => (h space left hspace stops).bind (takes_pure _ _)

theorem KeepsWithin.map (h : KeepsWithin r v) (f : α → β) :
    KeepsWithin (do return f (← r)) v :=
  fun space left hspace stops => (h space left hspace stops).bind fun _ => (takes_pure _ _).ends

theorem yields_refuse (expected : String) :
    Yields (fun _ => False) (refuse expected : Reader α) := by
  refine yields_placeLate (.bind fun c => ?_)
  split
  · exact .bind fun _ => .bind fun _ => yields_failLater _
  · exact .bind fun _ => .bind fun _ => yields_failLater _
  · exact .bind fun _ => .bind fun _ => yields_failLater _
  · exact .bind fun _ => .bind fun _ => yields_failLater _
  · exact .bind fun _ => .bind fun _ => yields_failLater _
  · exact yields_failLater _
  · exact yields_failLater _
  · split
    · exact .bind fun _ => yields_failLater _
    · exact yields_failAhead _
  · exact yields_failAhead _

theorem refuses_refuse (expected : String) (front : List Char) :
    Refuses (refuse expected : Reader α) front := by
  intro rest offset
  cases taken : (refuse expected : Reader α) ⟨front ++ rest, offset⟩ with
  | ok p => exact (yields_refuse expected _ p.1 p.2 taken).elim
  | error trouble => exact ⟨trouble, rfl⟩

/-! ### Texts -/

/-- Only texts start with a quote. -/
theorem IsValue.exists_body {tail : List Char} (h : IsValue ('"' :: tail)) :
    ∃ body, IsTextBody body ∧ '"' :: tail = quote body := by
  generalize start : '"' :: tail = v at h
  cases h with
  | text h => exact ⟨_, h, rfl⟩
  | unsigned h =>
      obtain ⟨d, ds, rfl, digit⟩ := h.exists_cons
      exact (ne_of_isDigit digit rfl (List.cons.inj start).1.symm).elim
  | _ => cases start

/-- A value that is no text starts with something else than a quote. -/
theorem IsValue.quote_or_other (h : IsValue v) : (∃ body, IsTextBody body ∧ v = quote body) ∨
    ∃ c tail, v = c :: tail ∧ isSpace c = false ∧ c ≠ '"' := by
  obtain ⟨c, tail, rfl, hc, -⟩ := h.exists_cons
  by_cases text : c = '"'
  · subst text
    exact .inl h.exists_body
  · exact .inr ⟨c, tail, rfl, hc, text⟩

theorem takes_textAs {s : String} (h : SpellsText body s.toList) (expected : String)
    {space : List Char} (hspace : IsSpacing space) (left : List Char) :
    Takes (textAs expected) (space ++ (quote body ++ left)) s left := by
  rw [quote_append]
  exact (takes_peekValue hspace rfl _).bind
    ((takes_eat _ _).bind (takes_restOfText_of_spells h left))

theorem reads_text {s : String} (h : SpellsText body s.toList) : Reads text (quote body) s :=
  fun _ left hspace _ => takes_textAs h _ hspace left

theorem keepsWithin_textAs (h : IsValue v) (expected : String) :
    KeepsWithin (textAs expected) v := by
  intro space left hspace _
  obtain ⟨body, hbody, rfl⟩ | ⟨c, tail, rfl, hc, other⟩ := h.quote_or_other
  · rw [quote_append]
    exact (takes_peekValue hspace rfl _).bind_ends
      ((takes_eat _ _).bind_ends (ends_restOfText hbody left))
  · refine (takes_peekValue hspace hc _).bind_ends ?_
    split
    · contradiction
    · exact (yields_refuse _).ends _ _

/-! ### Truth values, natural numbers and null -/

/-- A truth value as a word. -/
def flagWord : Bool → List Char
  | true => ['t', 'r', 'u', 'e']
  | false => ['f', 'a', 'l', 's', 'e']

theorem reads_flag (b : Bool) : Reads flag (flagWord b) b := by
  intro space left hspace _
  cases b
  · refine (takes_peekValue hspace rfl _).bind ((takes_eat 'f' _).bind ?_)
    exact (takes_word _ left).bind (takes_pure _ _)
  · refine (takes_peekValue hspace rfl _).bind ((takes_eat 't' _).bind ?_)
    exact (takes_word _ left).bind (takes_pure _ _)

theorem keepsWithin_flag (h : IsValue v) : KeepsWithin flag v := by
  intro space left hspace stops
  cases h with
  | trueWord => exact (reads_flag true space left hspace stops).ends
  | falseWord => exact (reads_flag false space left hspace stops).ends
  | unsigned h =>
      obtain ⟨d, tail, rfl, digit⟩ := h.exists_cons
      refine (takes_peekValue hspace (isSpace_of_isDigit digit) _).bind_ends ?_
      split
      · cases digit
      · cases digit
      · exact (yields_refuse _).ends _ _
  | nullWord => exact (takes_peekValue hspace rfl _).bind_ends ((yields_refuse _).ends _ _)
  | negative => exact (takes_peekValue hspace rfl _).bind_ends ((yields_refuse _).ends _ _)
  | text => exact (takes_peekValue hspace rfl _).bind_ends ((yields_refuse _).ends _ _)
  | list => exact (takes_peekValue hspace rfl _).bind_ends ((yields_refuse _).ends _ _)
  | object => exact (takes_peekValue hspace rfl _).bind_ends ((yields_refuse _).ends _ _)

theorem reads_natural {whole : List Char} {n bits : Nat} (h : IsWhole whole)
    (value : Nat.ofDigitChars 10 whole 0 = n) (fits : n < Nat.pow 2 bits) (few : bits ≤ 64) :
    Reads (natural bits) whole n :=
  fun _ _ hspace stops => takes_natural h value fits few hspace stops

theorem keepsWithin_natural (h : IsValue v) (bits : Nat) : KeepsWithin (natural bits) v := by
  intro space left hspace stops
  have other {c : Char} {tail : List Char} (hc : isSpace c = false) (unsigned : c ≠ '-')
      (digit : isDigit c = false) : Ends (natural bits) (space ++ (c :: tail ++ left)) left := by
    refine (takes_peekValue hspace hc _).bind_ends ?_
    rw [if_neg (by simpa using unsigned), if_neg (by simp [digit])]
    exact (yields_refuse _).ends _ _
  cases h with
  | unsigned h => exact ends_natural h bits hspace stops
  | negative => exact ends_natural_negative hspace bits _ left
  | nullWord => exact other rfl (by decide) rfl
  | trueWord => exact other rfl (by decide) rfl
  | falseWord => exact other rfl (by decide) rfl
  | text => exact other rfl (by decide) rfl
  | list => exact other rfl (by decide) rfl
  | object => exact other rfl (by decide) rfl

/-- A natural number that is read has few enough bits. -/
theorem yields_natural (bits : Nat) : Yields (· < Nat.pow 2 bits) (natural bits) := by
  refine .bind fun c => ?_
  split
  · exact .bind fun _ => .bind fun n => yields_asNatural bits n
  · split
    · exact .bind fun n => yields_asNatural bits n
    · intro c a c' taken
      exact (yields_refuse _ c a c' taken).elim

/-- The word for no value. -/
def nullText : List Char := ['n', 'u', 'l', 'l']

theorem reads_nothing : Reads nothing nullText () := by
  intro space left hspace _
  exact (takes_peekValue hspace rfl _).bind ((takes_eat 'n' _).bind (takes_word _ left))

theorem reads_optional_none (r : Reader α) : Reads (optional r) nullText none := by
  intro space left hspace _
  refine (takes_peekToken hspace rfl _).bind ((takes_eat 'n' _).bind ?_)
  exact (takes_word _ left).bind (takes_pure _ _)

/-- Only the word for no value starts with its letter. -/
theorem IsValue.eq_nullText {tail : List Char} (h : IsValue ('n' :: tail)) :
    'n' :: tail = nullText := by
  generalize start : 'n' :: tail = v at h
  cases h with
  | nullWord => rfl
  | unsigned h =>
      obtain ⟨d, ds, rfl, digit⟩ := h.exists_cons
      exact (ne_of_isDigit digit rfl (List.cons.inj start).1.symm).elim
  | _ => cases start

/-- A value that is not null starts with something else than its word. -/
theorem IsValue.null_or_other (h : IsValue v) :
    v = nullText ∨ ∃ c tail, v = c :: tail ∧ isSpace c = false ∧ c ≠ 'n' := by
  obtain ⟨c, tail, rfl, hc, -⟩ := h.exists_cons
  by_cases null : c = 'n'
  · subst null
    exact .inl h.eq_nullText
  · exact .inr ⟨c, tail, rfl, hc, null⟩

theorem keepsWithin_nothing (h : IsValue v) : KeepsWithin nothing v := by
  intro space left hspace stops
  obtain rfl | ⟨c, tail, rfl, hc, other⟩ := h.null_or_other
  · exact (reads_nothing space left hspace stops).ends
  · refine (takes_peekValue hspace hc _).bind_ends ?_
    split
    · contradiction
    · exact (yields_refuse _).ends _ _

theorem reads_optional_text {s : String} (h : SpellsText body s.toList) :
    Reads (optional text) (quote body) (some s) := by
  intro space left hspace stops
  refine (takes_peekToken hspace rfl _).bind ?_
  exact (reads_text h [] left isSpacing_nil stops).bind (takes_pure _ _)

theorem keepsWithin_optional (h : IsValue v) (hr : KeepsWithin r v) :
    KeepsWithin (optional r) v := by
  intro space left hspace stops
  obtain rfl | ⟨c, tail, rfl, hc, other⟩ := h.null_or_other
  · exact (reads_optional_none r space left hspace stops).ends
  · refine (takes_peekToken hspace hc _).bind_ends ?_
    split
    next hnull => exact (other (Option.some.inj hnull)).elim
    next => exact (hr [] left isSpacing_nil stops).bind fun _ => (takes_pure _ _).ends

/-! ### Named choices -/

section

variable {choices : List (String × α)} {name : String} {close : List Char} {m : Member}

theorem takes_choiceName (h : SpellsText body name.toList) (known : choices.lookup name = some a)
    {space : List Char} (hspace : IsSpacing space) (left : List Char) :
    Takes (choiceName choices) (space ++ (quote body ++ left)) a left := by
  refine takes_placeLate ((takes_textAs h _ hspace left).bind ?_)
  rw [choose, known]
  exact takes_pure _ _

theorem ends_choiceName (h : IsTextBody body) {space : List Char} (hspace : IsSpacing space)
    (left : List Char) : Ends (choiceName choices) (space ++ (quote body ++ left)) left := by
  refine ends_placeLate ?_
  have name : Ends (textAs "variant identifier") (space ++ (quote body ++ left)) left := by
    rw [quote_append]
    exact (takes_peekValue hspace rfl _).bind_ends
      ((takes_eat _ _).bind_ends (ends_restOfText h left))
  refine name.bind fun found => ?_
  unfold choose
  split
  · exact (takes_pure _ _).ends
  · exact (yields_failLater _).ends _ _

/-- A choice is made by its name. -/
theorem reads_choice (h : SpellsText body name.toList) (known : choices.lookup name = some a) :
    Reads (choice choices) (quote body) a := by
  intro space left hspace _
  have named := takes_choiceName h known isSpacing_nil left
  rw [quote_append] at named ⊢
  exact (takes_peekValue hspace rfl _).bind named

/-- A choice is made by an object that maps its name to null. -/
theorem reads_choice_object (hclose : IsSpacing close) (spaced : m.IsSpaced)
    (h : SpellsText m.name name.toList) (null : m.value = nullText)
    (known : choices.lookup name = some a) : Reads (choice choices) (objectText close [m]) a := by
  intro space left hspace _
  obtain ⟨hbefore, hname, hcolon, hafter⟩ := spaced
  have named := takes_choiceName h known hbefore
    (m.afterName ++ ':' :: (m.beforeValue ++ (m.value ++ (m.after ++ (close ++ '\x7d' :: left)))))
  simp only [objectText_cons_append, membersBehind_nil, Member.inner, null, List.append_assoc,
    List.cons_append] at named ⊢
  refine (takes_peekValue hspace rfl _).bind ((takes_eat '\x7b' _).bind ?_)
  refine named.bind ((takes_colon hname _).bind ?_)
  refine (reads_nothing _ _ hcolon (stops_membersBehind hafter hclose [] left)).bind ?_
  rw [membersBehind_nil, ← List.append_assoc]
  refine (takes_peekToken (isSpacing_append hafter hclose) rfl left).bind ?_
  exact (takes_eat _ _).bind (takes_pure _ _)

/-- An object is a choice by its first member, and only when it has no second one. -/
theorem keepsWithin_choice_object {members : List Member} (hclose : IsSpacing close)
    (spaced : ∀ m ∈ members, m.IsSpaced) (names : ∀ m ∈ members, IsTextBody m.name)
    (values : ∀ m ∈ members, IsValue m.value) :
    KeepsWithin (choice choices) (objectText close members) := by
  intro space left hspace stops
  cases members with
  | nil =>
      rw [objectText_nil_append]
      refine (takes_peekValue hspace rfl _).bind_ends ((takes_eat _ _).bind_ends ?_)
      have unnamed : Refuses (choiceName choices) (close ++ '\x7d' :: left) := by
        refine refuses_placeLate (Refuses.bind ?_)
        exact (takes_peekValue hclose rfl _).bind_refuses (refuses_refuse _ _)
      exact unnamed.bind.ends _
  | cons m members =>
      obtain ⟨⟨hbefore, hname, hcolon, hafter⟩, -⟩ := List.forall_mem_cons.1 spaced
      obtain ⟨name, -⟩ := List.forall_mem_cons.1 names
      obtain ⟨value, -⟩ := List.forall_mem_cons.1 values
      have named : Ends (choiceName choices) _ _ := ends_choiceName name hbefore (m.afterName ++
        ':' :: (m.beforeValue ++ (m.value ++ (m.after ++ membersBehind close members left))))
      simp only [objectText_cons_append, Member.inner, List.append_assoc, List.cons_append]
        at named ⊢
      refine (takes_peekValue hspace rfl _).bind_ends ((takes_eat _ _).bind_ends ?_)
      refine named.bind fun a => (takes_colon hname _).bind_ends ?_
      refine (keepsWithin_nothing value _ _ hcolon
        (stops_membersBehind hafter hclose members left)).bind fun _ => ?_
      cases members with
      | nil =>
          rw [membersBehind_nil, ← List.append_assoc]
          refine (takes_peekToken (isSpacing_append hafter hclose) rfl left).bind_ends ?_
          exact (takes_eat _ _).bind_ends (takes_pure _ _).ends
      | cons n members =>
          rw [membersBehind_cons]
          refine (takes_peekToken hafter rfl _).bind_ends ?_
          exact (yields_failHere _).ends _ _

theorem keepsWithin_choice (h : IsValue v) : KeepsWithin (choice choices) v := by
  intro space left hspace stops
  have other {c : Char} {tail : List Char} (hc : isSpace c = false) (text : c ≠ '"')
      (object : c ≠ '\x7b') : Ends (choice choices) (space ++ (c :: tail ++ left)) left := by
    refine (takes_peekValue hspace hc _).bind_ends ?_
    split
    · contradiction
    · contradiction
    · exact (yields_failAhead _).ends _ _
  cases h with
  | text h =>
      have named : Ends (choiceName choices) _ left := ends_choiceName h isSpacing_nil left
      rw [quote_append] at named ⊢
      exact (takes_peekValue hspace rfl _).bind_ends named
  | object hclose spaced names values =>
      exact keepsWithin_choice_object hclose spaced names values space left hspace stops
  | unsigned h =>
      obtain ⟨d, tail, rfl, digit⟩ := h.exists_cons
      exact other (isSpace_of_isDigit digit) (ne_of_isDigit digit rfl) (ne_of_isDigit digit rfl)
  | negative => exact other rfl (by decide) (by decide)
  | nullWord => exact other rfl (by decide) (by decide)
  | trueWord => exact other rfl (by decide) (by decide)
  | falseWord => exact other rfl (by decide) (by decide)
  | list => exact other rfl (by decide) (by decide)

end

end DomainDeploy.Json
