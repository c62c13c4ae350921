import DomainDeploy.Json.Reader

/-!
# What a reader takes

A reader takes something from the front of a text, whatever stands behind it (`Takes`). Where it is
not known whether a reader takes anything, it may still be known where it comes to an end (`Ends`),
or what kind of value it can only end with (`Yields`). All of this, and what a reader does not take
(`Refuses`), is told of a reader part by part.
-/

namespace DomainDeploy.Json

variable {α β : Type}

/-- The reader takes `front` for `a`, up to what is `left` of it. -/
def Takes (r : Reader α) (front : List Char) (a : α) (left : List Char) : Prop :=
  ∀ rest offset, ∃ offset', r ⟨front ++ rest, offset⟩ = .ok (a, ⟨left ++ rest, offset'⟩)

section

variable {r : Reader α} {f : α → Reader β} {a : α} {b : β} {c : Char}
  {front between left space : List Char}

theorem takes_pure (a : α) (left : List Char) : Takes (pure a) left a left :=
  fun _ offset => ⟨offset, rfl⟩

theorem Takes.bind (h : Takes r front a between) (hf : Takes (f a) between b left) :
    Takes (r >>= f) front b left := by
  intro rest offset
  obtain ⟨offset₁, h₁⟩ := h rest offset
  obtain ⟨offset₂, h₂⟩ := hf rest offset₁
  refine ⟨offset₂, ?_⟩
  rw [Reader.bind_apply, h₁]
  exact h₂

/-- What stands further behind does not matter. -/
theorem Takes.append (h : Takes r front a left) (more : List Char) :
    Takes r (front ++ more) a (left ++ more) := by
  intro rest offset
  rw [List.append_assoc, List.append_assoc]
  exact h (more ++ rest) offset

theorem takes_eat (c : Char) (left : List Char) : Takes eat (c :: left) () left :=
  fun _ _ => ⟨_, rfl⟩

theorem takes_peek (c : Char) (left : List Char) : Takes peek (c :: left) (some c) (c :: left) :=
  fun _ _ => ⟨_, rfl⟩

theorem takes_next (c : Char) (left : List Char) : Takes next (c :: left) (some c) left :=
  fun _ _ => ⟨_, rfl⟩

theorem takes_nextInText (c : Char) (left : List Char) : Takes nextInText (c :: left) c left :=
  fun _ _ => ⟨_, rfl⟩

/-- Only white space. -/
def IsSpacing (space : List Char) : Prop := ∀ c ∈ space, isSpace c = true

theorem isSpacing_nil : IsSpacing [] := by simp [IsSpacing]

theorem skipSpaceFrom_append (h : IsSpacing space) (hc : isSpace c = false) (rest : List Char)
    (offset : Nat) :
    skipSpaceFrom (space ++ c :: rest) offset = ⟨c :: rest, offset + space.length⟩ := by
  induction space generalizing offset with
  | nil => simp [skipSpaceFrom, hc]
  | cons s space ih =>
      obtain ⟨hs, hspace⟩ := List.forall_mem_cons.1 h
      rw [List.cons_append, skipSpaceFrom, if_pos hs, ih hspace, List.length_cons,
        Nat.add_right_comm, Nat.add_assoc]

theorem takes_peekToken (h : IsSpacing space) (hc : isSpace c = false) (left : List Char) :
    Takes peekToken (space ++ c :: left) (some c) (c :: left) := by
  intro rest offset
  refine ⟨offset + space.length, ?_⟩
  rw [peekToken, List.append_assoc, List.cons_append, skipSpaceFrom_append h hc]
  rfl

theorem takes_peekValue (h : IsSpacing space) (hc : isSpace c = false) (left : List Char) :
    Takes peekValue (space ++ c :: left) c (c :: left) :=
  (takes_peekToken h hc left).bind (takes_pure c _)

theorem takes_word (cs left : List Char) : Takes (word cs) (cs ++ left) () left := by
  induction cs with
  | nil => exact takes_pure () left
  | cons c cs ih =>
      refine (takes_next c _).bind ?_
      simp only [beq_self_eq_true, if_true]
      exact ih

end

/-! ### What may be taken -/

section

variable {r : Reader α} {f : α → Reader β} {a : α} {front between left : List Char}

/-- If the reader takes anything from `front`, it takes it up to what is `left`. -/
def Ends (r : Reader α) (front left : List Char) : Prop :=
  ∀ rest offset a c, r ⟨front ++ rest, offset⟩ = .ok (a, c) → c.rest = left ++ rest

theorem Takes.ends (h : Takes r front a left) : Ends r front left := by
  intro rest offset a' c taken
  obtain ⟨offset', h'⟩ := h rest offset
  rw [h'] at taken
  cases taken
  rfl

theorem Ends.bind (h : Ends r front between) (hf : ∀ a, Ends (f a) between left) :
    Ends (r >>= f) front left := by
  intro rest offset b c taken
  rw [Reader.bind_apply] at taken
  split at taken
  next a c₁ first =>
    obtain ⟨rest₁, offset₁⟩ := c₁
    obtain rfl : rest₁ = between ++ rest := h rest offset a _ first
    exact hf a rest offset₁ b c taken
  next => cases taken

/-- What has been taken for certain leaves the rest to what follows. -/
theorem Takes.bind_ends (h : Takes r front a between) (hf : Ends (f a) between left) :
    Ends (r >>= f) front left := by
  intro rest offset b c taken
  obtain ⟨offset', first⟩ := h rest offset
  rw [Reader.bind_apply, first] at taken
  exact hf rest offset' b c taken

/-- Every value that the reader may end with is of the given kind. -/
def Yields (P : α → Prop) (r : Reader α) : Prop := ∀ c a c', r c = .ok (a, c') → P a

theorem yields_pure {P : α → Prop} (h : P a) : Yields P (pure a) := by
  intro c b c' taken
  cases taken
  exact h

theorem Yields.bind_of {P : α → Prop} {Q : β → Prop} (h : Yields P r)
    (hf : ∀ a, P a → Yields Q (f a)) : Yields Q (r >>= f) := by
  intro c b c' taken
  rw [Reader.bind_apply] at taken
  split at taken
  next a c₁ first => exact hf a (h c a c₁ first) c₁ b c' taken
  next => cases taken

theorem Yields.bind {P : β → Prop} (hf : ∀ a, Yields P (f a)) : Yields P (r >>= f) :=
  Yields.bind_of (P := fun _ => True) (fun _ _ _ _ => trivial) fun a _ => hf a

theorem yields_failHere {P : α → Prop} (cause : Cause) : Yields P (failHere cause) := nofun

theorem yields_failAhead {P : α → Prop} (cause : Cause) : Yields P (failAhead cause) := nofun

theorem yields_failInside {P : α → Prop} (taken : Char) (cause : Cause) :
    Yields P (failInside taken cause) := nofun

theorem yields_failLater {P : α → Prop} (cause : Cause) : Yields P (failLater cause) := nofun

/-- A reader that never ends with a value may be said to end anywhere. -/
theorem Yields.ends (h : Yields (fun _ => False) r) (front left : List Char) : Ends r front left :=
  fun _ _ a c taken => (h _ a c taken).elim

/-- The reader refuses whatever starts with `front`. -/
def Refuses (r : Reader α) (front : List Char) : Prop :=
  ∀ rest offset, ∃ trouble, r ⟨front ++ rest, offset⟩ = .error trouble

theorem Refuses.bind (h : Refuses r front) : Refuses (r >>= f) front := by
  intro rest offset
  obtain ⟨trouble, refused⟩ := h rest offset
  exact ⟨trouble, by rw [Reader.bind_apply, refused]⟩

theorem Takes.bind_refuses (h : Takes r front a between) (hf : Refuses (f a) between) :
    Refuses (r >>= f) front := by
  intro rest offset
  obtain ⟨offset', first⟩ := h rest offset
  obtain ⟨trouble, refused⟩ := hf rest offset'
  exact ⟨trouble, by rw [Reader.bind_apply, first]; exact refused⟩

theorem Ends.bind_refuses (h : Ends r front between) (hf : ∀ a, Refuses (f a) between) :
    Refuses (r >>= f) front := by
  intro rest offset
  rw [Reader.bind_apply]
  split
  next a c first =>
    obtain ⟨rest₁, offset₁⟩ := c
    obtain rfl : rest₁ = between ++ rest := h rest offset a _ first
    exact hf a rest offset₁
  next trouble first => exact ⟨trouble, rfl⟩

/-- What is left to be done, and of what: `r` on `front` is `r'` on what is `left` of it. -/
def GoesOn (r : Reader α) (front : List Char) (r' : Reader α) (left : List Char) : Prop :=
  ∀ rest offset, ∃ offset', r ⟨front ++ rest, offset⟩ = r' ⟨left ++ rest, offset'⟩

theorem goesOn_refl (r : Reader α) (front : List Char) : GoesOn r front r front :=
  fun _ offset => ⟨offset, rfl⟩

theorem Takes.goesOn {r' : Reader β} (h : Takes r front a between)
    (later : GoesOn (f a) between r' left) : GoesOn (r >>= f) front r' left := by
  intro rest offset
  obtain ⟨offset₁, first⟩ := h rest offset
  obtain ⟨offset₂, second⟩ := later rest offset₁
  refine ⟨offset₂, ?_⟩
  rw [Reader.bind_apply, first]
  exact second

theorem GoesOn.bind {r' : Reader α} (h : GoesOn r front r' between) :
    GoesOn (r >>= f) front (r' >>= f) between := by
  intro rest offset
  obtain ⟨offset', same⟩ := h rest offset
  exact ⟨offset', by rw [Reader.bind_apply, Reader.bind_apply, same]⟩

theorem GoesOn.takes {r' : Reader α} (h : GoesOn r front r' between)
    (later : Takes r' between a left) : Takes r front a left := by
  intro rest offset
  obtain ⟨offset₁, first⟩ := h rest offset
  obtain ⟨offset₂, second⟩ := later rest offset₁
  exact ⟨offset₂, first.trans second⟩

theorem GoesOn.ends {r' : Reader α} (h : GoesOn r front r' between) (later : Ends r' between left) :
    Ends r front left := by
  intro rest offset a c taken
  obtain ⟨offset', same⟩ := h rest offset
  exact later rest offset' a c (same ▸ taken)

theorem GoesOn.refuses {r' : Reader α} (h : GoesOn r front r' between)
    (later : Refuses r' between) : Refuses r front := by
  intro rest offset
  obtain ⟨offset', same⟩ := h rest offset
  rw [same]
  exact later rest offset'

theorem Refuses.ends (h : Refuses r front) (left : List Char) : Ends r front left := by
  intro rest offset a c taken
  obtain ⟨trouble, refused⟩ := h rest offset
  rw [refused] at taken
  cases taken

end

/-! ### Brackets -/

section

variable {r : Reader α} {a : α} {front left : List Char}

theorem takes_placeLate (h : Takes r front a left) : Takes (placeLate r) front a left := by
  intro rest offset
  obtain ⟨offset', taken⟩ := h rest offset
  exact ⟨offset', by rw [placeLate, taken]⟩

theorem placeLate_eq_ok {c c' : Cursor} : placeLate r c = .ok (a, c') ↔ r c = .ok (a, c') := by
  unfold placeLate
  cases r c with
  | ok p => rfl
  | error trouble => cases trouble <;> simp

theorem ends_placeLate (h : Ends r front left) : Ends (placeLate r) front left :=
  fun rest offset a c taken => h rest offset a c (placeLate_eq_ok.1 taken)

theorem refuses_placeLate (h : Refuses r front) : Refuses (placeLate r) front := by
  intro rest offset
  obtain ⟨trouble, refused⟩ := h rest offset
  rw [placeLate, refused]
  cases trouble with
  | placed cause offset => exact ⟨_, rfl⟩
  | floating cause reached => exact ⟨_, rfl⟩

theorem refuses_withFuel {r : Nat → Reader α} (h : ∀ fuel, Refuses (r fuel) front) :
    Refuses (withFuel r) front := fun rest offset => h _ rest offset

theorem refuses_closing (h : Refuses r front) (finish : Reader Unit) :
    Refuses (closing r finish) front := by
  intro rest offset
  obtain ⟨trouble, refused⟩ := h rest offset
  rw [closing, refused]
  cases trouble with
  | placed cause offset => exact ⟨_, rfl⟩
  | floating cause reached => exact ⟨_, rfl⟩

theorem yields_placeLate {P : α → Prop} (h : Yields P r) : Yields P (placeLate r) :=
  fun c a c' taken => h c a c' (placeLate_eq_ok.1 taken)

end

section

variable {r : Reader α} {a : α} {c : Char} {front between left space : List Char}

theorem takes_closing {finish : Reader Unit} (h : Takes r front a between)
    (hfinish : Takes finish between () left) : Takes (closing r finish) front a left := by
  intro rest offset
  obtain ⟨offset₁, h₁⟩ := h rest offset
  obtain ⟨offset₂, h₂⟩ := hfinish rest offset₁
  refine ⟨offset₂, ?_⟩
  simp only [closing, h₁, Reader.andThen, h₂, Reader.done]

theorem takes_withFuel {r : Nat → Reader α}
    (h : ∀ fuel, front.length < fuel → Takes (r fuel) front a left) :
    Takes (withFuel r) front a left := by
  intro rest offset
  refine h _ ?_ rest offset
  simp only [List.length_append]
  omega

theorem takes_moreItems_end (h : IsSpacing space) (first : Bool) (left : List Char) :
    Takes (moreItems first) (space ++ ']' :: left) false (']' :: left) :=
  (takes_peekToken h rfl left).bind (takes_pure false _)

theorem takes_moreItems_first (h : IsSpacing space) (hc : isSpace c = false) (other : c ≠ ']')
    (left : List Char) : Takes (moreItems true) (space ++ c :: left) true (c :: left) := by
  refine (takes_peekToken h hc left).bind ?_
  split
  next hnone => cases hnone
  next hend => exact (other (Option.some.inj hend)).elim
  next => exact takes_pure true _

theorem takes_moreItems_next (before : IsSpacing front) (h : IsSpacing space)
    (hc : isSpace c = false) (other : c ≠ ']') (left : List Char) :
    Takes (moreItems false) (front ++ ',' :: (space ++ c :: left)) true (c :: left) := by
  refine (takes_peekToken before rfl _).bind ((takes_eat ',' _).bind ?_)
  refine (takes_peekToken h hc left).bind ?_
  split
  next hend => exact (other (Option.some.inj hend)).elim
  next => exact takes_pure true _
  next hnone => cases hnone

theorem takes_endList (h : IsSpacing space) (left : List Char) :
    Takes endList (space ++ ']' :: left) () left :=
  (takes_peekToken h rfl left).bind (takes_eat _ _)

theorem takes_moreMembers_end (h : IsSpacing space) (first : Bool) (left : List Char) :
    Takes (moreMembers first) (space ++ '\x7d' :: left) false ('\x7d' :: left) :=
  (takes_peekToken h rfl left).bind (takes_pure false _)

theorem takes_moreMembers_first (h : IsSpacing space) (left : List Char) :
    Takes (moreMembers true) (space ++ '"' :: left) true ('"' :: left) :=
  (takes_peekToken h rfl left).bind (takes_pure true _)

theorem takes_moreMembers_next (before : IsSpacing front) (h : IsSpacing space)
    (left : List Char) :
    Takes (moreMembers false) (front ++ ',' :: (space ++ '"' :: left)) true ('"' :: left) :=
  (takes_peekToken before rfl _).bind
    ((takes_eat ',' _).bind ((takes_peekToken h rfl left).bind (takes_pure true _)))

theorem takes_endObject (h : IsSpacing space) (left : List Char) :
    Takes endObject (space ++ '\x7d' :: left) () left :=
  (takes_peekToken h rfl left).bind (takes_eat _ _)

theorem takes_colon (h : IsSpacing space) (left : List Char) :
    Takes colon (space ++ ':' :: left) () left :=
  (takes_peekToken h rfl left).bind (takes_eat _ _)

end

end DomainDeploy.Json
