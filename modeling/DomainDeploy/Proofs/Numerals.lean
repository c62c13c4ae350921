import DomainDeploy.Json.Shape
import DomainDeploy.Proofs.Taking

/-!
# Numbers by the grammar

A number is a row of digits without a leading zero, perhaps with a fraction and an exponent behind
it (`IsUnsigned`), and where it ends is told by what stands behind it (`Stops`). A number that
nobody wants is skimmed whatever its size (`takes_skimNumber`). A natural number is read from its
digits if it fits (`takes_natural`), and what is read of any other number is no natural number.
-/

namespace DomainDeploy.Json

/-- Only decimal digits. -/
def AreDigits (ds : List Char) : Prop := ∀ d ∈ ds, isDigit d = true

/-- Digits that do not start with a zero, unless that is all. -/
inductive IsWhole : List Char → Prop
  | zero : IsWhole ['0']
  | digits {d : Char} {ds : List Char} (digit : isDigit d = true) (nonzero : d ≠ '0')
      (later : AreDigits ds) : IsWhole (d :: ds)

/-- A point and digits, or nothing. -/
inductive IsFraction : List Char → Prop
  | none : IsFraction []
  | some {d : Char} {ds : List Char} (digit : isDigit d = true) (later : AreDigits ds) :
      IsFraction ('.' :: d :: ds)

/-- An `e` in either case, perhaps a sign, and digits, or nothing. -/
inductive IsExponent : List Char → Prop
  | none : IsExponent []
  | some {e d : Char} {sign ds : List Char} (letter : e = 'e' ∨ e = 'E')
      (signed : sign = [] ∨ sign = ['+'] ∨ sign = ['-']) (digit : isDigit d = true)
      (later : AreDigits ds) : IsExponent (e :: (sign ++ d :: ds))

/-- A number without a sign. -/
inductive IsUnsigned : List Char → Prop
  | mk {whole fraction exponent : List Char} (hwhole : IsWhole whole)
      (hfraction : IsFraction fraction) (hexponent : IsExponent exponent) :
      IsUnsigned (whole ++ (fraction ++ exponent))

/-- Something follows that does not belong to a number. -/
inductive Stops : List Char → Prop
  | mk {c : Char} {left : List Char} (digit : isDigit c = false) (point : c ≠ '.')
      (small : c ≠ 'e') (capital : c ≠ 'E') : Stops (c :: left)

/-- Something follows that is no digit. -/
inductive StopsDigits : List Char → Prop
  | mk {c : Char} {left : List Char} (digit : isDigit c = false) : StopsDigits (c :: left)

variable {ds text exponent fraction whole left : List Char}

theorem Stops.stopsDigits (h : Stops left) : StopsDigits left := by
  cases h with
  | mk digit => exact .mk digit

theorem stopsDigits_exponent (h : IsExponent exponent) (stops : Stops left) :
    StopsDigits (exponent ++ left) := by
  cases h with
  | none => exact stops.stopsDigits
  | some letter => rcases letter with rfl | rfl <;> exact .mk rfl

theorem stopsDigits_fraction (h : IsFraction fraction) (hexponent : IsExponent exponent)
    (stops : Stops left) : StopsDigits (fraction ++ (exponent ++ left)) := by
  cases h with
  | none =>
      rw [List.nil_append]
      exact stopsDigits_exponent hexponent stops
  | some => exact .mk rfl

/-! ### Going over a number -/

theorem skipDigitsFrom_append (h : AreDigits ds) (stops : StopsDigits left) (count : Nat)
    (rest : List Char) (offset : Nat) :
    skipDigitsFrom count (ds ++ (left ++ rest)) offset =
      (count + ds.length, ⟨left ++ rest, offset + ds.length⟩) := by
  induction ds generalizing count offset with
  | nil =>
      cases stops with
      | mk digit => simp [skipDigitsFrom, digit]
  | cons d ds ih =>
      obtain ⟨digit, later⟩ := List.forall_mem_cons.1 h
      rw [List.cons_append, skipDigitsFrom, if_pos digit, ih later, List.length_cons]
      simp only [Nat.add_assoc, Nat.add_comm 1]

theorem takes_skipDigits (h : AreDigits ds) (stops : StopsDigits left) :
    Takes skipDigits (ds ++ left) ds.length left := by
  intro rest offset
  refine ⟨offset + ds.length, ?_⟩
  rw [skipDigits, List.append_assoc, skipDigitsFrom_append h stops, Nat.zero_add]

/-- Going over what may stand behind the digits of a fraction. -/
def skimAfterFraction : Reader Unit := do
  match ← peek with
  | some 'e' | some 'E' => skimNumber.skimExponent
  | _ => pure ()

/-- Going over what may stand behind the leading digits. -/
def skimAfterWhole : Reader Unit := do
  match ← peek with
  | some '.' =>
    eat
    let count ← skipDigits
    if count == 0 then failAhead .invalidNumber else skimAfterFraction
  | some 'e' | some 'E' => skimNumber.skimExponent
  | _ => pure ()

/-- Going over the digits of an exponent. -/
def skimExponentDigits : Reader Unit := do
  match ← next with
  | none => failHere .invalidNumber
  | some c =>
    if isDigit c then
      let _ ← skipDigits
    else failInside c .invalidNumber

theorem takes_skimExponent {e d : Char} {sign : List Char}
    (signed : sign = [] ∨ sign = ['+'] ∨ sign = ['-']) (digit : isDigit d = true)
    (later : AreDigits ds) (stops : Stops left) :
    Takes skimNumber.skimExponent (e :: (sign ++ d :: ds) ++ left) () left := by
  have digits : Takes skimExponentDigits (d :: ds ++ left) () left := by
    refine (takes_next _ _).bind ?_
    simp only [digit, if_true]
    exact (takes_skipDigits later stops.stopsDigits).bind (takes_pure _ _)
  rw [List.cons_append, List.append_assoc]
  refine (takes_eat _ _).bind ?_
  rcases signed with rfl | rfl | rfl
  · refine (takes_peek _ _).bind ?_
    split
    next h => obtain rfl := Option.some.inj h; cases digit
    next h => obtain rfl := Option.some.inj h; cases digit
    next => exact digits
  · exact (takes_peek _ _).bind ((takes_eat _ _).bind digits)
  · exact (takes_peek _ _).bind ((takes_eat _ _).bind digits)

theorem takes_skimAfterFraction (h : IsExponent exponent) (stops : Stops left) :
    Takes skimAfterFraction (exponent ++ left) () left := by
  cases h with
  | none =>
      obtain @⟨c, left, digit, point, small, capital⟩ := stops
      refine (takes_peek _ _).bind ?_
      split
      next h => exact (small (Option.some.inj h)).elim
      next h => exact (capital (Option.some.inj h)).elim
      next => exact takes_pure _ _
  | some letter signed digit later =>
      rcases letter with rfl | rfl
      · exact (takes_peek _ _).bind (takes_skimExponent signed digit later stops)
      · exact (takes_peek _ _).bind (takes_skimExponent signed digit later stops)

theorem takes_skimAfterWhole (h : IsFraction fraction) (hexponent : IsExponent exponent)
    (stops : Stops left) : Takes skimAfterWhole (fraction ++ (exponent ++ left)) () left := by
  cases h with
  | none =>
      cases hexponent with
      | none =>
          obtain @⟨c, left, digit, point, small, capital⟩ := stops
          refine (takes_peek _ _).bind ?_
          split
          next h => exact (point (Option.some.inj h)).elim
          next h => exact (small (Option.some.inj h)).elim
          next h => exact (capital (Option.some.inj h)).elim
          next => exact takes_pure _ _
      | some letter signed digit later =>
          rcases letter with rfl | rfl
          · exact (takes_peek _ _).bind (takes_skimExponent signed digit later stops)
          · exact (takes_peek _ _).bind (takes_skimExponent signed digit later stops)
  | @some d ds digit later =>
      have digits : AreDigits (d :: ds) := List.forall_mem_cons.2 ⟨digit, later⟩
      refine (takes_peek _ _).bind ((takes_eat _ _).bind ?_)
      refine (takes_skipDigits digits (stopsDigits_exponent hexponent stops)).bind ?_
      exact takes_skimAfterFraction hexponent stops

/-- A number is gone over, whatever its size. -/
theorem takes_skimNumber (h : IsUnsigned text) (stops : Stops left) :
    Takes skimNumber (text ++ left) () left := by
  obtain @⟨whole, fraction, exponent, hwhole, hfraction, hexponent⟩ := h
  have behind := takes_skimAfterWhole hfraction hexponent stops
  have ended := stopsDigits_fraction hfraction hexponent stops
  simp only [List.append_assoc]
  cases hwhole with
  | zero =>
      generalize fraction ++ (exponent ++ left) = front at behind ended
      cases ended with
      | mk digit =>
          refine (takes_next _ _).bind ((takes_peek _ _).bind ?_)
          dsimp only
          rw [if_neg (by simp [digit])]
          exact behind
  | digits digit nonzero later =>
      refine (takes_next _ _).bind ?_
      dsimp only
      rw [if_neg (by simp [digit]), if_neg (by simpa using nonzero)]
      exact (takes_skipDigits later ended).bind behind

/-! ### Reading digits -/

/-- Digits are taken as long as the number fits; those behind are left, and whether there are any
does not hang on what follows. -/
theorem exists_takeDigitsFrom (h : AreDigits ds) (stops : StopsDigits left) (value count : Nat) :
    ∃ taken ds', (∀ rest offset, ∃ offset',
        takeDigitsFrom value count (ds ++ (left ++ rest)) offset =
          (taken, ⟨ds' ++ (left ++ rest), offset'⟩)) ∧
      AreDigits ds' ∧ (taken.full = false → ds' = []) ∧
      (Nat.ofDigitChars 10 ds value < Nat.pow 2 64 →
        taken.full = false ∧ taken.value = Nat.ofDigitChars 10 ds value) := by
  induction ds generalizing value count with
  | nil =>
      cases stops with
      | mk digit =>
          refine ⟨⟨value, count, false⟩, [], fun rest offset => ⟨offset, ?_⟩, h, fun _ => rfl,
            fun _ => ⟨rfl, rfl⟩⟩
          simp [takeDigitsFrom, digit]
  | cons d ds ih =>
      obtain ⟨digit, later⟩ := List.forall_mem_cons.1 h
      have grown : Nat.ofDigitChars 10 (d :: ds) value =
          Nat.ofDigitChars 10 ds (value * 10 + digitValue d) := by
        rw [Nat.ofDigitChars_cons, Nat.mul_comm]
        rfl
      by_cases full : Nat.pow 2 64 ≤ value * 10 + digitValue d
      · refine ⟨⟨value, count, true⟩, d :: ds, fun rest offset => ⟨offset, ?_⟩, h, nofun,
          fun fits => ?_⟩
        · simp [takeDigitsFrom, digit, full]
        · rw [grown, Nat.ofDigitChars_eq_ofDigitChars_zero] at fits
          have least := Nat.le_mul_of_pos_left (value * 10 + digitValue d)
            (Nat.pow_pos (n := ds.length) (a := 10) (by decide))
          omega
      · obtain ⟨taken, ds', hread, hrest⟩ := ih later (value * 10 + digitValue d) (count + 1)
        refine ⟨taken, ds', fun rest offset => ?_, grown ▸ hrest⟩
        obtain ⟨offset', hoffset⟩ := hread rest (offset + 1)
        refine ⟨offset', ?_⟩
        rw [List.cons_append, takeDigitsFrom, if_neg (by simp [digit]), if_neg full, hoffset]

/-- What is done behind the leading digits of a number. -/
def numberBehind (positive : Bool) (taken : Digits) (left : Nat) : Reader Number := do
  match ← peek with
  | some '.' => fractionPart positive taken.value left
  | some 'e' | some 'E' => exponentPart positive taken.value left
  | _ =>
    if taken.full then floatOf positive taken.value left
    else if positive then pure (.natural taken.value)
    else if taken.value == 0 || Nat.pow 2 63 < taken.value then floatOf false taken.value 0
    else pure (.negative taken.value)

/-- What is done behind the digits that count: the others are skipped. -/
def numberAfter (positive : Bool) (taken : Digits) : Reader Number := do
  let left ← if taken.full then skipDigits else pure 0
  numberBehind positive taken left

theorem exists_goesOn_numberAfter {taken : Digits} (h : AreDigits ds) (stops : StopsDigits left)
    (unread : taken.full = false → ds = []) (positive : Bool) : ∃ skipped,
      GoesOn (numberAfter positive taken) (ds ++ left) (numberBehind positive taken skipped)
        left := by
  unfold numberAfter
  dsimp only
  split
  next => exact ⟨_, (takes_skipDigits h stops).goesOn (goesOn_refl _ _)⟩
  next full =>
    obtain rfl := unread (by simpa using full)
    exact ⟨0, (takes_pure _ _).goesOn (goesOn_refl _ _)⟩

/-- A number is read by its leading digits, and then by what is behind them. -/
theorem exists_goesOn_numberText (h : IsWhole whole) (stops : StopsDigits left) (positive : Bool) :
    ∃ taken skipped,
      GoesOn (numberText positive) (whole ++ left) (numberBehind positive taken skipped) left ∧
      (Nat.ofDigitChars 10 whole 0 < Nat.pow 2 64 →
        taken.full = false ∧ taken.value = Nat.ofDigitChars 10 whole 0) := by
  cases h with
  | zero =>
      refine ⟨⟨0, 0, false⟩, 0, ?_, fun _ => ⟨rfl, rfl⟩⟩
      cases stops with
      | mk digit =>
          refine (takes_next _ _).goesOn ((takes_peek _ _).goesOn ?_)
          dsimp only
          rw [if_neg (by simp [digit])]
          exact (takes_pure _ _).goesOn ((takes_pure _ _).goesOn (goesOn_refl _ _))
  | @digits d ds digit nonzero later =>
      obtain ⟨taken, ds', hread, hds', unread, fits⟩ :=
        exists_takeDigitsFrom later stops (digitValue d) 0
      have leading : Nat.ofDigitChars 10 (d :: ds) 0 = Nat.ofDigitChars 10 ds (digitValue d) := by
        rw [Nat.ofDigitChars_cons, Nat.mul_zero, Nat.zero_add]
        rfl
      have digits : Takes (takeDigits (digitValue d)) (ds ++ left) taken (ds' ++ left) := by
        intro rest offset
        obtain ⟨offset', hoffset⟩ := hread rest offset
        refine ⟨offset', ?_⟩
        rw [takeDigits, List.append_assoc, hoffset, List.append_assoc]
      obtain ⟨skipped, behind⟩ := exists_goesOn_numberAfter hds' stops unread positive
      refine ⟨taken, skipped, (takes_next _ _).goesOn ?_, leading ▸ fits⟩
      dsimp only
      rw [if_neg (by simp [digit]), if_neg (by simpa using nonzero)]
      exact digits.goesOn behind

/-! ### Reading natural numbers -/

/-- A number that is not natural. -/
def IsOther (n : Number) : Prop := ∀ m, n ≠ .natural m

theorem yields_floatOf (positive : Bool) (digits : Nat) (power : Int) :
    Yields IsOther (floatOf positive digits power) := by
  unfold floatOf
  split
  · exact yields_pure nofun
  · exact yields_failHere _

/-- What is read behind the sign of an exponent. -/
def exponentBehind (positive : Bool) (digits : Nat) (power : Int) (up : Bool) : Reader Number := do
  match ← next with
  | none => failHere .endInValue
  | some c =>
    if !isDigit c then failInside c .invalidNumber
    else
      let value ← fun cur => .ok (exponentDigits (digitValue c) cur.rest cur.offset)
      match value with
      | some n => floatOf positive digits (if up then power + n else power - n)
      | none =>
        if digits != 0 && up then failHere .numberOutOfRange
        else
          let _ ← skipDigits
          pure (.float (.zero !positive))

theorem yields_exponentBehind (positive : Bool) (digits : Nat) (power : Int) (up : Bool) :
    Yields IsOther (exponentBehind positive digits power up) := by
  refine .bind fun c => ?_
  split
  · exact yields_failHere _
  · split
    · exact yields_failInside _ _
    · refine .bind fun value => ?_
      split
      · exact yields_floatOf _ _ _
      · split
        · exact yields_failHere _
        · exact .bind fun _ => yields_pure nofun

theorem yields_exponentPart (positive : Bool) (digits : Nat) (power : Int) :
    Yields IsOther (exponentPart positive digits power) := by
  refine .bind fun _ => .bind fun sign => ?_
  split
  · exact .bind fun _ => .bind fun up => yields_exponentBehind positive digits power up
  · exact .bind fun _ => .bind fun up => yields_exponentBehind positive digits power up
  · exact .bind fun up => yields_exponentBehind positive digits power up

theorem yields_afterFraction (positive : Bool) (digits : Nat) (power : Int) :
    Yields IsOther (afterFraction positive digits power) := by
  refine .bind fun c => ?_
  split
  · exact yields_exponentPart _ _ _
  · exact yields_exponentPart _ _ _
  · exact yields_floatOf _ _ _

theorem yields_fractionPart (positive : Bool) (digits power : Nat) :
    Yields IsOther (fractionPart positive digits power) := by
  refine .bind fun _ => .bind fun taken => ?_
  split
  · exact .bind fun _ => yields_afterFraction _ _ _
  · split
    · refine .bind fun c => ?_
      split <;> exact yields_failAhead _
    · exact yields_afterFraction _ _ _

/-- A number behind a minus sign is never read as a natural one. -/
theorem yields_numberText_false : Yields IsOther (numberText false) := by
  have behind (taken : Digits) (left : Nat) : Yields IsOther (numberBehind false taken left) := by
    refine .bind fun c => ?_
    split
    · exact yields_fractionPart _ _ _
    · exact yields_exponentPart _ _ _
    · exact yields_exponentPart _ _ _
    · split
      · exact yields_floatOf _ _ _
      · rw [if_neg (by decide)]
        split
        · exact yields_floatOf _ _ _
        · exact yields_pure nofun
  have whole (taken : Digits) : Yields IsOther (numberAfter false taken) := by
    unfold numberAfter
    dsimp only
    split <;> exact .bind fun left => behind taken left
  refine .bind fun c => ?_
  split
  · exact yields_failHere _
  · split
    · exact yields_failInside _ _
    · dsimp only
      split
      · refine .bind fun d => ?_
        split
        · split
          · exact .bind fun taken => whole taken
          · exact .bind fun taken => whole taken
        · exact .bind fun taken => whole taken
      · exact .bind fun taken => whole taken

/-- Behind the digits of a whole number there is nothing more to read. -/
theorem ends_numberBehind (positive : Bool) (taken : Digits) (skipped : Nat) (stops : Stops left) :
    Ends (numberBehind positive taken skipped) left left := by
  have ends_floatOf (positive : Bool) (digits : Nat) (power : Int) :
      Ends (floatOf positive digits power) left left := by
    unfold floatOf
    split
    · exact (takes_pure _ _).ends
    · exact (yields_failHere _).ends _ _
  obtain @⟨c, left, digit, point, small, capital⟩ := stops
  refine (takes_peek _ _).bind_ends ?_
  split
  next h => exact (point (Option.some.inj h)).elim
  next h => exact (small (Option.some.inj h)).elim
  next h => exact (capital (Option.some.inj h)).elim
  next =>
    split
    · exact ends_floatOf _ _ _
    · split
      · exact (takes_pure _ _).ends
      · split
        · exact ends_floatOf _ _ _
        · exact (takes_pure _ _).ends

variable {bits n : Nat} {space : List Char}

theorem ne_of_isDigit {c d : Char} (digit : isDigit d = true) (other : isDigit c = false) :
    d ≠ c := by
  rintro rfl
  exact Bool.false_ne_true (other.symm.trans digit)

theorem isSpace_of_isDigit {c : Char} (digit : isDigit c = true) : isSpace c = false := by
  refine Bool.eq_false_iff.2 fun space => ?_
  simp only [isSpace, Bool.or_eq_true, beq_iff_eq] at space
  rcases space with ((rfl | rfl) | rfl) | rfl <;> cases digit

theorem IsWhole.exists_cons (h : IsWhole whole) : ∃ d ds, whole = d :: ds ∧ isDigit d = true := by
  cases h with
  | zero => exact ⟨'0', [], rfl, rfl⟩
  | digits digit => exact ⟨_, _, rfl, digit⟩

theorem IsUnsigned.exists_cons (h : IsUnsigned text) :
    ∃ d tail, text = d :: tail ∧ isDigit d = true := by
  obtain ⟨hwhole, hfraction, hexponent⟩ := h
  obtain ⟨d, ds, rfl, digit⟩ := hwhole.exists_cons
  exact ⟨d, _, rfl, digit⟩

theorem ends_asNatural (bits : Nat) (n : Number) (left : List Char) :
    Ends (asNatural bits n) left left := by
  refine ends_placeLate ?_
  dsimp only
  split
  · split
    · exact (takes_pure _ _).ends
    · exact (yields_failLater _).ends _ _
  · exact (yields_failLater _).ends _ _
  · exact (yields_failLater _).ends _ _

theorem yields_asNatural_of_isOther {other : Number} (h : IsOther other) (bits : Nat) :
    Yields (fun _ => False) (asNatural bits other) := by
  refine yields_placeLate ?_
  cases other with
  | natural m => exact (h m rfl).elim
  | negative => exact yields_failLater _
  | float => exact yields_failLater _

theorem yields_asNatural (bits : Nat) (n : Number) :
    Yields (· < Nat.pow 2 bits) (asNatural bits n) := by
  refine yields_placeLate ?_
  dsimp only
  split
  · split
    next fits => exact yields_pure fits
    next => exact yields_failLater _
  · exact yields_failLater _
  · exact yields_failLater _

/-- A number that starts with a digit is read as such. -/
theorem goesOn_natural (h : IsSpacing space) (digits : ∃ d ds, text = d :: ds ∧ isDigit d = true)
    (bits : Nat) : GoesOn (natural bits) (space ++ text)
      (do asNatural bits (← numberText true)) text := by
  obtain ⟨d, ds, rfl, digit⟩ := digits
  refine (takes_peekValue h (isSpace_of_isDigit digit) ds).goesOn ?_
  have unsigned : d ≠ '-' := ne_of_isDigit digit rfl
  rw [if_neg (by simpa using unsigned), if_pos digit]
  exact goesOn_refl _ _

/-- A natural number is read from its digits, if it has few enough bits. -/
theorem takes_natural (h : IsWhole whole) (value : Nat.ofDigitChars 10 whole 0 = n)
    (fits : n < Nat.pow 2 bits) (few : bits ≤ 64) (hspace : IsSpacing space) (stops : Stops left) :
    Takes (natural bits) (space ++ (whole ++ left)) n left := by
  obtain ⟨taken, skipped, behind, small⟩ := exists_goesOn_numberText h stops.stopsDigits true
  obtain ⟨unfilled, hvalue⟩ := small (by
    rw [value]
    exact Nat.lt_of_lt_of_le fits (Nat.pow_le_pow_right (by decide) few))
  obtain ⟨d, ds, hdigits, digit⟩ := h.exists_cons
  have number : Takes (numberBehind true taken skipped) left (.natural n) left := by
    obtain @⟨c, left, digit, point, small, capital⟩ := stops
    refine (takes_peek _ _).bind ?_
    split
    next h => exact (point (Option.some.inj h)).elim
    next h => exact (small (Option.some.inj h)).elim
    next h => exact (capital (Option.some.inj h)).elim
    next =>
      rw [unfilled, hvalue, value]
      exact takes_pure _ _
  have kept : Takes (asNatural bits (.natural n)) left n left := by
    refine takes_placeLate ?_
    dsimp only
    rw [if_pos fits]
    exact takes_pure _ _
  refine (goesOn_natural hspace ⟨d, ds ++ left, by rw [hdigits]; rfl, digit⟩ bits).takes ?_
  exact behind.bind.takes (number.bind kept)

/-- A number without a sign is read up to its end as a natural number, or not at all. -/
theorem ends_natural (h : IsUnsigned text) (bits : Nat) (hspace : IsSpacing space)
    (stops : Stops left) : Ends (natural bits) (space ++ (text ++ left)) left := by
  obtain ⟨d, tail, htext, digit⟩ := h.exists_cons
  refine (goesOn_natural hspace ⟨d, tail ++ left, by rw [htext]; rfl, digit⟩ bits).ends ?_
  clear htext
  obtain @⟨whole, fraction, exponent, hwhole, hfraction, hexponent⟩ := h
  obtain ⟨taken, skipped, behind, -⟩ := exists_goesOn_numberText hwhole
    (stopsDigits_fraction hfraction hexponent stops) true
  rw [List.append_assoc, List.append_assoc]
  refine behind.bind.ends ?_
  have other {r : Reader Number} (h : Yields IsOther r) (front : List Char) :
      Ends (r >>= asNatural bits) front left :=
    Yields.ends (h.bind_of fun _ => (yields_asNatural_of_isOther · bits)) _ _
  have shown {c : Char} {front : List Char} {r : Reader Number} (h : Yields IsOther r)
      (goesOn : GoesOn (numberBehind true taken skipped) (c :: front) r (c :: front)) :
      Ends (numberBehind true taken skipped >>= asNatural bits) (c :: front) left :=
    goesOn.bind.ends (other h _)
  cases hfraction with
  | none =>
      cases hexponent with
      | none => exact (ends_numberBehind _ _ _ stops).bind fun n => ends_asNatural _ _ _
      | some letter =>
          rcases letter with rfl | rfl
          · exact shown (yields_exponentPart _ _ _) ((takes_peek _ _).goesOn (goesOn_refl _ _))
          · exact shown (yields_exponentPart _ _ _) ((takes_peek _ _).goesOn (goesOn_refl _ _))
  | some => exact shown (yields_fractionPart _ _ _) ((takes_peek _ _).goesOn (goesOn_refl _ _))

/-- A number behind a minus sign is not taken for a natural one. -/
theorem ends_natural_negative (hspace : IsSpacing space) (bits : Nat) (text left : List Char) :
    Ends (natural bits) (space ++ ('-' :: text)) left := by
  have negative : Yields (fun _ => False) (do asNatural bits (← numberText false)) :=
    yields_numberText_false.bind_of fun _ => (yields_asNatural_of_isOther · bits)
  exact (takes_peekValue hspace rfl _).bind_ends ((takes_eat _ _).bind_ends (negative.ends _ _))

/-! ### Numbers as they are written -/

theorem areDigits_toDigits (n : Nat) : AreDigits (Nat.toDigits 10 n) := by
  intro c hc
  exact Nat.isDigit_of_mem_toDigits (b := 10) (by decide) (by decide) hc

theorem head?_toDigits_ne (positive : n ≠ 0) : (Nat.toDigits 10 n).head? ≠ some '0' := by
  induction n using Nat.strongRecOn with
  | _ n ih =>
      by_cases small : n < 10
      · have nonzero : ∀ n < 10, n ≠ 0 → n.digitChar ≠ '0' := by decide
        rw [Nat.toDigits_of_lt_base small]
        simpa using nonzero n small positive
      · obtain ⟨d, ds, hdigits⟩ :=
          List.exists_cons_of_ne_nil (Nat.toDigits_ne_nil (n := n / 10) (b := 10))
        have front := ih (n / 10) (by omega) (by omega)
        rw [Nat.toDigits_of_base_le (by decide) (Nat.not_lt.1 small), hdigits]
        rwa [hdigits] at front

/-- A natural number is written without a leading zero. -/
theorem isWhole_toDigits (n : Nat) : IsWhole (Nat.toDigits 10 n) := by
  by_cases zero : n = 0
  · rw [zero]
    exact .zero
  · have nonzero := head?_toDigits_ne zero
    have digits := areDigits_toDigits n
    obtain ⟨d, ds, hdigits⟩ := List.exists_cons_of_ne_nil (Nat.toDigits_ne_nil (n := n) (b := 10))
    rw [hdigits] at nonzero digits ⊢
    obtain ⟨digit, later⟩ := List.forall_mem_cons.1 digits
    exact .digits digit (by simpa using nonzero) later

end DomainDeploy.Json
