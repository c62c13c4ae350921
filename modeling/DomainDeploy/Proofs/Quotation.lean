import Mathlib.Tactic.IntervalCases
import DomainDeploy.Json.Printer
import DomainDeploy.Proofs.Taking

/-!
# Quoted texts, however they are spelled

A character of a quoted text may stand there as it is, or be spelled by an escape: by a letter of
its own, by its number, or by the numbers of two surrogates (`SpellsText`). Every spelling of a text
is read as that text (`takes_restOfText_of_spells`). A text that nobody wants need not spell
anything, as long as it keeps to the grammar (`IsTextBody`): it is skimmed (`takes_skimText`), and
whoever does read it reads it to its end or not at all (`ends_restOfText`).
-/

namespace DomainDeploy.Json

/-! ### Spellings -/

/-- A text in its quotes. -/
def quote (body : List Char) : List Char := '"' :: (body ++ ['"'])

theorem quote_append (body left : List Char) :
    quote body ++ left = '"' :: (body ++ '"' :: left) := by
  simp [quote]

/-- Four hexadecimal digits and the number that they spell. -/
inductive SpellsUnit : List Char → Nat → Prop
  | mk {a b c d : Char} {w x y z : Nat} (first : hexValue a = some w) (second : hexValue b = some x)
      (third : hexValue c = some y) (fourth : hexValue d = some z) :
      SpellsUnit [a, b, c, d] (((w * 16 + x) * 16 + y) * 16 + z)

/-- A character that may stand in a quoted text as it is. -/
def IsUnescaped (c : Char) : Prop := c ≠ '"' ∧ c ≠ '\\' ∧ 32 ≤ c.toNat

/-- The inside of a quoted text and the characters that it spells. -/
inductive SpellsText : List Char → List Char → Prop
  | nil : SpellsText [] []
  | plain {c : Char} {body cs : List Char} (h : IsUnescaped c) (later : SpellsText body cs) :
      SpellsText (c :: body) (c :: cs)
  | short {e c : Char} {body cs : List Char} (h : shortEscape e = some c)
      (later : SpellsText body cs) : SpellsText ('\\' :: e :: body) (c :: cs)
  | unit {c : Char} {digits body cs : List Char} (h : SpellsUnit digits c.toNat)
      (later : SpellsText body cs) : SpellsText ('\\' :: 'u' :: (digits ++ body)) (c :: cs)
  | pair {c : Char} {high low body cs : List Char} (large : 0x10000 ≤ c.toNat)
      (first : SpellsUnit high (0xD800 + (c.toNat - 0x10000) / 0x400))
      (second : SpellsUnit low (0xDC00 + (c.toNat - 0x10000) % 0x400))
      (later : SpellsText body cs) :
      SpellsText ('\\' :: 'u' :: (high ++ '\\' :: 'u' :: (low ++ body))) (c :: cs)

/-- The inside of a quoted text by the grammar, whatever its escapes spell. -/
inductive IsTextBody : List Char → Prop
  | nil : IsTextBody []
  | plain {c : Char} {body : List Char} (h : IsUnescaped c) (later : IsTextBody body) :
      IsTextBody (c :: body)
  | short {e c : Char} {body : List Char} (h : shortEscape e = some c) (later : IsTextBody body) :
      IsTextBody ('\\' :: e :: body)
  | unit {n : Nat} {digits body : List Char} (h : SpellsUnit digits n) (later : IsTextBody body) :
      IsTextBody ('\\' :: 'u' :: (digits ++ body))

variable {body cs digits left : List Char} {n : Nat} {c : Char}

theorem SpellsText.isTextBody (h : SpellsText body cs) : IsTextBody body := by
  induction h with
  | nil => exact .nil
  | plain h later ih => exact .plain h ih
  | short h later ih => exact .short h ih
  | unit h later ih => exact .unit h ih
  | pair large first second later ih => exact .unit first (.unit second ih)

theorem hexValue_hexDigit {n : Nat} (h : n < 16) : hexValue (hexDigit n) = some n := by
  interval_cases n <;> rfl

/-- How a printer escapes a character is one way to spell it. -/
theorem spells_escapeChar_append (c : Char) (later : SpellsText body cs) :
    SpellsText (escapeChar c ++ body) (c :: cs) := by
  have numbered {n : Nat} (hn : (c.toNat == n) = true) : Char.ofNat n = c := by
    rw [← eq_of_beq hn, Char.ofNat_toNat]
  -- seven characters have escapes of their own, the other control characters one by number
  fun_cases escapeChar c with
  | case1 quote =>
      obtain rfl := eq_of_beq quote
      exact .short rfl later
  | case2 _ backslash =>
      obtain rfl := eq_of_beq backslash
      exact .short rfl later
  | case3 _ _ newline =>
      obtain rfl := eq_of_beq newline
      exact .short rfl later
  | case4 _ _ _ carriage =>
      obtain rfl := eq_of_beq carriage
      exact .short rfl later
  | case5 _ _ _ _ tab =>
      obtain rfl := eq_of_beq tab
      exact .short rfl later
  | case6 _ _ _ _ _ backspace => exact .short (congrArg some (numbered backspace)) later
  | case7 _ _ _ _ _ _ feed => exact .short (congrArg some (numbered feed)) later
  | case8 =>
      have zero : hexValue '0' = some 0 := rfl
      have unit := SpellsUnit.mk zero zero (hexValue_hexDigit (n := c.toNat / 16) (by omega))
        (hexValue_hexDigit (n := c.toNat % 16) (by omega))
      have value : ((0 * 16 + 0) * 16 + c.toNat / 16) * 16 + c.toNat % 16 = c.toNat := by omega
      rw [value] at unit
      exact .unit unit later
  | case9 quote backslash =>
      exact .plain ⟨by simpa using quote, by simpa using backslash, by omega⟩ later

theorem spells_escapeChar (cs : List Char) : SpellsText (cs.flatMap escapeChar) cs := by
  induction cs with
  | nil => exact .nil
  | cons c cs ih =>
      rw [List.flatMap_cons]
      exact spells_escapeChar_append c ih

/-! ### Reading a spelling -/

/-- The number of a surrogate that trails. -/
theorem trailing_iff : (0xDC00 ≤ n && n ≤ 0xDFFF) = true ↔ 0xDC00 ≤ n ∧ n ≤ 0xDFFF := by
  rw [Bool.and_eq_true, decide_eq_true_eq, decide_eq_true_eq]

/-- The number of something other than a surrogate that leads. -/
theorem notLeading_iff : (n < 0xD800 || 0xDBFF < n) = true ↔ n < 0xD800 ∨ 0xDBFF < n := by
  rw [Bool.or_eq_true, decide_eq_true_eq, decide_eq_true_eq]

/-- The number of something other than a surrogate that trails. -/
theorem notTrailing_iff : (n < 0xDC00 || 0xDFFF < n) = true ↔ n < 0xDC00 ∨ 0xDFFF < n := by
  rw [Bool.or_eq_true, decide_eq_true_eq, decide_eq_true_eq]

theorem takes_hexEscape (h : SpellsUnit digits n) (left : List Char) :
    Takes hexEscape (digits ++ left) n left := by
  cases h with
  | mk first second third fourth =>
      intro rest offset
      refine ⟨offset + 4, ?_⟩
      simp only [hexEscape, List.cons_append, List.nil_append, first, second, third, fourth]

theorem takes_unicodeEscape_unit (h : SpellsUnit digits c.toNat) (left : List Char) :
    Takes unicodeEscape (digits ++ left) c left := by
  have valid : c.toNat < 0xD800 ∨ 0xDFFF < c.toNat ∧ c.toNat < 0x110000 := c.valid
  refine (takes_hexEscape h left).bind ?_
  rw [if_neg (mt trailing_iff.1 (by omega)), if_pos (notLeading_iff.2 (by omega)), Char.ofNat_toNat]
  exact takes_pure c left

theorem takes_surrogateMark (c : Char) (left : List Char) :
    Takes (surrogateMark c) (c :: left) () left :=
  fun _ _ => ⟨_, by simp [surrogateMark]; rfl⟩

theorem takes_unicodeEscape_pair {high low : List Char} (large : 0x10000 ≤ c.toNat)
    (first : SpellsUnit high (0xD800 + (c.toNat - 0x10000) / 0x400))
    (second : SpellsUnit low (0xDC00 + (c.toNat - 0x10000) % 0x400)) (left : List Char) :
    Takes unicodeEscape (high ++ '\\' :: 'u' :: (low ++ left)) c left := by
  have valid : c.toNat < 0xD800 ∨ 0xDFFF < c.toNat ∧ c.toNat < 0x110000 := c.valid
  have value : (0xD800 + (c.toNat - 0x10000) / 0x400 - 0xD800) * 0x400 +
      (0xDC00 + (c.toNat - 0x10000) % 0x400 - 0xDC00) + 0x10000 = c.toNat := by omega
  refine (takes_hexEscape first _).bind ?_
  rw [if_neg (mt trailing_iff.1 (by omega)), if_neg (mt notLeading_iff.1 (by omega))]
  refine (takes_surrogateMark _ _).bind ((takes_surrogateMark _ _).bind ?_)
  refine (takes_hexEscape second left).bind ?_
  rw [if_neg (mt notTrailing_iff.1 (by omega)), value, Char.ofNat_toNat]
  exact takes_pure c left

/-- A character that is spelled by numbers, behind its backslash. -/
theorem takes_textChars_numbered {fuel : Nat} {front between : List Char}
    (spelled : Takes unicodeEscape front c between)
    (later : Takes (textChars fuel) between cs left) :
    Takes (textChars (fuel + 1)) ('\\' :: 'u' :: front) (c :: cs) left := by
  refine (takes_nextInText _ _).bind ?_
  simp only [Char.reduceBEq, Bool.false_eq_true, if_false, if_true]
  refine (takes_nextInText _ _).bind ?_
  simp only [beq_self_eq_true, if_true]
  exact spelled.bind (later.bind (takes_pure _ _))

theorem not_u_of_shortEscape {e d : Char} (h : shortEscape e = some d) : e ≠ 'u' := by
  rintro rfl
  cases h

theorem takes_textChars (h : SpellsText body cs) (left : List Char) {fuel : Nat}
    (enough : cs.length < fuel) : Takes (textChars fuel) (body ++ '"' :: left) cs left := by
  induction h generalizing fuel with
  | nil =>
      obtain ⟨fuel, rfl⟩ := Nat.exists_eq_add_one_of_ne_zero (Nat.ne_zero_of_lt enough)
      exact (takes_nextInText _ _).bind (takes_pure _ _)
  | plain h later ih =>
      obtain ⟨fuel, rfl⟩ := Nat.exists_eq_add_one_of_ne_zero (Nat.ne_zero_of_lt enough)
      obtain ⟨quote, backslash, visible⟩ := h
      refine (takes_nextInText _ _).bind ?_
      rw [if_neg (by simpa using quote), if_neg (by simpa using backslash), if_neg (by omega)]
      exact (ih (Nat.lt_of_succ_lt_succ enough)).bind (takes_pure _ _)
  | short h later ih =>
      obtain ⟨fuel, rfl⟩ := Nat.exists_eq_add_one_of_ne_zero (Nat.ne_zero_of_lt enough)
      refine (takes_nextInText _ _).bind ?_
      simp only [Char.reduceBEq, Bool.false_eq_true, if_false, if_true]
      refine (takes_nextInText _ _).bind ?_
      simp only [beq_iff_eq, not_u_of_shortEscape h, if_false, h]
      exact (takes_pure _ _).bind ((ih (Nat.lt_of_succ_lt_succ enough)).bind (takes_pure _ _))
  | unit h later ih =>
      obtain ⟨fuel, rfl⟩ := Nat.exists_eq_add_one_of_ne_zero (Nat.ne_zero_of_lt enough)
      simp only [List.cons_append, List.append_assoc]
      exact takes_textChars_numbered (takes_unicodeEscape_unit h _)
        (ih (Nat.lt_of_succ_lt_succ enough))
  | pair large first second later ih =>
      obtain ⟨fuel, rfl⟩ := Nat.exists_eq_add_one_of_ne_zero (Nat.ne_zero_of_lt enough)
      simp only [List.cons_append, List.append_assoc]
      exact takes_textChars_numbered (takes_unicodeEscape_pair large first second _)
        (ih (Nat.lt_of_succ_lt_succ enough))

theorem SpellsText.length_le (h : SpellsText body cs) : cs.length ≤ body.length := by
  induction h with
  | nil => simp
  | plain h later ih => simpa using ih
  | short h later ih =>
      simp only [List.length_cons]
      omega
  | unit h later ih =>
      simp only [List.length_cons, List.length_append]
      omega
  | pair large first second later ih =>
      simp only [List.length_cons, List.length_append]
      omega

/-- A quoted text behind its opening quote is read as what it spells. -/
theorem takes_restOfText_of_spells {s : String} (h : SpellsText body s.toList)
    (left : List Char) : Takes restOfText (body ++ '"' :: left) s left := by
  intro rest offset
  have enough : s.toList.length < ((body ++ '"' :: left) ++ rest).length + 1 := by
    have := h.length_le
    simp only [List.length_append]
    omega
  obtain ⟨offset', htaken⟩ := takes_textChars h left enough rest offset
  refine ⟨offset', ?_⟩
  rw [restOfText, Reader.andThen, htaken]
  simp [Reader.done]

/-! ### Going over a text -/

theorem takes_skimTextChars (h : IsTextBody body) (left : List Char) {fuel : Nat}
    (enough : body.length < fuel) : Takes (skimTextChars fuel) (body ++ '"' :: left) () left := by
  induction h generalizing fuel with
  | nil =>
      obtain ⟨fuel, rfl⟩ := Nat.exists_eq_add_one_of_ne_zero (Nat.ne_zero_of_lt enough)
      exact (takes_peek _ _).bind (takes_eat _ _)
  | plain h later ih =>
      obtain ⟨fuel, rfl⟩ := Nat.exists_eq_add_one_of_ne_zero (Nat.ne_zero_of_lt enough)
      obtain ⟨quote, backslash, visible⟩ := h
      refine (takes_peek _ _).bind ?_
      simp only [beq_iff_eq, quote, backslash, if_false]
      rw [if_neg (by omega)]
      exact (takes_eat _ _).bind (ih (Nat.lt_of_succ_lt_succ enough))
  | short h later ih =>
      obtain ⟨fuel, rfl⟩ := Nat.exists_eq_add_one_of_ne_zero (Nat.ne_zero_of_lt enough)
      refine (takes_peek _ _).bind ?_
      simp only [Char.reduceBEq, Bool.false_eq_true, if_false, if_true]
      refine (takes_eat _ _).bind ((takes_nextInText _ _).bind ?_)
      simp only [beq_iff_eq, not_u_of_shortEscape h, if_false, h, Option.isSome_some, if_true]
      exact ih (by simp only [List.length_cons] at enough; omega)
  | unit h later ih =>
      obtain ⟨fuel, rfl⟩ := Nat.exists_eq_add_one_of_ne_zero (Nat.ne_zero_of_lt enough)
      simp only [List.cons_append, List.append_assoc]
      refine (takes_peek _ _).bind ?_
      simp only [Char.reduceBEq, Bool.false_eq_true, if_false, if_true]
      refine (takes_eat _ _).bind ((takes_nextInText _ _).bind ?_)
      simp only [beq_self_eq_true, if_true]
      refine (takes_hexEscape h _).bind (ih ?_)
      simp only [List.length_cons, List.length_append] at enough
      omega

/-- A quoted text behind its opening quote is gone over. -/
theorem takes_skimText (h : IsTextBody body) (left : List Char) :
    Takes skimText (body ++ '"' :: left) () left := by
  intro rest offset
  refine takes_skimTextChars h left ?_ rest offset
  simp only [List.length_append]
  omega

/-! ### Where a text ends -/

theorem refuses_surrogateMark {wanted : Char} (h : c ≠ wanted) (front : List Char) :
    Refuses (surrogateMark wanted) (c :: front) :=
  fun _ _ => ⟨_, by simp [surrogateMark, h]; rfl⟩

/-- The number of a leading surrogate wants the mark of another number behind it. -/
theorem refuses_unicodeEscape_of_mark (hdigits : SpellsUnit digits n) (leading : 0xD800 ≤ n)
    (least : n ≤ 0xDBFF) (front : List Char) (refuses : Refuses (surrogateMark '\\') front ∨
      ∃ front', front = '\\' :: front' ∧ Refuses (surrogateMark 'u') front') :
    Refuses unicodeEscape (digits ++ front) := by
  refine (takes_hexEscape hdigits _).bind_refuses ?_
  rw [if_neg (mt trailing_iff.1 (by omega)), if_neg (mt notLeading_iff.1 (by omega))]
  rcases refuses with refuses | ⟨front', rfl, refuses⟩
  · exact refuses.bind
  · exact (takes_surrogateMark _ _).bind_refuses refuses.bind

/-- Behind the number of a leading surrogate stands another number, or the text is refused. -/
theorem exists_ends_unicodeEscape (hdigits : SpellsUnit digits n) (h : IsTextBody body)
    (left : List Char) : ∃ body', IsTextBody body' ∧
      Ends unicodeEscape (digits ++ (body ++ '"' :: left)) (body' ++ '"' :: left) := by
  by_cases trailing : 0xDC00 ≤ n ∧ n ≤ 0xDFFF
  · refine ⟨body, h, (takes_hexEscape hdigits _).bind_ends ?_⟩
    rw [if_pos (trailing_iff.2 trailing)]
    exact Yields.ends (fun _ _ _ taken => by cases taken) _ _
  · by_cases leading : 0xD800 ≤ n ∧ n ≤ 0xDBFF
    · have marked := refuses_unicodeEscape_of_mark hdigits leading.1 leading.2
      cases h with
      | nil => exact ⟨[], .nil, (marked _ (.inl (refuses_surrogateMark (by decide) _))).ends _⟩
      | plain h later =>
          exact ⟨_, later, (marked _ (.inl (refuses_surrogateMark h.2.1 _))).ends _⟩
      | short h later =>
          exact ⟨_, later, (marked _
            (.inr ⟨_, rfl, refuses_surrogateMark (not_u_of_shortEscape h) _⟩)).ends _⟩
      | unit h later =>
          refine ⟨_, later, (takes_hexEscape hdigits _).bind_ends ?_⟩
          rw [if_neg (mt trailing_iff.1 trailing), if_neg (mt notLeading_iff.1 (by omega))]
          simp only [List.cons_append, List.append_assoc]
          refine (takes_surrogateMark _ _).bind_ends ((takes_surrogateMark _ _).bind_ends ?_)
          refine (takes_hexEscape h _).bind_ends ?_
          split
          · exact Yields.ends (fun _ _ _ taken => by cases taken) _ _
          · exact (takes_pure _ _).ends
    · refine ⟨body, h, (takes_hexEscape hdigits _).bind_ends ?_⟩
      rw [if_neg (mt trailing_iff.1 trailing), if_pos (notLeading_iff.2 (by omega))]
      exact (takes_pure _ _).ends

theorem ends_textChars (h : IsTextBody body) (left : List Char) (fuel : Nat) :
    Ends (textChars fuel) (body ++ '"' :: left) left := by
  induction fuel generalizing body with
  | zero => exact Yields.ends (fun _ _ _ taken => by cases taken) _ _
  | succ fuel ih =>
      cases h with
      | nil => exact (takes_nextInText _ _).bind_ends (takes_pure _ _).ends
      | plain h later =>
          obtain ⟨quote, backslash, visible⟩ := h
          refine (takes_nextInText _ _).bind_ends ?_
          rw [if_neg (by simpa using quote), if_neg (by simpa using backslash), if_neg (by omega)]
          exact (ih later).bind fun _ => (takes_pure _ _).ends
      | short h later =>
          refine (takes_nextInText _ _).bind_ends ?_
          simp only [Char.reduceBEq, Bool.false_eq_true, if_false, if_true]
          refine (takes_nextInText _ _).bind_ends ?_
          simp only [beq_iff_eq, not_u_of_shortEscape h, if_false, h]
          exact (takes_pure _ _).bind_ends ((ih later).bind fun _ => (takes_pure _ _).ends)
      | unit h later =>
          simp only [List.cons_append, List.append_assoc]
          refine (takes_nextInText _ _).bind_ends ?_
          simp only [Char.reduceBEq, Bool.false_eq_true, if_false, if_true]
          refine (takes_nextInText _ _).bind_ends ?_
          simp only [beq_self_eq_true, if_true]
          obtain ⟨body', h', spelled⟩ := exists_ends_unicodeEscape h later left
          exact spelled.bind fun _ => (ih h').bind fun _ => (takes_pure _ _).ends

/-- A quoted text behind its opening quote is read up to its closing quote, or not at all. -/
theorem ends_restOfText (h : IsTextBody body) (left : List Char) :
    Ends restOfText (body ++ '"' :: left) left := by
  intro rest offset s c taken
  rw [restOfText, Reader.andThen] at taken
  split at taken
  next cs c₁ first =>
    cases taken
    exact ends_textChars h left _ rest offset cs _ first
  next => cases taken

end DomainDeploy.Json
