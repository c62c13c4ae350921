import Mathlib.Data.List.Chain
import DomainDeploy.Proofs.Characters
import DomainDeploy.Proofs.CodeTables

/-!
# Composing twice

A composed text is its own composed form (`composed_composed`).  What composing puts together is
taken apart again into the same parts, and only marks of different classes have changed places since
they were put in order; putting them in order once more brings them back.
-/

namespace DomainDeploy.Text

namespace Composition

/-- A property of codes that passes on to their parts and to what they compose to. -/
structure IsPassedOn (P : Nat → Prop) : Prop where
  parts : ∀ n parts, P n → parts? n = some parts → ∀ p ∈ parts, P p
  compose : ∀ a b c, P a → P b → compose? a b = some c → P c

/-! ### Parts -/

section

variable {n d a b c : Nat} {parts : List Nat}

theorem mem_letters : n ∈ letters ↔ (0x1100 ≤ n ∧ n < 0x1100 + 19) ∨
    (0x1161 ≤ n ∧ n < 0x1161 + 21) ∨ (0x11A7 ≤ n ∧ n < 0x11A7 + 28) := by
  simp only [letters, List.mem_append, List.mem_range'_1, or_assoc]

theorem syllableParts?_eq_some (h : syllableParts? n = some parts) :
    (syllables ≤ n ∧ n < syllables + 11172) ∧ ∀ p ∈ parts, p ∈ letters := by
  unfold syllableParts? at h
  dsimp only at h
  split at h
  next hbounds =>
    simp only [Bool.and_eq_true, decide_eq_true_eq] at hbounds
    refine ⟨hbounds, fun p hp => mem_letters.2 ?_⟩
    obtain rfl := Option.some.inj h
    have hindex : n - syllables < 11172 := by omega
    generalize n - syllables = i at *
    have hfirst : p = jamo.1 + i / 588 ∨ p = jamo.2.1 + i % 588 / 28 ∨ p = jamo.2.2 + i % 28 := by
      split at hp
      · simp only [List.mem_cons, List.not_mem_nil, or_false] at hp
        exact hp.imp id .inl
      · simpa using hp
    simp only [jamo] at hfirst
    omega
  next => cases h

theorem testBit_compound (n : Nat) : (compound composedTable decomposedTable).testBit n =
    (composedTable.bits.testBit n || decomposedTable.bits.testBit n || syllableEntry.covers n) := by
  rw [compound, Nat.testBit_or, Nat.testBit_or, CodeEntry.testBit_bits]

theorem covers_syllableEntry : syllableEntry.covers n = true ↔
    syllables ≤ n ∧ n < syllables + 11172 := by
  rw [CodeEntry.covers, Bool.and_eq_true, Bool.and_eq_true, decide_eq_true_eq, decide_eq_true_eq,
    beq_iff_eq]
  constructor
  · rintro ⟨⟨hfirst, hlast⟩, -⟩
    exact ⟨hfirst, Nat.lt_succ_of_le hlast⟩
  · rintro ⟨hfirst, hlast⟩
    exact ⟨⟨hfirst, Nat.le_of_lt_succ hlast⟩, Nat.mod_one _⟩

theorem parts?_eq (n : Nat) : parts? n =
    (syllableParts? n).or ((composedTable.target? n).or (decomposedTable.target? n)) := by
  rw [parts?, Option.orElse_eq_orElse, Option.orElse_eq_or, Option.orElse_eq_or]

theorem compose?_eq (a b : Nat) :
    compose? a b = (syllable? a b).or (composedTable.source? [a, b]) := by
  rw [compose?, Option.orElse_eq_orElse, Option.orElse_eq_or]

/-- Where the parts of a code come from. -/
theorem parts?_eq_some (h : parts? n = some parts) :
    (compound composedTable decomposedTable).testBit n = true ∧
      ((∀ p ∈ parts, p ∈ letters) ∨ composedTable.target? n = some parts ∨
        decomposedTable.target? n = some parts) := by
  have hholds {t : CodeTable} (h : t.target? n = some parts) : t.bits.testBit n = true := by
    obtain ⟨e, he, hcovers, -⟩ := CodeTable.target?_eq_some h
    exact CodeTable.testBit_of_covers he hcovers
  rw [parts?_eq, Option.or_eq_some_iff, Option.or_eq_some_iff] at h
  rw [testBit_compound]
  rcases h with hsyllable | ⟨-, hcomposed | ⟨-, hdecomposed⟩⟩
  · obtain ⟨hbounds, hletters⟩ := syllableParts?_eq_some hsyllable
    exact ⟨by rw [covers_syllableEntry.2 hbounds, Bool.or_true], .inl hletters⟩
  · exact ⟨by rw [hholds hcomposed, Bool.true_or, Bool.true_or], .inr (.inl hcomposed)⟩
  · exact ⟨by rw [hholds hdecomposed, Bool.or_true, Bool.true_or], .inr (.inr hdecomposed)⟩

theorem parts?_eq_none (h : (compound composedTable decomposedTable).testBit n = false) :
    parts? n = none := by
  cases hparts : parts? n with
  | none => rfl
  | some parts => exact absurd (parts?_eq_some hparts).1 (by simp [h])

theorem parts?_of_syllableParts? (h : syllableParts? n = some parts) : parts? n = some parts := by
  rw [parts?_eq, h, Option.some_or]

/-- The syllable with a given number. -/
theorem syllableParts?_add {i : Nat} (h : i < 11172) : syllableParts? (syllables + i) =
    some (let pair := [jamo.1 + i / 588, jamo.2.1 + i % 588 / 28]
      if i % 28 == 0 then pair else pair ++ [jamo.2.2 + i % 28]) := by
  rw [syllableParts?, if_pos (by simp [h]), Nat.add_sub_cancel_left]

/-- What a syllable is made of. -/
theorem syllableParts?_of_syllable? (h : syllable? a b = some c) :
    syllableParts? c = some [a, b] ∨ ∃ open_, syllableParts? a = some open_ ∧ b ∈ letters ∧
      syllableParts? c = some (open_ ++ [b]) := by
  unfold syllable? at h
  split at h
  next hbounds =>
    -- a consonant and a vowel make an open syllable
    simp only [Bool.and_eq_true, decide_eq_true_eq] at hbounds
    obtain ⟨⟨⟨ha, ha'⟩, hb⟩, hb'⟩ := hbounds
    obtain ⟨i, rfl⟩ := Nat.exists_eq_add_of_le ha
    obtain ⟨j, rfl⟩ := Nat.exists_eq_add_of_le hb
    obtain rfl := Option.some.inj h
    have hi : i < 19 := Nat.lt_of_add_lt_add_left ha'
    have hj : j < 21 := Nat.lt_of_add_lt_add_left hb'
    left
    rw [Nat.add_sub_cancel_left, Nat.add_sub_cancel_left, syllableParts?_add (by omega)]
    have hopen : (i * 21 + j) * 28 % 28 = 0 := Nat.mul_mod_left ..
    have hfirst : (i * 21 + j) * 28 / 588 = i := by omega
    have hsecond : (i * 21 + j) * 28 % 588 / 28 = j := by omega
    simp only [hopen, hfirst, hsecond, beq_self_eq_true, if_true]
  next =>
    split at h
    next hbounds =>
      -- a trailing consonant closes it
      simp only [Bool.and_eq_true, decide_eq_true_eq, beq_iff_eq] at hbounds
      obtain ⟨⟨⟨⟨ha, ha'⟩, hopen⟩, hb⟩, hb'⟩ := hbounds
      obtain ⟨i, rfl⟩ := Nat.exists_eq_add_of_le ha
      obtain ⟨j, rfl⟩ := Nat.exists_eq_add_of_le (Nat.le_of_lt hb)
      obtain rfl := Option.some.inj h
      have hi : i < 11172 := Nat.lt_of_add_lt_add_left ha'
      have hj : 0 < j ∧ j < 28 := ⟨Nat.pos_of_lt_add_right hb, Nat.lt_of_add_lt_add_left hb'⟩
      rw [Nat.add_sub_cancel_left] at hopen
      refine .inr ⟨_, syllableParts?_add hi, mem_letters.2 (.inr (.inr ⟨hb.le, hb'⟩)), ?_⟩
      rw [Nat.add_sub_cancel_left, Nat.add_assoc, syllableParts?_add (by omega)]
      have hclosed : (i + j) % 28 = j := by omega
      have hfirst : (i + j) / 588 = i / 588 := by omega
      have hsecond : (i + j) % 588 / 28 = i % 588 / 28 := by omega
      have hj : ¬j = 0 := by omega
      simp [hopen, hclosed, hfirst, hsecond, hj]
    next => cases h

theorem covers_of_syllable? (h : syllable? a b = some c) : syllableEntry.covers c = true := by
  rcases syllableParts?_of_syllable? h with hparts | ⟨_, _, _, hparts⟩
  · exact covers_syllableEntry.2 (syllableParts?_eq_some hparts).1
  · exact covers_syllableEntry.2 (syllableParts?_eq_some hparts).1

/-- The code of an entry has its codes as parts. -/
theorem target?_of_mem {e : CodeEntry} (he : e ∈ composedTable.entries) :
    composedTable.target? e.first = some e.codes := by
  obtain ⟨m, n, hcodes⟩ := List.length_eq_two.1 (areSettled_tables.pair e he).1
  obtain ⟨-, hfound⟩ := find?_of_areSingle areSettled_tables.single he
  rw [CodeTable.target?, CodeTable.find?, hfound, Option.map_some, CodeEntry.target, hcodes]

/-- What two codes compose to is made of them. -/
theorem parts?_of_compose? (h : compose? a b = some c) : parts? c = some [a, b] ∨
    ∃ open_, parts? a = some open_ ∧ parts? b = none ∧ parts? c = some (open_ ++ [b]) := by
  rw [compose?_eq, Option.or_eq_some_iff] at h
  rcases h with hsyllable | ⟨-, hsource⟩
  · rcases syllableParts?_of_syllable? hsyllable with hparts | ⟨open_, ha, hb, hparts⟩
    · exact .inl (parts?_of_syllableParts? hparts)
    · exact .inr ⟨open_, parts?_of_syllableParts? ha,
        parts?_eq_none (areSettled_tables.letters b hb), parts?_of_syllableParts? hparts⟩
  · obtain ⟨e, he, rfl⟩ := Option.map_eq_some_iff.1 hsource
    have hmem : e ∈ composedTable.entries := List.mem_of_find?_eq_some he
    have hcodes : e.codes = [a, b] := by simpa using List.find?_some he
    left
    rw [parts?_eq, (areSettled_tables.pair e hmem).2.2, target?_of_mem hmem, Option.none_or,
      Option.some_or, hcodes]

/-- What is above a set has a part in it. -/
theorem testBit_above {codes : Nat} : (above composedTable decomposedTable codes).testBit n = true ↔
    ∃ e ∈ composedTable.entries ++ decomposedTable.entries, e.covers n = true ∧
      (e.target n).any codes.testBit = true := by
  rw [above, testBit_bitsOf, decide_eq_true_eq, List.mem_flatMap]
  simp only [List.mem_filter, CodeEntry.mem_members]

theorem testBit_of_mem_letters (h : n ∈ letters) (steps : Nat) :
    (compoundAfter composedTable decomposedTable steps).testBit n = false := by
  have hletter := areSettled_tables.letters n h
  cases steps with
  | zero => exact hletter
  | succ steps =>
      refine Bool.eq_false_iff.2 fun habove => ?_
      obtain ⟨e, he, hcovers, -⟩ := testBit_above.1 habove
      rw [testBit_compound, Bool.or_eq_false_iff, Bool.or_eq_false_iff] at hletter
      rcases List.mem_append.1 he with he | he
      · exact absurd (CodeTable.testBit_of_covers he hcovers) (by simp [hletter])
      · exact absurd (CodeTable.testBit_of_covers he hcovers) (by simp [hletter])

/-- So many steps are enough for a code that has no parts behind them. -/
theorem parts?_of_testBit {steps : Nat}
    (h : (compoundAfter composedTable decomposedTable steps).testBit n = false) :
    ∀ d ∈ takeApart steps n, parts? d = none := by
  induction steps generalizing n with
  | zero =>
      intro d hd
      rw [takeApart, List.mem_singleton] at hd
      exact hd ▸ parts?_eq_none h
  | succ steps ih =>
      intro d hd
      rw [takeApart] at hd
      split at hd
      next parts hparts =>
        obtain ⟨p, hp, hd⟩ := List.mem_flatMap.1 hd
        refine ih (Bool.eq_false_iff.2 fun hmore => ?_) d hd
        have hany {e : CodeEntry} (hp : p ∈ e.target n) :
            (e.target n).any (compoundAfter composedTable decomposedTable steps).testBit = true :=
          List.any_eq_true.2 ⟨p, hp, hmore⟩
        rcases (parts?_eq_some hparts).2 with hletters | hcomposed | hdecomposed
        · exact absurd hmore (by simp [testBit_of_mem_letters (hletters p hp)])
        · obtain ⟨e, he, hcovers, rfl⟩ := CodeTable.target?_eq_some hcomposed
          exact absurd (testBit_above.2 ⟨e, List.mem_append_left _ he, hcovers, hany hp⟩)
            (by simpa [compoundAfter] using h)
        · obtain ⟨e, he, hcovers, rfl⟩ := CodeTable.target?_eq_some hdecomposed
          exact absurd (testBit_above.2 ⟨e, List.mem_append_right _ he, hcovers, hany hp⟩)
            (by simpa [compoundAfter] using h)
      next hparts => exact List.mem_singleton.1 hd ▸ hparts

/-- What has been taken apart has no parts any more. -/
theorem parts?_of_mem_takeApart (h : d ∈ takeApart mostSteps n) : parts? d = none := by
  refine parts?_of_testBit ?_ d h
  rw [areSettled_tables.steps, Nat.zero_testBit]

end

/-! ### Marks in order -/

/-- Whether a code does not come behind another one. -/
def isBefore (a b : Nat) : Bool := combiningClass a ≤ combiningClass b

theorem isBefore_trans (a b c : Nat) (hab : isBefore a b = true) (hbc : isBefore b c = true) :
    isBefore a c = true := by
  simp only [isBefore, decide_eq_true_eq] at hab hbc ⊢
  omega

theorem isBefore_total (a b : Nat) : (isBefore a b || isBefore b a) = true := by
  simp only [isBefore, Bool.or_eq_true, decide_eq_true_eq]
  omega

/-- Codes in the order of their classes. -/
def IsSorted (marks : List Nat) : Prop := marks.Pairwise fun a b => isBefore a b = true

theorem isSorted_sortMarks (marks : List Nat) : IsSorted (sortMarks marks) :=
  List.pairwise_mergeSort isBefore_trans isBefore_total marks

theorem sortMarks_of_isSorted {marks : List Nat} (h : IsSorted marks) : sortMarks marks = marks :=
  List.mergeSort_of_pairwise h

theorem mem_sortMarks {marks : List Nat} {n : Nat} : n ∈ sortMarks marks ↔ n ∈ marks :=
  List.mem_mergeSort

/-- The codes of one class, in the order they stand in. -/
def ofClass (k : Nat) (marks : List Nat) : List Nat := marks.filter (combiningClass · == k)

theorem ofClass_append (k : Nat) (marks more : List Nat) :
    ofClass k (marks ++ more) = ofClass k marks ++ ofClass k more := List.filter_append ..

/-- Codes of one class keep their order. -/
theorem ofClass_sortMarks (k : Nat) (marks : List Nat) :
    ofClass k (sortMarks marks) = ofClass k marks := by
  have hsorted : (ofClass k marks).Pairwise fun a b => isBefore a b = true := by
    refine List.pairwise_of_forall_mem_list fun a ha b hb => ?_
    have ha := (List.mem_filter.1 ha).2
    have hb := (List.mem_filter.1 hb).2
    simp only [beq_iff_eq] at ha hb
    simp [isBefore, ha, hb]
  have hsub : (ofClass k (ofClass k marks)).Sublist (ofClass k (sortMarks marks)) :=
    (List.sublist_mergeSort isBefore_trans isBefore_total hsorted List.filter_sublist).filter _
  have htwice : ofClass k (ofClass k marks) = ofClass k marks := by
    simp [ofClass, List.filter_filter]
  rw [htwice] at hsub
  refine (hsub.eq_of_length ?_).symm
  exact (((List.mergeSort_perm marks isBefore).filter _).length_eq).symm

theorem ofClass_cons_self (a : Nat) (marks : List Nat) :
    ofClass (combiningClass a) (a :: marks) = a :: ofClass (combiningClass a) marks :=
  List.filter_cons_of_pos (by simp)

theorem mem_of_ofClass_eq {marks marks' : List Nat}
    (hclasses : ∀ k, ofClass k marks = ofClass k marks') {a : Nat} (ha : a ∈ marks) :
    a ∈ marks' := by
  have hfound : a ∈ ofClass (combiningClass a) marks := List.mem_filter.2 ⟨ha, by simp⟩
  rw [hclasses] at hfound
  exact (List.mem_filter.1 hfound).1

/-- The first of codes in order has the lowest class. -/
theorem IsSorted.le_of_mem {a b : Nat} {marks : List Nat} (h : IsSorted (a :: marks))
    (hb : b ∈ a :: marks) : combiningClass a ≤ combiningClass b := by
  rcases List.mem_cons.1 hb with rfl | hb
  · exact Nat.le_refl _
  · simpa [isBefore] using (List.pairwise_cons.1 h).1 b hb

/-- Codes in order are told by what there is of each class. -/
theorem eq_of_ofClass_eq {marks marks' : List Nat} (h : IsSorted marks) (h' : IsSorted marks')
    (hclasses : ∀ k, ofClass k marks = ofClass k marks') : marks = marks' := by
  induction marks generalizing marks' with
  | nil =>
      refine (List.eq_nil_iff_forall_not_mem.2 fun a ha => ?_).symm
      exact absurd (mem_of_ofClass_eq (fun k => (hclasses k).symm) ha) (by simp)
  | cons a marks ih =>
      cases marks' with
      | nil => exact absurd (mem_of_ofClass_eq hclasses List.mem_cons_self) (by simp)
      | cons b marks' =>
          have hab : combiningClass a = combiningClass b :=
            Nat.le_antisymm
              (h.le_of_mem (mem_of_ofClass_eq (fun k => (hclasses k).symm) List.mem_cons_self))
              (h'.le_of_mem (mem_of_ofClass_eq hclasses List.mem_cons_self))
          have hfirst := hclasses (combiningClass a)
          rw [ofClass_cons_self, hab, ofClass_cons_self] at hfirst
          obtain ⟨rfl, -⟩ := List.cons.inj hfirst
          refine congrArg (List.cons _)
            (ih (List.pairwise_cons.1 h).2 (List.pairwise_cons.1 h').2 fun k => ?_)
          have hk := hclasses k
          unfold ofClass at hk ⊢
          rw [List.filter_cons, List.filter_cons] at hk
          split at hk
          · exact (List.cons.inj hk).2
          · exact hk

theorem sortMarks_congr {marks marks' : List Nat}
    (hclasses : ∀ k, ofClass k marks = ofClass k marks') : sortMarks marks = sortMarks marks' :=
  eq_of_ofClass_eq (isSorted_sortMarks marks) (isSorted_sortMarks marks') fun k => by
    rw [ofClass_sortMarks, ofClass_sortMarks, hclasses]

/-! ### Texts in order -/

variable {marks marks' rest : List Nat} {n : Nat}

/-- Marks that are no bases. -/
def AreMarks (marks : List Nat) : Prop := ∀ n ∈ marks, combiningClass n ≠ 0

theorem AreMarks.append_singleton (h : AreMarks marks) (hn : combiningClass n ≠ 0) :
    AreMarks (marks ++ [n]) := by
  intro m hm
  rcases List.mem_append.1 hm with hm | hm
  · exact h m hm
  · exact List.mem_singleton.1 hm ▸ hn

theorem reorder_congr (hclasses : ∀ k, ofClass k marks = ofClass k marks') (rest : List Nat) :
    reorder marks rest = reorder marks' rest := by
  induction rest generalizing marks marks' with
  | nil => exact sortMarks_congr hclasses
  | cons n rest ih =>
      rw [reorder, reorder]
      split
      · rw [sortMarks_congr hclasses]
      · exact ih fun k => by rw [ofClass_append, ofClass_append, hclasses]

theorem mem_of_mem_reorder (h : n ∈ reorder marks rest) : n ∈ marks ∨ n ∈ rest := by
  induction rest generalizing marks with
  | nil => exact .inl (mem_sortMarks.1 h)
  | cons m rest ih =>
      rw [reorder] at h
      split at h
      · rcases List.mem_append.1 h with h | h
        · exact .inl (mem_sortMarks.1 h)
        · rcases List.mem_cons.1 h with rfl | h
          · exact .inr List.mem_cons_self
          · exact .inr (List.mem_cons_of_mem _ ((ih h).resolve_left (by simp)))
      · rcases ih h with h | h
        · rcases List.mem_append.1 h with h | h
          · exact .inl h
          · exact .inr (List.mem_singleton.1 h ▸ List.mem_cons_self)
        · exact .inr (List.mem_cons_of_mem _ h)

/-- Marks are read on before they are put in order. -/
theorem reorder_marks_append (h : AreMarks marks') (rest : List Nat) :
    reorder marks (marks' ++ rest) = reorder (marks ++ marks') rest := by
  induction marks' generalizing marks with
  | nil => rw [List.nil_append, List.append_nil]
  | cons n marks' ih =>
      have hn : (combiningClass n == 0) = false := by simpa using h n List.mem_cons_self
      rw [List.cons_append, reorder, hn, if_neg Bool.false_ne_true,
        ih fun m hm => h m (List.mem_cons_of_mem _ hm), List.append_assoc, List.singleton_append]

/-- What stands before does not matter. -/
theorem reorder_append_congr {l l' : List Nat} (h : ∀ marks, reorder marks l = reorder marks l')
    (front : List Nat) (marks : List Nat) :
    reorder marks (front ++ l) = reorder marks (front ++ l') := by
  induction front generalizing marks with
  | nil => exact h marks
  | cons n front ih =>
      rw [List.cons_append, List.cons_append, reorder, reorder]
      split
      · rw [ih]
      · exact ih _

/-- A mark may stand on either side of marks of lower classes. -/
theorem reorder_move (hmarks : AreMarks marks)
    (hbelow : ∀ m ∈ marks, combiningClass m < combiningClass n) (rest before : List Nat) :
    reorder before (n :: (marks ++ rest)) = reorder before (marks ++ n :: rest) := by
  by_cases hempty : marks = []
  · rw [hempty, List.nil_append, List.nil_append]
  · obtain ⟨m, hm⟩ := List.exists_mem_of_ne_nil marks hempty
    have hlow := hbelow m hm
    have hn : AreMarks [n] := by
      intro k hk
      rw [List.mem_singleton.1 hk]
      omega
    have hfirst : n :: (marks ++ rest) = [n] ++ (marks ++ rest) := rfl
    have hlast : marks ++ n :: rest = marks ++ ([n] ++ rest) := rfl
    rw [hfirst, hlast, reorder_marks_append hn, reorder_marks_append hmarks,
      reorder_marks_append hmarks, reorder_marks_append hn]
    refine reorder_congr (fun k => ?_) rest
    simp only [ofClass_append, List.append_assoc]
    refine congrArg (ofClass k before ++ ·) ?_
    by_cases hk : combiningClass n = k
    · have hnone : ofClass k marks = [] := by
        rw [ofClass, List.filter_eq_nil_iff]
        intro m hm
        have := hbelow m hm
        simp only [beq_iff_eq]
        omega
      rw [hnone, List.append_nil, List.nil_append]
    · have hnone : ofClass k [n] = [] := by
        rw [ofClass, List.filter_eq_nil_iff]
        intro m hm
        rw [List.mem_singleton.1 hm]
        simpa using hk
      rw [hnone, List.append_nil, List.nil_append]

/-- A code may follow another one in a text whose marks are in order. -/
def MayFollow (a b : Nat) : Prop := combiningClass b = 0 ∨ isBefore a b = true

/-- A text whose marks are in order. -/
def IsOrdered (codes : List Nat) : Prop := codes.IsChain MayFollow

theorem isOrdered_of_isSorted (h : IsSorted marks) : IsOrdered marks :=
  (List.Pairwise.isChain h).imp fun _ _ hab => .inr hab

theorem isSorted_of_isOrdered (h : IsOrdered marks) (hmarks : AreMarks marks) :
    IsSorted marks := by
  have : Trans (fun a b => isBefore a b = true) (fun a b => isBefore a b = true)
      (fun a b => isBefore a b = true) := ⟨isBefore_trans _ _ _⟩
  refine List.IsChain.pairwise (h.imp_of_mem_imp fun a b ha hb hab => ?_)
  exact hab.resolve_left (hmarks b hb)

/-- Anything may follow a base. -/
theorem mayFollow_of_eq_zero {a : Nat} (h : combiningClass a = 0) (b : Nat) : MayFollow a b := by
  refine .inr ?_
  simp [isBefore, h]

theorem isOrdered_reorder (marks rest : List Nat) : IsOrdered (reorder marks rest) := by
  induction rest generalizing marks with
  | nil => exact isOrdered_of_isSorted (isSorted_sortMarks marks)
  | cons n rest ih =>
      rw [reorder]
      split
      next hbase =>
        have hbase : combiningClass n = 0 := by simpa using hbase
        refine List.IsChain.append (isOrdered_of_isSorted (isSorted_sortMarks marks)) ?_ ?_
        · exact (ih []).cons fun b _ => mayFollow_of_eq_zero hbase b
        · intro a _ b hb
          obtain rfl := Option.some.inj hb
          exact .inl hbase
      next => exact ih _

theorem reorder_of_isOrdered (hmarks : AreMarks marks) (h : IsOrdered (marks ++ rest)) :
    reorder marks rest = marks ++ rest := by
  induction rest generalizing marks with
  | nil =>
      rw [List.append_nil] at h ⊢
      exact sortMarks_of_isSorted (isSorted_of_isOrdered h hmarks)
  | cons n rest ih =>
      rw [reorder]
      split
      next =>
        have hrest := @ih [] (by simp [AreMarks])
          (List.isChain_of_isChain_cons (List.IsChain.right_of_append h))
        rw [sortMarks_of_isSorted (isSorted_of_isOrdered (List.IsChain.left_of_append h) hmarks),
          hrest, List.nil_append]
      next hmark =>
        have hmark : combiningClass n ≠ 0 := by simpa using hmark
        have happend : marks ++ n :: rest = marks ++ [n] ++ rest := by simp
        rw [happend] at h ⊢
        exact ih (hmarks.append_singleton hmark) h

/-! ### Taking apart what was composed -/

/-- The parts of codes. -/
def apart (codes : List Nat) : List Nat := codes.flatMap (takeApart mostSteps)

/-- Codes that have no parts. -/
def AreWhole (codes : List Nat) : Prop := ∀ n ∈ codes, parts? n = none

theorem takeApart_of_parts?_eq_none (h : parts? n = none) (steps : Nat) :
    takeApart steps n = [n] := by
  cases steps with
  | zero => rfl
  | succ steps => rw [takeApart, h]

theorem apart_append (codes more : List Nat) : apart (codes ++ more) = apart codes ++ apart more :=
  List.flatMap_append

theorem apart_of_areWhole {codes : List Nat} (h : AreWhole codes) : apart codes = codes := by
  induction codes with
  | nil => rfl
  | cons n codes ih =>
      obtain ⟨hn, hcodes⟩ := List.forall_mem_cons.1 h
      have hrest := ih hcodes
      unfold apart at hrest ⊢
      rw [List.flatMap_cons, takeApart_of_parts?_eq_none hn, hrest, List.singleton_append]

theorem areWhole_apart (codes : List Nat) : AreWhole (apart codes) := by
  intro d hd
  obtain ⟨n, -, hd⟩ := List.mem_flatMap.1 hd
  exact parts?_of_mem_takeApart hd

/-- Once nothing has parts any more, more steps change nothing. -/
theorem takeApart_succ {steps : Nat} (h : AreWhole (takeApart steps n)) :
    takeApart (steps + 1) n = takeApart steps n := by
  induction steps generalizing n with
  | zero => exact takeApart_of_parts?_eq_none (h n (by simp [takeApart])) 1
  | succ steps ih =>
      rw [takeApart]
      rw [takeApart] at h ⊢
      split
      next parts hparts =>
        simp only [hparts] at h
        refine List.flatMap_congr fun p hp => ih fun d hd => ?_
        exact h d (List.mem_flatMap.2 ⟨p, hp, hd⟩)
      next => rfl

/-- What two codes compose to has their parts. -/
theorem apart_of_compose? {a b c : Nat} (h : compose? a b = some c) :
    apart [c] = apart [a] ++ apart [b] := by
  rcases parts?_of_compose? h with hparts | ⟨open_, ha, hb, hparts⟩
  · have hwhole := areWhole_apart [c]
    have hapart : apart [c] = takeApart 3 a ++ takeApart 3 b := by
      simp [apart, mostSteps, takeApart, hparts]
    rw [hapart] at hwhole ⊢
    have ha : takeApart 4 a = takeApart 3 a :=
      takeApart_succ fun d hd => hwhole d (List.mem_append_left _ hd)
    have hb : takeApart 4 b = takeApart 3 b :=
      takeApart_succ fun d hd => hwhole d (List.mem_append_right _ hd)
    simp [apart, mostSteps, ha, hb]
  · simp [apart, mostSteps, takeApart, ha, hb, hparts]

/-- Marks that do not keep a code from the base have lower classes than it, and they are in order
without it. -/
theorem reaches_spec (h : reaches marks n = true) (hmarks : AreMarks marks)
    (hordered : IsOrdered (marks ++ n :: rest)) :
    (∀ m ∈ marks, combiningClass m < combiningClass n) ∧ IsOrdered (marks ++ rest) := by
  have hfront : IsOrdered marks := List.IsChain.left_of_append hordered
  have hbehind : IsOrdered (n :: rest) := List.IsChain.right_of_append hordered
  have hrest : IsOrdered rest := List.isChain_of_isChain_cons hbehind
  rcases List.eq_nil_or_concat marks with rfl | ⟨front, mark, rfl⟩
  · exact ⟨by simp, hrest⟩
  · rw [List.concat_eq_append] at *
    have hlow : combiningClass mark < combiningClass n := by simpa [reaches] using h
    constructor
    · intro m hm
      rcases List.mem_append.1 hm with hm | hm
      · have hsorted := List.pairwise_append.1 (isSorted_of_isOrdered hfront hmarks)
        have hle := hsorted.2.2 m hm mark (by simp)
        simp only [isBefore, decide_eq_true_eq] at hle
        omega
      · rwa [List.mem_singleton.1 hm]
    · refine List.IsChain.append hfront hrest fun m hm r hr => ?_
      obtain rfl : mark = m := by simpa using hm
      refine (hbehind.rel_head? hr).imp id fun hle => ?_
      simp only [isBefore, decide_eq_true_eq] at hle ⊢
      omega

/-- Put in order, the parts of what was composed are what was composed. -/
theorem reorder_apart_composeWith (base : Option Nat) (hwhole : AreWhole (marks ++ rest))
    (hmarks : AreMarks marks) (hordered : IsOrdered (marks ++ rest)) (before : List Nat) :
    reorder before (apart (composeWith base marks rest)) =
      reorder before (apart base.toList ++ (marks ++ rest)) := by
  fun_induction composeWith base marks rest generalizing before with
  | case1 base marks =>
      rw [List.append_nil] at hwhole ⊢
      rw [apart_append, apart_of_areWhole hwhole]
  | case2 base marks n rest composed hcomposed ih =>
      split at hcomposed
      next hreaches =>
        -- taken apart, what was composed has `n` right behind the base, in front of lower marks
        obtain ⟨b, rfl, hcompose⟩ := Option.bind_eq_some_iff.1 hcomposed
        obtain ⟨hbelow, hwithout⟩ := reaches_spec hreaches hmarks hordered
        have hn : apart [n] = [n] := apart_of_areWhole fun m hm =>
          hwhole m (by rw [List.mem_singleton.1 hm]; simp)
        rw [ih (fun m hm => hwhole m (by
          rcases List.mem_append.1 hm with hm | hm <;> simp [hm])) hmarks hwithout]
        rw [Option.toList_some, Option.toList_some, apart_of_compose? hcompose, hn,
          List.append_assoc, List.singleton_append]
        exact reorder_append_congr (fun before => reorder_move hmarks hbelow rest before) _ _
      next => cases hcomposed
  | case3 base marks n rest hapart hbase ih =>
      have hfront : AreWhole marks := fun m hm => hwhole m (by simp [hm])
      have hn : apart [n] = [n] := apart_of_areWhole fun m hm =>
        hwhole m (by rw [List.mem_singleton.1 hm]; simp)
      rw [apart_append, apart_append, apart_of_areWhole hfront, List.append_assoc]
      refine reorder_append_congr (reorder_append_congr (fun before => ?_) marks) _ _
      rw [ih (fun m hm => hwhole m (by simp at hm; simp [hm])) (by simp [AreMarks])
        (List.isChain_of_isChain_cons (List.IsChain.right_of_append hordered))]
      rw [Option.toList_some, hn, List.nil_append, List.singleton_append]
  | case4 base marks n rest hapart hmark ih =>
      have happend : marks ++ n :: rest = marks ++ [n] ++ rest := by simp
      rw [happend] at hwhole hordered ⊢
      exact ih hwhole (hmarks.append_singleton (by simpa using hmark)) hordered before

/-- The composed form of codes. -/
def normal (codes : List Nat) : List Nat := composeWith none [] (reorder [] (apart codes))

theorem areWhole_reorder (h : AreWhole rest) : AreWhole (reorder [] rest) :=
  fun n hn => h n ((mem_of_mem_reorder hn).resolve_left (by simp))

/-- Composing twice is composing once: the parts of what was composed are in order once more. -/
theorem normal_normal (codes : List Nat) : normal (normal codes) = normal codes := by
  have hordered := isOrdered_reorder [] (apart codes)
  have hback := @reorder_apart_composeWith [] _ none (areWhole_reorder (areWhole_apart codes))
    (by simp [AreMarks]) hordered []
  have hstays : reorder [] (reorder [] (apart codes)) = reorder [] (apart codes) :=
    reorder_of_isOrdered (by simp [AreMarks]) hordered
  have hbare : apart (none : Option Nat).toList ++ ([] ++ reorder [] (apart codes)) =
      reorder [] (apart codes) := rfl
  rw [hbare, hstays] at hback
  rw [normal, normal, hback]

/-! ### What is composed of what -/

variable {P : Nat → Prop} {codes : List Nat}

theorem IsPassedOn.of_mem_takeApart (h : IsPassedOn P) {steps d : Nat} (hn : P n)
    (hd : d ∈ takeApart steps n) : P d := by
  induction steps generalizing n with
  | zero =>
      rw [takeApart, List.mem_singleton] at hd
      exact hd ▸ hn
  | succ steps ih =>
      rw [takeApart] at hd
      split at hd
      next parts hparts =>
        obtain ⟨p, hp, hd⟩ := List.mem_flatMap.1 hd
        exact ih (h.parts n parts hn hparts p hp) hd
      next => exact List.mem_singleton.1 hd ▸ hn

theorem IsPassedOn.of_mem_composeWith (h : IsPassedOn P) {base : Option Nat} (hbase : ∀ b ∈ base, P b)
    (hmarks : ∀ m ∈ marks, P m) (hrest : ∀ m ∈ rest, P m) :
    ∀ d ∈ composeWith base marks rest, P d := by
  have hfront {base : Option Nat} {marks : List Nat} (hbase : ∀ b ∈ base, P b)
      (hmarks : ∀ m ∈ marks, P m) : ∀ d ∈ base.toList ++ marks, P d := by
    intro d hd
    rcases List.mem_append.1 hd with hd | hd
    · exact hbase d (by simpa using hd)
    · exact hmarks d hd
  fun_induction composeWith base marks rest with
  | case1 base marks => exact hfront hbase hmarks
  | case2 base marks n rest composed hcomposed ih =>
      obtain ⟨hn, hrest⟩ := List.forall_mem_cons.1 hrest
      split at hcomposed
      next =>
        obtain ⟨b, rfl, hcompose⟩ := Option.bind_eq_some_iff.1 hcomposed
        exact ih (by simpa using h.compose b n composed (hbase b rfl) hn hcompose) hmarks hrest
      next => cases hcomposed
  | case3 base marks n rest hapart hzero ih =>
      obtain ⟨hn, hrest⟩ := List.forall_mem_cons.1 hrest
      intro d hd
      rcases List.mem_append.1 hd with hd | hd
      · exact hfront hbase hmarks d hd
      · exact ih (by simpa using hn) (by simp) hrest d hd
  | case4 base marks n rest hapart hmark ih =>
      obtain ⟨hn, hrest⟩ := List.forall_mem_cons.1 hrest
      refine ih hbase (fun m hm => ?_) hrest
      rcases List.mem_append.1 hm with hm | hm
      · exact hmarks m hm
      · exact List.mem_singleton.1 hm ▸ hn

theorem IsPassedOn.of_mem_normal (h : IsPassedOn P) (hcodes : ∀ n ∈ codes, P n) :
    ∀ d ∈ normal codes, P d := by
  refine h.of_mem_composeWith (by simp) (by simp) fun d hd => ?_
  have hd := (mem_of_mem_reorder hd).resolve_left (by simp)
  obtain ⟨n, hn, hd⟩ := List.mem_flatMap.1 hd
  exact h.of_mem_takeApart (hcodes n hn) hd

/-- What holds of letters and syllables, and passes from a code to the codes that a table has for it
and from the codes of an entry to its own, is passed on. -/
theorem IsPassedOn.of_tables {q : Nat → Nat → Bool} (hletters : ∀ n ∈ letters, P n)
    (hsyllables : ∀ n, syllableEntry.covers n = true → P n)
    (hcomposed : respects composedTable q = true) (hdecomposed : respects decomposedTable q = true)
    (hparts : ∀ n p, q n p = true → P n → P p)
    (hsource : ∀ e ∈ composedTable.entries, (∀ p ∈ e.codes, P p) → P e.first) : IsPassedOn P := by
  constructor
  · intro n parts hn h p hp
    rcases (parts?_eq_some h).2 with hall | htarget | htarget
    · exact hletters p (hall p hp)
    · exact hparts n p (of_respects hcomposed htarget hp) hn
    · exact hparts n p (of_respects hdecomposed htarget hp) hn
  · intro a b c ha hb h
    rw [compose?_eq, Option.or_eq_some_iff] at h
    rcases h with hsyllable | ⟨-, hentry⟩
    · exact hsyllables c (covers_of_syllable? hsyllable)
    · obtain ⟨e, he, rfl⟩ := Option.map_eq_some_iff.1 hentry
      have hcodes : e.codes = [a, b] := by simpa using List.find?_some he
      exact hsource e (List.mem_of_find?_eq_some he) (by simp [hcodes, ha, hb])

theorem isScalar_iff {n : Nat} : isScalar n = true ↔ n.isValidChar := by
  simp only [isScalar, Nat.isValidChar, Bool.or_eq_true, Bool.and_eq_true, decide_eq_true_eq]

theorem isPassedOn_isScalar : IsPassedOn fun n => isScalar n = true := by
  refine .of_tables (fun n hn => ?_) (fun n hn => ?_) areSettled_tables.of_composed
    areSettled_tables.of_decomposed (fun n p hp _ => ?_)
    fun e he _ => (areSettled_tables.pair e he).2.1
  · rw [mem_letters] at hn
    simp only [isScalar, Bool.or_eq_true, decide_eq_true_eq]
    omega
  · obtain ⟨hfirst, hlast⟩ := covers_syllableEntry.1 hn
    simp only [syllables] at hfirst hlast
    simp only [isScalar, Bool.or_eq_true, decide_eq_true_eq]
    omega
  · exact (Bool.and_eq_true_iff.1 hp).1

end Composition

open DomainDeploy.Text.Composition

theorem composed_eq (cs : List Char) :
    composed cs = (normal (cs.map Char.toNat)).map Char.ofNat := by
  rw [composed, normal, apart, List.flatMap_map]

/-- The codes of a composed text. -/
theorem map_toNat_composed (cs : List Char) :
    (composed cs).map Char.toNat = normal (cs.map Char.toNat) := by
  have hscalar : ∀ n ∈ normal (cs.map Char.toNat), isScalar n = true := by
    refine isPassedOn_isScalar.of_mem_normal fun n hn => ?_
    obtain ⟨c, -, rfl⟩ := List.mem_map.1 hn
    exact isScalar_iff.2 c.valid
  rw [composed_eq, List.map_map]
  exact (List.map_congr_left fun n hn => toNat_ofNat (isScalar_iff.1 (hscalar n hn))).trans (List.map_id _)

theorem composed_composed (cs : List Char) : composed (composed cs) = composed cs := by
  rw [composed_eq (composed cs), map_toNat_composed, normal_normal, ← composed_eq]

end DomainDeploy.Text
