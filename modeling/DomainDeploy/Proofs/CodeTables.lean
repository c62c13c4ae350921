import DomainDeploy.Url.Host.Domain

/-!
# What the tables of code points say together

Composing text and mapping names are done by tables, and that nothing is left to do behind them is
a property of the tables: parts that are taken apart have no parts in the end, what a table writes
no table rewrites (`areSettled_tables`, `areFixed_tables`).  A set of code points is a number here,
with a bit for each, so the tables are read through once.

The kernel does the reading.  It unfolds a function that is defined by cases at some length for
every character, so what reads the texts of the tables here is made of recursors, and equal to what
the program reads them with (`ofText_eq`).
-/

namespace DomainDeploy.Text

/-! ### Sets of codes -/

/-- The set of some codes, a bit for each. -/
def bitsOf (codes : List Nat) : Nat := codes.foldr (fun n bits => bits ||| 1 <<< n) 0

theorem testBit_bitsOf (codes : List Nat) (n : Nat) :
    (bitsOf codes).testBit n = decide (n ∈ codes) := by
  induction codes with
  | nil => simp [bitsOf]
  | cons m codes ih =>
      unfold bitsOf at ih ⊢
      rw [List.foldr_cons, Nat.testBit_or, ih, Bool.eq_iff_iff]
      simp only [Nat.one_shiftLeft, Nat.testBit_two_pow, Bool.or_eq_true, decide_eq_true_eq,
        List.mem_cons]
      exact ⟨fun h => h.symm.imp Eq.symm id, fun h => h.symm.imp id Eq.symm⟩

/-- A bit below `k`, told from so many bits of the number only. -/
def lowBit (k bits n : Nat) : Bool := (bits % Nat.pow 2 k).testBit n

theorem lowBit_eq {k n : Nat} (h : Nat.blt n k = true) (bits : Nat) :
    lowBit k bits n = bits.testBit n := by
  have hlt : n < k := by simpa using h
  exact (Nat.testBit_mod_two_pow bits k n).trans (by simp [hlt])

/-- Whether a code is in a set.  Most codes are low ones, and reading the bit of a number copies
what stands above it. -/
def hasBit (bits n : Nat) : Bool :=
  cond (Nat.blt n 0x4000) (lowBit 0x4000 bits n)
    (cond (Nat.blt n 0x30000) (lowBit 0x30000 bits n) (bits.testBit n))

theorem hasBit_eq (bits n : Nat) : hasBit bits n = bits.testBit n := by
  unfold hasBit
  cases hlow : Nat.blt n 0x4000 with
  | true => exact lowBit_eq hlow bits
  | false =>
      cases hmiddle : Nat.blt n 0x30000 with
      | true => exact lowBit_eq hmiddle bits
      | false => rfl

namespace CodeEntry

variable (e : CodeEntry) (n : Nat)

/-- The codes that an entry speaks about. -/
def members : List Nat := (List.range' e.first (e.last + 1 - e.first)).filter e.covers

theorem mem_members : n ∈ e.members ↔ e.covers n = true := by
  rw [members, List.mem_filter, List.mem_range'_1]
  refine ⟨fun h => h.2, fun h => ⟨?_, h⟩⟩
  simp only [covers, Bool.and_eq_true, decide_eq_true_eq] at h
  omega

/-- Whether a condition holds of all codes that an entry speaks about; many entries speak about
one. -/
def allMembers (p : Nat → Bool) : Bool :=
  cond (Nat.beq e.first e.last) (p e.first) (e.members.all p)

theorem allMembers_eq (p : Nat → Bool) : e.allMembers p = e.members.all p := by
  unfold allMembers
  cases h : Nat.beq e.first e.last with
  | false => rfl
  | true =>
      have hsingle := Nat.eq_of_beq_eq_true h
      simp [members, ← hsingle, covers]

/-- The set of the codes that an entry speaks about. -/
def bits : Nat :=
  if e.stride = 1 then (1 <<< (e.last + 1 - e.first) - 1) <<< e.first else bitsOf e.members

theorem testBit_bits : e.bits.testBit n = e.covers n := by
  unfold bits
  split
  next hstride =>
    rw [Nat.testBit_shiftLeft, Nat.one_shiftLeft, Nat.testBit_two_pow_sub_one, Bool.eq_iff_iff]
    simp only [covers, hstride, Nat.mod_one, Bool.and_eq_true, decide_eq_true_eq, beq_self_eq_true,
      and_true]
    omega
  next => rw [testBit_bitsOf, Bool.eq_iff_iff, decide_eq_true_eq, mem_members]

end CodeEntry

namespace CodeTable

/-- The set of the codes that a table speaks about. -/
def bits (t : CodeTable) : Nat := t.entries.foldr (fun e bits => bits ||| e.bits) 0

theorem testBit_bits (t : CodeTable) (n : Nat) : t.bits.testBit n = t.holds n := by
  obtain ⟨entries⟩ := t
  induction entries with
  | nil => simp [bits, holds, find?]
  | cons e entries ih =>
      unfold bits holds find? at ih ⊢
      rw [List.foldr_cons, Nat.testBit_or, ih, e.testBit_bits, List.find?_cons]
      cases e.covers n <;> simp

/-- The text before the first character that satisfies `p`, and the pieces behind it. -/
noncomputable def pieces (p : Char → Bool) (cs : List Char) : List Char × List (List Char) :=
  @List.rec Char (fun _ => List Char × List (List Char)) ([], [])
    (fun c _ later => cond (p c) ([], later.1 :: later.2) (c :: later.1, later.2)) cs

theorem splitOnP_eq (p : Char → Bool) (cs : List Char) :
    cs.splitOnP p = (pieces p cs).1 :: (pieces p cs).2 := by
  induction cs with
  | nil => rfl
  | cons c cs ih =>
      have hpieces : pieces p (c :: cs) = cond (p c)
          ([], (pieces p cs).1 :: (pieces p cs).2) (c :: (pieces p cs).1, (pieces p cs).2) := rfl
      rw [List.splitOnP_cons_eq_if_modifyHead, ih, hpieces]
      cases p c <;> simp

/-- The text before the first `c`, and the text behind it if there is one. -/
noncomputable def cutAt (c : Char) (cs : List Char) : List Char × Option (List Char) :=
  @List.rec Char (fun _ => List Char × Option (List Char)) ([], none)
    (fun d rest later => cond (d == c) ([], some rest) (d :: later.1, later.2)) cs

theorem splitAt_eq (c : Char) (cs : List Char) : CodeEntry.splitAt c cs = cutAt c cs := by
  induction cs with
  | nil => rfl
  | cons d cs ih =>
      have hcut : cutAt c (d :: cs) =
          cond (d == c) ([], some cs) (d :: (cutAt c cs).1, (cutAt c cs).2) := rfl
      rw [hcut, ← ih]
      unfold CodeEntry.splitAt
      rw [List.dropWhile_cons, List.takeWhile_cons]
      cases hsame : d == c with
      | true => simp [bne, hsame]
      | false =>
          simp only [bne, hsame, Bool.not_false, if_true, cond_false]
          cases cs.dropWhile fun x => !x == c <;> rfl

/-- The number that hexadecimal digits spell behind `n`. -/
noncomputable def numberBehind (cs : List Char) : Nat → Nat :=
  @List.rec Char (fun _ => Nat → Nat) (fun n => n)
    (fun c _ later n => later (n * 16 + CodeEntry.digit c)) cs

theorem foldl_digit_eq (cs : List Char) (n : Nat) :
    cs.foldl (fun n c => n * 16 + CodeEntry.digit c) n = numberBehind cs n := by
  induction cs generalizing n with
  | nil => rfl
  | cons c cs ih => exact ih _

/-- Reads an entry. -/
noncomputable def readEntry (cs : List Char) : CodeEntry :=
  let (stretch, codes) := cutAt '>' cs
  let (ends, stride) := cutAt '/' stretch
  let (first, last) := cutAt '-' ends
  { first := numberBehind first 0
    last := numberBehind (last.getD first) 0
    stride := numberBehind (stride.getD ['1']) 0
    codes := match codes with
      | some codes =>
        let parts := pieces (· == '.') codes
        (parts.1 :: parts.2).map (numberBehind · 0)
      | none => [] }

theorem ofChars_eq (cs : List Char) : CodeEntry.ofChars cs = readEntry cs := by
  have hnumber : CodeEntry.number = fun cs => numberBehind cs 0 := by
    funext cs
    exact foldl_digit_eq cs 0
  unfold CodeEntry.ofChars readEntry
  simp only [splitAt_eq, hnumber]
  congr 1
  cases (cutAt '>' cs).2 with
  | none => rfl
  | some codes => simp only [List.splitOn, splitOnP_eq]

/-- The entries that are written in a text. -/
noncomputable def entriesOf (cs : List Char) : List CodeEntry :=
  let parts := pieces (fun c => c == ' ' || c == '\n') cs
  ((parts.1 :: parts.2).filter (!·.isEmpty)).map readEntry

/-- The characters that a text is spelled with.  A text that is written out meets this by
unification alone, while no lemma takes it apart. -/
inductive Spells : List Char → String → Prop
  | intro {cs} : Spells cs (String.ofList cs)

theorem ofText_eq {cs : List Char} {text : String} (h : Spells cs text) :
    ofText text = ⟨entriesOf cs⟩ := by
  cases h
  rw [ofText, String.toList_ofList, entriesOf, splitOnP_eq, funext ofChars_eq]

end CodeTable

/-! ### Codes and conditions -/

/-- A code of a character. -/
def isScalar (n : Nat) : Bool := n < 0xD800 || (0xDFFF < n && n < 0x110000)

/-- The stretch of the syllables. -/
def syllableEntry : CodeEntry := ⟨Composition.syllables, Composition.syllables + 11171, 1, []⟩

/-- The codes that composition takes apart: what the tables speak about, and syllables. -/
def compound (composed decomposed : CodeTable) : Nat :=
  composed.bits ||| decomposed.bits ||| syllableEntry.bits

/-- The codes that have a part in a set. -/
def above (composed decomposed : CodeTable) (parts : Nat) : Nat :=
  bitsOf ((composed.entries ++ decomposed.entries).flatMap fun e =>
    e.members.filter fun n => (e.target n).any parts.testBit)

/-- The codes that still have parts somewhere after so many steps of taking them apart. -/
def compoundAfter (composed decomposed : CodeTable) : Nat → Nat
  | 0 => compound composed decomposed
  | steps + 1 => above composed decomposed (compoundAfter composed decomposed steps)

/-- Consonants and vowels that syllables are made of. -/
def letters : List Nat := List.range' 0x1100 19 ++ List.range' 0x1161 21 ++ List.range' 0x11A7 28

/-- What is found of a code in a table satisfies a condition. -/
def respects (t : CodeTable) (p : Nat → Nat → Bool) : Bool :=
  t.entries.all fun e => e.allMembers fun n => (e.target n).all (p n)

/-- Entries for one code each, which grow. -/
def areSingle : List CodeEntry → Bool
  | e :: e' :: rest => e.first == e.last && decide (e.first < e'.first) && areSingle (e' :: rest)
  | [e] => e.first == e.last
  | [] => true

/-- The dot between labels. -/
def dot : Nat := 46

/-! ### What follows for single codes -/

section

variable {t : CodeTable} {n : Nat} {codes : List Nat}

theorem CodeTable.target?_eq_none : t.target? n = none ↔ t.bits.testBit n = false := by
  rw [CodeTable.testBit_bits, CodeTable.holds, Option.isSome_eq_false_iff,
    Option.isNone_iff_eq_none, CodeTable.target?, Option.map_eq_none_iff]

theorem CodeTable.target?_eq_some (h : t.target? n = some codes) :
    ∃ e ∈ t.entries, e.covers n = true ∧ codes = e.target n := by
  obtain ⟨e, he, rfl⟩ := Option.map_eq_some_iff.1 h
  have hfound : t.entries.find? (·.covers n) = some e := he
  have hcovers : e.covers n = true := by simpa using List.find?_some hfound
  exact ⟨e, List.mem_of_find?_eq_some hfound, hcovers, rfl⟩

theorem CodeTable.testBit_of_covers {e : CodeEntry} (he : e ∈ t.entries)
    (h : e.covers n = true) : t.bits.testBit n = true := by
  rw [CodeTable.testBit_bits, CodeTable.holds, CodeTable.find?, List.find?_isSome]
  exact ⟨e, he, h⟩

theorem of_respects {p : Nat → Nat → Bool} (h : respects t p = true)
    (hcodes : t.target? n = some codes) {m : Nat} (hm : m ∈ codes) : p n m = true := by
  obtain ⟨e, he, hcovers, rfl⟩ := CodeTable.target?_eq_some hcodes
  have hentry := List.all_eq_true.1 h e he
  rw [CodeEntry.allMembers_eq] at hentry
  have hall := List.all_eq_true.1 hentry n ((e.mem_members n).2 hcovers)
  exact List.all_eq_true.1 hall m hm

theorem areSingle_cons {e : CodeEntry} {entries : List CodeEntry}
    (h : areSingle (e :: entries) = true) :
    e.first = e.last ∧ areSingle entries = true ∧ ∀ e' ∈ entries, e.first < e'.first := by
  induction entries generalizing e with
  | nil => simpa [areSingle] using h
  | cons e' entries ih =>
      simp only [areSingle, Bool.and_eq_true, beq_iff_eq, decide_eq_true_eq] at h
      obtain ⟨⟨hsingle, hgrows⟩, hrest⟩ := h
      refine ⟨hsingle, hrest, fun e'' he'' => ?_⟩
      rcases List.mem_cons.1 he'' with rfl | he''
      · exact hgrows
      · exact Nat.lt_trans hgrows ((ih hrest).2.2 e'' he'')

theorem CodeEntry.covers_first {e : CodeEntry} (h : e.first = e.last) :
    e.covers e.first = true := by
  simp [CodeEntry.covers, h]

/-- Among entries for one code each, the entry of a code is the one that starts with it. -/
theorem find?_of_areSingle {entries : List CodeEntry} (h : areSingle entries = true)
    {e : CodeEntry} (he : e ∈ entries) :
    e.first = e.last ∧ entries.find? (·.covers e.first) = some e := by
  induction entries with
  | nil => simp at he
  | cons e' entries ih =>
      obtain ⟨hsingle, hrest, hgrows⟩ := areSingle_cons h
      rcases List.mem_cons.1 he with rfl | he
      · exact ⟨hsingle, List.find?_cons_of_pos (CodeEntry.covers_first hsingle)⟩
      · obtain ⟨hfirst, hfound⟩ := ih hrest he
        have hother : e'.covers e.first = false := by
          have := hgrows e he
          simp only [CodeEntry.covers, Bool.and_eq_false_iff, decide_eq_false_iff_not]
          omega
        exact ⟨hfirst, by rw [List.find?_cons_of_neg (by simp [hother]), hfound]⟩

end

/-! ### What composition asks of the tables -/

/-- What the tables must say for composition to come to an end, and to keep labels apart. -/
structure AreSettled (composed decomposed combining : CodeTable) : Prop where
  single : areSingle composed.entries = true
  pair : ∀ e ∈ composed.entries, e.codes.length = 2 ∧ isScalar e.first = true ∧
    Composition.syllableParts? e.first = none
  letters : ∀ n ∈ letters, (compound composed decomposed).testBit n = false
  steps : compoundAfter composed decomposed Composition.mostSteps = 0
  dot : (compound composed decomposed).testBit dot = false
  combining_dot : combining.find? Text.dot = none
  of_composed : respects composed (fun _ p => isScalar p && p != Text.dot) = true
  of_decomposed : respects decomposed (fun _ p => isScalar p && p != Text.dot) = true

/-- A check of all of this at once, so that every table is read once. -/
def areSettled (composed decomposed combining : CodeTable) : Bool :=
  let unsettled := compound composed decomposed
  areSingle composed.entries &&
    composed.entries.all (fun e => e.codes.length == 2 && isScalar e.first &&
      (Composition.syllableParts? e.first).isNone) &&
    letters.all (fun n => !hasBit unsettled n) &&
    compoundAfter composed decomposed Composition.mostSteps == 0 &&
    !hasBit unsettled dot && (combining.find? dot).isNone &&
    respects composed (fun _ p => isScalar p && p != dot) &&
    respects decomposed (fun _ p => isScalar p && p != dot)

theorem AreSettled.of_areSettled {composed decomposed combining : CodeTable}
    (h : areSettled composed decomposed combining = true) :
    AreSettled composed decomposed combining := by
  simp only [areSettled, hasBit_eq, Bool.and_eq_true, List.all_eq_true, beq_iff_eq,
    Bool.not_eq_true', Option.isNone_iff_eq_none] at h
  obtain ⟨⟨⟨⟨⟨⟨⟨hsingle, hpair⟩, hletters⟩, hsteps⟩, hdot⟩, hclass⟩, hcomposed⟩, hdecomposed⟩ := h
  exact ⟨hsingle, fun e he => and_assoc.1 (hpair e he), hletters, hsteps, hdot, hclass, hcomposed,
    hdecomposed⟩

open Url.Domain

set_option maxRecDepth 1000000 in
theorem areSettled_tables : AreSettled composedTable decomposedTable combiningTable := by
  have hcomposed : composedTable = ⟨_⟩ := CodeTable.ofText_eq (by constructor)
  have hdecomposed : decomposedTable = ⟨_⟩ := CodeTable.ofText_eq (by constructor)
  have hcombining : combiningTable = ⟨_⟩ := CodeTable.ofText_eq (by constructor)
  rw [hcomposed, hdecomposed, hcombining]
  refine .of_areSettled ?_
  decide +kernel

/-! ### What mapping names asks of the tables -/

/-- The codes that mapping names moves somewhere else, drops or refuses. -/
def movable (mapped ignored disallowed : CodeTable) : Nat :=
  mapped.bits ||| ignored.bits ||| disallowed.bits

/-- What the tables must say for names to stay as they are once the codes in a set are gone. -/
structure AreFixed (moved : Nat) (mapped composed decomposed : CodeTable) : Prop where
  ascii : ∀ n < 128, moved.testBit n = (decide (65 ≤ n) && decide (n ≤ 90))
  of_mapped : respects mapped (fun _ p => isScalar p && !moved.testBit p) = true
  letters : ∀ n ∈ letters, moved.testBit n = false
  syllables : moved &&& syllableEntry.bits = 0
  of_composed : respects composed (fun n p => moved.testBit n || !moved.testBit p) = true
  of_decomposed : respects decomposed (fun n p => moved.testBit n || !moved.testBit p) = true
  source : ∀ e ∈ composed.entries, e.codes.any moved.testBit = true ∨
    moved.testBit e.first = false

/-- A check of all of this at once. -/
def areFixed (moved : Nat) (mapped composed decomposed : CodeTable) : Bool :=
  (List.range 128).all (fun n => hasBit moved n == (decide (65 ≤ n) && decide (n ≤ 90))) &&
    respects mapped (fun _ p => isScalar p && !hasBit moved p) &&
    letters.all (fun n => !hasBit moved n) &&
    moved &&& syllableEntry.bits == 0 &&
    respects composed (fun n p => hasBit moved n || !hasBit moved p) &&
    respects decomposed (fun n p => hasBit moved n || !hasBit moved p) &&
    composed.entries.all (fun e => e.codes.any (hasBit moved) || !hasBit moved e.first)

theorem AreFixed.of_areFixed {moved : Nat} {mapped composed decomposed : CodeTable}
    (h : areFixed moved mapped composed decomposed = true) :
    AreFixed moved mapped composed decomposed := by
  have hbit : hasBit moved = moved.testBit := funext (hasBit_eq moved)
  simp only [areFixed, hbit, Bool.and_eq_true, List.all_eq_true, beq_iff_eq, Bool.not_eq_true',
    Bool.or_eq_true, List.mem_range] at h
  obtain ⟨⟨⟨⟨⟨⟨hascii, hmapped⟩, hletters⟩, hsyllables⟩, hcomposed⟩, hdecomposed⟩, hsource⟩ := h
  exact ⟨hascii, hmapped, hletters, hsyllables, hcomposed, hdecomposed, hsource⟩

/-- The codes that mapping names does not leave as they are. -/
def moved : Nat := movable mappedTable ignoredTable disallowedTable

set_option maxRecDepth 1000000 in
theorem areFixed_tables : AreFixed moved mappedTable composedTable decomposedTable := by
  have hmapped : mappedTable = ⟨_⟩ := CodeTable.ofText_eq (by constructor)
  have hignored : ignoredTable = ⟨_⟩ := CodeTable.ofText_eq (by constructor)
  have hdisallowed : disallowedTable = ⟨_⟩ := CodeTable.ofText_eq (by constructor)
  have hcomposed : composedTable = ⟨_⟩ := CodeTable.ofText_eq (by constructor)
  have hdecomposed : decomposedTable = ⟨_⟩ := CodeTable.ofText_eq (by constructor)
  rw [moved, hmapped, hignored, hdisallowed, hcomposed, hdecomposed]
  refine .of_areFixed ?_
  decide +kernel

end DomainDeploy.Text
