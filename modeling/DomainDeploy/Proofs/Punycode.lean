import Mathlib.Data.List.TakeWhile
import DomainDeploy.Proofs.Characters
import DomainDeploy.Url.Host.Punycode

/-!
# Punycode reads back what it writes

While a label is written, the characters that have been placed are those below the current code and
those of that code that have been passed. A reader holds the same characters, and the step that the
writer has counted leads from where the reader stands to where the writer stands (`Sync`). Passing
one character keeps the two together, so a label that is written is read back (`decode_encode`).
-/

namespace DomainDeploy.Url.Punycode

/-! ### Digits -/

theorem threshold_le (k bias : Nat) : threshold k bias ≤ 26 := by
  unfold threshold
  split
  · omega
  · split <;> omega

theorem value?_digit {d : Nat} (h : d < 36) : value? (digit d) = some d := by
  have hall : ∀ d < 36, value? (digit d) = some d := by decide
  exact hall d h

/-- Characters of a spelling that are not taken over from the label. -/
def isDigitChar (c : Char) : Bool := ('a' ≤ c && c ≤ 'z') || ('0' ≤ c && c ≤ '9')

theorem isDigitChar_digit {d : Nat} (h : d < 36) : isDigitChar (digit d) = true := by
  have hall : ∀ d < 36, isDigitChar (digit d) = true := by decide
  exact hall d h

theorem isDigitChar_of_mem_digitsOf (bias k q : Nat) :
    ∀ c ∈ digitsOf bias k q, isDigitChar c = true := by
  induction q using Nat.strongRecOn generalizing k with
  | ind q ih =>
      have hleast := one_le_threshold k bias
      have hmost := threshold_le k bias
      rw [digitsOf]
      split
      · intro c hc
        obtain rfl := List.mem_singleton.1 hc
        exact isDigitChar_digit (by omega)
      · have hmod := Nat.mod_lt (q - threshold k bias) (by omega : 0 < 36 - threshold k bias)
        have hdiv := Nat.div_le_self (q - threshold k bias) (36 - threshold k bias)
        intro c hc
        rcases List.mem_cons.1 hc with rfl | hc
        · exact isDigitChar_digit (by omega)
        · exact ih _ (by omega) _ c hc

/-- A step that is written in digits is read back, and nothing behind it is touched. -/
theorem step?_digitsOf (bias k w i q : Nat) (rest : List Char) :
    step? bias k w i (digitsOf bias k q ++ rest) = some (i + q * w, rest) := by
  induction q using Nat.strongRecOn generalizing k w i with
  | ind q ih =>
      have hleast := one_le_threshold k bias
      have hmost := threshold_le k bias
      rw [digitsOf]
      split
      next hlast => simp [step?, value?_digit (by omega : q < 36), hlast]
      next hmore =>
        have hmod := Nat.mod_lt (q - threshold k bias) (by omega : 0 < 36 - threshold k bias)
        have hdiv := Nat.div_le_self (q - threshold k bias) (36 - threshold k bias)
        have hparts := Nat.mod_add_div' (q - threshold k bias) (36 - threshold k bias)
        rw [List.cons_append, step?, value?_digit (by omega)]
        dsimp only
        rw [if_neg (by omega), ih _ (by omega)]
        refine congrArg (fun i => some (i, rest)) ?_
        rw [Nat.mul_comm w, ← Nat.mul_assoc, Nat.add_assoc, ← Nat.add_mul]
        congr 2
        omega

/-! ### The codes that are placed -/

/-- Sorting and dropping repetitions leaves codes in their order, each once. -/
theorem pairwise_eraseDups {codes : List Nat} (h : codes.Pairwise (· ≤ ·)) :
    codes.eraseDups.Pairwise (· < ·) := by
  induction hlength : codes.length using Nat.strongRecOn generalizing codes with
  | ind n ih =>
      cases codes with
      | nil => simp
      | cons code codes =>
          obtain ⟨hcode, hcodes⟩ := List.pairwise_cons.1 h
          have hshort := List.length_filter_le (fun b => !b == code) codes
          rw [List.eraseDups_cons, List.pairwise_cons]
          constructor
          · intro b hb
            obtain ⟨hmem, hne⟩ := List.mem_filter.1 (List.mem_eraseDups.1 hb)
            have hle := hcode b hmem
            have hne : b ≠ code := by simpa using hne
            omega
          · refine ih _ ?_ (hcodes.filter _) rfl
            rw [List.length_cons] at hlength
            omega

/-- The codes of the characters beyond ASCII, in their order. -/
def codesOf (label : List Char) : List Nat :=
  ((label.filter (128 ≤ ·.toNat)).map Char.toNat).mergeSort.eraseDups

theorem mem_codesOf {label : List Char} {code : Nat} :
    code ∈ codesOf label ↔ 128 ≤ code ∧ ∃ c ∈ label, c.toNat = code := by
  rw [codesOf, List.mem_eraseDups, List.mem_mergeSort, List.mem_map]
  constructor
  · rintro ⟨c, hc, rfl⟩
    obtain ⟨hmem, hbeyond⟩ := List.mem_filter.1 hc
    exact ⟨by simpa using hbeyond, c, hmem, rfl⟩
  · rintro ⟨hbeyond, c, hmem, rfl⟩
    exact ⟨c, List.mem_filter.2 ⟨hmem, by simpa using hbeyond⟩, rfl⟩

theorem pairwise_codesOf (label : List Char) : (codesOf label).Pairwise (· < ·) := by
  refine pairwise_eraseDups ?_
  have trans : ∀ a b c : Nat, decide (a ≤ b) = true → decide (b ≤ c) = true →
      decide (a ≤ c) = true := by
    intro a b c hab hbc
    simp only [decide_eq_true_eq] at hab hbc ⊢
    omega
  have total : ∀ a b : Nat, (decide (a ≤ b) || decide (b ≤ a)) = true := by
    intro a b
    simp only [Bool.or_eq_true, decide_eq_true_eq]
    omega
  have hsorted := List.pairwise_mergeSort trans total
    ((label.filter (128 ≤ ·.toNat)).map Char.toNat)
  exact hsorted.imp fun hab => by simpa using hab

/-! ### Writer and reader side by side -/

/-- The characters that have been placed while those of code `code` are looked for and the part
`passed` of the label has been passed. -/
def shownSo (code : Nat) (passed left : List Char) : List Char :=
  passed.filter (·.toNat ≤ code) ++ left.filter (·.toNat < code)

/-- A reader that holds the characters placed so far stands at code `n` and index `i`, and from
there the step that the writer has counted leads to where the writer stands. -/
structure Sync (basic code n i : Nat) (passed left : List Char) (w : Writing) : Prop where
  placed : w.placed = (shownSo code passed left).length
  basic_le : basic ≤ w.placed
  code_le : n ≤ code
  reach : n * (w.placed + 1) + i + w.delta =
    code * (w.placed + 1) + (passed.filter (·.toNat ≤ code)).length

/-- Reading what was written between two states leads from the reader's first state to its second,
whatever follows. -/
def ReadsTo (basic : Nat) (shown : List Char) (n i : Nat) (w : Writing) (shown' : List Char)
    (n' i' : Nat) (w' : Writing) : Prop :=
  ∃ written, w'.text = w.text ++ written ∧ (∀ c ∈ written, isDigitChar c = true) ∧
    ∀ rest fuel, (written ++ rest).length < fuel → ∃ fuel', rest.length < fuel' ∧
      steps? shown n i w.bias (w.placed == basic) fuel (written ++ rest) =
        steps? shown' n' i' w'.bias (w'.placed == basic) fuel' rest

theorem ReadsTo.refl (basic : Nat) (shown : List Char) (n i : Nat) (w w' : Writing)
    (htext : w'.text = w.text) (hbias : w'.bias = w.bias) (hplaced : w'.placed = w.placed) :
    ReadsTo basic shown n i w shown n i w' := by
  refine ⟨[], by simp [htext], by simp, fun rest fuel hfuel => ⟨fuel, hfuel, ?_⟩⟩
  rw [hbias, hplaced]
  rfl

theorem ReadsTo.trans {basic n i n' i' n'' i'' : Nat} {shown shown' shown'' : List Char}
    {w w' w'' : Writing} (h : ReadsTo basic shown n i w shown' n' i' w')
    (h' : ReadsTo basic shown' n' i' w' shown'' n'' i'' w'') :
    ReadsTo basic shown n i w shown'' n'' i'' w'' := by
  obtain ⟨written, htext, hdigits, hread⟩ := h
  obtain ⟨written', htext', hdigits', hread'⟩ := h'
  refine ⟨written ++ written', by rw [htext', htext, List.append_assoc], ?_,
    fun rest fuel hfuel => ?_⟩
  · intro c hc
    exact (List.mem_append.1 hc).elim (hdigits c) (hdigits' c)
  rw [List.append_assoc] at hfuel ⊢
  obtain ⟨fuel', hfuel', heq⟩ := hread _ fuel hfuel
  obtain ⟨fuel'', hfuel'', heq'⟩ := hread' rest fuel' hfuel'
  exact ⟨fuel'', hfuel'', heq.trans heq'⟩

variable {basic code n i : Nat} {passed left : List Char} {c : Char} {w : Writing}

theorem digitsOf_eq_cons (bias k q : Nat) : ∃ d digits, digitsOf bias k q = d :: digits := by
  rw [digitsOf]
  split <;> exact ⟨_, _, rfl⟩

theorem insertIdx_length_append (front behind : List Char) (c : Char) :
    (front ++ behind).insertIdx front.length c = front ++ c :: behind := by
  induction front with
  | nil => rfl
  | cons a front ih => exact congrArg (a :: ·) ih

/-- Reading one step that leads to a character of code `code` and index `front.length`. -/
theorem steps?_digitsOf {front behind : List Char} {bias delta fuel : Nat} {first : Bool}
    (hcode : n ≤ c.toNat)
    (hreach : n * ((front ++ behind).length + 1) + i + delta =
      c.toNat * ((front ++ behind).length + 1) + front.length) (rest : List Char) :
    steps? (front ++ behind) n i bias first (fuel + 1) (digitsOf bias 36 delta ++ rest) =
      steps? (front ++ c :: behind) c.toNat (front.length + 1)
        (adapt delta ((front ++ behind).length + 1) first) false fuel rest := by
  obtain ⟨d, digits, hdigits⟩ := digitsOf_eq_cons bias 36 delta
  have hstep := step?_digitsOf bias 36 1 i delta rest
  rw [hdigits, List.cons_append] at hstep ⊢
  rw [Nat.mul_one] at hstep
  have hindex : front.length < (front ++ behind).length + 1 := by
    rw [List.length_append]
    omega
  have hj : i + delta = front.length + ((front ++ behind).length + 1) * (c.toNat - n) := by
    obtain ⟨more, hmore⟩ := Nat.exists_eq_add_of_le hcode
    rw [hmore, Nat.add_mul] at hreach
    rw [hmore, Nat.add_sub_cancel_left, Nat.mul_comm]
    omega
  have hdiv : (i + delta) / ((front ++ behind).length + 1) = c.toNat - n := by
    rw [hj, Nat.add_mul_div_left _ _ (by omega), Nat.div_eq_of_lt hindex, Nat.zero_add]
  have hmod : (i + delta) % ((front ++ behind).length + 1) = front.length := by
    rw [hj, Nat.add_mul_mod_self_left, Nat.mod_eq_of_lt hindex]
  have hscalar := Text.isValidChar_iff.1 c.valid
  rw [steps?, hstep]
  · dsimp only
    rw [hdiv, hmod, Nat.add_sub_cancel' hcode, Char.ofNat_toNat, insertIdx_length_append,
      Nat.add_sub_cancel_left, if_neg (by simpa using hscalar)]
  · exact List.cons_ne_nil _ _

theorem shownSo_snoc_of_le (h : c.toNat ≤ code) :
    shownSo code (passed ++ [c]) left =
      passed.filter (·.toNat ≤ code) ++ c :: left.filter (·.toNat < code) := by
  simp [shownSo, h]

theorem shownSo_cons_of_ge (h : code ≤ c.toNat) :
    shownSo code passed (c :: left) =
      passed.filter (·.toNat ≤ code) ++ left.filter (·.toNat < code) := by
  simp [shownSo, Nat.not_lt.2 h]

/-- A character of the code that is looked for is written and read. -/
theorem Sync.pass_of_eq (h : Sync basic code n i passed (c :: left) w) (hc : c.toNat = code) :
    ∃ i', Sync basic code code i' (passed ++ [c]) left (w.pass basic code c) ∧
      ReadsTo basic (shownSo code passed (c :: left)) n i w
        (shownSo code (passed ++ [c]) left) code i' (w.pass basic code c) := by
  obtain ⟨hplaced, hbasic, hcode, hreach⟩ := h
  rw [shownSo_cons_of_ge (Nat.le_of_eq hc.symm)] at hplaced ⊢
  rw [shownSo_snoc_of_le (Nat.le_of_eq hc)]
  have hpass : w.pass basic code c = ⟨w.text ++ digitsOf w.bias 36 w.delta, 0,
      adapt w.delta (w.placed + 1) (w.placed == basic), w.placed + 1⟩ := by
    simp [Writing.pass, hc]
  rw [hpass]
  refine ⟨(passed.filter (·.toNat ≤ code)).length + 1, ⟨?_, ?_, ?_, ?_⟩,
    digitsOf w.bias 36 w.delta, rfl, isDigitChar_of_mem_digitsOf _ _ _, fun rest fuel hfuel => ?_⟩
  · rw [shownSo_snoc_of_le (Nat.le_of_eq hc), hplaced]
    simp
    omega
  · exact Nat.le_succ_of_le hbasic
  · exact Nat.le_refl _
  · simp [hc]
  · subst hc
    rw [List.length_append] at hfuel
    obtain ⟨fuel, rfl⟩ : ∃ f, fuel = f + 1 := ⟨fuel - 1, by omega⟩
    obtain ⟨d, digits, hdigits⟩ := digitsOf_eq_cons w.bias 36 w.delta
    rw [hdigits, List.length_cons] at hfuel
    refine ⟨fuel, by omega, ?_⟩
    have hnext : (w.placed + 1 == basic) = false := by
      simp only [beq_eq_false_iff_ne]
      omega
    rw [hplaced] at hreach
    rw [steps?_digitsOf hcode hreach, ← hplaced, hnext]

/-- Passing a character keeps writer and reader together. -/
theorem Sync.pass (h : Sync basic code n i passed (c :: left) w) :
    ∃ n' i', Sync basic code n' i' (passed ++ [c]) left (w.pass basic code c) ∧
      ReadsTo basic (shownSo code passed (c :: left)) n i w
        (shownSo code (passed ++ [c]) left) n' i' (w.pass basic code c) := by
  rcases Nat.lt_trichotomy c.toNat code with hc | hc | hc
  · have hpass : w.pass basic code c = { w with delta := w.delta + 1 } := by
      simp [Writing.pass, hc]
    have hshown : shownSo code (passed ++ [c]) left = shownSo code passed (c :: left) := by
      simp [shownSo, hc, Nat.le_of_lt hc]
    obtain ⟨hplaced, hbasic, hcode, hreach⟩ := h
    rw [hpass, hshown]
    refine ⟨n, i, ⟨hshown ▸ hplaced, hbasic, hcode, ?_⟩, .refl _ _ _ _ _ _ rfl rfl rfl⟩
    simp [Nat.le_of_lt hc]
    omega
  · obtain ⟨i', hsync, hreads⟩ := h.pass_of_eq hc
    exact ⟨code, i', hsync, hreads⟩
  · have hpass : w.pass basic code c = w := by
      simp [Writing.pass, Nat.not_lt.2 (Nat.le_of_lt hc), Nat.ne_of_gt hc]
    have hshown : shownSo code (passed ++ [c]) left = shownSo code passed (c :: left) := by
      simp [shownSo, Nat.not_lt.2 (Nat.le_of_lt hc), Nat.not_le.2 hc]
    obtain ⟨hplaced, hbasic, hcode, hreach⟩ := h
    rw [hpass, hshown]
    refine ⟨n, i, ⟨hshown ▸ hplaced, hbasic, hcode, ?_⟩, .refl _ _ _ _ _ _ rfl rfl rfl⟩
    simpa [Nat.not_le.2 hc] using hreach

/-- Passing all that is left of a label keeps writer and reader together. -/
theorem Sync.foldl (h : Sync basic code n i passed left w) :
    ∃ n' i', Sync basic code n' i' (passed ++ left) [] (left.foldl (Writing.pass basic code) w) ∧
      ReadsTo basic (shownSo code passed left) n i w
        (shownSo code (passed ++ left) []) n' i' (left.foldl (Writing.pass basic code) w) := by
  induction left generalizing passed n i w with
  | nil => exact ⟨n, i, by simpa using h, by simpa using .refl _ _ _ _ _ _ rfl rfl rfl⟩
  | cons c left ih =>
      obtain ⟨n₁, i₁, hsync, hreads⟩ := h.pass
      obtain ⟨n₂, i₂, hsync', hreads'⟩ := ih hsync
      rw [List.append_assoc, List.singleton_append] at hsync' hreads'
      exact ⟨n₂, i₂, hsync', hreads.trans hreads'⟩

variable {label : List Char} {next : Nat} {codes : List Nat}

/-- Going on to a later code counts for the whole label at every code in between. -/
theorem Sync.later (h : Sync basic next n i [] label w) (hcode : next ≤ code)
    (hbetween : label.filter (·.toNat < code) = label.filter (·.toNat < next)) :
    Sync basic code n i [] label { w with delta := w.delta + (code - next) * (w.placed + 1) } := by
  obtain ⟨hplaced, hbasic, hle, hreach⟩ := h
  obtain ⟨more, rfl⟩ := Nat.exists_eq_add_of_le hcode
  refine ⟨?_, hbasic, Nat.le_trans hle hcode, ?_⟩
  · simpa [shownSo, hbetween] using hplaced
  · simp only [List.filter_nil, List.length_nil, Nat.add_sub_cancel_left, Nat.add_mul] at hreach ⊢
    omega

theorem shownSo_succ (code : Nat) (label : List Char) :
    shownSo (code + 1) [] label = shownSo code label [] := by
  simp only [shownSo, List.filter_nil, List.nil_append, List.append_nil, Nat.lt_add_one_iff]

/-- The end of a label is the start of the next code. -/
theorem Sync.wrap (h : Sync basic code n i label [] w) :
    Sync basic (code + 1) n i [] label { w with delta := w.delta + 1 } := by
  obtain ⟨hplaced, hbasic, hle, hreach⟩ := h
  refine ⟨shownSo_succ code label ▸ hplaced, hbasic, Nat.le_succ_of_le hle, ?_⟩
  simp only [shownSo, List.filter_nil, List.append_nil] at hplaced
  simp only [List.filter_nil, List.length_nil, Nat.add_mul, Nat.one_mul]
  omega

/-- A reader that stands where the writer starts holds the whole label in the end. -/
theorem Sync.place (h : Sync basic next n i [] label w) (hsorted : codes.Pairwise (· < ·))
    (hleast : ∀ code ∈ codes, next ≤ code)
    (hall : ∀ c ∈ label, next ≤ c.toNat → c.toNat ∈ codes) :
    ∃ n' i', ReadsTo basic (shownSo next [] label) n i w label n' i'
      (place label basic next w codes) := by
  induction codes generalizing next n i w with
  | nil =>
      have hshown : shownSo next [] label = label := by
        simp only [shownSo, List.filter_nil, List.nil_append, List.filter_eq_self]
        intro c hc
        have := hall c hc
        simp at this
        simpa using this
      rw [hshown]
      exact ⟨n, i, .refl _ _ _ _ _ _ rfl rfl rfl⟩
  | cons code codes ih =>
      obtain ⟨hfirst, hrest⟩ := List.pairwise_cons.1 hsorted
      obtain ⟨hcode, hcodes⟩ := List.forall_mem_cons.1 hleast
      have hbetween : label.filter (·.toNat < code) = label.filter (·.toNat < next) := by
        refine List.filter_congr fun c hc => decide_eq_decide.2 ⟨fun hlt => ?_, fun hlt => ?_⟩
        · refine Nat.lt_of_not_le fun hge => ?_
          rcases List.mem_cons.1 (hall c hc hge) with heq | hmem
          · omega
          · have := hfirst _ hmem
            omega
        · omega
      have hstart := ReadsTo.refl basic (shownSo next [] label) n i w
        { w with delta := w.delta + (code - next) * (w.placed + 1) } rfl rfl rfl
      obtain ⟨n₁, i₁, hsync, hreads⟩ := (h.later hcode hbetween).foldl
      have hshown : shownSo code [] label = shownSo next [] label := hbetween
      rw [hshown, List.nil_append] at hreads
      have hwrap := ReadsTo.refl basic (shownSo code label []) n₁ i₁
        (label.foldl (Writing.pass basic code)
          { w with delta := w.delta + (code - next) * (w.placed + 1) }) _ rfl rfl rfl
      obtain ⟨n₂, i₂, hreads'⟩ := ih hsync.wrap hrest hfirst fun c hc hge => by
        rcases List.mem_cons.1 (hall c hc (by omega)) with heq | hmem
        · omega
        · exact hmem
      rw [shownSo_succ] at hreads'
      exact ⟨n₂, i₂, hstart.trans (hreads.trans (hwrap.trans hreads'))⟩

/-! ### Whole labels -/

/-- The part behind the last hyphen, and the part before it. -/
theorem split_at_hyphen (front : List Char) {written : List Char}
    (hdigits : ∀ c ∈ written, isDigitChar c = true) :
    let spelling := (if front.isEmpty then [] else front ++ ['-']) ++ written
    (spelling.reverse.takeWhile (· != '-')).reverse = written ∧
      spelling.take (spelling.length - written.length - 1) = front := by
  have hplain : ∀ c ∈ written.reverse, (c != '-') = true := by
    intro c hc
    have := hdigits c (List.mem_reverse.1 hc)
    rw [bne_iff_ne]
    rintro rfl
    revert this
    decide
  cases front with
  | nil =>
      have htake := List.takeWhile_eq_self_iff.2 hplain
      simp [htake]
  | cons a front =>
      have htake : (written.reverse ++ '-' :: (a :: front).reverse).takeWhile (· != '-') =
          written.reverse := by
        rw [List.takeWhile_append_of_pos hplain, List.takeWhile_cons_of_neg (by simp),
          List.append_nil]
      have hlength : ((a :: front) ++ ['-'] ++ written).length - written.length - 1 =
          (a :: front).length := by
        simp only [List.length_append, List.length_singleton]
        omega
      constructor
      · rw [List.reverse_cons] at htake
        simp [htake]
      · dsimp only [List.isEmpty_cons]
        rw [if_neg Bool.false_ne_true, hlength, List.append_assoc, List.take_left]

/-- What a label is written as, and that it is read back. -/
theorem exists_encode_eq (label : List Char) :
    ∃ written, encode label = (if (label.filter (·.toNat < 128)).isEmpty then []
        else label.filter (·.toNat < 128) ++ ['-']) ++ written ∧
      (∀ c ∈ written, isDigitChar c = true) ∧
      steps? (label.filter (·.toNat < 128)) 128 0 72 true (written.length + 1) written =
        some label := by
  let basic := label.filter (·.toNat < 128)
  let start : Writing := ⟨if basic.isEmpty then [] else basic ++ ['-'], 0, 72, basic.length⟩
  have hsync : Sync basic.length 128 128 0 [] label start :=
    ⟨rfl, Nat.le_refl _, Nat.le_refl _, by simp [start]⟩
  obtain ⟨n, i, written, htext, hdigits, hread⟩ := hsync.place (pairwise_codesOf label)
    (fun code hcode => (mem_codesOf.1 hcode).1)
    fun c hc hbeyond => mem_codesOf.2 ⟨hbeyond, c, hc, rfl⟩
  refine ⟨written, htext, hdigits, ?_⟩
  obtain ⟨fuel, -, hend⟩ := hread [] (written.length + 1) (by simp)
  rw [List.append_nil] at hend
  have hfirst : (start.placed == basic.length) = true := by simp [start]
  rw [hfirst] at hend
  have hdone : ∀ (bias : Nat) (first : Bool) (fuel : Nat),
      steps? label n i bias first fuel [] = some label := by
    intro bias first fuel
    cases fuel <;> rfl
  rw [hdone] at hend
  exact hend

theorem decode_encode (label : List Char) : decode (encode label) = some label := by
  obtain ⟨written, hencode, hdigits, hread⟩ := exists_encode_eq label
  obtain ⟨htail, hhead⟩ := split_at_hyphen (label.filter (·.toNat < 128)) hdigits
  have hascii : (label.filter (·.toNat < 128)).all (·.toNat < 128) = true := by
    simp
  rw [decode, hencode]
  simp only [htail, hhead, hascii, hread]
  rfl

/-! ### Characters of labels and their spellings -/

theorem mem_encode {label : List Char} {c : Char} (h : c ∈ encode label) :
    (c ∈ label ∧ c.toNat < 128) ∨ c = '-' ∨ isDigitChar c = true := by
  obtain ⟨written, hencode, hdigits, -⟩ := exists_encode_eq label
  rw [hencode] at h
  rcases List.mem_append.1 h with h | h
  · split at h
    · simp at h
    · rcases List.mem_append.1 h with h | h
      · exact .inl (by simpa using List.mem_filter.1 h)
      · exact .inr (.inl (List.mem_singleton.1 h))
  · exact .inr (.inr (hdigits c h))

/-- Steps only place characters beyond ASCII. -/
theorem mem_of_steps? {label spelled label' : List Char} {code i bias fuel : Nat} {first : Bool}
    (h : steps? label code i bias first fuel spelled = some label') (hcode : 128 ≤ code)
    {c : Char} (hc : c ∈ label') (hascii : c.toNat < 128) : c ∈ label := by
  fun_induction steps? label code i bias first fuel spelled with
  | case1 =>
      obtain rfl := Option.some.inj h
      exact hc
  | case2 => cases h
  | case3 => cases h
  | case4 => cases h
  | case5 label code i bias first fuel cs hcs j rest hstep count code' hscalar ih =>
      have hbeyond : 128 ≤ code' := Nat.le_add_right_of_le hcode
      have hindex : j % count ≤ label.length := Nat.le_of_lt_succ (Nat.mod_lt j (Nat.succ_pos _))
      rcases (List.mem_insertIdx hindex).1 (ih h hbeyond) with rfl | hmem
      · simp only [Bool.or_eq_true, Bool.and_eq_true, decide_eq_true_eq] at hscalar
        rw [Text.toNat_ofNat (Text.isValidChar_iff.2 hscalar)] at hascii
        omega
      · exact hmem

/-- The ASCII characters of a label stand in its spelling. -/
theorem mem_of_decode {spelling label : List Char} (h : decode spelling = some label) {c : Char}
    (hc : c ∈ label) (hascii : c.toNat < 128) : c ∈ spelling := by
  unfold decode at h
  dsimp only at h
  split at h
  · exact List.mem_of_mem_take (mem_of_steps? h (Nat.le_refl _) hc hascii)
  · cases h

end DomainDeploy.Url.Punycode
