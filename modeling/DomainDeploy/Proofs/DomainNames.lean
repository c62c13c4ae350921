import DomainDeploy.Proofs.Composition
import DomainDeploy.Proofs.Hosts

/-!
# Domain names that have been read

A host that the special schemes have read is read by them as it stands (`Host.ofSpecial_chars`).
Mapping leaves alone what it has mapped, composition does not reach across the dots of a name
(`Text.composed_dot`) and changes nothing the second time, and a label spelled in Punycode stands for
the label that it spells.
-/

namespace DomainDeploy

namespace Text

namespace Composition

/-! ### Composing between dots -/

variable {n : Nat} {marks : List Nat} {base : Option Nat}

theorem combiningClass_dot : combiningClass dot = 0 := by
  rw [combiningClass, CodeTable.value?, areSettled_tables.combining_dot]
  rfl

theorem parts?_dot : parts? dot = none := parts?_eq_none areSettled_tables.dot

theorem source?_eq_none {codes : List Nat} (h : dot ∈ codes) :
    composedTable.source? codes = none := by
  rw [CodeTable.source?, Option.map_eq_none_iff, List.find?_eq_none]
  intro e he hcodes
  obtain rfl : e.codes = codes := by simpa using hcodes
  have hother := of_respects areSettled_tables.of_composed (target?_of_mem he) h
  simp at hother

theorem compose?_dot_left (n : Nat) : compose? dot n = none := by
  rw [compose?_eq, source?_eq_none (by simp), Option.or_none, syllable?,
    if_neg (by simp [jamo, dot]), if_neg (by simp [syllables, dot])]

theorem compose?_dot_right (n : Nat) : compose? n dot = none := by
  rw [compose?_eq, source?_eq_none (by simp), Option.or_none, syllable?,
    if_neg (by simp [jamo, dot]), if_neg (by simp [jamo, dot])]

theorem apart_dot (front behind : List Nat) :
    apart (front ++ dot :: behind) = apart front ++ dot :: apart behind := by
  have hdot : apart [dot] = [dot] := apart_of_areWhole (by simp [AreWhole, parts?_dot])
  rw [List.append_cons, apart_append, apart_append, hdot, List.append_assoc, List.singleton_append]

theorem reorder_dot (front behind : List Nat) :
    reorder marks (front ++ dot :: behind) = reorder marks front ++ dot :: reorder [] behind := by
  induction front generalizing marks with
  | nil => simp [reorder, combiningClass_dot]
  | cons n front ih =>
      rw [List.cons_append, reorder, reorder]
      split
      · rw [ih, List.append_assoc, List.cons_append]
      · exact ih

theorem composeWith_cons {rest : List Nat} (h : base.bind (compose? · n) = none) :
    composeWith base marks (n :: rest) =
      if combiningClass n == 0 then base.toList ++ marks ++ composeWith (some n) [] rest
      else composeWith base (marks ++ [n]) rest := by
  rw [composeWith, h, ite_self]

/-- Nothing composes with a dot in front. -/
theorem composeWith_some_dot (rest : List Nat) :
    composeWith (some dot) marks rest = dot :: composeWith none marks rest := by
  induction rest generalizing marks with
  | nil => simp [composeWith]
  | cons n rest ih =>
      have hapart : (some dot).bind (compose? · n) = none := by
        rw [Option.bind_some, compose?_dot_left]
      rw [composeWith_cons hapart, composeWith_cons (Option.bind_none _), ih]
      split <;> simp

theorem composeWith_dot (front behind : List Nat) :
    composeWith base marks (front ++ dot :: behind) =
      composeWith base marks front ++ dot :: composeWith none [] behind := by
  fun_induction composeWith base marks front with
  | case1 base marks =>
      have hapart : (base.bind (compose? · dot)) = none := by
        cases base with
        | none => rfl
        | some b => rw [Option.bind_some, compose?_dot_right]
      rw [List.nil_append, composeWith_cons hapart, combiningClass_dot]
      simp only [beq_self_eq_true, if_true, composeWith_some_dot]
  | case2 base marks n rest composed hcomposed ih =>
      rw [List.cons_append, composeWith, hcomposed]
      exact ih
  | case3 base marks n rest hapart hbase ih =>
      rw [List.cons_append, composeWith, hapart]
      simp only [hbase, if_true, ih, List.append_assoc]
  | case4 base marks n rest hapart hmark ih =>
      rw [List.cons_append, composeWith, hapart]
      simp only [hmark, ih]
      rfl

theorem normal_dot (front behind : List Nat) :
    normal (front ++ dot :: behind) = normal front ++ dot :: normal behind := by
  rw [normal, apart_dot, reorder_dot, composeWith_dot, normal, normal]

theorem isPassedOn_ne_dot : IsPassedOn (· ≠ dot) := by
  refine .of_tables ?_ ?_ areSettled_tables.of_composed areSettled_tables.of_decomposed ?_ ?_
  · rintro n hn rfl
    rw [mem_letters] at hn
    simp [dot] at hn
  · rintro n hn rfl
    exact absurd (covers_syllableEntry.1 hn).1 (by decide)
  · exact fun n p hp _ => bne_iff_ne.1 (Bool.and_eq_true_iff.1 hp).2
  · intro e he _ hdot
    obtain ⟨hsingle, -⟩ := find?_of_areSingle areSettled_tables.single he
    have hcompound := areSettled_tables.dot
    rw [testBit_compound, ← hdot, CodeTable.testBit_of_covers he (CodeEntry.covers_first hsingle)]
      at hcompound
    simp at hcompound

end Composition

open DomainDeploy.Text.Composition

theorem composed_dot (front behind : List Char) :
    composed (front ++ '.' :: behind) = composed front ++ '.' :: composed behind := by
  have hcodes : (front ++ '.' :: behind).map Char.toNat =
      front.map Char.toNat ++ dot :: behind.map Char.toNat := by simp [dot]
  rw [composed_eq, hcodes, normal_dot, List.map_append, List.map_cons, composed_eq, composed_eq]
  rfl

theorem composed_nil : composed [] = [] := by
  simp [composed, reorder, sortMarks, composeWith]

theorem composed_intercalate (pieces : List (List Char)) :
    composed (['.'].intercalate pieces) = ['.'].intercalate (pieces.map composed) := by
  induction pieces with
  | nil => simp [composed_nil]
  | cons piece pieces ih =>
      cases pieces with
      | nil => simp
      | cons piece' pieces =>
          rw [List.map_cons, List.map_cons, List.intercalate_cons_cons, List.intercalate_cons_cons,
            ← List.map_cons, ← ih, List.append_assoc, List.append_assoc]
          exact composed_dot _ _

/-- What is passed on holds of the codes of a composed text as of those of the text. -/
theorem of_mem_composed {P : Nat → Prop} (hpassed : IsPassedOn P) {cs : List Char}
    (h : ∀ c ∈ cs, P c.toNat) : ∀ c ∈ composed cs, P c.toNat := by
  intro c hc
  have hmem : c.toNat ∈ normal (cs.map Char.toNat) :=
    map_toNat_composed cs ▸ List.mem_map_of_mem hc
  refine hpassed.of_mem_normal (fun n hn => ?_) c.toNat hmem
  obtain ⟨d, hd, rfl⟩ := List.mem_map.1 hn
  exact h d hd

end Text

namespace Url.Domain

open Text Text.Composition

variable {c : Char} {cs name shown piece label : List Char}

/-! ### Pieces between dots -/

theorem splitDots_ne_nil (cs : List Char) : Ipv4.splitDots cs ≠ [] :=
  List.splitOnP_ne_nil (· == '.') cs

theorem ne_dot_of_mem_splitDots (h : piece ∈ Ipv4.splitDots cs) (hc : c ∈ piece) : c ≠ '.' := by
  rintro rfl
  exact not_mem_of_mem_splitOn h hc

theorem splitDots_intercalate {pieces : List (List Char)} (hne : pieces ≠ [])
    (h : ∀ piece ∈ pieces, ∀ c ∈ piece, c ≠ '.') :
    Ipv4.splitDots (['.'].intercalate pieces) = pieces :=
  List.splitOn_intercalate '.' (fun piece hpiece hdot => h piece hpiece '.' hdot rfl) hne

theorem splitDots_composed (cs : List Char) :
    Ipv4.splitDots (composed cs) = (Ipv4.splitDots cs).map composed := by
  have hparts : ['.'].intercalate (Ipv4.splitDots cs) = cs := List.intercalate_splitOn ..
  rw [← hparts, composed_intercalate, hparts]
  refine splitDots_intercalate (by simpa using splitDots_ne_nil cs) fun piece hpiece c hc => ?_
  obtain ⟨source, hsource, rfl⟩ := List.mem_map.1 hpiece
  have hne : c.toNat ≠ dot := by
    refine of_mem_composed isPassedOn_ne_dot (fun d hd hdot => ?_) c hc
    exact ne_dot_of_mem_splitDots hsource hd (Char.toNat_inj.1 hdot)
  rintro rfl
  exact hne rfl

/-! ### Characters that mapping leaves as they are -/

/-- A character that mapping leaves as it is. -/
def IsSettled (c : Char) : Prop := moved.testBit c.toNat = false

theorem isSettled_iff : IsSettled c ↔ mappedTable.bits.testBit c.toNat = false ∧
    ignoredTable.bits.testBit c.toNat = false ∧ disallowedTable.bits.testBit c.toNat = false := by
  rw [IsSettled, moved, movable, Nat.testBit_or, Nat.testBit_or, Bool.or_eq_false_iff,
    Bool.or_eq_false_iff, and_assoc]

/-- Of the ASCII characters, mapping moves the letters in upper case. -/
theorem isSettled_iff_of_isAscii (h : isAscii c = true) : IsSettled c ↔ c.toLower = c := by
  have hlt : c.toNat < 128 := by simpa [isAscii] using h
  have hall := Text.of_ascii (p := fun c => (decide (65 ≤ c.toNat) && decide (c.toNat ≤ 90)) ==
    !(c.toLower == c)) (by decide) hlt
  rw [IsSettled, areFixed_tables.ascii c.toNat hlt, beq_iff_eq.1 hall]
  simp

theorem mapChar?_of_isSettled (h : IsSettled c) : mapChar? c = some [c] := by
  unfold mapChar?
  split
  next hascii => rw [(isSettled_iff_of_isAscii hascii).1 h]
  next =>
    obtain ⟨hmapped, hignored, hdisallowed⟩ := isSettled_iff.1 h
    rw [← CodeTable.testBit_bits, hdisallowed, ← CodeTable.testBit_bits, hignored,
      CodeTable.target?_eq_none.2 hmapped]
    rfl

/-- What a character is mapped to is mapped to itself. -/
theorem isSettled_of_mapChar? (h : mapChar? c = some cs) : ∀ d ∈ cs, IsSettled d := by
  unfold mapChar? at h
  split at h
  next hascii =>
    obtain rfl := Option.some.inj h
    have hlt : c.toNat < 128 := by simpa [isAscii] using hascii
    have hall := Text.of_ascii (p := fun c => isAscii c.toLower && c.toLower.toLower == c.toLower)
      (by decide) hlt
    obtain ⟨hascii, hlower⟩ := Bool.and_eq_true_iff.1 hall
    intro d hd
    rw [List.mem_singleton.1 hd]
    exact (isSettled_iff_of_isAscii hascii).2 (beq_iff_eq.1 hlower)
  next =>
    split at h
    · cases h
    next hallowed =>
      split at h
      · obtain rfl := Option.some.inj h
        simp
      next hcounts =>
        split at h
        next codes hcodes =>
          obtain rfl := Option.some.inj h
          intro d hd
          obtain ⟨p, hp, rfl⟩ := List.mem_map.1 hd
          have hkept := of_respects areFixed_tables.of_mapped hcodes hp
          obtain ⟨hscalar, hstays⟩ := Bool.and_eq_true_iff.1 hkept
          rw [IsSettled, Text.toNat_ofNat (isScalar_iff.1 hscalar)]
          simpa using hstays
        next hnone =>
          obtain rfl := Option.some.inj h
          intro d hd
          rw [List.mem_singleton.1 hd, isSettled_iff, CodeTable.testBit_bits ignoredTable,
            CodeTable.testBit_bits disallowedTable]
          exact ⟨CodeTable.target?_eq_none.1 hnone, by simpa using hcounts, by simpa using hallowed⟩

theorem isPassedOn_isSettled : IsPassedOn fun n => moved.testBit n = false := by
  refine .of_tables areFixed_tables.letters ?_ areFixed_tables.of_composed
    areFixed_tables.of_decomposed (fun n p hp hn => by simpa [hn] using hp) ?_
  · intro n hn
    have hboth := congrArg (Nat.testBit · n) areFixed_tables.syllables
    simpa [Nat.testBit_and, CodeEntry.testBit_bits, hn] using hboth
  · intro e he hcodes
    refine (areFixed_tables.source e he).resolve_left fun hany => ?_
    obtain ⟨p, hp, hmoved⟩ := List.any_eq_true.1 hany
    exact absurd hmoved (by simpa using hcodes p hp)

/-! ### Names that mapping leaves as they are -/

theorem mapped?_of_isSettled (h : ∀ c ∈ cs, IsSettled c) :
    mapped? cs = some (if cs.all isAscii then cs else composed cs) := by
  have hparts : cs.mapM mapChar? = some (cs.map ([·])) := by
    rw [mapM_eq_some, List.forall₂_map_right_iff, List.forall₂_same]
    exact fun c hc => mapChar?_of_isSettled (h c hc)
  have hflat : (cs.map ([·])).flatten = cs := by
    rw [← List.flatMap_def, List.flatMap_singleton']
  have hall : (cs.map ([·])).all (·.all isAscii) = cs.all isAscii := by
    simp [List.all_map, Function.comp_def]
  rw [mapped?, hparts, Option.map_some, hflat, hall]

/-- What a name is mapped to is made of characters that mapping leaves as they are. -/
theorem mapped?_eq_some (h : mapped? name = some shown) : ∃ cs, (∀ c ∈ cs, IsSettled c) ∧
    (cs.all isAscii = true ∧ shown = cs ∨ shown = composed cs) := by
  obtain ⟨parts, hparts, hshown⟩ := Option.map_eq_some_iff.1 h
  refine ⟨parts.flatten, fun c hc => ?_, ?_⟩
  · obtain ⟨part, hpart, hc⟩ := List.mem_flatten.1 hc
    obtain ⟨source, -, hsource⟩ := exists_of_forall₂ (mapM_eq_some.1 hparts) hpart
    exact isSettled_of_mapChar? hsource c hc
  · split at hshown
    next hascii => exact .inl ⟨by rwa [List.all_flatten], hshown.symm⟩
    next => exact .inr hshown.symm

theorem isSettled_of_mapped? (h : mapped? name = some shown) : ∀ c ∈ shown, IsSettled c := by
  obtain ⟨cs, hcs, ⟨-, rfl⟩ | rfl⟩ := mapped?_eq_some h
  · exact hcs
  · exact of_mem_composed isPassedOn_isSettled hcs

/-- The labels of a name that was mapped are left as they are. -/
theorem mapped?_of_mem_splitDots (h : mapped? name = some shown)
    (hpiece : piece ∈ Ipv4.splitDots shown) : mapped? piece = some piece := by
  have hsettled : ∀ c ∈ piece, IsSettled c := fun c hc =>
    isSettled_of_mapped? h c (of_mem_splitDots hpiece hc)
  rw [mapped?_of_isSettled hsettled]
  obtain ⟨cs, -, ⟨hascii, rfl⟩ | rfl⟩ := mapped?_eq_some h
  · have hascii : piece.all isAscii = true := List.all_eq_true.2 fun c hc =>
      List.all_eq_true.1 hascii c (of_mem_splitDots hpiece hc)
    rw [if_pos hascii]
  · rw [splitDots_composed] at hpiece
    obtain ⟨source, -, rfl⟩ := List.mem_map.1 hpiece
    rw [composed_composed, ite_self]

/-! ### Names in ASCII -/

/-- A character that stands in names in ASCII. -/
structure IsNameChar (c : Char) : Prop where
  ascii : isAscii c = true
  settled : IsSettled c
  allowed : isForbidden c = false

theorem isNameChar_of_isPlain (h : isPlain c = true) : IsNameChar c ∧ c ≠ '.' := by
  have hlt := toNat_of_isPlain h
  have hascii : isAscii c = true := by simpa [isAscii] using hlt
  have hall := Text.of_ascii (p := fun c => !isPlain c || (c.toLower == c && c != '.'))
    (by decide) hlt
  obtain ⟨hlower, hdot⟩ : c.toLower = c ∧ c ≠ '.' := by simpa [h] using hall
  exact ⟨⟨hascii, (isSettled_iff_of_isAscii hascii).2 hlower, isForbidden_of_isPlain h⟩, hdot⟩

theorem isNameChar_dot : IsNameChar '.' :=
  ⟨rfl, (isSettled_iff_of_isAscii rfl).2 rfl, rfl⟩

theorem isNameChar_of_isDigit (h : c.isDigit = true) : IsNameChar c := by
  have hlt : c.toNat < 128 := by
    have := Text.toNat_of_isDigit h
    omega
  have hall := Text.of_ascii (p := fun c => !c.isDigit || isPlain c) (by decide) hlt
  exact (isNameChar_of_isPlain (by simpa [h] using hall)).1

theorem decode?_decodeBytes (h : ∀ c ∈ name, c ≠ '%') :
    Text.Utf8.decode? (decodeBytes name) = some (String.ofList name) := by
  have hspelled : encodeWith (· == '%') name = name := by
    refine (List.flatMap_congr fun c hc => ?_).trans (List.flatMap_singleton' name)
    rw [if_neg (by simpa using h c hc)]
  have hdecode := @decode?_decodeBytes_encodeWith (· == '%') rfl (String.ofList name)
  rwa [String.toList_ofList, hspelled] at hdecode

/-- A name in ASCII whose labels stand for labels that they spell is such a name as it stands. -/
theorem toAscii?_of_labels (hname : ∀ c ∈ name, IsNameChar c) {labels : List (List Char)}
    (hlabels : (Ipv4.splitDots name).mapM shown? = some labels) (hvalid : areValid labels = true)
    (hspelled : labels.map labelToAscii = Ipv4.splitDots name) :
    toAscii? (decodeBytes name) = some name := by
  have hallowed : name.any isForbidden = false :=
    List.any_eq_false.2 fun c hc => by simp [(hname c hc).allowed]
  have hpercent : ∀ c ∈ name, c ≠ '%' := by
    rintro c hc rfl
    exact absurd (hname '%' hc).allowed (by decide)
  have hmapped : mapped? name = some name := by
    rw [mapped?_of_isSettled fun c hc => (hname c hc).settled,
      if_pos (List.all_eq_true.2 fun c hc => (hname c hc).ascii)]
  refine toAscii?_eq_some.2 ⟨String.ofList name, name, labels, decode?_decodeBytes hpercent,
    by rwa [String.toList_ofList], hallowed, hlabels, hvalid, ?_⟩
  rw [hspelled, Ipv4.splitDots, List.intercalate_splitOn]

/-- The spelling of a label stands for the label. -/
theorem shown?_labelToAscii (h : shown? piece = some label) (hstays : mapped? piece = some piece) :
    shown? (labelToAscii label) = some label := by
  have hmark (spelling : List Char) : mark.isPrefixOf (mark ++ spelling) = true := by simp
  unfold labelToAscii
  split
  next hascii =>
    rcases shown?_eq_some h with ⟨-, -, hbeyond, -⟩ | ⟨hother, rfl⟩
    · rw [hascii] at hbeyond
      cases hbeyond
    · exact h
  next hbeyond =>
    have hlabel : mapped? label = some label := by
      rcases shown?_eq_some h with ⟨-, -, -, hlabel⟩ | ⟨-, rfl⟩
      · exact hlabel
      · exact hstays
    rw [shown?, if_pos (hmark _), List.drop_left, Punycode.decode_encode]
    have hbeyond : label.all isAscii = false := Bool.eq_false_iff.2 hbeyond
    simp only [Option.bind_eq_bind, Option.bind_some, hbeyond, hlabel, bne_self_eq_false,
      Bool.or_self, Bool.false_eq_true, if_false]

/-- A name that was read is read as it stands. -/
theorem toAscii?_decodeBytes {bytes : List UInt8} (h : toAscii? bytes = some name) :
    toAscii? (decodeBytes name) = some name := by
  have hallowed : ∀ c ∈ name, isForbidden c = false := fun c => isForbidden_of_toAscii? h
  obtain ⟨text, shown, labels, -, hshown, -, hlabels, hvalid, rfl⟩ := toAscii?_eq_some.1 h
  have hread := mapM_eq_some.1 hlabels
  have hlabelChar : ∀ label ∈ labels, ∀ c ∈ labelToAscii label,
      isAscii c = true ∧ IsSettled c ∧ c ≠ '.' := by
    intro label hlabel c hc
    obtain ⟨piece, hpiece, hpieceShown⟩ := exists_of_forall₂ hread hlabel
    rcases mem_labelToAscii hpieceShown hc with ⟨hmem, hascii⟩ | hplain
    · exact ⟨hascii, isSettled_of_mapped? hshown c (of_mem_splitDots hpiece hmem),
        ne_dot_of_mem_splitDots hpiece hmem⟩
    · obtain ⟨hchar, hdot⟩ := isNameChar_of_isPlain hplain
      exact ⟨hchar.ascii, hchar.settled, hdot⟩
  have hpieces : Ipv4.splitDots (['.'].intercalate (labels.map labelToAscii)) =
      labels.map labelToAscii := by
    refine splitDots_intercalate ?_ ?_
    · rw [ne_eq, List.map_eq_nil_iff]
      rintro rfl
      exact splitDots_ne_nil shown (List.forall₂_nil_right_iff.1 hread)
    · intro piece hpiece c hc
      obtain ⟨label, hlabel, rfl⟩ := List.mem_map.1 hpiece
      exact (hlabelChar label hlabel c hc).2.2
  refine toAscii?_of_labels (fun c hc => ?_) ?_ hvalid hpieces.symm
  · have hkept : isAscii c = true ∧ IsSettled c := by
      rcases mem_intercalate hc with hc | ⟨piece, hpiece, hc⟩
      · rw [List.mem_singleton.1 hc]
        exact ⟨rfl, (isSettled_iff_of_isAscii rfl).2 rfl⟩
      · obtain ⟨label, hlabel, rfl⟩ := List.mem_map.1 hpiece
        have hchar := hlabelChar label hlabel c hc
        exact ⟨hchar.1, hchar.2.1⟩
    exact ⟨hkept.1, hkept.2, hallowed c hc⟩
  · rw [hpieces, mapM_eq_some, List.forall₂_map_left_iff, List.forall₂_same]
    intro label hlabel
    obtain ⟨piece, hpiece, hpieceShown⟩ := exists_of_forall₂ hread hlabel
    exact shown?_labelToAscii hpieceShown (mapped?_of_mem_splitDots hshown hpiece)

/-- A name in ASCII none of whose labels is spelled in Punycode is read as it stands. -/
theorem toAscii?_of_isNameChar (hname : ∀ c ∈ name, IsNameChar c)
    (hlabels : ∀ piece ∈ Ipv4.splitDots name, mark.isPrefixOf piece = false) :
    toAscii? (decodeBytes name) = some name := by
  have hascii : ∀ piece ∈ Ipv4.splitDots name, piece.all isAscii = true := fun piece hpiece =>
    List.all_eq_true.2 fun c hc => (hname c (of_mem_splitDots hpiece hc)).ascii
  refine @toAscii?_of_labels name hname (Ipv4.splitDots name) ?_ ?_ ?_
  · rw [mapM_eq_some, List.forall₂_same]
    intro piece hpiece
    rw [shown?, hlabels piece hpiece, if_neg Bool.false_ne_true]
  · rw [areValid, List.all_eq_true.2 hascii, Bool.true_or]
  · refine (List.map_congr_left fun piece hpiece => ?_).trans (List.map_id _)
    rw [labelToAscii, hascii piece hpiece, if_pos rfl, id]

end Url.Domain

/-! ### Hosts -/

namespace Url.Host

variable {text : List Char} {host : Host}

theorem ofBracketed_chars {pieces : List Nat} (h : Ipv6.IsAddress pieces) :
    ofSpecial (ipv6 pieces).chars = .ok (ipv6 pieces) := by
  rw [chars, List.cons_append, ofSpecial, ofBracketed]
  simp [Ipv6.parse_chars h]

theorem ofSpecial_of_toAscii? {name : List Char}
    (h : Domain.toAscii? (decodeBytes text) = some name) (hne : name ≠ []) (hopen : ∀ inside, text ≠ '[' :: inside) :
    ofSpecial text = if Ipv4.endsInNumber name then
      match Ipv4.parse name with
      | some address => .ok (ipv4 address)
      | none => .error .invalidIpv4
    else .ok (domain name) := by
  rw [ofSpecial, h]
  · cases name with
    | nil => exact absurd rfl hne
    | cons c name => rfl
  · exact hopen

/-- An address in print is a name that mapping leaves as it is. -/
theorem toAscii?_toText (address : Nat) :
    Domain.toAscii? (decodeBytes (Ipv4.toText address).toList) =
      some (Ipv4.toText address).toList := by
  refine Domain.toAscii?_of_isNameChar (fun c hc => ?_) fun piece hpiece => ?_
  · rcases Ipv4.isDigit_of_mem_toText hc with rfl | hdigit
    · exact Domain.isNameChar_dot
    · exact Domain.isNameChar_of_isDigit hdigit
  · rw [Ipv4.splitDots_toText] at hpiece
    obtain ⟨byte, -, rfl⟩ := List.mem_map.1 hpiece
    refine Bool.eq_false_iff.2 fun hmark => ?_
    have hx : 'x' ∈ Nat.toDigits 10 byte :=
      (List.isPrefixOf_iff_prefix.1 hmark).subset (by decide)
    exact absurd (Nat.isDigit_of_mem_toDigits (by decide) (by decide) hx) (by decide)

theorem ofSpecial_toText {address : Nat} (h : address < Nat.pow 256 4) :
    ofSpecial (ipv4 address).chars = .ok (ipv4 address) := by
  have hdigits := fun c => @Ipv4.isDigit_of_mem_toText address c
  have hopen : ∀ inside, (Ipv4.toText address).toList ≠ '[' :: inside := by
    intro inside hinside
    exact absurd (hdigits '[' (hinside ▸ List.mem_cons_self)) (by decide)
  have hne : (Ipv4.toText address).toList ≠ [] := by
    simp [Ipv4.toList_toText, Ipv4.bytes, Nat.toDigits_ne_nil]
  rw [chars, ofSpecial_of_toAscii? (toAscii?_toText address) hne hopen,
    if_pos (Ipv4.endsInNumber_toText address), Ipv4.parse_toText h]

/-- A host that was read is read as it stands. -/
theorem ofSpecial_chars (h : ofSpecial text = .ok host) : ofSpecial host.chars = .ok host := by
  unfold ofSpecial at h
  split at h
  · obtain ⟨-, pieces, rfl, hpieces⟩ := isHostText_of_ofBracketed h
    exact ofBracketed_chars hpieces
  · split at h
    · cases h
    · cases h
    next name hname hascii =>
      split at h
      · split at h
        next address haddress =>
          obtain rfl := Except.ok.inj h
          exact ofSpecial_toText (Ipv4.lt_of_parse haddress)
        next => cases h
      next hnumber =>
        obtain rfl := Except.ok.inj h
        have hopen : ∀ inside, name ≠ '[' :: inside := by
          rintro inside rfl
          exact absurd (Domain.isForbidden_of_toAscii? hascii List.mem_cons_self) (by decide)
        rw [chars, ofSpecial_of_toAscii? (Domain.toAscii?_decodeBytes hascii) hname hopen,
          if_neg hnumber]

end Url.Host

end DomainDeploy
