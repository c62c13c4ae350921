import Mathlib.Data.List.Basic
import Mathlib.Tactic.IntervalCases
import DomainDeploy.Proofs.Characters
import DomainDeploy.Url.Percent

/-!
# Texts that can be read back

What is written as UTF-8 is read back as it was (`decode?_encode`, `decodeLenient_encode`), and
nothing else is read (`decode?_eq_some_iff`). What is percent-encoded is read back too, whatever
else is spelled out, as long as `%` is (`decode?_decodeBytes_encodeWith`).
-/

namespace DomainDeploy

/-! ### Bytes of a text -/

namespace Text.Utf8

theorem toList_loop (bs : ByteArray) (i : Nat) (r : List UInt8) :
    ByteArray.toList.loop bs i r = r.reverse ++ bs.data.toList.drop i := by
  fun_induction ByteArray.toList.loop bs i r with
  | case1 i r hlt ih =>
      have hlen : i < bs.data.toList.length := by simpa using hlt
      have hget : bs.get! i = bs.data[i] := by
        have hdata : bs.get! i = bs.data[i]! := by
          cases bs
          rfl
        rw [hdata, getElem!_pos bs.data i hlt]
      rw [ih, List.drop_eq_getElem_cons hlen, hget]
      simp
  | case2 i r hlt =>
      have hlen : bs.data.toList.length ≤ i := by simpa using hlt
      rw [List.drop_eq_nil_of_le hlen]
      simp

theorem encode_eq (s : String) : encode s = s.toList.flatMap String.utf8EncodeChar := by
  have hbytes : s.toUTF8 = s.toList.utf8Encode := by
    rw [String.toUTF8_eq_toByteArray, ← String.toByteArray_ofList, String.ofList_toList]
  rw [encode, hbytes, ByteArray.toList, toList_loop]
  simp [List.utf8Encode]

theorem encode_toString (c : Char) : encode c.toString = String.utf8EncodeChar c := by
  simp [encode_eq]

/-! ### Reading a character back -/

theorem toNat_ofNat_of_lt {n : Nat} (h : n < 256) : (UInt8.ofNat n).toNat = n := by
  rw [UInt8.toNat_ofNat']
  exact Nat.mod_eq_of_lt h

theorem ofNat_inj {m n : Nat} (hm : m < 256) (hn : n < 256) :
    UInt8.ofNat m = UInt8.ofNat n ↔ m = n := by
  rw [← UInt8.toNat_inj, toNat_ofNat_of_lt hm, toNat_ofNat_of_lt hn]

/-- Whether a byte lies between two bounds. -/
theorem between_ofNat {n : Nat} {a b : UInt8} (h : n < 256) :
    (a ≤ UInt8.ofNat n && UInt8.ofNat n ≤ b) = decide (a.toNat ≤ n ∧ n ≤ b.toNat) := by
  simp only [UInt8.le_iff_toNat_le, toNat_ofNat_of_lt h, Bool.decide_and]

theorem isContinuation_ofNat (n : Nat) : isContinuation (UInt8.ofNat (n % 64 + 128)) = true := by
  rw [isContinuation, between_ofNat (by omega), decide_eq_true_eq]
  simp
  omega

theorem payload_ofNat (n : Nat) : payload (UInt8.ofNat (n % 64 + 128)) = n % 64 := by
  rw [payload, toNat_ofNat_of_lt (by omega)]
  omega

/-- The bytes behind a leading one must not start the spelling of a smaller number, of a surrogate
or of a number beyond the last character. -/
theorem secondAllowed_ofNat {l n : Nat} (hl : l < 256) (least : l = 224 → 32 ≤ n % 64)
    (surrogate : l = 237 → n % 64 < 32) (least' : l = 240 → 16 ≤ n % 64)
    (last : l = 244 → n % 64 < 16) :
    secondAllowed (UInt8.ofNat l) (UInt8.ofNat (n % 64 + 128)) = true := by
  have lead {m : Nat} (hm : m < 256) : (UInt8.ofNat l == UInt8.ofNat m) = true ↔ l = m := by
    rw [beq_iff_eq, ofNat_inj hl hm]
  have hn : n % 64 + 128 < 256 := by omega
  unfold secondAllowed
  split
  next h =>
    have hleast := least ((lead (by omega)).1 h)
    rw [between_ofNat hn]
    simp
    omega
  next =>
    split
    next h =>
      have hsurrogate := surrogate ((lead (by omega)).1 h)
      rw [between_ofNat hn]
      simp
      omega
    next =>
      split
      next h =>
        have hleast := least' ((lead (by omega)).1 h)
        rw [between_ofNat hn]
        simp
        omega
      next =>
        split
        next h =>
          have hlast := last ((lead (by omega)).1 h)
          rw [between_ofNat hn]
          simp
          omega
        next => exact isContinuation_ofNat n

variable {v : Nat}

theorem step_one (h : v ≤ 127) (rest : List UInt8) :
    step (UInt8.ofNat v) rest = .char (Char.ofNat v) rest := by
  have hlead : (UInt8.ofNat v).toNat = v := toNat_ofNat_of_lt (by omega)
  have small : UInt8.ofNat v < 0x80 := by
    rw [UInt8.lt_iff_toNat_lt, hlead]
    exact Nat.lt_succ_of_le h
  unfold step
  rw [if_pos small, hlead]

theorem not_lead_lt {l : Nat} (hl : l < 256) (h : 128 ≤ l) : ¬ UInt8.ofNat l < 0x80 := by
  rw [UInt8.lt_iff_toNat_lt, toNat_ofNat_of_lt hl]
  exact Nat.not_lt.2 h

theorem step_two (h : 127 < v) (h' : v ≤ 2047) (rest : List UInt8) :
    step (UInt8.ofNat (v / 64 % 32 + 192)) (UInt8.ofNat (v % 64 + 128) :: rest) =
      .char (Char.ofNat v) rest := by
  have hl : v / 64 % 32 + 192 < 256 := by omega
  have two := between_ofNat (a := 0xC2) (b := 0xDF) hl
  have hvalue : (v / 64 % 32 + 192) % 32 * 64 + v % 64 = v := by omega
  unfold step
  rw [if_neg (not_lead_lt hl (by omega)), if_pos (by rw [two]; simp; omega)]
  simp only [isContinuation_ofNat, if_true, toNat_ofNat_of_lt hl, payload_ofNat, hvalue]

theorem step_three (h : 2047 < v) (h' : v ≤ 65535) (valid : v < 0xD800 ∨ 0xDFFF < v)
    (rest : List UInt8) :
    step (UInt8.ofNat (v / 4096 % 16 + 224))
      (UInt8.ofNat (v / 64 % 64 + 128) :: UInt8.ofNat (v % 64 + 128) :: rest) =
        .char (Char.ofNat v) rest := by
  have hl : v / 4096 % 16 + 224 < 256 := by omega
  have two := between_ofNat (a := 0xC2) (b := 0xDF) hl
  have three := between_ofNat (a := 0xE0) (b := 0xEF) hl
  have second : secondAllowed (UInt8.ofNat (v / 4096 % 16 + 224))
      (UInt8.ofNat (v / 64 % 64 + 128)) = true :=
    secondAllowed_ofNat hl (by omega) (by omega) (by omega) (by omega)
  have hvalue : ((v / 4096 % 16 + 224) % 16 * 64 + v / 64 % 64) * 64 + v % 64 = v := by omega
  unfold step
  rw [if_neg (not_lead_lt hl (by omega)),
    if_neg (by rw [two]; simp),
    if_pos (by rw [three]; simp; omega)]
  simp only [second, Bool.not_true, Bool.false_eq_true, if_false, isContinuation_ofNat, if_true,
    toNat_ofNat_of_lt hl, payload_ofNat, hvalue]

theorem step_four (h : 65535 < v) (h' : v < 0x110000) (rest : List UInt8) :
    step (UInt8.ofNat (v / 262144 % 8 + 240))
      (UInt8.ofNat (v / 4096 % 64 + 128) :: UInt8.ofNat (v / 64 % 64 + 128) ::
        UInt8.ofNat (v % 64 + 128) :: rest) = .char (Char.ofNat v) rest := by
  have hl : v / 262144 % 8 + 240 < 256 := by omega
  have two := between_ofNat (a := 0xC2) (b := 0xDF) hl
  have three := between_ofNat (a := 0xE0) (b := 0xEF) hl
  have four := between_ofNat (a := 0xF0) (b := 0xF4) hl
  have second : secondAllowed (UInt8.ofNat (v / 262144 % 8 + 240))
      (UInt8.ofNat (v / 4096 % 64 + 128)) = true :=
    secondAllowed_ofNat hl (by omega) (by omega) (by omega) (by omega)
  have hvalue : (((v / 262144 % 8 + 240) % 8 * 64 + v / 4096 % 64) * 64 + v / 64 % 64) * 64 +
      v % 64 = v := by omega
  unfold step
  rw [if_neg (not_lead_lt hl (by omega)),
    if_neg (by rw [two]; simp),
    if_neg (by rw [three]; simp),
    if_pos (by rw [four]; simp; omega)]
  simp only [second, Bool.not_true, Bool.false_eq_true, if_false, isContinuation_ofNat, if_true,
    toNat_ofNat_of_lt hl, payload_ofNat, hvalue]

/-- The bytes of a character are read as that character. -/
theorem step_utf8EncodeChar (c : Char) (rest : List UInt8) : ∃ lead tail,
    String.utf8EncodeChar c ++ rest = lead :: tail ∧ step lead tail = .char c rest := by
  have hc : Char.ofNat c.val.toNat = c := Char.ofNat_toNat c
  have valid : c.val.toNat < 0xD800 ∨ 0xDFFF < c.val.toNat ∧ c.val.toNat < 0x110000 := c.valid
  unfold String.utf8EncodeChar
  generalize c.val.toNat = v at hc valid
  subst hc
  simp only
  -- one case for each number of bytes; surrogates can only fall among the numbers of three
  split
  · exact ⟨_, _, rfl, step_one (by omega) rest⟩
  · split
    · exact ⟨_, _, rfl, step_two (by omega) (by omega) rest⟩
    · split
      · exact ⟨_, _, rfl, step_three (by omega) (by omega) (by omega) rest⟩
      · exact ⟨_, _, rfl, step_four (by omega) (by omega) rest⟩

/-! ### Reading a text back -/

theorem decodeFrom_flatMap (offset : Nat) (cs : List Char) :
    decodeFrom offset (cs.flatMap String.utf8EncodeChar) = .ok cs := by
  induction cs generalizing offset with
  | nil => simp [decodeFrom]
  | cons c cs ih =>
      obtain ⟨lead, tail, hbytes, hstep⟩ :=
        step_utf8EncodeChar c (cs.flatMap String.utf8EncodeChar)
      rw [List.flatMap_cons, hbytes, decodeFrom]
      -- the step on the front bytes is known, so the other outcomes do not arise
      split
      next c' rest' h =>
        rw [hstep] at h
        cases h
        rw [ih]
        rfl
      next bad rest' h =>
        rw [hstep] at h
        cases h
      next h =>
        rw [hstep] at h
        cases h

theorem decodeLenientChars_flatMap (cs : List Char) :
    decodeLenientChars (cs.flatMap String.utf8EncodeChar) = cs := by
  induction cs with
  | nil => simp [decodeLenientChars]
  | cons c cs ih =>
      obtain ⟨lead, tail, hbytes, hstep⟩ :=
        step_utf8EncodeChar c (cs.flatMap String.utf8EncodeChar)
      rw [List.flatMap_cons, hbytes, decodeLenientChars]
      split
      next c' rest' h =>
        rw [hstep] at h
        cases h
        rw [ih]
      next bad rest' h =>
        rw [hstep] at h
        cases h
      next h =>
        rw [hstep] at h
        cases h

theorem decode?_encode (s : String) : decode? (encode s) = some s := by
  rw [decode?, decode, encode_eq, decodeFrom_flatMap]
  simp [Except.map, Except.toOption]

theorem decodeLenient_encode (s : String) : decodeLenient (encode s) = s := by
  rw [decodeLenient, encode_eq, decodeLenientChars_flatMap, String.ofList_toList]

/-! ### What is read was written -/

section

variable {lead b : UInt8}

theorem between_iff {l u : UInt8} :
    (l ≤ b && b ≤ u) = true ↔ l.toNat ≤ b.toNat ∧ b.toNat ≤ u.toNat := by
  simp [UInt8.le_iff_toNat_le]

theorem toNat_of_isContinuation (h : isContinuation b = true) : 128 ≤ b.toNat ∧ b.toNat ≤ 191 :=
  between_iff.1 h

/-- A second byte lies between bounds that hang on the leading one. -/
theorem toNat_of_secondAllowed (h : secondAllowed lead b = true) :
    (128 ≤ b.toNat ∧ b.toNat ≤ 191) ∧ (lead.toNat = 224 → 160 ≤ b.toNat) ∧
      (lead.toNat = 237 → b.toNat ≤ 159) ∧ (lead.toNat = 240 → 144 ≤ b.toNat) ∧
      (lead.toNat = 244 → b.toNat ≤ 143) := by
  simp only [secondAllowed, isContinuation, beq_iff_eq, ← UInt8.toNat_inj] at h
  grind [UInt8.le_iff_toNat_le]

theorem utf8EncodeChar_one (h : v ≤ 127) :
    String.utf8EncodeChar (Char.ofNat v) = [UInt8.ofNat v] := by
  have hv : (Char.ofNat v).val.toNat = v := toNat_ofNat (.inl (by omega))
  simp only [String.utf8EncodeChar, hv, if_pos h]

theorem utf8EncodeChar_two (h : 127 < v) (h' : v ≤ 2047) :
    String.utf8EncodeChar (Char.ofNat v) =
      [UInt8.ofNat (v / 64 % 32 + 192), UInt8.ofNat (v % 64 + 128)] := by
  have hv : (Char.ofNat v).val.toNat = v := toNat_ofNat (.inl (by omega))
  simp only [String.utf8EncodeChar, hv]
  rw [if_neg (by omega), if_pos (by omega)]

theorem utf8EncodeChar_three (h : 2047 < v) (h' : v ≤ 65535) (valid : v < 0xD800 ∨ 0xDFFF < v) :
    String.utf8EncodeChar (Char.ofNat v) =
      [UInt8.ofNat (v / 4096 % 16 + 224), UInt8.ofNat (v / 64 % 64 + 128),
        UInt8.ofNat (v % 64 + 128)] := by
  have hv : (Char.ofNat v).val.toNat = v :=
    toNat_ofNat (valid.imp id fun h => ⟨h, by omega⟩)
  simp only [String.utf8EncodeChar, hv]
  rw [if_neg (by omega), if_neg (by omega), if_pos (by omega)]

theorem utf8EncodeChar_four (h : 65535 < v) (h' : v < 0x110000) :
    String.utf8EncodeChar (Char.ofNat v) =
      [UInt8.ofNat (v / 262144 % 8 + 240), UInt8.ofNat (v / 4096 % 64 + 128),
        UInt8.ofNat (v / 64 % 64 + 128), UInt8.ofNat (v % 64 + 128)] := by
  have hv : (Char.ofNat v).val.toNat = v := toNat_ofNat (.inr ⟨by omega, h'⟩)
  simp only [String.utf8EncodeChar, hv]
  rw [if_neg (by omega), if_neg (by omega), if_neg (by omega)]

theorem ofNat_eq {n : Nat} (h : n = b.toNat) : UInt8.ofNat n = b := by
  rw [h, UInt8.ofNat_toNat]

/-- A step that reads a character has read the bytes of that character. -/
theorem eq_append_of_step {rest rest' : List UInt8} {c : Char}
    (h : step lead rest = .char c rest') : lead :: rest = String.utf8EncodeChar c ++ rest' := by
  -- four cases read a character, one for each number of bytes
  revert h
  fun_cases step lead rest <;> intro h <;> cases h
  case case1.refl small =>
    have bound : lead.toNat < 128 := UInt8.lt_iff_toNat_lt.1 small
    rw [utf8EncodeChar_one (by omega), UInt8.ofNat_toNat]
    rfl
  case case3.refl small lead_between b hb =>
    obtain ⟨least, last⟩ : 194 ≤ lead.toNat ∧ lead.toNat ≤ 223 := between_iff.1 lead_between
    have second := toNat_of_isContinuation hb
    rw [payload, utf8EncodeChar_two (by omega) (by omega), ofNat_eq (b := lead) (by omega),
      ofNat_eq (b := b) (by omega)]
    rfl
  case case8.refl small two lead_between b hb c hc =>
    obtain ⟨least, last⟩ : 224 ≤ lead.toNat ∧ lead.toNat ≤ 239 := between_iff.1 lead_between
    obtain ⟨second, second_least, surrogate, -⟩ := toNat_of_secondAllowed (by simpa using hb)
    have third := toNat_of_isContinuation hc
    rw [payload, payload, utf8EncodeChar_three (by omega) (by omega) (by omega),
      ofNat_eq (b := lead) (by omega), ofNat_eq (b := b) (by omega), ofNat_eq (b := c) (by omega)]
    rfl
  case case15.refl small two three lead_between b hb c hc d hd =>
    obtain ⟨least, last⟩ : 240 ≤ lead.toNat ∧ lead.toNat ≤ 244 := between_iff.1 lead_between
    obtain ⟨second, -, -, second_least, second_last⟩ := toNat_of_secondAllowed (by simpa using hb)
    have third := toNat_of_isContinuation (by simpa using hc)
    have fourth := toNat_of_isContinuation hd
    rw [payload, payload, payload, utf8EncodeChar_four (by omega) (by omega),
      ofNat_eq (b := lead) (by omega), ofNat_eq (b := b) (by omega), ofNat_eq (b := c) (by omega),
      ofNat_eq (b := d) (by omega)]
    rfl

theorem eq_flatMap_of_decodeFrom {offset : Nat} {bytes : List UInt8} {cs : List Char}
    (h : decodeFrom offset bytes = .ok cs) : bytes = cs.flatMap String.utf8EncodeChar := by
  fun_induction decodeFrom offset bytes generalizing cs with
  | case1 offset =>
      obtain rfl := Except.ok.inj h
      rfl
  | case2 offset lead rest c rest' hstep shorter ih =>
      cases hrest : decodeFrom (offset + (rest.length + 1 - rest'.length)) rest' with
      | error defect =>
          rw [hrest] at h
          cases h
      | ok cs' =>
          rw [hrest] at h
          obtain rfl := Except.ok.inj h
          rw [eq_append_of_step hstep, ih hrest, List.flatMap_cons]
  | case3 => cases h
  | case4 => cases h

/-- Bytes are read as a text exactly when they are the bytes of that text. -/
theorem decode?_eq_some_iff {bytes : List UInt8} {s : String} :
    decode? bytes = some s ↔ bytes = encode s := by
  constructor
  · intro h
    cases hread : decodeFrom 0 bytes with
    | error defect =>
        rw [decode?, decode, hread] at h
        cases h
    | ok cs =>
        rw [decode?, decode, hread] at h
        obtain rfl := Option.some.inj h
        rw [encode_eq, String.toList_ofList, eq_flatMap_of_decodeFrom hread]
  · rintro rfl
    exact decode?_encode s

/-- A small byte is a character of its own, wherever it stands. -/
theorem eq_ofNat_of_mem_utf8EncodeChar {c : Char} (small : b.toNat < 128)
    (h : b ∈ String.utf8EncodeChar c) : c = Char.ofNat b.toNat := by
  have hc : Char.ofNat c.val.toNat = c := Char.ofNat_toNat c
  unfold String.utf8EncodeChar at h
  generalize c.val.toNat = v at hc h
  have large {n : Nat} (hn : n < 256) (le : 128 ≤ n) : b ≠ UInt8.ofNat n := by
    rintro rfl
    rw [toNat_ofNat_of_lt hn] at small
    omega
  simp only at h
  split at h
  · obtain rfl := List.mem_singleton.1 h
    rw [toNat_ofNat_of_lt (by omega), hc]
  · grind

theorem mem_of_mem_encode {s : String} (small : b.toNat < 128) (h : b ∈ encode s) :
    Char.ofNat b.toNat ∈ s.toList := by
  rw [encode_eq, List.mem_flatMap] at h
  obtain ⟨c, hc, hb⟩ := h
  rwa [← eq_ofNat_of_mem_utf8EncodeChar small hb]

theorem getLast?_of_getLast?_encode {s : String} (small : b.toNat < 128)
    (h : (encode s).getLast? = some b) : s.toList.getLast? = some (Char.ofNat b.toNat) := by
  rw [encode_eq] at h
  obtain empty | ⟨front, c, hlast⟩ := List.eq_nil_or_concat s.toList
  · rw [empty] at h
    cases h
  · rw [List.concat_eq_append] at hlast
    rw [hlast, List.flatMap_append, List.flatMap_singleton] at h
    rw [List.getLast?_append_of_ne_nil _ String.utf8EncodeChar_ne_nil] at h
    have hb : b ∈ String.utf8EncodeChar c := List.mem_of_getLast? h
    rw [hlast, List.getLast?_concat, eq_ofNat_of_mem_utf8EncodeChar small hb]

end

end Text.Utf8

/-! ### Percent encoding -/

namespace Url

open Text.Utf8

theorem hexDigit?_upperHex {n : Nat} (h : n < 16) : hexDigit? (upperHex n) = some n := by
  interval_cases n <;> rfl

/-- What is spelled out is spelled in percent signs and hexadecimal digits. -/
theorem mem_spellChar {c d : Char} (h : c ∈ spellChar d) :
    c = '%' ∨ ∃ n < 16, c = upperHex n := by
  rw [spellChar, List.mem_flatMap] at h
  obtain ⟨byte, -, hc⟩ := h
  have hbyte : byte.toNat < 256 := byte.toNat_lt
  simp only [spellByte, List.mem_cons, List.not_mem_nil, or_false] at hc
  rcases hc with rfl | rfl | rfl
  · exact .inl rfl
  · exact .inr ⟨_, by omega, rfl⟩
  · exact .inr ⟨_, by omega, rfl⟩

/-- What stands in an encoded text is spelled out there, or stood in the text already. -/
theorem mem_encodeWith {set : EncodeSet} {cs : List Char} {c : Char} (h : c ∈ encodeWith set cs) :
    (c = '%' ∨ ∃ n < 16, c = upperHex n) ∨ c ∈ cs ∧ set c = false := by
  obtain ⟨d, hd, hc⟩ := List.mem_flatMap.1 h
  split at hc
  · exact .inl (mem_spellChar hc)
  next hkept =>
    obtain rfl := List.mem_singleton.1 hc
    exact .inr ⟨hd, Bool.eq_false_of_not_eq_true hkept⟩

theorem encodeWith_eq_self {set : EncodeSet} {cs : List Char} (h : ∀ c ∈ cs, set c = false) :
    encodeWith set cs = cs := by
  rw [encodeWith]
  calc cs.flatMap (fun c => if set c then spellChar c else [c])
      = cs.flatMap (fun c => [c]) := List.flatMap_congr fun c hc => by simp [h c hc]
    _ = cs := by simp

theorem decodeBytes_spellByte (b : UInt8) (rest : List Char) :
    decodeBytes (spellByte b ++ rest) = b :: decodeBytes rest := by
  have hb : b.toNat < 256 := b.toNat_lt
  have hvalue : b.toNat / 16 * 16 + b.toNat % 16 = b.toNat := by omega
  rw [spellByte, List.cons_append, List.cons_append, List.cons_append, List.nil_append, decodeBytes,
    hexDigit?_upperHex (by omega), hexDigit?_upperHex (by omega)]
  simp only [hvalue, UInt8.ofNat_toNat]

theorem decodeBytes_flatMap_spellByte (bytes : List UInt8) (rest : List Char) :
    decodeBytes (bytes.flatMap spellByte ++ rest) = bytes ++ decodeBytes rest := by
  induction bytes with
  | nil => simp
  | cons b bytes ih =>
      rw [List.flatMap_cons, List.append_assoc, decodeBytes_spellByte, ih, List.cons_append]

theorem decodeBytes_cons {c : Char} (h : c ≠ '%') (rest : List Char) :
    decodeBytes (c :: rest) = String.utf8EncodeChar c ++ decodeBytes rest := by
  rw [decodeBytes, encode_toString]
  intro a b rest' hc
  exact (h hc).elim

/-- What is spelled out is read back, as long as `%` is spelled out too. -/
theorem decodeBytes_encodeWith {set : EncodeSet} (h : set '%' = true) (cs : List Char) :
    decodeBytes (encodeWith set cs) = cs.flatMap String.utf8EncodeChar := by
  induction cs with
  | nil => simp [encodeWith, decodeBytes]
  | cons c cs ih =>
      have hcons : encodeWith set (c :: cs) =
          (if set c then spellChar c else [c]) ++ encodeWith set cs := by simp [encodeWith]
      rw [hcons, List.flatMap_cons]
      split
      · rw [spellChar, decodeBytes_flatMap_spellByte, encode_toString, ih]
      · have other : c ≠ '%' := by
          rintro rfl
          contradiction
        rw [List.singleton_append, decodeBytes_cons other, ih]

theorem decode?_decodeBytes_encodeWith {set : EncodeSet} (h : set '%' = true) (s : String) :
    decode? (decodeBytes (encodeWith set s.toList)) = some s := by
  rw [decodeBytes_encodeWith h, ← encode_eq, decode?_encode]

end Url

end DomainDeploy
