import DomainDeploy.Proofs.Parts
import DomainDeploy.Url.Host.Ipv4
import DomainDeploy.Url.Host.Ipv6

/-!
# Addresses in print

What is printed of an address reads as the address (`Ipv4.parse_toText`, `Ipv6.parse_chars`),
whichever of its spellings the address was read from.
-/

namespace DomainDeploy.Url

/-! ### Four bytes -/

namespace Ipv4

/-- The bytes of an address, the first one first. -/
def bytes (address : Nat) : List Nat := [3, 2, 1, 0].map fun i => address / Nat.pow 256 i % 256

variable {address : Nat}

theorem lt_of_mem_bytes {byte : Nat} (h : byte ∈ bytes address) : byte < 256 := by
  obtain ⟨i, -, rfl⟩ := List.mem_map.1 h
  exact Nat.mod_lt _ (by decide)

theorem toList_toText (address : Nat) :
    (toText address).toList = ['.'].intercalate ((bytes address).map (Nat.toDigits 10)) := by
  simp [toText, bytes]

theorem splitDots_toText (address : Nat) :
    splitDots (toText address).toList = (bytes address).map (Nat.toDigits 10) := by
  rw [toList_toText, splitDots, List.splitOn_intercalate]
  · intro digits hdigits
    obtain ⟨byte, -, rfl⟩ := List.mem_map.1 hdigits
    intro hdot
    exact absurd (Nat.isDigit_of_mem_toDigits (by decide) (by decide) hdot) (by decide)
  · simp [bytes]

theorem isDigit_of_mem_toText {c : Char} (h : c ∈ (toText address).toList) :
    c = '.' ∨ c.isDigit = true := by
  rw [toList_toText] at h
  rcases mem_intercalate h with h | ⟨digits, hdigits, hc⟩
  · exact .inl (List.mem_singleton.1 h)
  · obtain ⟨byte, -, rfl⟩ := List.mem_map.1 hdigits
    exact .inr (Nat.isDigit_of_mem_toDigits (by decide) (by decide) hc)

theorem part?_toDigits {byte : Nat} (h : byte < 256) :
    part? (Nat.toDigits 10 byte) = some byte := by
  have hall : ∀ byte < 256, part? (Nat.toDigits 10 byte) = some byte := by decide +kernel
  exact hall byte h

theorem foldr_weights (weight : Nat → Nat) (a b c last : Nat) :
    [a, b, c].zipIdx.foldr (fun (n, i) rest => n * weight (3 - i) + rest) last =
      a * weight 3 + (b * weight 2 + (c * weight 1 + last)) := rfl

theorem combine_bytes (h : address < Nat.pow 256 4) :
    combine (bytes address).dropLast (address % 256) = address := by
  have h₀ := Nat.mod_add_div' address 256
  have h₁ := Nat.mod_add_div' (address / 256) 256
  have h₂ := Nat.mod_add_div' (address / 65536) 256
  have hfirst : address / 16777216 % 256 = address / 16777216 := by
    refine Nat.mod_eq_of_lt (Nat.div_lt_of_lt_mul ?_)
    simpa using h
  have hvalue := foldr_weights (Nat.pow 256) (address / 16777216 % 256) (address / 65536 % 256)
    (address / 256 % 256) (address % 256)
  have hbytes : (bytes address).dropLast =
      [address / 16777216 % 256, address / 65536 % 256, address / 256 % 256] := by simp [bytes]
  simp only [Nat.div_div_eq_div_mul, Nat.reduceMul] at h₁ h₂
  rw [combine, hbytes, hvalue, hfirst]
  simp only [Nat.pow_eq, Nat.reducePow]
  -- without the quotients the equation is linear
  generalize address / 16777216 = a at *
  generalize address / 65536 = b at *
  generalize address / 256 = c at *
  generalize address % 256 = d, b % 256 = e, c % 256 = f at *
  omega

theorem mapM_part? (address : Nat) :
    ((bytes address).map (Nat.toDigits 10)).mapM part? = some (bytes address) := by
  rw [mapM_eq_some, List.forall₂_map_left_iff, List.forall₂_same]
  exact fun byte hbyte => part?_toDigits (lt_of_mem_bytes hbyte)

theorem parse_toText (h : address < Nat.pow 256 4) :
    parse (toText address).toList = some address := by
  have hlast : ((bytes address).map (Nat.toDigits 10)).getLast? ≠ some [] := by
    simp [bytes, Nat.toDigits_ne_nil]
  have hleading : (bytes address).dropLast.any (255 < ·) = false := by
    rw [List.any_eq_false]
    intro n hn
    have := lt_of_mem_bytes (List.dropLast_subset _ hn)
    simp
    omega
  have hbyte : (bytes address).getLast? = some (address % 256) := by simp [bytes]
  have hlength : (bytes address).dropLast.length = 3 := by simp [bytes]
  have hfits : ¬Nat.pow 256 (4 - 3) ≤ address % 256 := by
    have := Nat.mod_lt address (by decide : 0 < 256)
    simp
    omega
  unfold parse
  simp only [splitDots_toText, beq_iff_eq, hlast, if_false, mapM_part?, Option.bind_eq_bind,
    Option.bind_some, hbyte, hlength, hleading, combine_bytes h]
  simp [bytes]
  omega

/-- The last part of an address that is printed is a number. -/
theorem endsInNumber_toText (address : Nat) : endsInNumber (toText address).toList = true := by
  have hdigits : (Nat.toDigits 10 (address % 256)).all Char.isDigit = true :=
    List.all_eq_true.2 fun c hc => Nat.isDigit_of_mem_toDigits (by decide) (by decide) hc
  have hparts : ((bytes address).map (Nat.toDigits 10)).reverse =
      Nat.toDigits 10 (address % 256) ::
        ((bytes address).dropLast.map (Nat.toDigits 10)).reverse := by
    simp [bytes]
  obtain ⟨d, digits, hd⟩ :=
    List.exists_cons_of_ne_nil (Nat.toDigits_ne_nil (b := 10) (n := address % 256))
  rw [hd] at hdigits hparts
  unfold endsInNumber
  rw [splitDots_toText, hparts]
  dsimp only
  rw [hdigits]
  rfl

/-- Bytes in front of a number that fits behind them make up a number that fits. -/
theorem foldr_weights_lt {leading : List Nat} {i last : Nat} (hlength : i + leading.length < 4)
    (hleading : ∀ n ∈ leading, n < 256) (hlast : last < Nat.pow 256 (4 - i - leading.length)) :
    (leading.zipIdx i).foldr (fun (n, i) rest => n * Nat.pow 256 (3 - i) + rest) last <
      Nat.pow 256 (4 - i) := by
  induction leading generalizing i with
  | nil => exact hlast
  | cons n leading ih =>
      obtain ⟨hn, hleading⟩ := List.forall_mem_cons.1 hleading
      rw [List.length_cons] at hlength hlast
      have hrest := ih (i := i + 1) (by omega) hleading (by
        rwa [show 4 - (i + 1) - leading.length = 4 - i - (leading.length + 1) by omega])
      rw [List.zipIdx_cons, List.foldr_cons]
      dsimp only
      rw [show 4 - (i + 1) = 3 - i by omega] at hrest
      rw [show 4 - i = 3 - i + 1 by omega]
      change _ < Nat.pow 256 (3 - i) * 256
      have hshare : n * Nat.pow 256 (3 - i) ≤ 255 * Nat.pow 256 (3 - i) :=
        Nat.mul_le_mul_right _ (by omega)
      generalize (leading.zipIdx (i + 1)).foldr _ last = rest at *
      generalize n * Nat.pow 256 (3 - i) = share at *
      omega

theorem combine_lt {leading : List Nat} {last : Nat} (hlength : leading.length < 4)
    (hleading : ∀ n ∈ leading, n < 256) (hlast : last < Nat.pow 256 (4 - leading.length)) :
    combine leading last < Nat.pow 256 4 :=
  foldr_weights_lt (i := 0) (by omega) hleading hlast

theorem lt_of_parse {domain : List Char} (h : parse domain = some address) :
    address < Nat.pow 256 4 := by
  unfold parse at h
  dsimp only at h
  generalize (if (splitDots domain).getLast? == some [] then _ else _ : List (List Char)) = parts
    at h
  split at h
  · cases h
  next hparts =>
    simp only [Option.bind_eq_bind, Option.bind_eq_some_iff] at h
    obtain ⟨numbers, hnumbers, last, hlast, h⟩ := h
    split at h
    · cases h
    next hfits =>
      obtain rfl := Option.some.inj h
      rw [(mapM_eq_some.1 hnumbers).length_eq] at hparts
      simp only [Bool.or_eq_true, decide_eq_true_eq, List.any_eq_true, not_or, not_exists,
        not_and, Nat.not_le, Nat.not_lt] at hfits
      have hne : numbers.length ≠ 0 := by
        rintro hzero
        simp [List.length_eq_zero_iff.1 hzero] at hlast
      refine combine_lt ?_ (fun n hn => Nat.lt_succ_of_le (hfits.2 n hn)) hfits.1
      rw [List.length_dropLast]
      omega

end Ipv4

/-! ### Eight pieces -/

theorem hexDigit?_digitChar {d : Nat} (h : d < 16) : hexDigit? d.digitChar = some d := by
  have hall : ∀ d < 16, hexDigit? d.digitChar = some d := by decide
  exact hall d h

theorem lt_of_hexDigit? {c : Char} {d : Nat} (h : hexDigit? c = some d) : d < 16 := by
  unfold hexDigit? at h
  simp only [Bool.and_eq_true, decide_eq_true_eq, Char.le_def, UInt32.le_iff_toNat_le,
    Char.toNat_val] at h
  split at h
  next hbounds =>
    obtain rfl := Option.some.inj h
    have := hbounds.2
    simp at this
    omega
  next =>
    split at h
    next hbounds =>
      obtain rfl := Option.some.inj h
      have := hbounds.2
      simp at this
      omega
    next =>
      split at h
      next hbounds =>
        obtain rfl := Option.some.inj h
        have := hbounds.2
        simp at this
        omega
      next => cases h

namespace Ipv6

/-- Digits are read up to the limit, and what stands before them counts for more. -/
theorem hexPrefix_toDigits_append (n limit value : Nat) (rest : List Char)
    (h : (Nat.toDigits 16 n).length ≤ limit) :
    hexPrefix limit value (Nat.toDigits 16 n ++ rest) =
      hexPrefix (limit - (Nat.toDigits 16 n).length)
        (value * Nat.pow 16 (Nat.toDigits 16 n).length + n) rest := by
  induction n using Nat.strongRecOn generalizing limit rest with
  | ind n ih =>
      by_cases hn : n < 16
      · rw [Nat.toDigits_of_lt_base hn] at h ⊢
        obtain ⟨limit, rfl⟩ : ∃ l, limit = l + 1 := ⟨limit - 1, by simp at h; omega⟩
        simp [hexPrefix, hexDigit?_digitChar hn]
      · have hparts := Nat.toDigits_of_base_le (by decide : 1 < 16) (Nat.not_lt.1 hn)
        have hmod := Nat.mod_lt n (by decide : 0 < 16)
        have hdiv := Nat.mod_add_div' n 16
        rw [hparts, List.length_append, List.length_singleton] at h ⊢
        obtain ⟨more, rfl⟩ : ∃ m, limit = (Nat.toDigits 16 (n / 16)).length + 1 + m :=
          ⟨limit - _, (Nat.add_sub_cancel' h).symm⟩
        rw [List.append_assoc, ih _ (by omega) _ _ (by omega), List.singleton_append,
          show (Nat.toDigits 16 (n / 16)).length + 1 + more - (Nat.toDigits 16 (n / 16)).length =
            more + 1 by omega, hexPrefix]
        simp only [hexDigit?_digitChar hmod]
        have hpow (k : Nat) : Nat.pow 16 (k + 1) = Nat.pow 16 k * 16 := rfl
        rw [Nat.add_sub_cancel_left, hpow]
        congr 1
        rw [Nat.add_mul, Nat.mul_assoc]
        omega

/-- A piece ends where the text ends or where a colon stands. -/
theorem hexPrefix_toDigits {n : Nat} (h : n < 65536) {rest : List Char}
    (hrest : ∀ c ∈ rest.head?, c = ':') :
    hexPrefix 4 0 (Nat.toDigits 16 n ++ rest) = (n, rest) := by
  have hlength := (Nat.length_toDigits_le_iff (b := 16) (k := 4) (by decide) (by decide)).2 h
  rw [hexPrefix_toDigits_append n 4 0 rest hlength, Nat.zero_mul, Nat.zero_add]
  cases rest with
  | nil => simp [hexPrefix]
  | cons c rest =>
      obtain rfl : c = ':' := hrest c rfl
      cases 4 - (Nat.toDigits 16 n).length <;> rfl

/-! #### What is read is an address -/

theorem hexPrefix_lt (limit value : Nat) (cs : List Char) :
    (hexPrefix limit value cs).1 < (value + 1) * Nat.pow 16 limit := by
  fun_induction hexPrefix limit value cs with
  | case1 limit value => exact Nat.le_mul_of_pos_right _ (Nat.pow_pos (by decide))
  | case2 value c rest => simp
  | case3 value c rest limit d hd ih =>
      have hlt := lt_of_hexDigit? hd
      have hpow : Nat.pow 16 (limit + 1) = Nat.pow 16 limit * 16 := rfl
      rw [hpow, Nat.mul_comm (Nat.pow 16 limit), ← Nat.mul_assoc]
      exact Nat.lt_of_lt_of_le ih (Nat.mul_le_mul_right _ (by omega))
  | case4 value c rest limit =>
      exact Nat.le_mul_of_pos_right _ (Nat.pow_pos (by decide))

theorem decimalByte_le {seen : Option Nat} {cs rest : List Char} {n : Nat}
    (h : decimalByte seen cs = some (n, rest)) (hseen : ∀ n ∈ seen, n ≤ 255) : n ≤ 255 := by
  fun_induction decimalByte seen cs with
  | case1 seen =>
      obtain ⟨m, hm, heq⟩ := Option.map_eq_some_iff.1 h
      obtain ⟨rfl, -⟩ := Prod.mk.inj heq
      exact hseen m hm
  | case2 c rest' hdigit ih =>
      refine ih h fun n hn => ?_
      obtain rfl := Option.some.inj hn
      have := (Char.isDigit_iff_toNat.1 hdigit).2
      simp at this
      omega
  | case3 => cases h
  | case4 => cases h
  | case5 c rest' hdigit n₀ hne n' hle ih =>
      refine ih h fun n hn => ?_
      obtain rfl := Option.some.inj hn
      omega
  | case6 seen c rest' hdigit =>
      obtain ⟨m, hm, heq⟩ := Option.map_eq_some_iff.1 h
      obtain ⟨rfl, -⟩ := Prod.mk.inj heq
      exact hseen m hm

theorem embedded_lt {cs : List Char} {tail : List Nat} (h : embedded cs = some tail) :
    ∀ n ∈ tail, n < 65536 := by
  unfold embedded at h
  have hpair {a b : Nat × List Char} {cs cs' : List Char} (ha : decimalByte none cs = some a)
      (hb : decimalByte none cs' = some b) : a.1 * 256 + b.1 < 65536 := by
    have := decimalByte_le ha (by simp)
    have := decimalByte_le hb (by simp)
    omega
  simp only [Option.bind_eq_bind, Option.bind_eq_some_iff] at h
  obtain ⟨a, ha, h⟩ := h
  split at h
  next =>
    obtain ⟨b, hb, h⟩ := Option.bind_eq_some_iff.1 h
    split at h
    next =>
      obtain ⟨c, hc, h⟩ := Option.bind_eq_some_iff.1 h
      split at h
      next =>
        obtain ⟨d, hd, h⟩ := Option.bind_eq_some_iff.1 h
        split at h
        next =>
          obtain rfl := Option.some.inj h
          simp [hpair ha hb, hpair hc hd]
        next => cases h
      next => cases h
    next => cases h
  next => cases h

/-- A number of four digits may follow the pieces that have been read. -/
theorem append_hexPrefix_lt {pieces : List Nat} {cs rest : List Char} {value : Nat}
    (hpieces : ∀ n ∈ pieces, n < 65536) (hhex : hexPrefix 4 0 cs = (value, rest)) :
    ∀ n ∈ pieces ++ [value], n < 65536 := by
  have hvalue := hexPrefix_lt 4 0 cs
  rw [hhex] at hvalue
  intro n hn
  rcases List.mem_append.1 hn with hn | hn
  · exact hpieces n hn
  · obtain rfl := List.mem_singleton.1 hn
    simpa using hvalue

theorem piecesFrom_lt {count fuel : Nat} {p p' : Partial} {cs : List Char}
    (h : piecesFrom count p fuel cs = some p') (hp : ∀ n ∈ p.pieces, n < 65536) :
    ∀ n ∈ p'.pieces, n < 65536 := by
  fun_induction piecesFrom count p fuel cs with
  | case1 =>
      obtain rfl := Option.some.inj h
      exact hp
  | case2 => cases h
  | case3 => cases h
  | case4 => cases h
  | case5 count p fuel hcount rest hgap hcs ih => exact ih h hp
  | case6 count p fuel cs hcs hcount value hcolon hhex =>
      simp only [hhex] at h
      obtain rfl := Option.some.inj h
      exact append_hexPrefix_lt hp hhex
  | case7 count p fuel cs hcs hcount value rest hcolon hhex hlate =>
      simp only [hhex, hlate, if_true] at h
      cases h
  | case8 count p fuel cs hcs hcount value rest hcolon hhex hlate =>
      simp only [hhex, hlate] at h
      obtain ⟨tail, htail, rfl⟩ := Option.map_eq_some_iff.1 h
      intro n hn
      exact (List.mem_append.1 hn).elim (hp n) (embedded_lt htail n)
  | case9 count p fuel cs hcs hcount value rest hempty hcolon hhex =>
      simp only [hhex, hempty, if_true] at h
      cases h
  | case10 count p fuel cs hcs hcount value rest hmore hcolon hhex ih =>
      simp only [hhex, hmore] at h ih
      exact ih h (append_hexPrefix_lt hp hhex)
  | case11 count p fuel cs hcs hcount value rest hhex hcolon hend hdot hmore =>
      rw [hhex] at h
      split at h
      next heq => exact absurd heq hend
      next heq => exact absurd heq (hdot _)
      next heq => exact absurd heq (hmore _)
      next => cases h

/-- What is read of a text, before the gap is filled. -/
def start : List Char → Option Partial
  | ':' :: ':' :: rest => piecesFrom 1 ⟨[], some 0⟩ (rest.length + 1) rest
  | ':' :: _ => none
  | cs => piecesFrom 0 ⟨[], none⟩ (cs.length + 1) cs

/-- The pieces with zeros in the gap, if these make an address. -/
def Partial.filled? (p : Partial) : Option (List Nat) :=
  match p.gap with
  | none => if p.pieces.length == 8 then some p.pieces else none
  | some at_ =>
    if 8 < p.pieces.length + 1 then none
    else some (p.pieces.take at_ ++ List.replicate (8 - p.pieces.length) 0 ++ p.pieces.drop at_)

theorem parse_eq (cs : List Char) :
    parse cs = if cs.length < 2 then none else (start cs).bind Partial.filled? := by
  unfold parse
  split
  · rfl
  · split
    next => rfl
    next hsingle _ =>
      rw [start]
      · rfl
      · exact hsingle
    next hdouble hsingle =>
      rw [start]
      · rfl
      · exact hdouble
      · exact hsingle

/-- Eight pieces of 16 bits. -/
structure IsAddress (pieces : List Nat) : Prop where
  length : pieces.length = 8
  lt : ∀ n ∈ pieces, n < 65536

theorem isAddress_of_filled? {p : Partial} {pieces : List Nat} (h : p.filled? = some pieces)
    (hlt : ∀ n ∈ p.pieces, n < 65536) : IsAddress pieces := by
  unfold Partial.filled? at h
  split at h
  · split at h
    next height =>
      obtain rfl := Option.some.inj h
      exact ⟨by simpa using height, hlt⟩
    next => cases h
  · split at h
    · cases h
    next hroom =>
      obtain rfl := Option.some.inj h
      refine ⟨?_, fun n hn => ?_⟩
      · simp
        omega
      · simp only [List.mem_append, List.mem_replicate] at hn
        rcases hn with (hn | hn) | hn
        · exact hlt n (List.mem_of_mem_take hn)
        · omega
        · exact hlt n (List.mem_of_mem_drop hn)

theorem isAddress_of_parse {cs : List Char} {pieces : List Nat} (h : parse cs = some pieces) :
    IsAddress pieces := by
  rw [parse_eq] at h
  split at h
  · cases h
  · obtain ⟨p, hp, hfilled⟩ := Option.bind_eq_some_iff.1 h
    refine isAddress_of_filled? hfilled ?_
    unfold start at hp
    split at hp
    · exact piecesFrom_lt hp (by simp)
    · cases hp
    · exact piecesFrom_lt hp (by simp)

/-! #### What is printed is read back -/

theorem joinPieces_eq (pieces : List Nat) :
    joinPieces pieces = [':'].intercalate (pieces.map (Nat.toDigits 16)) := by
  simp [joinPieces, String.toList_intercalate, Function.comp_def]

@[simp] theorem joinPieces_nil : joinPieces [] = [] := rfl

@[simp] theorem joinPieces_singleton (n : Nat) : joinPieces [n] = Nat.toDigits 16 n := by
  simp [joinPieces_eq]

@[simp] theorem joinPieces_cons_cons (n m : Nat) (pieces : List Nat) :
    joinPieces (n :: m :: pieces) = Nat.toDigits 16 n ++ ':' :: joinPieces (m :: pieces) := by
  simp [joinPieces_eq]

theorem isHexDigit_of_mem_toDigits {n : Nat} {c : Char} (h : c ∈ Nat.toDigits 16 n) :
    (hexDigit? c).isSome = true := by
  induction n using Nat.strongRecOn with
  | ind n ih =>
      by_cases hn : n < 16
      · rw [Nat.toDigits_of_lt_base hn, List.mem_singleton] at h
        rw [h, hexDigit?_digitChar hn]
        rfl
      · rw [Nat.toDigits_of_base_le (by decide) (Nat.not_lt.1 hn)] at h
        rcases List.mem_append.1 h with h | h
        · exact ih (n / 16) (by omega) h
        · rw [List.mem_singleton.1 h, hexDigit?_digitChar (Nat.mod_lt n (by decide))]
          rfl

theorem isHexDigit_of_mem_joinPieces {pieces : List Nat} {c : Char} (h : c ∈ joinPieces pieces) :
    c = ':' ∨ (hexDigit? c).isSome = true := by
  rw [joinPieces_eq] at h
  rcases mem_intercalate h with h | ⟨digits, hdigits, hc⟩
  · exact .inl (List.mem_singleton.1 h)
  · obtain ⟨n, -, rfl⟩ := List.mem_map.1 hdigits
    exact .inr (isHexDigit_of_mem_toDigits hc)

theorem isHexDigit_of_mem_chars {pieces : List Nat} {c : Char} (h : c ∈ chars pieces) :
    c = ':' ∨ (hexDigit? c).isSome = true := by
  unfold chars at h
  dsimp only at h
  split at h
  · exact isHexDigit_of_mem_joinPieces h
  · simp only [List.mem_append, List.mem_cons, List.not_mem_nil, or_false] at h
    rcases h with (h | h | h) | h
    · exact isHexDigit_of_mem_joinPieces h
    · exact .inl h
    · exact .inl h
    · exact isHexDigit_of_mem_joinPieces h

section

variable {n : Nat} {ps : List Nat} {count fuel : Nat} {p : Partial} {rest : List Char}

/-- Digits of a piece do not start with a colon. -/
theorem exists_toDigits_eq_cons (n : Nat) :
    ∃ d digits, Nat.toDigits 16 n = d :: digits ∧ d ≠ ':' := by
  induction n using Nat.strongRecOn with
  | ind n ih =>
      by_cases hn : n < 16
      · refine ⟨n.digitChar, [], Nat.toDigits_of_lt_base hn, fun hcolon => ?_⟩
        have hdigit := hexDigit?_digitChar hn
        rw [hcolon] at hdigit
        cases hdigit
      · obtain ⟨d, digits, hd, hcolon⟩ := ih (n / 16) (by omega)
        refine ⟨d, digits ++ [(n % 16).digitChar], ?_, hcolon⟩
        rw [Nat.toDigits_of_base_le (by decide) (Nat.not_lt.1 hn), hd, List.cons_append]

theorem piecesFrom_last (hn : n < 65536) (hcount : count ≠ 8) :
    piecesFrom count p (fuel + 1) (Nat.toDigits 16 n) =
      some { p with pieces := p.pieces ++ [n] } := by
  have hhex : hexPrefix 4 0 (Nat.toDigits 16 n ++ []) = (n, []) := hexPrefix_toDigits hn (by simp)
  obtain ⟨d, digits, hd, hcolon⟩ := exists_toDigits_eq_cons n
  rw [List.append_nil] at hhex
  rw [hd] at hhex ⊢
  rw [piecesFrom, if_neg (by simpa using hcount), hhex]
  · simp
  · exact fun rest heq => hcolon (List.cons.inj heq).1

theorem piecesFrom_cons (hn : n < 65536) (hcount : count ≠ 8) (hrest : rest ≠ []) :
    piecesFrom count p (fuel + 1) (Nat.toDigits 16 n ++ ':' :: rest) =
      piecesFrom (count + 1) { p with pieces := p.pieces ++ [n] } fuel rest := by
  have hhex : hexPrefix 4 0 (Nat.toDigits 16 n ++ ':' :: rest) = (n, ':' :: rest) :=
    hexPrefix_toDigits hn (by simp)
  obtain ⟨d, digits, hd, hcolon⟩ := exists_toDigits_eq_cons n
  rw [hd, List.cons_append] at hhex ⊢
  rw [piecesFrom, if_neg (by simpa using hcount), hhex]
  · simp [hrest]
  · simp
  · exact fun rest heq => hcolon (List.cons.inj heq).1

theorem joinPieces_ne_nil (h : ps ≠ []) : joinPieces ps ≠ [] := by
  rcases ps with _ | ⟨n, _ | ⟨m, ps⟩⟩
  · exact absurd rfl h
  · simp [Nat.toDigits_ne_nil]
  · simp

theorem length_le_joinPieces (ps : List Nat) : ps.length ≤ (joinPieces ps).length := by
  induction ps with
  | nil => simp
  | cons n ps ih =>
      have hpos : 0 < (Nat.toDigits 16 n).length := Nat.length_toDigits_pos
      cases ps with
      | nil => simpa using Nat.succ_le_of_lt hpos
      | cons m ps =>
          rw [joinPieces_cons_cons, List.length_append, List.length_cons,
            List.length_cons (a := ':')]
          omega

/-- Pieces up to the end of the text. -/
theorem piecesFrom_joinPieces (hlt : ∀ n ∈ ps, n < 65536) (hcount : count + ps.length ≤ 8)
    (hfuel : ps.length ≤ fuel) :
    piecesFrom count p fuel (joinPieces ps) = some { p with pieces := p.pieces ++ ps } := by
  induction ps generalizing count fuel p with
  | nil => simp [piecesFrom]
  | cons n ps ih =>
      obtain ⟨hn, hlt⟩ := List.forall_mem_cons.1 hlt
      rw [List.length_cons] at hcount hfuel
      obtain ⟨fuel, rfl⟩ : ∃ f, fuel = f + 1 := ⟨fuel - 1, by omega⟩
      cases ps with
      | nil => rw [joinPieces_singleton, piecesFrom_last hn (by omega)]
      | cons m ps =>
          rw [joinPieces_cons_cons, piecesFrom_cons hn (by omega) (joinPieces_ne_nil (by simp)),
            ih hlt (by omega) (by omega)]
          simp

/-- Pieces up to the gap. -/
theorem piecesFrom_joinPieces_gap (hne : ps ≠ []) (hlt : ∀ n ∈ ps, n < 65536)
    (hcount : count + ps.length < 8) (hgap : p.gap = none) :
    piecesFrom count p (ps.length + 1 + fuel) (joinPieces ps ++ ':' :: ':' :: rest) =
      piecesFrom (count + ps.length + 1)
        ⟨p.pieces ++ ps, some (p.pieces ++ ps).length⟩ fuel rest := by
  induction ps generalizing count p with
  | nil => exact absurd rfl hne
  | cons n ps ih =>
      obtain ⟨hn, hlt⟩ := List.forall_mem_cons.1 hlt
      rw [List.length_cons] at hcount ⊢
      rw [show ps.length + 1 + 1 + fuel = (ps.length + 1 + fuel) + 1 by omega]
      cases ps with
      | nil =>
          rw [joinPieces_singleton, piecesFrom_cons hn (by omega) (by simp)]
          rw [List.length_nil, show 0 + 1 + fuel = fuel + 1 by omega, piecesFrom,
            if_neg (by simp; omega)]
          simp [hgap]
      | cons m ps =>
          have hpush : ({ p with pieces := p.pieces ++ [n] } : Partial).gap = none := hgap
          rw [joinPieces_cons_cons, List.append_assoc, List.cons_append,
            piecesFrom_cons hn (by omega) (by simp), ih (by simp) hlt (by omega) hpush]
          simp [Nat.add_assoc, Nat.add_comm 1]

theorem start_joinPieces_append (hne : ps ≠ []) (rest : List Char) :
    start (joinPieces ps ++ rest) =
      piecesFrom 0 ⟨[], none⟩ ((joinPieces ps ++ rest).length + 1) (joinPieces ps ++ rest) := by
  have hfirst : ∃ d digits, joinPieces ps = d :: digits ∧ d ≠ ':' := by
    rcases ps with _ | ⟨n, _ | ⟨m, ps⟩⟩
    · exact absurd rfl hne
    · simpa using exists_toDigits_eq_cons n
    · obtain ⟨d, digits, hd, hcolon⟩ := exists_toDigits_eq_cons n
      exact ⟨d, _, by rw [joinPieces_cons_cons, hd, List.cons_append], hcolon⟩
  obtain ⟨d, digits, hd, hcolon⟩ := hfirst
  rw [hd, List.cons_append, start]
  · exact fun rest heq => hcolon (List.cons.inj heq).1
  · exact fun rest heq => hcolon (List.cons.inj heq).1

theorem parse_joinPieces (h : IsAddress ps) : parse (joinPieces ps) = some ps := by
  have hlength := length_le_joinPieces ps
  have hne : ps ≠ [] := by
    rintro rfl
    cases h.length
  have hstart := start_joinPieces_append hne []
  have height := h.length
  rw [List.append_nil, piecesFrom_joinPieces h.lt (by omega) (by omega)] at hstart
  rw [parse_eq, if_neg (by omega), hstart]
  simp [Partial.filled?, height]

variable {front behind : List Nat}

theorem start_gap (hfront : ∀ n ∈ front, n < 65536) (hbehind : ∀ n ∈ behind, n < 65536)
    (hroom : front.length + behind.length < 8) :
    start (joinPieces front ++ ':' :: ':' :: joinPieces behind) =
      some ⟨front ++ behind, some front.length⟩ := by
  have hlength := length_le_joinPieces behind
  by_cases hne : front = []
  · subst hne
    rw [List.length_nil] at hroom
    rw [joinPieces_nil, List.nil_append, start,
      piecesFrom_joinPieces hbehind (by omega) (by omega)]
    rfl
  · have hfirst := length_le_joinPieces front
    obtain ⟨fuel, hfuel⟩ := Nat.exists_eq_add_of_le (show front.length + 1 ≤
      (joinPieces front ++ ':' :: ':' :: joinPieces behind).length + 1 by
        rw [List.length_append]; omega)
    rw [start_joinPieces_append hne, hfuel,
      piecesFrom_joinPieces_gap hne hfront (by omega) rfl,
      piecesFrom_joinPieces hbehind (by omega) (by
        rw [List.length_append, List.length_cons, List.length_cons] at hfuel
        omega)]
    simp

theorem parse_gap (hfront : ∀ n ∈ front, n < 65536) (hbehind : ∀ n ∈ behind, n < 65536)
    (hroom : front.length + behind.length < 8) :
    parse (joinPieces front ++ ':' :: ':' :: joinPieces behind) =
      some (front ++ List.replicate (8 - (front.length + behind.length)) 0 ++ behind) := by
  rw [parse_eq, if_neg (by simp; omega), start_gap hfront hbehind hroom]
  simp [Partial.filled?]
  omega

end

/-! #### The run that is left out -/

theorem zeroRun_eq (ps : List Nat) : ∃ behind, ps = List.replicate (zeroRun ps) 0 ++ behind := by
  fun_induction zeroRun ps with
  | case1 rest ih =>
      obtain ⟨behind, hrest⟩ := ih
      exact ⟨behind, by rw [List.replicate_succ, List.cons_append, ← hrest]⟩
  | case2 ps => exact ⟨ps, rfl⟩

theorem longestRun_eq (i : Nat) (ps : List Nat) : ∃ front behind,
    ps = front ++ List.replicate (longestRun i ps).2 0 ++ behind ∧
      (longestRun i ps).1 = i + front.length := by
  induction ps generalizing i with
  | nil => exact ⟨[], [], rfl, rfl⟩
  | cons n ps ih =>
      obtain ⟨front, behind, hps, hstart⟩ := ih (i + 1)
      obtain ⟨behind', hzeros⟩ := zeroRun_eq (n :: ps)
      rw [longestRun]
      split
      · exact ⟨[], behind', by simpa using hzeros, by simp⟩
      · refine ⟨n :: front, behind, by simpa using hps, ?_⟩
        rw [hstart, List.length_cons]
        omega

theorem parse_chars {pieces : List Nat} (h : IsAddress pieces) :
    parse (chars pieces) = some pieces := by
  obtain ⟨front, behind, hpieces, hstart⟩ := longestRun_eq 0 pieces
  unfold chars
  dsimp only
  split
  · exact parse_joinPieces h
  next hlong =>
    generalize longestRun 0 pieces = run at *
    obtain ⟨start, length⟩ := run
    dsimp only at hpieces hstart hlong ⊢
    rw [Nat.zero_add] at hstart
    subst hstart
    have height := h.length
    have hlt := h.lt
    rw [hpieces] at height hlt ⊢
    simp only [List.length_append, List.length_replicate] at height
    have htake : (front ++ List.replicate length 0 ++ behind).take front.length = front := by simp
    have hdrop : (front ++ List.replicate length 0 ++ behind).drop (front.length + length) =
        behind := by
      rw [List.drop_left']
      simp
    have hgap := parse_gap (fun n hn => hlt n (by simp [hn])) (fun n hn => hlt n (by simp [hn]))
      (show front.length + behind.length < 8 by omega)
    have hzeros : 8 - (front.length + behind.length) = length := by omega
    rw [htake, hdrop, List.append_assoc, List.cons_append, List.singleton_append, hgap, hzeros]

end Ipv6

end DomainDeploy.Url
