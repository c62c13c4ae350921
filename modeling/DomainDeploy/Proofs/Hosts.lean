import DomainDeploy.Proofs.Encoding
import DomainDeploy.Proofs.HttpBase
import DomainDeploy.Proofs.IpAddresses
import DomainDeploy.Proofs.Punycode

/-!
# Hosts that have been read

The host of a URL that has been read stands in it as a text that is read as a host as a whole
(`isHostText_of_parse`), under whatever scheme it was read.
-/

namespace DomainDeploy.Url

/-! ### Domain names -/

namespace Domain

/-- Letters in lower case, digits and the hyphen. -/
def isPlain (c : Char) : Bool := Punycode.isDigitChar c || c == '-'

theorem toAscii?_eq_some {bytes : List UInt8} {name : List Char} :
    toAscii? bytes = some name ↔ ∃ text shown labels, Text.Utf8.decode? bytes = some text ∧
      mapped? text.toList = some shown ∧ shown.any isForbidden = false ∧
      (Ipv4.splitDots shown).mapM shown? = some labels ∧ areValid labels = true ∧
      name = ['.'].intercalate (labels.map labelToAscii) := by
  unfold toAscii?
  simp only [Option.bind_eq_bind, Option.bind_eq_some_iff]
  constructor
  · rintro ⟨text, htext, shown, hshown, h⟩
    split at h
    · cases h
    next hallowed =>
      obtain ⟨labels, hlabels, h⟩ := Option.bind_eq_some_iff.1 h
      split at h
      next hvalid =>
        exact ⟨text, shown, labels, htext, hshown, by simpa using hallowed, hlabels, hvalid,
          (Option.some.inj h).symm⟩
      next => cases h
  · rintro ⟨text, shown, labels, htext, hshown, hallowed, hlabels, hvalid, rfl⟩
    refine ⟨text, htext, shown, hshown, ?_⟩
    simp [hallowed, hlabels, hvalid]

/-- What a label in Punycode must spell; any other label is shown as it stands. -/
theorem shown?_eq_some {piece label : List Char} (h : shown? piece = some label) :
    (mark.isPrefixOf piece = true ∧ Punycode.decode (piece.drop mark.length) = some label ∧
        label.all isAscii = false ∧ mapped? label = some label) ∨
      (mark.isPrefixOf piece = false ∧ label = piece) := by
  unfold shown? at h
  split at h
  next hmark =>
    obtain ⟨decoded, hdecoded, h⟩ := Option.bind_eq_some_iff.1 h
    split at h
    · cases h
    next hstays =>
      obtain rfl := Option.some.inj h
      refine .inl ⟨hmark, hdecoded, ?_⟩
      simpa using hstays
  next hmark => exact .inr ⟨Bool.eq_false_of_not_eq_true hmark, (Option.some.inj h).symm⟩

theorem mem_labelToAscii {piece label : List Char} (h : shown? piece = some label) {c : Char}
    (hc : c ∈ labelToAscii label) : (c ∈ piece ∧ isAscii c = true) ∨ isPlain c = true := by
  have hsource : c ∈ label → isAscii c = true → c ∈ piece := by
    intro hmem hascii
    rcases shown?_eq_some h with ⟨-, hdecode, -, -⟩ | ⟨-, rfl⟩
    · have hascii : c.toNat < 128 := by simpa [isAscii] using hascii
      exact List.mem_of_mem_drop (Punycode.mem_of_decode hdecode hmem hascii)
    · exact hmem
  unfold labelToAscii at hc
  split at hc
  next hascii =>
    have := List.all_eq_true.1 hascii c hc
    exact .inl ⟨hsource hc this, this⟩
  next =>
    rcases List.mem_append.1 hc with hc | hc
    · have hmark : ∀ c ∈ mark, isPlain c = true := List.all_eq_true.1 (by decide)
      exact .inr (hmark c hc)
    · rcases Punycode.mem_encode hc with ⟨hmem, hascii⟩ | rfl | hdigit
      · have hascii : isAscii c = true := by simpa [isAscii] using hascii
        exact .inl ⟨hsource hmem hascii, hascii⟩
      · exact .inr rfl
      · exact .inr (by simp [isPlain, hdigit])

theorem toNat_of_isPlain {c : Char} (h : isPlain c = true) : c.toNat < 128 := by
  simp only [isPlain, Punycode.isDigitChar, Bool.or_eq_true, Bool.and_eq_true, beq_iff_eq,
    decide_eq_true_eq, Char.le_def, UInt32.le_iff_toNat_le, Char.toNat_val] at h
  rcases h with (h | h) | rfl
  · exact Nat.lt_of_le_of_lt h.2 (by decide)
  · exact Nat.lt_of_le_of_lt h.2 (by decide)
  · decide

theorem isForbidden_of_isPlain {c : Char} (h : isPlain c = true) : isForbidden c = false := by
  have hall := Text.of_ascii (p := fun c => !isPlain c || !isForbidden c) (by decide)
    (toNat_of_isPlain h)
  simpa [h] using hall

/-- What no domain name holds includes what no host holds. -/
theorem isForbidden_of_host {c : Char} (h : isForbidden c = false) :
    Host.isForbidden c = false := by
  unfold isForbidden at h
  unfold Host.isForbidden
  simp only [Bool.or_eq_false_iff, decide_eq_false_iff_not, beq_eq_false_iff_ne, ne_eq,
    List.contains_eq_mem, List.mem_cons, List.not_mem_nil, or_false, not_or] at h ⊢
  obtain ⟨⟨hcontrol, -⟩, hmarks⟩ := h
  have hlow {d : Char} (hd : d.toNat ≤ 32) : c ≠ d := by
    rintro rfl
    exact hcontrol hd
  refine ⟨by omega, hlow (by decide), hlow (by decide), hlow (by decide), hlow (by decide), ?_⟩
  exact ⟨hmarks.2.1, hmarks.2.2.1, hmarks.2.2.2.1, hmarks.2.2.2.2.1, hmarks.2.2.2.2.2.1,
    hmarks.2.2.2.2.2.2.1, hmarks.2.2.2.2.2.2.2.1, hmarks.2.2.2.2.2.2.2.2.1,
    hmarks.2.2.2.2.2.2.2.2.2.1, hmarks.2.2.2.2.2.2.2.2.2.2.1, hmarks.2.2.2.2.2.2.2.2.2.2.2.1,
    hmarks.2.2.2.2.2.2.2.2.2.2.2.2⟩

theorem of_mem_splitDots {cs piece : List Char} {c : Char} (hpiece : piece ∈ Ipv4.splitDots cs)
    (hc : c ∈ piece) : c ∈ cs := by
  have hmem : c ∈ ['.'].intercalate (cs.splitOn '.') := mem_intercalate_of_mem hpiece hc
  rwa [List.intercalate_splitOn] at hmem

/-- A name in ASCII holds nothing that a domain name must not hold. -/
theorem isForbidden_of_toAscii? {bytes : List UInt8} {name : List Char}
    (h : toAscii? bytes = some name) {c : Char} (hc : c ∈ name) : isForbidden c = false := by
  obtain ⟨text, shown, labels, -, -, hallowed, hlabels, -, rfl⟩ := toAscii?_eq_some.1 h
  rcases mem_intercalate hc with hc | ⟨ascii, hascii, hc⟩
  · obtain rfl := List.mem_singleton.1 hc
    rfl
  · obtain ⟨label, hlabel, rfl⟩ := List.mem_map.1 hascii
    obtain ⟨piece, hpiece, hshown⟩ := exists_of_forall₂ (mapM_eq_some.1 hlabels) hlabel
    rcases mem_labelToAscii hshown hc with ⟨hmem, -⟩ | hplain
    · exact Bool.eq_false_of_not_eq_true
        (List.any_eq_false.1 hallowed c (of_mem_splitDots hpiece hmem))
    · exact isForbidden_of_isPlain hplain

end Domain

/-! ### Hosts -/

theorem isForbidden_of_isHexDigit {c : Char} (h : (hexDigit? c).isSome = true) :
    Host.isForbidden c = false := by
  have hascii : c.toNat < 128 := by
    unfold hexDigit? at h
    simp only [Bool.and_eq_true, decide_eq_true_eq, Char.le_def, UInt32.le_iff_toNat_le,
      Char.toNat_val] at h
    split at h
    next hbounds => exact Nat.lt_of_le_of_lt hbounds.2 (by decide)
    next =>
      split at h
      next hbounds => exact Nat.lt_of_le_of_lt hbounds.2 (by decide)
      next =>
        split at h
        next hbounds => exact Nat.lt_of_le_of_lt hbounds.2 (by decide)
        next => cases h
  have hall := Text.of_ascii (p := fun c => !(hexDigit? c).isSome || !Host.isForbidden c)
    (by decide) hascii
  simpa [h] using hall

namespace Host

variable {text : List Char} {host : Host}

theorem isHostText_of_ofBracketed {inside : List Char} (h : ofBracketed inside = .ok host) :
    IsHostText host.chars ∧ ∃ pieces, host = ipv6 pieces ∧ Ipv6.IsAddress pieces := by
  unfold ofBracketed at h
  split at h
  · split at h
    next pieces hpieces =>
      obtain rfl := Except.ok.inj h
      refine ⟨.bracketed fun c hc => ?_, pieces, rfl, Ipv6.isAddress_of_parse hpieces⟩
      exact (Ipv6.isHexDigit_of_mem_chars hc).imp id isForbidden_of_isHexDigit
    next => cases h
  · cases h

theorem isHostText_of_ofSpecial (h : ofSpecial text = .ok host) : IsHostText host.chars := by
  unfold ofSpecial at h
  split at h
  · exact (isHostText_of_ofBracketed h).1
  · split at h
    · cases h
    · cases h
    next name hname hascii =>
      split at h
      · split at h
        next address haddress =>
          obtain rfl := Except.ok.inj h
          refine .open_ ?_ fun c hc => ?_
          · simp [chars, Ipv4.toList_toText, Ipv4.bytes, Nat.toDigits_ne_nil]
          · rcases Ipv4.isDigit_of_mem_toText hc with rfl | hdigit
            · rfl
            · exact isForbidden_of_isDigit hdigit
        next => cases h
      · obtain rfl := Except.ok.inj h
        exact .open_ hname fun c hc =>
          Domain.isForbidden_of_host (Domain.isForbidden_of_toAscii? hascii hc)

theorem isForbidden_of_mem_encodeWith (h : text.any isForbidden = false) {c : Char}
    (hc : c ∈ encodeWith .controls text) : isForbidden c = false := by
  have hdigit : ∀ n < 16, isForbidden (upperHex n) = false := by decide
  rcases mem_encodeWith hc with (rfl | ⟨n, hn, rfl⟩) | ⟨hmem, -⟩
  · rfl
  · exact hdigit n hn
  · exact Bool.eq_false_of_not_eq_true (List.any_eq_false.1 h c hmem)

theorem isHostText_of_ofVerbatim (h : ofVerbatim text = .ok host) :
    host.chars = [] ∨ IsHostText host.chars := by
  unfold ofVerbatim at h
  split at h
  · exact .inr (isHostText_of_ofBracketed h).1
  · split at h
    · cases h
    next hallowed =>
      obtain rfl := Except.ok.inj h
      rcases Decidable.em (encodeWith .controls text = []) with hempty | hsome
      · exact .inl hempty
      · exact .inr (.open_ hsome fun c hc =>
          isForbidden_of_mem_encodeWith (Bool.eq_false_of_not_eq_true hallowed) hc)

/-- How the host of a URL has been read, unless it is empty. -/
def IsRead (scheme : String) (host : Host) : Prop :=
  host.chars = [] ∨ (∃ text, ofSpecial text = .ok host) ∨
    (isSpecialScheme scheme = false ∧ ∃ text, ofVerbatim text = .ok host)

theorem IsRead.isHostText {scheme : String} (h : IsRead scheme host) (hsome : host.chars ≠ []) :
    IsHostText host.chars := by
  rcases h with hempty | ⟨text, htext⟩ | ⟨-, text, htext⟩
  · exact absurd hempty hsome
  · exact isHostText_of_ofSpecial htext
  · exact (isHostText_of_ofVerbatim htext).resolve_left hsome

end Host

/-! ### URLs -/

/-- What an authority that has been read says. -/
structure Authority.IsRead (scheme : String) (a : Authority) : Prop where
  host : a.host.IsRead scheme
  port : ∀ port ∈ a.port, port ≤ 65535

variable {scheme : String} {atEnd : Bool} {cs : List Char}

theorem isRead_of_readHost {host : Host} (h : readHost scheme cs = .ok host) :
    host.IsRead scheme := by
  unfold readHost at h
  split at h
  · exact .inr (.inl ⟨_, h⟩)
  next hspecial => exact .inr (.inr ⟨Bool.eq_false_of_not_eq_true hspecial, _, h⟩)

theorem isRead_of_readAuthority {a : Authority} {left : List Char}
    (h : readAuthority scheme atEnd cs = .ok (a, left)) : a.IsRead scheme := by
  obtain ⟨_, _, _, _, port, -, -, hhost, -, hread, hport⟩ := readAuthority_eq_ok h
  refine ⟨isRead_of_readHost hhost, fun n hn => ?_⟩
  rw [hport] at hn
  split at hn
  · cases hn
  · obtain rfl := Option.mem_def.1 hn
    exact le_of_readPort hread

theorem isRead_of_readBehindSlashes {authority : Option Authority} {path : Path}
    (h : readBehindSlashes scheme cs = .ok (authority, path)) :
    ∀ a ∈ authority, a.IsRead scheme := by
  rintro a rfl
  obtain ⟨_, left, hread⟩ := readBehindSlashes_eq_ok h
  exact isRead_of_readAuthority hread

theorem isRead_of_readFile {authority : Option Authority} {path : Path}
    (h : readFile cs = .ok (authority, path)) : ∀ a ∈ authority, a.IsRead scheme := by
  have hbare {host : Host} {path' : Path} (hhost : host.IsRead scheme)
      (h : (Except.ok (some ⟨[], none, host, none⟩, path') : Except Fault _) =
        .ok (authority, path)) : ∀ a ∈ authority, a.IsRead scheme := by
    obtain ⟨rfl, -⟩ := Prod.mk.inj (Except.ok.inj h)
    intro a ha
    obtain rfl := Option.some.inj ha
    exact ⟨hhost, by simp⟩
  have hnowhere : (Host.verbatim []).IsRead scheme := .inl rfl
  unfold readFile at h
  dsimp only at h
  split at h
  · split at h
    · split at h
      · exact hbare hnowhere h
      · obtain ⟨host, hhost, h⟩ := bind_eq_ok.1 h
        split at h
        · exact hbare hnowhere h
        · exact hbare (.inr (.inl ⟨_, hhost⟩)) h
    · exact hbare hnowhere h
  · exact hbare hnowhere h

theorem isRead_of_readHierarchy {authority : Option Authority} {path : Path}
    (h : readHierarchy scheme cs = .ok (authority, path)) : ∀ a ∈ authority, a.IsRead scheme := by
  unfold readHierarchy at h
  split at h
  · exact isRead_of_readFile h
  · split at h
    · exact isRead_of_readBehindSlashes h
    · split at h
      · exact isRead_of_readBehindSlashes h
      · obtain ⟨rfl, -⟩ := Prod.mk.inj (Except.ok.inj h)
        simp
      · obtain ⟨rfl, -⟩ := Prod.mk.inj (Except.ok.inj h)
        simp

theorem isRead_of_parse {text : String} {u : Url} (h : parse text = .ok u) :
    ∀ a ∈ u.authority, a.IsRead u.scheme := by
  obtain ⟨rest, -, hread⟩ := parse_eq_ok h
  exact isRead_of_readHierarchy hread

end DomainDeploy.Url
