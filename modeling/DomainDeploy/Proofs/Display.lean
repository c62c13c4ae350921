import DomainDeploy.Proofs.Dialogue
import DomainDeploy.Proofs.Usability

/-!
# Addresses that have been printed

An address is printed with its protocol, its host and its port, and what is printed is read as the
same address again, whatever the text was that it had been read from
(`AdminUrl.readsBack_of_parse`). The port of an address is the one that stands in the text, and
the protocol's own if none stands there; which one that is, is told by how the text is laid out.
-/

namespace DomainDeploy

namespace Url

variable {scheme : String} {text : List Char} {host : Host}

/-! ### Hosts -/

/-- What is spelled out holds no control characters. -/
theorem controls_of_mem_encodeWith {c : Char} (h : c ∈ encodeWith .controls text) :
    EncodeSet.controls c = false := by
  have hdigit : ∀ n < 16, EncodeSet.controls (upperHex n) = false := by decide
  rcases mem_encodeWith h with (rfl | ⟨n, hn, rfl⟩) | ⟨-, hkept⟩
  · rfl
  · exact hdigit n hn
  · exact hkept

namespace Host

theorem ofVerbatim_chars (h : ofVerbatim text = .ok host) : ofVerbatim host.chars = .ok host := by
  unfold ofVerbatim at h
  split at h
  · obtain ⟨-, pieces, rfl, hpieces⟩ := isHostText_of_ofBracketed h
    rw [chars, List.cons_append, ofVerbatim, ofBracketed]
    simp [Ipv6.parse_chars hpieces]
  · split at h
    · cases h
    next hallowed =>
      obtain rfl := Except.ok.inj h
      have hplain : ∀ c ∈ encodeWith .controls text, isForbidden c = false :=
        fun c => isForbidden_of_mem_encodeWith (Bool.eq_false_of_not_eq_true hallowed)
      have hopen : ∀ inside, encodeWith .controls text ≠ '[' :: inside := by
        intro inside hinside
        have hbracket := hplain '[' (hinside ▸ List.mem_cons_self)
        cases hbracket
      have hnone : (encodeWith .controls text).any isForbidden = false :=
        List.any_eq_false.2 fun c hc => by simp [hplain c hc]
      rw [chars, ofVerbatim]
      · rw [hnone, if_neg Bool.false_ne_true, encodeWith_eq_self fun c => controls_of_mem_encodeWith]
      · exact hopen

end Host

/-- A host that has been read is read as it stands. -/
theorem readHost_chars (h : readHost scheme text = .ok host) :
    readHost scheme host.chars = .ok host := by
  unfold readHost at h ⊢
  split at h
  next hspecial => rw [if_pos hspecial, Host.ofSpecial_chars h]
  next hspecial => rw [if_neg hspecial, Host.ofVerbatim_chars h]

/-! ### Ports -/

/-- The port that stands in an authority, if there is one: a colon alone says nothing. -/
def AuthorityLayout.portNumber? (l : AuthorityLayout) : Option Nat :=
  let digits := l.port.getD []
  if digits.isEmpty then none else some (Nat.ofDigitChars 10 digits 0)

theorem portNumber?_of_readPort {l : AuthorityLayout} {port : Option Nat}
    (h : readPort (l.port.getD []) = .ok port) : port = l.portNumber? := by
  have hvalue := foldl_min_eq (l.port.getD []) 0
  unfold readPort at h
  dsimp only at h
  rw [← Nat.zero_min 65536, hvalue] at h
  split at h
  · cases h
  next hvalid =>
    have hle : Nat.ofDigitChars 10 (l.port.getD []) 0 ≤ 65535 := by
      simp only [Bool.or_eq_true, decide_eq_true_eq, not_or] at hvalid
      omega
    rw [Nat.min_eq_left (by omega)] at h
    exact (Except.ok.inj h).symm

/-- A text falls apart at the first stop in one way only. -/
theorem append_stop_inj {stop : Char} {front front' rest rest' : List Char} (h : stop ∉ front)
    (h' : stop ∉ front') (hsame : front ++ stop :: rest = front' ++ stop :: rest') :
    rest = rest' := by
  have hne {front : List Char} (h : stop ∉ front) : ∀ c ∈ front, (c != stop) = true := by
    intro c hc
    rw [bne_iff_ne]
    rintro rfl
    exact h hc
  have hstop {rest : List Char} : ∀ c ∈ (stop :: rest).head?, (c != stop) = false := by
    rintro c hc
    obtain rfl := Option.some.inj hc
    simp
  have hdrop : (front ++ stop :: rest).dropWhile (· != stop) = stop :: rest :=
    (takeWhile_append_stop (hne h) hstop).2
  rw [hsame, (takeWhile_append_stop (hne h') hstop).2] at hdrop
  exact (List.cons.inj hdrop).2.symm

/-- What stands in a text that is laid out in parts is what the URL says. -/
theorem Layout.of_parse {l : Layout} {source : String} {u : Url} {a : Authority}
    (h : parse source = .ok u) (ha : u.authority = some a) (hfile : u.scheme ≠ "file")
    (hl : l.IsWritten (isSpecialScheme u.scheme)) (hsource : cleaned source = l.chars) :
    readHost u.scheme l.authority.host = .ok a.host ∧
      a.port = if l.authority.portNumber? == defaultPort u.scheme then none
        else l.authority.portNumber? := by
  obtain ⟨rest, hscheme, -⟩ := parse_eq_ok h
  obtain ⟨front, hfront, hcolon⟩ := splitScheme_eq_some hscheme
  rw [hsource] at hscheme hfront
  obtain rfl := append_stop_inj hl.scheme hcolon hfront
  rw [Layout.parse_eq hl hscheme hfile hsource] at h
  obtain ⟨host, hhost, h⟩ := bind_eq_ok.1 h
  obtain ⟨port, hport, h⟩ := bind_eq_ok.1 h
  have hauthority := congrArg Url.authority (Except.ok.inj h)
  rw [ha] at hauthority
  obtain rfl := Option.some.inj hauthority
  rw [← portNumber?_of_readPort hport]
  exact ⟨hhost, rfl⟩

end Url

theorem Protocol.ofText_name (p : Protocol) : ofText p.name = .ok p := by
  cases p <;> rfl

namespace AdminUrl

variable {text : String} {a : AdminUrl}

/-- An address under a protocol is laid out in these parts, blanks around it aside. -/
def IsLaidOut (text : String) (p : Protocol) (l : Url.Layout) : Prop :=
  l.IsWritten (Url.isSpecialScheme p.name) ∧ Url.cleaned (Text.trim text) = l.chars

theorem defaultPort_name (p : Protocol) :
    Url.defaultPort p.name = none ∨ Url.defaultPort p.name = some p.defaultPort := by
  cases p <;> simp [Url.defaultPort, Protocol.name, Protocol.defaultPort]

theorem name_ne_file (p : Protocol) : p.name ≠ "file" := by
  cases p <;> decide

theorem exists_isLaidOut (h : parse text = .ok a) : ∃ l, IsLaidOut text a.protocol l := by
  obtain ⟨u, authority, hu, hscheme, hauthority, hsome, -, -⟩ := exists_authority_of_parse h
  have hfile : u.scheme ≠ "file" := hscheme ▸ name_ne_file a.protocol
  obtain ⟨l, hl, hchars, -⟩ := Url.exists_layout_of_parse hu hauthority hsome hfile
  exact ⟨l, hscheme ▸ hl, hchars⟩

theorem port_eq_of_isLaidOut {l : Url.Layout} (h : parse text = .ok a)
    (hl : IsLaidOut text a.protocol l) :
    a.port = l.authority.portNumber?.getD a.protocol.defaultPort := by
  obtain ⟨u, authority, hu, hscheme, hauthority, -, -, hport⟩ := exists_authority_of_parse h
  have hfile : u.scheme ≠ "file" := hscheme ▸ name_ne_file a.protocol
  obtain ⟨-, hgiven⟩ := Url.Layout.of_parse hu hauthority hfile (hscheme ▸ hl.1) hl.2
  rw [hport, Url.port?, hauthority, Option.bind_some, hgiven, hscheme]
  -- a port that is the default of the scheme is dropped, and is the default of the protocol then
  rcases defaultPort_name a.protocol with hnone | hsome
  · rw [hnone]
    cases l.authority.portNumber? <;> rfl
  · rw [hsome]
    cases l.authority.portNumber? with
    | none => rfl
    | some port =>
        by_cases hdefault : port = a.protocol.defaultPort
        · simp [hdefault]
        · simp [hdefault]

/-! ### Printing -/

theorem parse_of_url {u : Url} {p : Protocol} {host : String} (hvisible : Text.trim text ≠ "")
    (hu : Url.parse (Text.trim text) = .ok u) (hp : Protocol.ofText u.scheme = .ok p)
    (hhost : u.host? = some host) :
    parse text = .ok ⟨p, host, u.port?.getD p.defaultPort⟩ := by
  have hsome : (Text.trim text == "") = false := by simpa using hvisible
  unfold parse
  simp only [hsome, hu]
  simp [hp, hhost]

theorem display_eq (a : AdminUrl) :
    a.display = Url.baseText a.protocol.name a.host.toList a.port := by
  have htext (text : String) : toString text = text := rfl
  rw [← String.toList_inj]
  simp [display, Url.baseText, htext]

theorem trim_display (a : AdminUrl) : Text.trim a.display = a.display := by
  have hfirst : ∀ c ∈ a.display.toList.head?, Text.isBlank c = false := by
    rw [display_eq]
    cases a.protocol <;> simp [Url.baseText, Protocol.name] <;> decide
  have hlast : ∀ c ∈ a.display.toList.getLast?, Text.isBlank c = false := by
    intro c hc
    rw [display_eq] at hc
    have hdigit := Text.toNat_of_isDigit (Url.getLast?_baseText _ _ _ c hc)
    simp [Text.isBlank]
    omega
  rw [Text.trim, Text.trimWhere_of_ends hfirst hlast, String.ofList_toList]

/-- What is printed is read as the same address. -/
theorem parse_display (h : parse text = .ok a) : parse a.display = .ok a := by
  obtain ⟨u, authority, hu, hscheme, hauthority, hsome, hhost, -⟩ := exists_authority_of_parse h
  obtain ⟨l, hl⟩ := exists_isLaidOut h
  have hfile : u.scheme ≠ "file" := hscheme ▸ name_ne_file a.protocol
  obtain ⟨hread, -⟩ := Url.Layout.of_parse hu hauthority hfile (hscheme ▸ hl.1) hl.2
  have hagain : Url.readHost a.protocol.name a.host.toList = .ok authority.host := by
    rw [hhost, String.toList_ofList, ← hscheme]
    exact Url.readHost_chars hread
  have hparse := Url.parse_baseText_name a.protocol (isHostText_of_parse h) (port_le_of_parse h)
  rw [← display_eq, hagain] at hparse
  have hvisible : Text.trim a.display ≠ "" := by
    rw [trim_display, display_eq, ne_eq, ← String.toList_inj, Url.toList_baseText]
    simp [Url.Layout.chars]
  -- neither the host nor the port of a URL depends on its path
  obtain ⟨u', hu', hscheme', hport', hname⟩ : ∃ u', Url.parse a.display = .ok u' ∧
      u'.scheme = a.protocol.name ∧ u'.port? = some a.port ∧ u'.host? = some a.host :=
    ⟨_, hparse, rfl, Url.port?_base, hhost ▸ Url.host?_base hsome⟩
  rw [← trim_display] at hu'
  rw [parse_of_url hvisible hu' (hscheme' ▸ Protocol.ofText_name a.protocol) hname, hport']
  rfl

/-- An accepted address is read again from what is printed, and its port is the one that stands in
the text, however that is laid out, or else the protocol's own. -/
theorem readsBack_of_parse (h : parse text = .ok a) :
    parse a.display = .ok a ∧ (∃ l, IsLaidOut text a.protocol l) ∧
      ∀ l, IsLaidOut text a.protocol l →
        a.port = l.authority.portNumber?.getD a.protocol.defaultPort :=
  ⟨parse_display h, exists_isLaidOut h, fun _ => port_eq_of_isLaidOut h⟩

/-- The parts of `t3s://user@[::1]:0/x?y`. -/
def loopback : Url.Layout where
  scheme := "t3s".toList
  slashes := "//".toList
  authority := ⟨some "user".toList, "[::1]".toList, some "0".toList, []⟩
  tail := "/x?y".toList

theorem readsBack_of_parse_loopback :
    parse " t3s://user@[::1]:0/x?y " = .ok ⟨.t3s, "[::1]", 0⟩ ∧
      IsLaidOut " t3s://user@[::1]:0/x?y " .t3s loopback ∧
      display ⟨.t3s, "[::1]", 0⟩ = "t3s://[::1]:0" ∧
      parse (display ⟨.t3s, "[::1]", 0⟩) = .ok ⟨.t3s, "[::1]", 0⟩ ∧
      (∃ l, IsLaidOut " t3s://user@[::1]:0/x?y " .t3s l) ∧
      ∀ l, IsLaidOut " t3s://user@[::1]:0/x?y " .t3s l →
        0 = l.authority.portNumber?.getD 7002 := by
  have hparse : (parse " t3s://user@[::1]:0/x?y ").toOption = some ⟨.t3s, "[::1]", 0⟩ := by
    decide +kernel
  have haddress := eq_ok_of_toOption hparse
  have hwritten : loopback.IsWritten (Url.isSpecialScheme Protocol.t3s.name) := {
    scheme := by decide
    slashes := rfl
    authority := {
      last_at := by decide
      host := by decide
      enclosed := ⟨false, .opening (.colon (.colon (.other (by decide) (.closing .nil)))),
        fun _ => rfl⟩
      port := by
        rintro _ ⟨⟩
        exact List.all_eq_true.1 (by decide)
      left := .inl rfl }
    plain := by
      have hplain : loopback.authority.chars.all
          (!Url.endsAuthority (Url.isSpecialScheme Protocol.t3s.name) ·) = true := by decide
      simpa using hplain
    tail := by
      rintro _ ⟨⟩
      decide }
  have hcleaned : Url.cleaned (Text.trim " t3s://user@[::1]:0/x?y ") = loopback.chars := by
    decide +kernel
  exact ⟨haddress, ⟨hwritten, hcleaned⟩, by decide, readsBack_of_parse haddress⟩

end AdminUrl

end DomainDeploy
