import DomainDeploy.Proofs.DomainNames
import DomainDeploy.Rest.Channel

/-!
# Which addresses can be asked over HTTP

The host of an admin server's address is read twice: by the rules of its own scheme when the address
is accepted, and by those of HTTP when a channel to it is opened.  For `http` and `https` the rules
are the same and what was read is read as it stands, so a channel opens and leads to the place that
the address names; under any other scheme it does so for the hosts that HTTP reads as they are, and
for no others (`AdminUrl.exists_leadsTo_iff_http_or_isHttpHost`).
-/

namespace DomainDeploy

namespace Url

variable {scheme : String} {host : Host} {port : Nat}

@[simp] theorem scheme_base : (base scheme host port).scheme = scheme := rfl

theorem port?_base : (base scheme host port).port? = some port := by
  unfold port? base
  by_cases hdefault : (some port == defaultPort scheme) = true
  · simpa [hdefault] using (beq_iff_eq.1 hdefault).symm
  · simp [hdefault]

theorem host?_base (h : host.chars ≠ []) :
    (base scheme host port).host? = some (String.ofList host.chars) := by
  simp [host?, base, h]

/-- ASCII characters are put in lower case one by one. -/
theorem lowerFrom_eq_map {cs : List Char} (h : ∀ c ∈ cs, c.toNat < 128) (before : List Char) :
    Text.lowerFrom before cs = cs.map Char.toLower := by
  induction cs generalizing before with
  | nil => rfl
  | cons c cs ih =>
      obtain ⟨hc, hcs⟩ := List.forall_mem_cons.1 h
      have hsigma : (c == 'Σ') = false := by
        rw [beq_eq_false_iff_ne]
        rintro rfl
        exact absurd hc (by decide)
      rw [Text.lowerFrom, hsigma, ih hcs, Text.lowerChar, if_pos hc]
      rfl

theorem lower_map_toLower {cs : List Char} (h : ∀ c ∈ cs, c.toNat < 128) :
    Text.lower (String.ofList (cs.map Char.toLower)) = String.ofList (cs.map Char.toLower) := by
  have hlower : ∀ c ∈ cs.map Char.toLower, c.toNat < 128 ∧ c.toLower = c := by
    intro c hc
    obtain ⟨d, hd, rfl⟩ := List.mem_map.1 hc
    have hall := Text.of_ascii (p := fun c => decide (c.toLower.toNat < 128) &&
      c.toLower.toLower == c.toLower) (by decide) (h d hd)
    simpa using hall
  rw [Text.lower, String.toList_ofList, lowerFrom_eq_map fun c hc => (hlower c hc).1]
  refine congrArg String.ofList ((List.map_congr_left fun c hc => ?_).trans (List.map_id _))
  exact (hlower c hc).2

theorem toNat_of_isSchemeChar {c : Char}
    (h : (c.isAlphanum || c == '+' || c == '-' || c == '.') = true) : c.toNat < 128 := by
  simp only [Bool.or_eq_true, beq_iff_eq] at h
  rcases h with ((halphanum | rfl) | rfl) | rfl
  · exact Text.toNat_of_isAlphanum halphanum
  all_goals decide

theorem lower_of_splitScheme {cs rest : List Char} (h : splitScheme cs = some (scheme, rest)) :
    Text.lower scheme = scheme := by
  unfold splitScheme at h
  dsimp only at h
  split at h
  · split at h
    · obtain ⟨rfl, -⟩ := Prod.mk.inj (Option.some.inj h)
      refine lower_map_toLower fun c hc => ?_
      have hchar := List.mem_takeWhile_imp hc
      exact toNat_of_isSchemeChar hchar
    · cases h
  · cases h

theorem defaultPort_le (h : defaultPort scheme = some port) : port ≤ 65535 := by
  unfold defaultPort at h
  split at h <;> simp at h <;> omega

/-- The scheme of a URL is in lower case. -/
theorem lower_scheme_of_parse {text : String} {u : Url} (h : parse text = .ok u) :
    Text.lower u.scheme = u.scheme := by
  obtain ⟨rest, hscheme, -⟩ := parse_eq_ok h
  exact lower_of_splitScheme hscheme

end Url

theorem Protocol.name_of_ofText {text : String} {p : Protocol} (h : ofText text = .ok p) :
    p.name = Text.lower text := by
  unfold ofText at h
  dsimp only at h
  split at h
  next hfound =>
    obtain rfl := Except.ok.inj h
    simpa using List.find?_some hfound
  next => cases h

namespace AdminUrl

variable {text : String} {a : AdminUrl}

theorem parse_eq_ok (h : parse text = .ok a) : ∃ u, Url.parse (Text.trim text) = .ok u ∧
    Protocol.ofText u.scheme = .ok a.protocol ∧ u.host? = some a.host ∧
    a.port = u.port?.getD a.protocol.defaultPort := by
  unfold parse at h
  simp only [guard_eq_ok] at h
  obtain ⟨-, h⟩ := h
  split at h
  next u hu =>
    simp only [bind_eq_ok] at h
    obtain ⟨url, hurl, protocol, hprotocol, h⟩ := h
    obtain rfl := Except.ok.inj hurl
    split at h
    · cases h
    next host hhost =>
      obtain rfl := Except.ok.inj h
      exact ⟨u, hu, hprotocol, hhost, rfl⟩
  next => cases h

theorem scheme_eq_name {source : String} {u : Url} (hu : Url.parse source = .ok u)
    {p : Protocol} (hp : Protocol.ofText u.scheme = .ok p) : u.scheme = p.name := by
  rw [Protocol.name_of_ofText hp, Url.lower_scheme_of_parse hu]

/-- What the text of an accepted address has been read as. -/
theorem exists_authority_of_parse (h : parse text = .ok a) : ∃ u authority,
    Url.parse (Text.trim text) = .ok u ∧ u.scheme = a.protocol.name ∧
      u.authority = some authority ∧ authority.host.chars ≠ [] ∧
      a.host = String.ofList authority.host.chars ∧
      a.port = u.port?.getD a.protocol.defaultPort := by
  obtain ⟨u, hu, hprotocol, hhost, hport⟩ := parse_eq_ok h
  unfold Url.host? at hhost
  split at hhost
  next authority hauthority =>
    split at hhost
    · cases hhost
    next hsome =>
      exact ⟨u, authority, hu, scheme_eq_name hu hprotocol, hauthority, by simpa using hsome,
        (Option.some.inj hhost).symm, hport⟩
  next => cases hhost

/-- The host of an address, and how it has been read. -/
theorem exists_host_of_parse (h : parse text = .ok a) : ∃ host : Url.Host,
    host.IsRead a.protocol.name ∧ host.chars ≠ [] ∧ a.host = String.ofList host.chars := by
  obtain ⟨u, authority, hu, hscheme, hauthority, hsome, hhost, -⟩ := exists_authority_of_parse h
  have hread := (Url.isRead_of_parse hu authority hauthority).host
  rw [hscheme] at hread
  exact ⟨authority.host, hread, hsome, hhost⟩

theorem isHostText_of_parse (h : parse text = .ok a) : Url.IsHostText a.host.toList := by
  obtain ⟨host, hread, hsome, hhost⟩ := exists_host_of_parse h
  rw [hhost, String.toList_ofList]
  exact hread.isHostText hsome

theorem defaultPort_le (p : Protocol) : p.defaultPort ≤ 65535 := by
  cases p <;> decide

theorem port_le_of_parse (h : parse text = .ok a) : a.port ≤ 65535 := by
  obtain ⟨u, hu, -, -, hport⟩ := parse_eq_ok h
  rw [hport]
  unfold Url.port?
  split
  next port hsome =>
    obtain ⟨authority, hauthority, hgiven⟩ := Option.bind_eq_some_iff.1 hsome
    exact (Url.isRead_of_parse hu authority hauthority).port port hgiven
  next =>
    cases hdefault : Url.defaultPort u.scheme with
    | none => exact defaultPort_le a.protocol
    | some port => exact Url.defaultPort_le hdefault

/-! ### Asking over HTTP -/

theorem httpScheme_eq (p : Protocol) : p.httpScheme = "http" ∨ p.httpScheme = "https" := by
  cases p <;> simp [Protocol.httpScheme, Protocol.isSecure]

theorem httpBase_eq (a : AdminUrl) :
    a.httpBase = Url.baseText a.protocol.httpScheme a.host.toList a.port := by
  have htext (text : String) : toString text = text := rfl
  rw [← String.toList_inj]
  simp [httpBase, Url.baseText, htext]

/-- An address ends in its port, so no slash at its end is dropped. -/
theorem trimTrailing_httpBase (a : AdminUrl) : Text.trimTrailing '/' a.httpBase = a.httpBase := by
  have hlast : ∀ c ∈ a.httpBase.toList.reverse.head?, (c == '/') = false := by
    intro c hc
    rw [List.head?_reverse, httpBase_eq] at hc
    have hdigit := Url.getLast?_baseText _ _ _ c hc
    rw [beq_eq_false_iff_ne]
    rintro rfl
    cases hdigit
  rw [Text.trimTrailing, Text.dropWhile_of_head? hlast, List.reverse_reverse, String.ofList_toList]

/-- The channel to a host and a port. -/
def channel (a : AdminUrl) (host : Url.Host) (userName password : String) (logMessages : Bool) :
    Rest.Channel :=
  ⟨Url.base a.protocol.httpScheme host a.port, userName, password, logMessages, false⟩

/-- Whether an address can be asked is told by its host. -/
theorem ofBase_httpBase (h : parse text = .ok a) (userName password : String)
    (logMessages : Bool) : Rest.Channel.ofBase a.httpBase userName password logMessages =
      match Url.Host.ofSpecial a.host.toList with
      | .ok host => .ok (a.channel host userName password logMessages)
      | .error fault => .error (.configuration (.managementUrlInvalid a.httpBase fault)) := by
  have hread := Url.parse_baseText (httpScheme_eq a.protocol) (isHostText_of_parse h)
    (port_le_of_parse h)
  rw [← httpBase_eq] at hread
  rw [Rest.Channel.ofBase, trimTrailing_httpBase, hread]
  cases Url.Host.ofSpecial a.host.toList <;> rfl

/-- Letter case aside, two hosts are the same. -/
def IsSameHost (host host' : String) : Prop :=
  host.toList.map Char.toLower = host'.toList.map Char.toLower

/-- A channel leads to the place that the address names. -/
structure LeadsTo (a : AdminUrl) (c : Rest.Channel) : Prop where
  scheme : c.base.scheme = a.protocol.httpScheme
  host : ∃ host, c.base.host? = some host ∧ IsSameHost host a.host
  port : c.base.port? = some a.port

/-- A text that the special schemes read as the host that it is. -/
def IsHttpHost (text : String) : Prop :=
  ∃ host, Url.Host.ofSpecial text.toList = .ok host ∧ IsSameHost (String.ofList host.chars) text

/-- A blank that is spelled out is read as a blank. -/
theorem decodeBytes_blank : Url.decodeBytes "a%20b".toList = Text.Utf8.encode "a b" := by
  have htext : "a%20b".toList = 'a' :: (Url.spellByte 32 ++ ['b']) := rfl
  rw [htext, Url.decodeBytes_cons (by decide), Url.decodeBytes_spellByte,
    Url.decodeBytes_cons (by decide), Url.decodeBytes, Text.Utf8.encode_eq]
  rfl

theorem ofSpecial_blank : Url.Host.ofSpecial "a%20b".toList = .error .invalidDomain := by
  have hname : Url.Domain.toAscii? (Url.decodeBytes "a%20b".toList) = none := by
    rw [Url.Domain.toAscii?, decodeBytes_blank, Text.Utf8.decode?_encode]
    rfl
  rw [Url.Host.ofSpecial, hname]
  intro inside h
  cases h

theorem exists_leadsTo_iff (h : parse text = .ok a) (userName password : String)
    (logMessages : Bool) :
    (∃ c, Rest.Channel.ofBase a.httpBase userName password logMessages = .ok c ∧ a.LeadsTo c) ↔
      IsHttpHost a.host := by
  rw [ofBase_httpBase h]
  constructor
  · rintro ⟨c, hc, hleads⟩
    split at hc
    next host hhost =>
      obtain rfl := Except.ok.inj hc
      obtain ⟨name, hname, hsame⟩ := hleads.host
      rw [channel, Url.host?_base (Url.Host.isHostText_of_ofSpecial hhost).ne_nil] at hname
      exact ⟨host, hhost, Option.some.inj hname ▸ hsame⟩
    next => cases hc
  · rintro ⟨host, hhost, hsame⟩
    rw [hhost]
    exact ⟨_, rfl, rfl,
      ⟨_, Url.host?_base (Url.Host.isHostText_of_ofSpecial hhost).ne_nil, hsame⟩, Url.port?_base⟩

theorem isHttpHost_chars {host : Url.Host} (h : Url.Host.ofSpecial host.chars = .ok host) :
    IsHttpHost (String.ofList host.chars) :=
  ⟨host, by rwa [String.toList_ofList], rfl⟩

/-- A plain name, whatever the protocol, as long as no label is spelled in Punycode and the last one
is no number. -/
theorem isHttpHost_of_isNameChar {name : List Char} (hname : ∀ c ∈ name, Url.Domain.IsNameChar c)
    (hne : name ≠ [])
    (hlabels : ∀ piece ∈ Url.Ipv4.splitDots name, Url.Domain.mark.isPrefixOf piece = false)
    (hnumber : Url.Ipv4.endsInNumber name = false) : IsHttpHost (String.ofList name) := by
  have hopen : ∀ inside, name ≠ '[' :: inside := by
    rintro inside rfl
    exact absurd (hname '[' List.mem_cons_self).allowed (by decide)
  refine @isHttpHost_chars (.domain name) ?_
  rw [Url.Host.chars, Url.Host.ofSpecial_of_toAscii?
    (Url.Domain.toAscii?_of_isNameChar hname hlabels) hne hopen, hnumber, if_neg Bool.false_ne_true]

theorem isHttpHost_ipv4 {address : Nat} (h : address < Nat.pow 256 4) :
    IsHttpHost (Url.Ipv4.toText address) := by
  have hchars := isHttpHost_chars (Url.Host.ofSpecial_toText h)
  rwa [Url.Host.chars, String.ofList_toList] at hchars

theorem isHttpHost_ipv6 {pieces : List Nat} (h : Url.Ipv6.IsAddress pieces) :
    IsHttpHost (String.ofList (Url.Host.ipv6 pieces).chars) :=
  isHttpHost_chars (Url.Host.ofBracketed_chars h)

/-- A host that an HTTP scheme has read is such a host. -/
theorem isHttpHost_of_parse (h : parse text = .ok a)
    (hprotocol : a.protocol = .http ∨ a.protocol = .https) : IsHttpHost a.host := by
  obtain ⟨host, hread, hsome, hhost⟩ := exists_host_of_parse h
  have hspecial : Url.isSpecialScheme a.protocol.name = true := by
    rcases hprotocol with hp | hp <;> rw [hp] <;> rfl
  rcases hread with hempty | ⟨source, hsource⟩ | ⟨hother, -⟩
  · exact absurd hempty hsome
  · exact hhost ▸ isHttpHost_chars (Url.Host.ofSpecial_chars hsource)
  · rw [hspecial] at hother
    cases hother

/-- There is a channel that leads to an accepted address exactly when an HTTP scheme has read its
host, or reads it as the host that it is. -/
theorem exists_leadsTo_iff_http_or_isHttpHost (h : parse text = .ok a)
    (userName password : String) (logMessages : Bool) :
    (∃ c, Rest.Channel.ofBase a.httpBase userName password logMessages = .ok c ∧ a.LeadsTo c) ↔
      a.protocol = .http ∨ a.protocol = .https ∨ IsHttpHost a.host := by
  rw [exists_leadsTo_iff h]
  constructor
  · exact fun hhost => .inr (.inr hhost)
  · rintro (hp | hp | hhost)
    · exact isHttpHost_of_parse h (.inl hp)
    · exact isHttpHost_of_parse h (.inr hp)
    · exact hhost

theorem exists_leadsTo_admin : parse "t3://admin:7001" = .ok ⟨.t3, "admin", 7001⟩ ∧
    ∃ c, Rest.Channel.ofBase (httpBase ⟨.t3, "admin", 7001⟩) "user" "secret" false = .ok c ∧
      LeadsTo ⟨.t3, "admin", 7001⟩ c := by
  have hparse : parse "t3://admin:7001" = .ok ⟨.t3, "admin", 7001⟩ := rfl
  have hplain : ∀ c ∈ "admin".toList, Url.Domain.isPlain c = true :=
    List.all_eq_true.1 (by decide)
  have hhost : IsHttpHost "admin" := isHttpHost_of_isNameChar
    (fun c hc => (Url.Domain.isNameChar_of_isPlain (hplain c hc)).1) (by decide) (by decide) rfl
  exact ⟨hparse,
    (exists_leadsTo_iff_http_or_isHttpHost hparse "user" "secret" false).2 (.inr (.inr hhost))⟩

/-- An address that is accepted and cannot be asked. -/
theorem accepted_not_asked : parse "t3://a%20b:7001" = .ok ⟨.t3, "a%20b", 7001⟩ ∧
    ¬∃ c, Rest.Channel.ofBase (httpBase ⟨.t3, "a%20b", 7001⟩) "user" "secret" false = .ok c := by
  have hparse : parse "t3://a%20b:7001" = .ok ⟨.t3, "a%20b", 7001⟩ := rfl
  refine ⟨hparse, ?_⟩
  rintro ⟨c, hc⟩
  rw [ofBase_httpBase hparse, ofSpecial_blank] at hc
  cases hc

end AdminUrl

end DomainDeploy
