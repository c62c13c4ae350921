import Mathlib.Data.List.TakeWhile
import DomainDeploy.Proofs.Results
import DomainDeploy.Proofs.Trimming
import DomainDeploy.Url.Parser

/-!
# How URLs are written

A URL with an authority is written in parts: a scheme, slashes, credentials, a host, a port, and
what stands behind it. `Layout` holds these parts as they stand in the text, and
`Layout.IsWritten` tells where one part ends and the next one starts. Reading a text that is laid
out like that is reading its parts (`Layout.parse_eq`), and every text that is read as a URL with a
host is laid out like that (`exists_layout_of_parse`).
-/

namespace DomainDeploy.Url

/-- The characters that a URL is read from: no blanks around them and no tabs or line ends. -/
def cleaned (text : String) : List Char :=
  (Text.trimWhere (·.toNat ≤ 0x20) text.toList).filter (!isDropped ·)

/-- Every colon of the text stands in brackets; the flags tell whether a bracket is open before the
text and behind it. -/
inductive Encloses : Bool → List Char → Bool → Prop
  | nil {before : Bool} : Encloses before [] before
  | opening {before behind : Bool} {cs : List Char} (rest : Encloses true cs behind) :
      Encloses before ('[' :: cs) behind
  | closing {before behind : Bool} {cs : List Char} (rest : Encloses false cs behind) :
      Encloses before (']' :: cs) behind
  | colon {behind : Bool} {cs : List Char} (rest : Encloses true cs behind) :
      Encloses true (':' :: cs) behind
  | other {before behind : Bool} {c : Char} {cs : List Char} (plain : c ∉ [':', '[', ']'])
      (rest : Encloses before cs behind) : Encloses before (c :: cs) behind

/-- The parts of an authority. -/
structure AuthorityLayout where
  /-- User name and password, before an `@`. -/
  credentials : Option (List Char)
  host : List Char
  /-- The digits behind a colon. -/
  port : Option (List Char)
  /-- What a backslash behind the port starts where backslashes are no slashes. -/
  left : List Char

namespace AuthorityLayout

/-- What stands before the host. -/
def beforeHost (l : AuthorityLayout) : List Char :=
  match l.credentials with
  | some credentials => credentials ++ ['@']
  | none => []

/-- What stands behind the host. -/
def behindHost (l : AuthorityLayout) : List Char :=
  (match l.port with
  | some digits => ':' :: digits
  | none => []) ++ l.left

/-- The authority as a whole. -/
def chars (l : AuthorityLayout) : List Char := l.beforeHost ++ (l.host ++ l.behindHost)

/-- Each part ends where the next one starts. -/
structure IsWritten (l : AuthorityLayout) : Prop where
  last_at : '@' ∉ l.host ++ l.behindHost
  host : l.host ≠ []
  enclosed : ∃ isOpen, Encloses false l.host isOpen ∧ (l.port.isSome = true → isOpen = false)
  port : ∀ digits ∈ l.port, ∀ c ∈ digits, c.isDigit = true
  left : l.left = [] ∨ l.port.isSome = true ∧ l.left.head? = some '\\'

end AuthorityLayout

/-- The parts of a text that is read as a URL. -/
structure Layout where
  scheme : List Char
  slashes : List Char
  authority : AuthorityLayout
  /-- Path, query and fragment. -/
  tail : List Char

namespace Layout

/-- The text as a whole. -/
def chars (l : Layout) : List Char :=
  l.scheme ++ ':' :: (l.slashes ++ (l.authority.chars ++ l.tail))

/-- Each part ends where the next one starts. -/
structure IsWritten (special : Bool) (l : Layout) : Prop where
  scheme : ':' ∉ l.scheme
  slashes : if special then ∀ c ∈ l.slashes, c = '/' ∨ c = '\\' else l.slashes = ['/', '/']
  authority : l.authority.IsWritten
  plain : ∀ c ∈ l.authority.chars, endsAuthority special c = false
  tail : ∀ c ∈ l.tail.head?, endsAuthority special c = true

end Layout

/-! ### Reading the parts -/

/-- The host that a text names under a scheme. -/
def readHost (scheme : String) (text : List Char) : Except Fault Host :=
  if isSpecialScheme scheme then Host.ofSpecial text else Host.ofVerbatim text

variable {cs front rest : List Char} {before behind : Bool}

theorem takeWhile_append_stop {p : Char → Bool} (hfront : ∀ c ∈ front, p c = true)
    (hrest : ∀ c ∈ rest.head?, p c = false) :
    (front ++ rest).takeWhile p = front ∧ (front ++ rest).dropWhile p = rest := by
  have hstop : rest.takeWhile p = [] ∧ rest.dropWhile p = rest := by
    cases rest with
    | nil => exact ⟨rfl, rfl⟩
    | cons c rest =>
        have hc : p c = false := hrest c rfl
        simp [hc]
  rw [List.takeWhile_append_of_pos hfront, List.dropWhile_append_of_pos hfront, hstop.1, hstop.2,
    List.append_nil]
  exact ⟨rfl, rfl⟩

theorem splitTail_append (h : ∀ c ∈ front, c ≠ '?' ∧ c ≠ '#') (rest : List Char) :
    splitTail (front ++ rest) = (front ++ (splitTail rest).1, (splitTail rest).2) := by
  have hfragment : ∀ c ∈ front, (c != '#') = true := fun c hc => by simpa using (h c hc).2
  have hquery : ∀ c ∈ front, (c != '?') = true := fun c hc => by simpa using (h c hc).1
  simp [splitTail, List.takeWhile_append_of_pos hfragment,
    List.dropWhile_append_of_pos hfragment, List.takeWhile_append_of_pos hquery,
    List.dropWhile_append_of_pos hquery]

theorem splitTail_prefix (cs : List Char) : (splitTail cs).1 <+: cs :=
  (List.takeWhile_prefix _).trans (List.takeWhile_prefix _)

theorem splitLastAt_eq_none (h : '@' ∉ cs) : splitLastAt cs = none := by
  have hall : cs.reverse.takeWhile (· != '@') = cs.reverse := by
    rw [List.takeWhile_eq_self_iff]
    intro c hc
    rw [bne_iff_ne]
    rintro rfl
    exact h (List.mem_reverse.1 hc)
  simp [splitLastAt, hall]

theorem splitLastAt_append (h : '@' ∉ rest) (front : List Char) :
    splitLastAt (front ++ '@' :: rest) = some (front, rest) := by
  have hrest : ∀ c ∈ rest.reverse, (c != '@') = true := by
    intro c hc
    rw [bne_iff_ne]
    rintro rfl
    exact h (List.mem_reverse.1 hc)
  have hreverse : (front ++ '@' :: rest).reverse = rest.reverse ++ '@' :: front.reverse := by simp
  have hstop : ∀ c ∈ ('@' :: front.reverse).head?, (c != '@') = false := by simp
  have htake := (takeWhile_append_stop hrest hstop).1
  have hlength : front.length + (rest.length + 1) - rest.length - 1 = front.length := by omega
  have hne : rest.length ≠ front.length + (rest.length + 1) := by omega
  simp [splitLastAt, hreverse, htake, hlength, hne]

/-- A host ends with the text, or before a colon that stands in no brackets. -/
def EndsHost (isOpen : Bool) (rest : List Char) : Prop :=
  rest = [] ∨ isOpen = false ∧ rest.head? = some ':'

theorem splitHost_append (h : Encloses before cs behind) (hrest : EndsHost behind rest) :
    splitHost before (cs ++ rest) = (cs, rest) := by
  induction h with
  | nil =>
      rcases hrest with rfl | ⟨rfl, hhead⟩
      · rfl
      · obtain ⟨more, rfl⟩ := List.head?_eq_some_iff.1 hhead
        rfl
  | opening _ ih => simp [splitHost, ih hrest]
  | closing _ ih => simp [splitHost, ih hrest]
  | colon _ ih => simp [splitHost, ih hrest]
  | @other before _ c cs plain _ ih =>
      simp only [List.mem_cons, List.not_mem_nil, or_false, not_or] at plain
      simp [splitHost, plain, ih hrest]

theorem exists_splitHost (before : Bool) (cs : List Char) : ∃ host rest behind,
    splitHost before cs = (host, rest) ∧ cs = host ++ rest ∧ Encloses before host behind ∧
      EndsHost behind rest := by
  induction cs generalizing before with
  | nil => exact ⟨[], [], before, rfl, rfl, .nil, .inl rfl⟩
  | cons c cs ih =>
      by_cases hcolon : c = ':' ∧ before = false
      · obtain ⟨rfl, rfl⟩ := hcolon
        exact ⟨[], ':' :: cs, false, rfl, rfl, .nil, .inr ⟨rfl, rfl⟩⟩
      · have hstays : (c == ':' && !before) = false := by simpa using hcolon
        obtain ⟨host, rest, behind, hsplit, rfl, henclosed, hends⟩ :=
          ih (if c == '[' then true else if c == ']' then false else before)
        refine ⟨c :: host, rest, behind, ?_, rfl, ?_, hends⟩
        · simp only [splitHost, hstays, hsplit]
          rfl
        · by_cases hopening : c = '['
          · subst hopening
            exact .opening henclosed
          · by_cases hclosing : c = ']'
            · subst hclosing
              exact .closing henclosed
            · simp only [beq_iff_eq, hopening, hclosing, if_false] at henclosed
              by_cases hc : c = ':'
              · subst hc
                obtain rfl : before = true := by simpa using hcolon
                exact .colon henclosed
              · exact .other (by simp [hopening, hclosing, hc]) henclosed

/-! ### Reading the whole -/

variable {scheme : String}

namespace AuthorityLayout.IsWritten

variable {l : AuthorityLayout}

theorem splitLastAt_eq (h : l.IsWritten) :
    (splitLastAt l.chars).getD ([], l.chars) =
      (l.credentials.getD [], l.host ++ l.behindHost) := by
  unfold chars beforeHost
  cases l.credentials with
  | none => rw [List.nil_append, splitLastAt_eq_none h.last_at]; rfl
  | some credentials =>
      rw [List.append_assoc, List.singleton_append, splitLastAt_append h.last_at]
      rfl

theorem splitHost_eq (h : l.IsWritten) :
    splitHost false (l.host ++ l.behindHost) = (l.host, l.behindHost) := by
  obtain ⟨isOpen, henclosed, hclosed⟩ := h.enclosed
  refine splitHost_append henclosed ?_
  unfold behindHost
  cases hport : l.port with
  | some digits => exact .inr ⟨hclosed (by rw [hport]; rfl), rfl⟩
  | none =>
      refine .inl ?_
      rcases h.left with hleft | ⟨hsome, -⟩
      · rw [hleft]
        rfl
      · rw [hport] at hsome
        cases hsome

theorem behindHost_eq (h : l.IsWritten) :
    (l.behindHost.drop 1).takeWhile (· != '\\') = l.port.getD [] ∧
      l.behindHost.dropWhile (· != '\\') = l.left := by
  have hleft : ∀ c ∈ l.left.head?, (c != '\\') = false := by
    intro c hc
    rcases h.left with hnil | ⟨-, hhead⟩
    · rw [hnil] at hc
      cases hc
    · rw [hhead] at hc
      obtain rfl := Option.some.inj hc
      rfl
  unfold behindHost
  cases hport : l.port with
  | some digits =>
      have hdigits : ∀ c ∈ digits, (c != '\\') = true := by
        intro c hc
        have hdigit := h.port digits hport c hc
        rw [bne_iff_ne]
        rintro rfl
        cases hdigit
      have hsplit := takeWhile_append_stop hdigits hleft
      exact ⟨hsplit.1, hsplit.2⟩
  | none =>
      rcases h.left with hnil | ⟨hsome, -⟩
      · rw [hnil]
        exact ⟨rfl, rfl⟩
      · rw [hport] at hsome
        cases hsome

theorem readAuthority_eq (h : l.IsWritten) (atEnd : Bool) :
    readAuthority scheme atEnd l.chars = do
      let host ← readHost scheme l.host
      let port ← readPort (l.port.getD [])
      let (user, password) := readCredentials (l.credentials.getD [])
      return (⟨user, password, host, if port == defaultPort scheme then none else port⟩,
        l.left) := by
  have hhost : l.host.isEmpty = false := by simpa using h.host
  have hsome : (l.host ++ l.behindHost).isEmpty = false := by simp [h.host]
  unfold readAuthority readHost
  simp only [h.splitLastAt_eq, h.splitHost_eq, h.behindHost_eq.1, h.behindHost_eq.2, hhost, hsome]
  cases isSpecialScheme scheme <;> simp

end AuthorityLayout.IsWritten

namespace Layout.IsWritten

variable {l : Layout} {special : Bool}

theorem isHierarchy (h : l.IsWritten special) :
    ∀ c ∈ l.slashes ++ l.authority.chars, c ≠ '?' ∧ c ≠ '#' := by
  intro c hc
  rcases List.mem_append.1 hc with hc | hc
  · have hslashes := h.slashes
    have hslash : c = '/' ∨ c = '\\' := by
      split at hslashes
      · exact hslashes c hc
      · rw [hslashes] at hc
        exact .inl (by simpa using hc)
    rcases hslash with rfl | rfl <;> decide
  · have hplain := h.plain c hc
    simp only [endsAuthority, Bool.or_eq_false_iff, beq_eq_false_iff_ne] at hplain
    exact ⟨hplain.1.1.2, hplain.1.2⟩

/-- The hierarchy that the parts before the query spell. -/
theorem readBehindSlashes_eq (h : l.IsWritten (isSpecialScheme scheme)) {rest : List Char}
    (hrest : ∀ c ∈ rest.head?, endsAuthority (isSpecialScheme scheme) c = true) :
    readBehindSlashes scheme (l.authority.chars ++ rest) = do
      let host ← readHost scheme l.authority.host
      let port ← readPort (l.authority.port.getD [])
      let (user, password) := readCredentials (l.authority.credentials.getD [])
      return (some ⟨user, password, host, if port == defaultPort scheme then none else port⟩,
        readPath (isSpecialScheme scheme) (l.authority.left ++ rest)) := by
  have hauthority : ∀ c ∈ l.authority.chars, (!endsAuthority (isSpecialScheme scheme) c) = true :=
    fun c hc => by rw [h.plain c hc]; rfl
  have hstop : ∀ c ∈ rest.head?, (!endsAuthority (isSpecialScheme scheme) c) = false :=
    fun c hc => by rw [hrest c hc]; rfl
  have htake := (takeWhile_append_stop hauthority hstop).1
  unfold readBehindSlashes
  simp only [htake, List.drop_left, h.authority.readAuthority_eq]
  cases readHost scheme l.authority.host with
  | error e => rfl
  | ok host =>
      cases readPort (l.authority.port.getD []) with
      | error e => rfl
      | ok port => rfl

theorem readHierarchy_eq (h : l.IsWritten (isSpecialScheme scheme)) (hfile : scheme ≠ "file")
    (rest : List Char) :
    readHierarchy scheme (l.slashes ++ (l.authority.chars ++ rest)) =
      readBehindSlashes scheme (l.authority.chars ++ rest) := by
  have hslashes := h.slashes
  unfold readHierarchy
  rw [if_neg (by simpa using hfile)]
  split
  next hspecial =>
    rw [if_pos hspecial] at hslashes
    have hsome : l.authority.chars ≠ [] := by simp [AuthorityLayout.chars, h.authority.host]
    have hfirst : ∀ c ∈ (l.authority.chars ++ rest).head?, (c == '/' || c == '\\') = false := by
      intro c hc
      have hmem : c ∈ l.authority.chars.head? := by
        rw [List.head?_append, List.head?_eq_some_head hsome] at hc
        rwa [List.head?_eq_some_head hsome]
      have hplain := h.plain c (List.mem_of_mem_head? hmem)
      rw [hspecial] at hplain
      simp only [endsAuthority, Bool.true_and, Bool.or_eq_false_iff] at hplain
      simp [hplain]
    have hfront : ∀ c ∈ l.slashes, (c == '/' || c == '\\') = true :=
      fun c hc => by simpa using hslashes c hc
    rw [(takeWhile_append_stop hfront hfirst).2]
  next hspecial =>
    rw [if_neg hspecial] at hslashes
    rw [hslashes]
    rfl

end Layout.IsWritten

/-- Reading a text that is laid out in parts is reading the parts. -/
theorem Layout.parse_eq {l : Layout} {text : String} (h : l.IsWritten (isSpecialScheme scheme))
    (hscheme : splitScheme l.chars =
      some (scheme, l.slashes ++ (l.authority.chars ++ l.tail))) (hfile : scheme ≠ "file")
    (htext : cleaned text = l.chars) :
    parse text = do
      let host ← readHost scheme l.authority.host
      let port ← readPort (l.authority.port.getD [])
      let (user, password) := readCredentials (l.authority.credentials.getD [])
      let (hierarchy, query, fragment) := splitTail l.tail
      return {
        scheme
        authority :=
          some ⟨user, password, host, if port == defaultPort scheme then none else port⟩
        path := readPath (isSpecialScheme scheme) (l.authority.left ++ hierarchy)
        query := query.map
          (encodeWith (if isSpecialScheme scheme then .specialQuery else .query))
        fragment := fragment.map (encodeWith .fragment) } := by
  have hrest : ∀ c ∈ (splitTail l.tail).1.head?,
      endsAuthority (isSpecialScheme scheme) c = true := by
    intro c hc
    obtain ⟨more, hmore⟩ := splitTail_prefix l.tail
    refine h.tail c ?_
    rw [← hmore, List.head?_append, hc]
    rfl
  have htail := splitTail_append h.isHierarchy l.tail
  rw [List.append_assoc, List.append_assoc] at htail
  unfold cleaned at htext
  unfold parse
  simp only [htext, hscheme, htail, h.readHierarchy_eq hfile, h.readBehindSlashes_eq hrest]
  cases readHost scheme l.authority.host with
  | error e => rfl
  | ok host =>
      cases readPort (l.authority.port.getD []) with
      | error e => rfl
      | ok port => rfl

/-! ### Every text that is read -/

theorem splitScheme_eq_some (h : splitScheme cs = some (scheme, rest)) :
    ∃ front, cs = front ++ ':' :: rest ∧ ':' ∉ front := by
  unfold splitScheme at h
  dsimp only at h
  split at h
  next first others behind hbehind =>
    split at h
    · obtain ⟨-, rfl⟩ := Prod.mk.inj (Option.some.inj h)
      have hparts : (first :: others).takeWhile
          (fun c => c.isAlphanum || c == '+' || c == '-' || c == '.') ++ ':' :: behind =
            first :: others := by
        rw [← hbehind, List.takeWhile_append_dropWhile]
      refine ⟨_, hparts.symm, fun hcolon => ?_⟩
      cases List.mem_takeWhile_imp hcolon
    · cases h
  · cases h

theorem head?_dropWhile_bne {stop c : Char} (h : c ∈ (cs.dropWhile (· != stop)).head?) :
    c = stop := by
  simpa using Text.of_mem_head?_dropWhile h

theorem exists_splitTail (cs : List Char) :
    ∃ tail, cs = (splitTail cs).1 ++ tail ∧ ∀ c ∈ tail.head?, c = '?' ∨ c = '#' := by
  refine ⟨(cs.takeWhile (· != '#')).dropWhile (· != '?') ++ cs.dropWhile (· != '#'), ?_, ?_⟩
  · rw [splitTail, ← List.append_assoc, List.takeWhile_append_dropWhile,
      List.takeWhile_append_dropWhile]
  · intro c hc
    rw [List.head?_append, Option.mem_def, Option.or_eq_some_iff] at hc
    rcases hc with hquery | ⟨-, hfragment⟩
    · exact .inl (head?_dropWhile_bne hquery)
    · exact .inr (head?_dropWhile_bne hfragment)

/-- Either there is no `@`, or credentials stand before the last one. -/
theorem exists_splitLastAt (cs : List Char) :
    ∃ l : AuthorityLayout, ∃ rest, (splitLastAt cs).getD ([], cs) = (l.credentials.getD [], rest) ∧
      cs = l.beforeHost ++ rest ∧ '@' ∉ rest := by
  by_cases hat : '@' ∈ cs
  · obtain ⟨behind, front, hreverse, hnone⟩ := List.eq_append_cons_of_mem (List.mem_reverse.2 hat)
    have hcs : cs = front.reverse ++ '@' :: behind.reverse := by
      rw [← List.reverse_reverse cs, hreverse]
      simp
    have hrest : '@' ∉ behind.reverse := by simpa using hnone
    refine ⟨⟨some front.reverse, [], none, []⟩, behind.reverse, ?_, ?_, hrest⟩
    · rw [hcs, splitLastAt_append hrest]
      rfl
    · rw [hcs, AuthorityLayout.beforeHost]
      simp
  · refine ⟨⟨none, [], none, []⟩, cs, ?_, rfl, hat⟩
    rw [splitLastAt_eq_none hat]
    rfl

theorem isDigit_of_readPort {port : Option Nat} (h : readPort cs = .ok port) :
    ∀ c ∈ cs, c.isDigit = true := by
  unfold readPort at h
  dsimp only at h
  split at h
  · cases h
  next hvalid =>
    simp only [Bool.or_eq_true, not_or, List.any_eq_true, not_exists] at hvalid
    intro c hc
    simpa using fun hdigit => hvalid.1 c ⟨hc, hdigit⟩

/-- What has been done when an authority has been read. -/
theorem readAuthority_eq_ok {atEnd : Bool} {a : Authority} {left : List Char}
    (h : readAuthority scheme atEnd cs = .ok (a, left)) : ∃ credentials after host behind port,
      (splitLastAt cs).getD ([], cs) = (credentials, after) ∧
      splitHost false after = (host, behind) ∧ readHost scheme host = .ok a.host ∧
      (isSpecialScheme scheme = true → host ≠ []) ∧
      readPort ((behind.drop 1).takeWhile (· != '\\')) = .ok port ∧
      a.port = if port == defaultPort scheme then none else port := by
  unfold readAuthority at h
  rcases hlast : (splitLastAt cs).getD ([], cs) with ⟨credentials, after⟩
  rcases hsplit : splitHost false after with ⟨host, behind⟩
  simp only [hlast, hsplit, guard_eq_ok] at h
  obtain ⟨-, hempty, h⟩ := h
  have hsome : isSpecialScheme scheme = true → host ≠ [] := by
    rintro hspecial rfl
    exact hempty (by simp [hspecial])
  split at h
  next hspecial =>
    simp only [bind_eq_ok, guard_eq_ok] at h
    obtain ⟨_, hhost, -, port, hport, -, h⟩ := h
    obtain ⟨rfl, -⟩ := Prod.mk.inj (Except.ok.inj h)
    exact ⟨credentials, after, host, behind, port, rfl, hsplit,
      by rwa [readHost, if_pos hspecial], hsome, hport, rfl⟩
  next hspecial =>
    simp only [bind_eq_ok, guard_eq_ok] at h
    obtain ⟨_, hhost, -, port, hport, -, h⟩ := h
    obtain ⟨rfl, -⟩ := Prod.mk.inj (Except.ok.inj h)
    exact ⟨credentials, after, host, behind, port, rfl, hsplit,
      by rwa [readHost, if_neg hspecial], hsome, hport, rfl⟩

theorem ne_nil_of_readHost {host : Host} (h : readHost scheme cs = .ok host)
    (hspecial : isSpecialScheme scheme = true → cs ≠ []) (hhost : host.chars ≠ []) : cs ≠ [] := by
  rintro rfl
  have hother : ¬ isSpecialScheme scheme = true := fun hscheme => hspecial hscheme rfl
  rw [readHost, if_neg hother] at h
  obtain rfl := Except.ok.inj h
  exact hhost rfl

theorem exists_layout_of_readAuthority {atEnd : Bool} {a : Authority} {left : List Char}
    (h : readAuthority scheme atEnd cs = .ok (a, left)) (hhost : a.host.chars ≠ []) :
    ∃ l : AuthorityLayout, l.IsWritten ∧ l.chars = cs := by
  obtain ⟨_, _, _, _, port, hlast, hsplit, hread, hspecial, hport, -⟩ := readAuthority_eq_ok h
  have hsome := ne_nil_of_readHost hread hspecial hhost
  obtain ⟨front, rest, hlast', rfl, hat⟩ := exists_splitLastAt cs
  obtain ⟨rfl, rfl⟩ := Prod.mk.inj (hlast'.symm.trans hlast)
  obtain ⟨host, behind, isOpen, hsplit', rfl, henclosed, hends⟩ := exists_splitHost false rest
  obtain ⟨rfl, rfl⟩ := Prod.mk.inj (hsplit'.symm.trans hsplit)
  rcases hends with rfl | ⟨rfl, hhead⟩
  · exact ⟨⟨front.credentials, host, none, []⟩, {
      last_at := hat
      host := hsome
      enclosed := ⟨isOpen, henclosed, nofun⟩
      port := nofun
      left := .inl rfl }, rfl⟩
  · obtain ⟨more, rfl⟩ := List.head?_eq_some_iff.1 hhead
    have hbehind : more.takeWhile (· != '\\') ++ more.dropWhile (· != '\\') = more :=
      List.takeWhile_append_dropWhile
    refine ⟨⟨front.credentials, host, some (more.takeWhile (· != '\\')),
      more.dropWhile (· != '\\')⟩, {
        last_at := ?_
        host := hsome
        enclosed := ⟨false, henclosed, fun _ => rfl⟩
        port := ?_
        left := ?_ }, ?_⟩
    · rw [AuthorityLayout.behindHost, List.cons_append, hbehind]
      exact hat
    · intro digits hdigits
      obtain rfl := Option.some.inj hdigits
      exact isDigit_of_readPort hport
    · cases hleft : more.dropWhile (· != '\\') with
      | nil => exact .inl rfl
      | cons c left =>
          have hc : c ∈ (more.dropWhile (· != '\\')).head? := by rw [hleft]; rfl
          exact .inr ⟨rfl, by rw [head?_dropWhile_bne hc]; rfl⟩
    · rw [AuthorityLayout.chars, AuthorityLayout.behindHost, List.cons_append, hbehind]
      rfl

/-- What has been done when a hierarchy with an authority has been read. -/
theorem readHierarchy_eq_ok {a : Authority} {path : Path} (hfile : scheme ≠ "file")
    (h : readHierarchy scheme cs = .ok (some a, path)) : ∃ slashes behind,
      cs = slashes ++ behind ∧
      (if isSpecialScheme scheme then ∀ c ∈ slashes, c = '/' ∨ c = '\\'
        else slashes = ['/', '/']) ∧
      readBehindSlashes scheme behind = .ok (some a, path) := by
  unfold readHierarchy at h
  rw [if_neg (by simpa using hfile)] at h
  split at h
  next hspecial =>
    refine ⟨_, _, List.takeWhile_append_dropWhile.symm, ?_, h⟩
    rw [if_pos hspecial]
    intro c hc
    simpa using List.mem_takeWhile_imp hc
  next hspecial =>
    split at h
    next behind => exact ⟨['/', '/'], behind, rfl, by rw [if_neg hspecial], h⟩
    next => cases h
    next => cases h

theorem readBehindSlashes_eq_ok {a : Authority} {path : Path}
    (h : readBehindSlashes scheme cs = .ok (some a, path)) : ∃ atEnd left,
      readAuthority scheme atEnd (cs.takeWhile (!endsAuthority (isSpecialScheme scheme) ·)) =
        .ok (a, left) := by
  unfold readBehindSlashes at h
  obtain ⟨⟨_, left⟩, hread, h⟩ := bind_eq_ok.1 h
  obtain ⟨ha, -⟩ := Prod.mk.inj (Except.ok.inj h)
  obtain rfl := Option.some.inj ha
  exact ⟨_, left, hread⟩

/-- What has been done when a URL has been read. -/
theorem parse_eq_ok {text : String} {u : Url} (h : parse text = .ok u) : ∃ rest,
    splitScheme (cleaned text) = some (u.scheme, rest) ∧
      readHierarchy u.scheme (splitTail rest).1 = .ok (u.authority, u.path) := by
  unfold parse at h
  dsimp only at h
  split at h
  · cases h
  next scheme rest hscheme =>
    obtain ⟨⟨authority, path⟩, hread, h⟩ := bind_eq_ok.1 h
    obtain rfl := Except.ok.inj h
    exact ⟨rest, hscheme, hread⟩

/-- Every text that is read as a URL with a host is laid out in parts. -/
theorem exists_layout_of_parse {text : String} {u : Url} {a : Authority} (h : parse text = .ok u)
    (ha : u.authority = some a) (hhost : a.host.chars ≠ []) (hfile : u.scheme ≠ "file") :
    ∃ l : Layout, l.IsWritten (isSpecialScheme u.scheme) ∧ cleaned text = l.chars ∧
      splitScheme l.chars = some (u.scheme, l.slashes ++ (l.authority.chars ++ l.tail)) := by
  obtain ⟨rest, hscheme, hread⟩ := parse_eq_ok h
  rw [ha] at hread
  obtain ⟨front, hfront, hcolon⟩ := splitScheme_eq_some hscheme
  obtain ⟨more, hrest, hmore⟩ := exists_splitTail rest
  obtain ⟨slashes, behind, hbehind, hslashes, hread⟩ := readHierarchy_eq_ok hfile hread
  obtain ⟨_, left, hauthority⟩ := readBehindSlashes_eq_ok hread
  obtain ⟨l, hl, hchars⟩ := exists_layout_of_readAuthority hauthority hhost
  let tail := behind.dropWhile (!endsAuthority (isSpecialScheme u.scheme) ·) ++ more
  have hparts : rest = slashes ++ (l.chars ++ tail) := by
    rw [hchars, ← List.append_assoc (List.takeWhile _ _), List.takeWhile_append_dropWhile,
      ← List.append_assoc, ← hbehind]
    exact hrest
  refine ⟨⟨front, slashes, l, tail⟩, {
    scheme := hcolon
    slashes := hslashes
    authority := hl
    plain := ?_
    tail := ?_ }, ?_, ?_⟩
  · intro c hc
    rw [hchars] at hc
    simpa using List.mem_takeWhile_imp hc
  · intro c hc
    rw [List.head?_append, Option.mem_def, Option.or_eq_some_iff] at hc
    rcases hc with hc | ⟨-, hc⟩
    · simpa using Text.of_mem_head?_dropWhile hc
    · rcases hmore c hc with rfl | rfl <;> simp [endsAuthority]
  · rw [Layout.chars, ← hparts]
    exact hfront
  · rw [Layout.chars, ← hparts, ← hfront]
    exact hscheme

end DomainDeploy.Url
