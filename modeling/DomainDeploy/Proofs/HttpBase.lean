import DomainDeploy.AdminUrl
import DomainDeploy.Proofs.Characters
import DomainDeploy.Proofs.Layout

/-!
# The address that is asked over HTTP

The HTTP address of an admin server is put together from a scheme, a host and a port, and it is read
again before anything is sent. What it reads as is told by its host alone (`Url.parse_baseText`):
the scheme and the port come back, and the host is read as the special schemes read theirs.
-/

namespace DomainDeploy

namespace Url

/-! ### Ports -/

/-- Reading digits with a cap comes to the number that they spell, or to the cap. -/
theorem foldl_min_eq (cs : List Char) (n : Nat) :
    cs.foldl (fun n c => min (n * 10 + (c.toNat - 48)) 65536) (min n 65536) =
      min (Nat.ofDigitChars 10 cs n) 65536 := by
  induction cs generalizing n with
  | nil => simp
  | cons c cs ih =>
      rw [List.foldl_cons, Nat.ofDigitChars_cons, ← ih]
      congr 1
      simp only [Char.reduceToNat]
      omega

theorem readPort_toDigits {port : Nat} (h : port ≤ 65535) :
    readPort (Nat.toDigits 10 port) = .ok (some port) := by
  have hfold := foldl_min_eq (Nat.toDigits 10 port) 0
  rw [Nat.ofDigitChars_ten_toDigits, Nat.min_eq_left (by omega : port ≤ 65536)] at hfold
  have hdigits : (Nat.toDigits 10 port).any (!·.isDigit) = false := by
    rw [List.any_eq_false]
    intro c hc
    have hdigit : c.isDigit = true := Nat.isDigit_of_mem_toDigits (by decide) (by decide) hc
    simp [hdigit]
  have hsome : (Nat.toDigits 10 port).isEmpty = false := by
    simp [Nat.toDigits_ne_nil]
  unfold readPort
  simp only [Nat.zero_min] at hfold
  simp [hfold, hdigits, hsome, Nat.not_lt.2 h]

theorem le_of_readPort {cs : List Char} {port : Nat} (h : readPort cs = .ok (some port)) :
    port ≤ 65535 := by
  unfold readPort at h
  dsimp only at h
  split at h
  · cases h
  next hvalid =>
    split at h
    · cases h
    · obtain rfl := Option.some.inj (Except.ok.inj h)
      simp only [Bool.or_eq_true, decide_eq_true_eq, not_or] at hvalid
      omega

/-! ### Texts that name a host -/

/-- A text that is read as a host as a whole: no character of it ends a host, or it is closed in
brackets, where colons do not. -/
inductive IsHostText : List Char → Prop
  | open_ {text : List Char} (nonempty : text ≠ [])
      (chars : ∀ c ∈ text, Host.isForbidden c = false) : IsHostText text
  | bracketed {inside : List Char}
      (chars : ∀ c ∈ inside, c = ':' ∨ Host.isForbidden c = false) :
      IsHostText ('[' :: (inside ++ [']']))

/-- Characters of a host with its port. -/
def IsAuthorityChar (c : Char) : Prop := Host.isForbidden c = false ∨ c ∈ [':', '[', ']']

theorem isForbidden_of_isDigit {c : Char} (h : c.isDigit = true) : Host.isForbidden c = false := by
  have hall := Text.of_ascii (p := fun c => !c.isDigit || !Host.isForbidden c) (by decide)
    (c := c) (by have := Text.toNat_of_isDigit h; omega)
  simpa [h] using hall

theorem IsAuthorityChar.ne {c : Char} (h : IsAuthorityChar c) :
    c ∉ ['/', '?', '#', '\\', '@', '\t', '\n', '\r'] := by
  intro hmem
  rcases h with h | h
  · revert h
    simp only [List.mem_cons, List.not_mem_nil, or_false] at hmem
    rcases hmem with rfl | rfl | rfl | rfl | rfl | rfl | rfl | rfl <;> decide
  · simp only [List.mem_cons, List.not_mem_nil, or_false] at hmem h
    rcases h with rfl | rfl | rfl <;> simp at hmem

variable {text : List Char} {port : Nat}

theorem IsHostText.isAuthorityChar (h : IsHostText text) (port : Nat) :
    ∀ c ∈ text ++ ':' :: Nat.toDigits 10 port, IsAuthorityChar c := by
  intro c hc
  rcases List.mem_append.1 hc with hc | hc
  · cases h with
    | open_ _ chars => exact .inl (chars c hc)
    | bracketed chars =>
        simp only [List.mem_cons, List.mem_append, List.not_mem_nil, or_false] at hc
        rcases hc with rfl | hc | rfl
        · exact .inr (by simp)
        · rcases chars c hc with rfl | hplain
          · exact .inr (by simp)
          · exact .inl hplain
        · exact .inr (by simp)
  · rcases List.mem_cons.1 hc with rfl | hc
    · exact .inr (by simp)
    · have hdigit := Nat.isDigit_of_mem_toDigits (by decide) (by decide) hc
      exact .inl (isForbidden_of_isDigit hdigit)

theorem encloses_of_isForbidden {before : Bool} (h : ∀ c ∈ text, Host.isForbidden c = false) :
    Encloses before text before := by
  induction text with
  | nil => exact .nil
  | cons c text ih =>
      obtain ⟨hc, htext⟩ := List.forall_mem_cons.1 h
      refine .other (fun hmem => ?_) (ih htext)
      simp only [List.mem_cons, List.not_mem_nil, or_false] at hmem
      rcases hmem with rfl | rfl | rfl <;> cases hc

theorem encloses_inside {inside : List Char}
    (h : ∀ c ∈ inside, c = ':' ∨ Host.isForbidden c = false) :
    Encloses true (inside ++ [']']) false := by
  induction inside with
  | nil => exact .closing .nil
  | cons c inside ih =>
      obtain ⟨hc, hinside⟩ := List.forall_mem_cons.1 h
      rcases hc with rfl | hc
      · exact .colon (ih hinside)
      · refine .other (fun hmem => ?_) (ih hinside)
        simp only [List.mem_cons, List.not_mem_nil, or_false] at hmem
        rcases hmem with rfl | rfl | rfl <;> cases hc

theorem IsHostText.encloses (h : IsHostText text) : Encloses false text false := by
  cases h with
  | open_ _ chars => exact encloses_of_isForbidden chars
  | bracketed chars => exact .opening (encloses_inside chars)

theorem IsHostText.ne_nil (h : IsHostText text) : text ≠ [] := by
  cases h with
  | open_ nonempty => exact nonempty
  | bracketed => simp

/-! ### What an address reads as -/

/-- The URL of a host and a port under a special scheme. -/
def base (scheme : String) (host : Host) (port : Nat) : Url where
  scheme := scheme
  authority := some ⟨[], none, host, if some port == defaultPort scheme then none else some port⟩
  path := .segments [[]]
  query := none
  fragment := none

/-- The address of a host and a port. -/
def baseText (scheme : String) (text : List Char) (port : Nat) : String :=
  String.ofList (scheme.toList ++ ':' :: '/' :: '/' :: (text ++ ':' :: Nat.toDigits 10 port))

/-- The parts of such an address. -/
def baseLayout (scheme : String) (text : List Char) (port : Nat) : Layout :=
  ⟨scheme.toList, ['/', '/'], ⟨none, text, some (Nat.toDigits 10 port), []⟩, []⟩

variable {scheme : String} {p : Protocol}

theorem chars_baseLayout_authority (scheme : String) (text : List Char) (port : Nat) :
    (baseLayout scheme text port).authority.chars = text ++ ':' :: Nat.toDigits 10 port := by
  simp [AuthorityLayout.chars, AuthorityLayout.beforeHost, AuthorityLayout.behindHost, baseLayout]

theorem toList_baseText (scheme : String) (text : List Char) (port : Nat) :
    (baseText scheme text port).toList = (baseLayout scheme text port).chars := by
  rw [baseText, String.toList_ofList, Layout.chars, chars_baseLayout_authority]
  simp [baseLayout]

theorem isWritten_baseLayout (h : IsHostText text) (p : Protocol) (port : Nat)
    (special : Bool) : (baseLayout p.name text port).IsWritten special where
  scheme := show ':' ∉ p.name.toList by cases p <;> decide
  slashes := by cases special <;> simp [baseLayout]
  authority := {
    last_at := fun hat => by
      have hchars := chars_baseLayout_authority p.name text port
      exact (h.isAuthorityChar port '@' (hchars ▸ hat)).ne (by simp)
    host := h.ne_nil
    enclosed := ⟨false, h.encloses, fun _ => rfl⟩
    port := by
      rintro digits hdigits c hc
      obtain rfl := Option.some.inj hdigits
      exact Nat.isDigit_of_mem_toDigits (by decide) (by decide) hc
    left := .inl rfl }
  plain := by
    intro c hc
    rw [chars_baseLayout_authority] at hc
    have := (h.isAuthorityChar port c hc).ne
    simp_all [endsAuthority]
  tail := nofun

theorem getLast?_baseText (scheme : String) (text : List Char) (port : Nat) :
    ∀ c ∈ (baseText scheme text port).toList.getLast?, c.isDigit = true := by
  intro c hc
  have hparts : (baseText scheme text port).toList =
      (scheme.toList ++ ':' :: '/' :: '/' :: (text ++ [':'])) ++ Nat.toDigits 10 port := by
    simp [baseText]
  rw [hparts, List.getLast?_append, List.getLast?_eq_some_getLast Nat.toDigits_ne_nil,
    Option.some_or, Option.mem_some] at hc
  have hlast : c ∈ Nat.toDigits 10 port := hc ▸ List.getLast_mem Nat.toDigits_ne_nil
  exact Nat.isDigit_of_mem_toDigits (by decide) (by decide) hlast

theorem splitScheme_name (p : Protocol) (rest : List Char) :
    splitScheme (p.name.toList ++ ':' :: rest) = some (p.name, rest) := by
  cases p <;> rfl

/-- Nothing of an address is blank or is dropped. -/
theorem isKept_baseText (h : IsHostText text) (port : Nat) :
    ∀ c ∈ (baseText p.name text port).toList, isDropped c = false := by
  intro c hc
  rw [baseText, String.toList_ofList] at hc
  rcases List.mem_append.1 hc with hc | hc
  · have hname : p.name.toList.all (!isDropped ·) = true := by cases p <;> decide
    simpa using List.all_eq_true.1 hname c hc
  · simp only [List.mem_cons] at hc
    rcases hc with rfl | rfl | rfl | hc
    · rfl
    · rfl
    · rfl
    · have := (h.isAuthorityChar port c hc).ne
      simp_all [isDropped]

theorem cleaned_baseText (h : IsHostText text) (port : Nat) :
    cleaned (baseText p.name text port) = (baseLayout p.name text port).chars := by
  have hfirst : ∀ c ∈ (baseText p.name text port).toList.head?,
      (decide (c.toNat ≤ 0x20)) = false := by
    cases p <;> simp [baseText, Protocol.name]
  have hlast : ∀ c ∈ (baseText p.name text port).toList.getLast?,
      (decide (c.toNat ≤ 0x20)) = false := by
    intro c hc
    have := Text.toNat_of_isDigit (getLast?_baseText p.name text port c hc)
    simp
    omega
  rw [cleaned, Text.trimWhere_of_ends hfirst hlast, List.filter_eq_self.2, toList_baseText]
  intro c hc
  simp [isKept_baseText h port c hc]

/-- The address of a host and a port is read as these, by the rules of the scheme. -/
theorem parse_baseText_name (p : Protocol) (h : IsHostText text) (hport : port ≤ 65535) :
    parse (baseText p.name text port) = (readHost p.name text).map fun host =>
      { base p.name host port with path := readPath (isSpecialScheme p.name) [] } := by
  have hfile : p.name ≠ "file" := by cases p <;> decide
  have hscheme : splitScheme (baseLayout p.name text port).chars = some (p.name,
      (baseLayout p.name text port).slashes ++ ((baseLayout p.name text port).authority.chars ++
        (baseLayout p.name text port).tail)) := splitScheme_name p _
  have hcredentials : readCredentials [] = ([], none) := rfl
  have htail : splitTail [] = ([], none, none) := rfl
  rw [Layout.parse_eq (isWritten_baseLayout h p port _) hscheme hfile (cleaned_baseText h port)]
  simp only [baseLayout, Option.getD_some, Option.getD_none, readPort_toDigits hport, hcredentials,
    htail]
  cases readHost p.name text <;> rfl

theorem parse_baseText (hscheme : scheme = "http" ∨ scheme = "https") (h : IsHostText text)
    (hport : port ≤ 65535) :
    parse (baseText scheme text port) =
      (Host.ofSpecial text).map fun host => base scheme host port := by
  rcases hscheme with rfl | rfl
  · exact parse_baseText_name .http h hport
  · exact parse_baseText_name .https h hport

end Url

end DomainDeploy
