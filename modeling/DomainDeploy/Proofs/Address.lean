import DomainDeploy.Proofs.Characters
import DomainDeploy.Proofs.Encoding
import DomainDeploy.Proofs.Graph

/-!
# Addresses of objects

The name of an object tells the path to it (`ObjectName.segments_ofPath`), and so does its URL:
names put behind a base address are read back from there (`DomainGraph.path?_eq`), whatever
characters they hold, and so is the field that a query asks for (`Url.askedField?_addQuery`). A
usable channel can send a request to such a URL unless the URL is too long
(`Rest.Channel.canSendTo_withoutCredentials`), and it is at least as long as any of its names
(`Rest.Channel.isTooLong_fieldAddress`).
-/

namespace DomainDeploy

variable {name : String} {p names : List String}

/-! ### Names of objects -/

/-- A path of names each of which can stand there. -/
structure IsProperPath (p : List String) : Prop where
  nonempty : p ≠ []
  names : ∀ name ∈ p, IsProperName name

theorem IsProperPath.append (h : IsProperPath p) (hnames : ∀ name ∈ names, IsProperName name) :
    IsProperPath (p ++ names) where
  nonempty := by simp [h.nonempty]
  names := by
    intro name hname
    rcases List.mem_append.1 hname with hname | hname
    · exact h.names name hname
    · exact hnames name hname

namespace ObjectName

theorem segments_ofPath (h : IsProperPath p) : (ofPath p).segments = p := by
  have noSlash : ∀ cs ∈ p.map String.toList, '/' ∉ cs := by
    intro cs hcs hslash
    obtain ⟨name, hname, rfl⟩ := List.mem_map.1 hcs
    exact ((h.names name hname).chars '/' hslash).1 rfl
  have hslash : "/".toList = ['/'] := rfl
  rw [segments, ofPath, String.toList_intercalate, hslash,
    List.splitOn_intercalate '/' noSlash (by simpa using h.nonempty), List.map_map]
  simp [Function.comp_def]

theorem isRoot_ofPath (h : IsProperPath p) : (ofPath p).isRoot = false := by
  by_contra hroot
  have hpath : (ofPath p).path = "" := by simpa [isRoot] using hroot
  have hp : p = [""] := by
    rw [← segments_ofPath h, segments, hpath]
    rfl
  exact (h.names "" (by simp [hp])).nonempty rfl

theorem child_ofPath (h : IsProperPath p) (name : String) :
    (ofPath p).child name = ofPath (p ++ [name]) := by
  rw [child, isRoot_ofPath h, ofPath, ofPath,
    String.intercalate_append_of_ne_nil h.nonempty (by simp)]
  simp

end ObjectName

/-! ### Names in URLs -/

namespace Url

open Text.Utf8

/-- A name as a segment of a path. -/
def spelled (name : String) : List Char := encodeWith .specialSegment name.toList

theorem decode?_spelled (name : String) : decode? (decodeBytes (spelled name)) = some name :=
  decode?_decodeBytes_encodeWith rfl name

theorem decodeBytes_of_isDot {cs : List Char} (h : isDot cs = true) (rest : List Char) :
    decodeBytes (cs ++ rest) = 46 :: decodeBytes rest := by
  have spelledDot {b : Char} (hb : hexDigit? b = some 14) :
      decodeBytes ('%' :: '2' :: b :: rest) = 46 :: decodeBytes rest := by
    have htwo : hexDigit? '2' = some 2 := by decide
    rw [decodeBytes, htwo, hb]
    simp
  simp only [isDot, Bool.or_eq_true, beq_iff_eq] at h
  rcases h with (rfl | rfl) | rfl
  · exact decodeBytes_cons (by decide) rest
  · exact spelledDot (by decide)
  · exact spelledDot (by decide)

theorem decode?_of_isDot {cs : List Char} (h : isDot cs = true) :
    decode? (decodeBytes cs) = some "." := by
  have hbytes := decodeBytes_of_isDot h []
  have hnone : decodeBytes [] = [] := by simp [decodeBytes]
  rw [List.append_nil, hnone] at hbytes
  have hdot : encode "." = [46] := by simp [encode_eq, String.utf8EncodeChar]
  rw [hbytes, ← hdot, decode?_encode]

theorem decode?_of_isDoubleDot {cs : List Char} (h : isDoubleDot cs = true) :
    decode? (decodeBytes cs) = some ".." := by
  have hdots : encode ".." = [46, 46] := by simp [encode_eq, String.utf8EncodeChar]
  have hnone : decodeBytes [] = [] := by simp [decodeBytes]
  have split_at (k : Nat) (front : isDot (cs.take k) = true) (behind : isDot (cs.drop k) = true) :
      decodeBytes cs = [46, 46] := by
    have hbehind := decodeBytes_of_isDot behind []
    rw [List.append_nil, hnone] at hbehind
    rw [← List.take_append_drop k cs, decodeBytes_of_isDot front, hbehind]
  simp only [isDoubleDot, Bool.and_eq_true, Bool.or_eq_true] at h
  rcases h with ⟨-, ⟨front, behind⟩ | ⟨front, behind⟩⟩
  · rw [split_at 1 front behind, ← hdots, decode?_encode]
  · rw [split_at 3 front behind, ← hdots, decode?_encode]

theorem isDot_spelled (h : name ≠ ".") : isDot (spelled name) = false := by
  by_contra hdot
  have hname := decode?_of_isDot (Bool.of_not_eq_false hdot)
  rw [decode?_spelled] at hname
  exact h (Option.some.inj hname)

theorem isDoubleDot_spelled (h : name ≠ "..") : isDoubleDot (spelled name) = false := by
  by_contra hdots
  have hname := decode?_of_isDoubleDot (Bool.of_not_eq_false hdots)
  rw [decode?_spelled] at hname
  exact h (Option.some.inj hname)

theorem pushSegment_of_isProperName (h : IsProperName name) (parts : List (List Char)) :
    pushSegment true parts name = (if parts == [[]] then [] else parts) ++ [spelled name] := by
  have kept : name.toList.filter (!isDropped ·) = name.toList := by
    rw [List.filter_eq_self]
    intro c hc
    simp [isDropped, h.chars c hc]
  have proper : (name == "." || name == "..") = false := by simp [h.not_dot, h.not_dots]
  have hdot := isDot_spelled h.not_dot
  have hdots := isDoubleDot_spelled h.not_dots
  unfold spelled at hdot hdots
  simp [pushSegment, proper, kept, addSegment, hdot, hdots, spelled]

theorem spelled_ne_nil (h : name ≠ "") : spelled name ≠ [] := by
  intro hnil
  have hname := decode?_spelled name
  have hnone : decodeBytes [] = encode "" := by simp [decodeBytes, encode_eq]
  rw [hnil, hnone, decode?_encode] at hname
  exact h (Option.some.inj hname).symm

theorem foldl_pushSegment {parts : List (List Char)} (h : parts ≠ [[]])
    (hnames : ∀ name ∈ names, IsProperName name) :
    names.foldl (pushSegment true) parts = parts ++ names.map spelled := by
  induction names generalizing parts with
  | nil => simp
  | cons name names ih =>
      have first := hnames name List.mem_cons_self
      have later : ∀ name ∈ names, IsProperName name := fun n hn =>
        hnames n (List.mem_cons_of_mem _ hn)
      have hne : parts ++ [spelled name] ≠ [[]] := by
        simp [List.append_eq_singleton_iff, spelled_ne_nil first.nonempty]
      rw [List.foldl_cons, pushSegment_of_isProperName first, if_neg (by simpa using h),
        ih hne later]
      simp

/-- Names put behind the segments of a base address. -/
def behind (base : Url) (names : List String) : Url :=
  { base with path := .segments (base.mount ++ names.map spelled) }

theorem mount_ne (base : Url) : base.mount ≠ [[]] := by
  have cleared (parts : List (List Char)) : (if parts == [[]] then [] else parts) ≠ [[]] := by
    by_cases h : parts = [[]] <;> simp [h]
  unfold mount
  split
  · simp
  · exact cleared _

theorem extend?_eq_behind {base : Url} {parts : List (List Char)}
    (hpath : base.path = .segments parts) (special : isSpecialScheme base.scheme = true)
    (h : IsProperPath p) : base.extend? p = some (base.behind p) := by
  cases p with
  | nil => exact absurd rfl h.nonempty
  | cons name names =>
      have first := h.names name List.mem_cons_self
      have later := foldl_pushSegment base.mount_ne h.names
      have start : pushSegment true base.mount name = base.mount ++ [spelled name] := by
        rw [pushSegment_of_isProperName first, if_neg (by simpa using base.mount_ne)]
      rw [List.foldl_cons, start] at later
      simp only [extend?, hpath, special, List.foldl_cons, pushSegment_of_isProperName first]
      simp only [mount, hpath] at later
      rw [later, behind, mount, hpath]

theorem names?_eq {base url : Url} (h : url.path = (base.behind p).path) :
    base.names? url = some p := by
  have hmap : p.mapM (fun name => some name) = some p := by
    simpa using List.mapM_pure (m := Option) (l := p) (f := id)
  simp [names?, h, behind, Function.comp_def, decode?_spelled, hmap]

/-! ### Queries -/

/-- A letter or a digit is a byte of its own, which stays as it is. -/
theorem flatMap_formByte_of_isAlphanum {c : Char} (h : c.isAlphanum = true) :
    (String.utf8EncodeChar c).flatMap formByte = [c] := by
  have small : c.toNat ≤ 127 := Nat.le_of_lt_succ (Text.toNat_of_isAlphanum h)
  have hchar : Char.ofNat (UInt8.ofNat c.toNat).toNat = c := by
    rw [toNat_ofNat_of_lt (by omega), Char.ofNat_toNat]
  have hbytes : String.utf8EncodeChar c = [UInt8.ofNat c.toNat] := by
    simp [String.utf8EncodeChar, small]
  simp only [hbytes, List.flatMap_singleton, formByte, hchar, h, Bool.true_or, if_true]

theorem formEncode_of_isAlphanum (h : name.toList.all Char.isAlphanum = true) :
    formEncode name = name.toList := by
  rw [formEncode, encode_eq, List.flatMap_assoc]
  calc name.toList.flatMap (fun c => (String.utf8EncodeChar c).flatMap formByte)
      = name.toList.flatMap (fun c => [c]) :=
        List.flatMap_congr fun c hc =>
          flatMap_formByte_of_isAlphanum (List.all_eq_true.1 h c hc)
    _ = name.toList := by simp

theorem decode?_decodeBytes_of_isAlphanum (h : name.toList.all Char.isAlphanum = true) :
    decode? (decodeBytes name.toList) = some name := by
  have unspelled : encodeWith (· == '%') name.toList = name.toList := by
    refine encodeWith_eq_self fun c hc => ?_
    rw [beq_eq_false_iff_ne]
    rintro rfl
    exact absurd (List.all_eq_true.1 h _ hc) (by decide)
  rw [← unspelled, decode?_decodeBytes_encodeWith (by simp)]

theorem splitOn_query {field : String} (h : field.toList.all Char.isAlphanum = true) :
    (("fields=".toList ++ field.toList) ++ '&' :: "links=none".toList).splitOn '&' =
      ["fields=".toList ++ field.toList, "links=none".toList] := by
  have apart : ∀ piece ∈ ["fields=".toList ++ field.toList, "links=none".toList], '&' ∉ piece := by
    have hfield : '&' ∉ field.toList := fun hc =>
      absurd (List.all_eq_true.1 h _ hc) (by decide)
    simp [hfield]
  have split := List.splitOn_intercalate '&' apart (by simp)
  simpa using split

theorem query_addQuery (url : Url) {field : String} (h : field.toList.all Char.isAlphanum = true) :
    ∃ front : List (List Char),
      ((url.addQuery [("fields", field), ("links", "none")]).query.getD []).splitOn '&' =
        front ++ ["fields=".toList ++ field.toList, "links=none".toList] := by
  have hfields : formEncode "fields" = "fields".toList := formEncode_of_isAlphanum (by decide)
  have hlinks : formEncode "links" = "links".toList := formEncode_of_isAlphanum (by decide)
  have hnone : formEncode "none" = "none".toList := formEncode_of_isAlphanum (by decide)
  have asked : formPair "fields" field = "fields=".toList ++ field.toList := by
    simp [formPair, hfields, formEncode_of_isAlphanum h]
  have plain : formPair "links" "none" = "links=none".toList := by simp [formPair, hlinks, hnone]
  by_cases hquery : url.query.getD [] = []
  · refine ⟨[], ?_⟩
    rw [List.nil_append, ← splitOn_query h]
    simp [addQuery, hquery, asked, plain]
  · refine ⟨(url.query.getD []).splitOn '&', ?_⟩
    have separates : ('&' == '&') = true := rfl
    have apart := List.splitOnP_append_cons (p := (· == '&')) (url.query.getD [])
      (("fields=".toList ++ field.toList) ++ '&' :: "links=none".toList) separates
    rw [← splitOn_query h]
    refine Eq.trans ?_ apart
    simp [addQuery, hquery, asked, plain, List.splitOn]

theorem askedField?_addQuery {url : Url} {field : String}
    (h : field.toList.all Char.isAlphanum = true) :
    (url.addQuery [("fields", field), ("links", "none")]).askedField? = some field := by
  rcases query_addQuery url h with ⟨front, hpieces⟩
  have hdrop : ("fields=".toList ++ field.toList).drop "fields=".length = field.toList :=
    List.drop_left' String.length_toList
  have found : "fields=".toList.isPrefixOf ("fields=".toList ++ field.toList) = true := by simp
  have other : ¬ "fields=".toList.isPrefixOf "links=none".toList = true := by decide
  have hlast : (front ++ ["fields=".toList ++ field.toList, "links=none".toList]).reverse =
      "links=none".toList :: ("fields=".toList ++ field.toList) :: front.reverse := by simp
  rw [askedField?, hpieces, hlast, List.find?_cons_of_neg other, List.find?_cons_of_pos found]
  simp only [Option.bind_eq_bind, Option.bind_some, hdrop, decode?_decodeBytes_of_isAlphanum h]

/-! ### Without user name and password -/

section

variable (url : Url)

@[simp] theorem scheme_withoutCredentials : url.withoutCredentials.scheme = url.scheme := by
  unfold withoutCredentials
  split <;> rfl

@[simp] theorem path_withoutCredentials : url.withoutCredentials.path = url.path := by
  unfold withoutCredentials
  split <;> rfl

@[simp] theorem query_withoutCredentials : url.withoutCredentials.query = url.query := by
  unfold withoutCredentials
  split <;> rfl

@[simp] theorem host?_withoutCredentials : url.withoutCredentials.host? = url.host? := by
  unfold withoutCredentials
  split
  · rfl
  · unfold host?
    cases url.authority <;> rfl

@[simp] theorem askedField?_withoutCredentials :
    url.withoutCredentials.askedField? = url.askedField? := by
  simp only [askedField?, query_withoutCredentials]

end

/-- Whether no request can be sent to the URL because of its length. -/
def isTooLong (url : Url) : Bool :=
  Http.longestUrl < url.withoutCredentials.toText.utf8ByteSize

end Url

/-! ### Usable channels -/

namespace Rest.Channel

/-- A channel that is open and whose base address is one that requests can be sent to. -/
structure IsUsable (c : Channel) : Prop where
  isOpen : c.isClosed = false
  scheme : c.base.scheme = "http" ∨ c.base.scheme = "https"
  host : (c.base.host?.getD "").toList.all Http.isHostChar = true
  path : ∃ parts, c.base.path = .segments parts

/-- The URL of the object at a path, or of an operation of it. -/
def address (c : Channel) (p : List String) : Url := c.base.behind (apiRoot ++ p)

/-- The URL from which a field of the object at a path is read. -/
def fieldAddress (c : Channel) (p : List String) (field : String) : Url :=
  (c.address p).addQuery [("fields", field), ("links", "none")]

variable {c : Channel}

theorem isProperName_apiRoot : ∀ name ∈ apiRoot, IsProperName name := by decide

theorem isProperPath_apiRoot_append (h : ∀ name ∈ p, IsProperName name) :
    IsProperPath (apiRoot ++ p) :=
  IsProperPath.append ⟨by decide, isProperName_apiRoot⟩ h

theorem IsUsable.isSpecialScheme (usable : c.IsUsable) :
    Url.isSpecialScheme c.base.scheme = true := by
  rcases usable.scheme with h | h <;> rw [h] <;> decide

theorem resourceUrl_ofPath (usable : c.IsUsable) (h : IsProperPath p) (operation : Option String)
    (hoperation : ∀ name ∈ operation.toList, IsProperName name) :
    c.resourceUrl (.ofPath p) operation = .ok (c.address (p ++ operation.toList)) := by
  have kept : p.filter (· != "") = p := by
    rw [List.filter_eq_self]
    intro name hname
    simp [(h.names name hname).nonempty]
  have proper := (h.append hoperation).names
  rcases usable.path with ⟨parts, hpath⟩
  rw [resourceUrl, ObjectName.segments_ofPath h, kept, List.append_assoc,
    Url.extend?_eq_behind hpath usable.isSpecialScheme (isProperPath_apiRoot_append proper)]
  rfl

theorem canSendTo_withoutCredentials (usable : c.IsUsable) {url : Url}
    (hscheme : url.scheme = c.base.scheme) (hauthority : url.authority = c.base.authority) :
    Http.canSendTo url.withoutCredentials = !url.isTooLong := by
  have hhost : url.host? = c.base.host? := by rw [Url.host?, hauthority, Url.host?]
  have hhttp : (c.base.scheme == "http" || c.base.scheme == "https") = true := by
    simpa using usable.scheme
  rw [Http.canSendTo, Url.scheme_withoutCredentials, Url.host?_withoutCredentials, hscheme, hhost,
    hhttp, usable.host, Bool.true_and, Bool.true_and]
  rw [Url.isTooLong, ← decide_not]
  exact decide_eq_decide.2 Nat.not_lt.symm

end Rest.Channel

theorem DomainGraph.path?_eq {base url : Url}
    (h : url.path = (base.behind (Rest.Channel.apiRoot ++ p)).path) :
    DomainGraph.path? base url = some p := by
  simp [DomainGraph.path?, Url.names?_eq h]

/-! ### Lengths -/

theorem length_le_utf8ByteSize (cs : List Char) : cs.length ≤ (String.ofList cs).utf8ByteSize := by
  induction cs with
  | nil => simp
  | cons c cs ih =>
      have hcons : String.ofList (c :: cs) = String.singleton c ++ String.ofList cs := by simp
      have hpos := c.utf8Size_pos
      rw [hcons, String.utf8ByteSize_append, String.utf8ByteSize_singleton, List.length_cons]
      omega

namespace Url

theorem length_le_encodeWith (set : EncodeSet) (cs : List Char) :
    cs.length ≤ (encodeWith set cs).length := by
  induction cs with
  | nil => simp
  | cons c cs ih =>
      have hchar : 1 ≤ (if set c then spellChar c else [c]).length := by
        split
        · have hpos := c.utf8Size_pos
          rw [spellChar, Text.Utf8.encode_toString, List.length_flatMap]
          simp [spellByte]
          omega
        · simp
      have hcons : encodeWith set (c :: cs) =
          (if set c then spellChar c else [c]) ++ encodeWith set cs := by simp [encodeWith]
      rw [hcons, List.length_append, List.length_cons]
      omega

theorem length_le_of_mem {url : Url} {parts : List (List Char)} {segment : List Char}
    (hpath : url.path = .segments parts) (h : segment ∈ parts) :
    segment.length ≤ url.toText.utf8ByteSize := by
  have htext := length_le_utf8ByteSize url.chars
  rcases List.append_of_mem h with ⟨before, behind, rfl⟩
  have hchars : segment.length ≤ url.chars.length := by
    simp [chars, hpath, Path.chars]
    omega
  exact hchars.trans htext

end Url

/-- A URL is at least as long as every name on the way to the object. -/
theorem Rest.Channel.isTooLong_fieldAddress (c : Rest.Channel) (h : name ∈ p)
    (long : Http.longestUrl < name.length) (field : String) :
    (c.fieldAddress p field).isTooLong = true := by
  have hpath : (c.fieldAddress p field).withoutCredentials.path =
      .segments (c.base.mount ++ (apiRoot ++ p).map Url.spelled) := by
    rw [Url.path_withoutCredentials]
    rfl
  have hspelled : Url.spelled name ∈ c.base.mount ++ (apiRoot ++ p).map Url.spelled :=
    List.mem_append_right _ (List.mem_map_of_mem (List.mem_append_right _ h))
  have hname := Url.length_le_encodeWith .specialSegment name.toList
  rw [String.length_toList] at hname
  exact decide_eq_true (long.trans_le (hname.trans (Url.length_le_of_mem hpath hspelled)))

end DomainDeploy
