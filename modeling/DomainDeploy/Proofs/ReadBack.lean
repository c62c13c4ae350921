import Mathlib.Data.List.Forall2
import DomainDeploy.Deployment.Endpoint
import DomainDeploy.Deployment.Server
import DomainDeploy.Proofs.Records
import DomainDeploy.Proofs.Writing

/-!
# Endpoints and servers that are read back

What is written in a layout that puts only white space between items and members is a value by the
grammar (`isValue_write`), and an object that is written is read as the record that its members fill
(`takes_record_write`). So endpoints and servers are read back from what is written of them in
either layout, whatever their names hold, and a text that is read as one of them may be written
anew without changing what is read (`written_isReadBack`).
-/

namespace DomainDeploy

namespace Json

/-! ### What is written -/

/-- A value that holds no floating point number. -/
inductive IsExact : Json → Prop
  | null : IsExact null
  | bool (b : Bool) : IsExact (bool b)
  | natural (n : Nat) : IsExact (number (.natural n))
  | negative (n : Nat) : IsExact (number (.negative n))
  | string (s : String) : IsExact (string s)
  | array {items : List Json} (h : ∀ item ∈ items, IsExact item) : IsExact (array items)
  | object {members : List (String × Json)} (h : ∀ m ∈ members, IsExact m.2) :
      IsExact (object members)

variable {layout : Layout} {n : Nat} {j : Json} {items : List Json}
  {members : List (String × Json)}

/-- How an item of a list is written. -/
def Layout.item (layout : Layout) (n : Nat) (j : Json) : Item :=
  ⟨layout.beforeItem n, write layout (n + 1) j, []⟩

/-- How a member of an object is written. -/
def Layout.member (layout : Layout) (n : Nat) (m : String × Json) : Member :=
  ⟨layout.beforeItem n, m.1.toList.flatMap escapeChar, [], layout.afterColon,
    write layout (n + 1) m.2, []⟩

/-- What is written before the end of a list or an object; an empty one stays on its line. -/
def Layout.closing (layout : Layout) (n : Nat) (empty : Bool) : List Char :=
  if empty then [] else layout.beforeClose n

theorem writeItems_eq (layout : Layout) (n : Nat) (items : List Json) :
    writeItems layout n items =
      ((items.map (layout.item n)).map Item.chars).flatMap (',' :: ·) := by
  induction items with
  | nil => rfl
  | cons item items ih => simp [writeItems, ih, Layout.item, Item.chars, Item.inner]

theorem writeMembers_eq (layout : Layout) (n : Nat) (members : List (String × Json)) :
    writeMembers layout n members =
      ((members.map (layout.member n)).map Member.chars).flatMap (',' :: ·) := by
  induction members with
  | nil => rfl
  | cons m members ih =>
      simp [writeMembers, ih, Layout.member, Member.chars, Member.inner, quoted, quote]

theorem write_array (layout : Layout) (n : Nat) (items : List Json) :
    write layout n (array items) =
      listText (layout.closing n items.isEmpty) (items.map (layout.item n)) := by
  cases items with
  | nil => rfl
  | cons item items =>
      simp [write, listText, commaed, writeItems_eq, Layout.closing, Layout.item, Item.chars,
        Item.inner]

theorem write_object (layout : Layout) (n : Nat) (members : List (String × Json)) :
    write layout n (object members) =
      objectText (layout.closing n members.isEmpty) (members.map (layout.member n)) := by
  cases members with
  | nil => rfl
  | cons m members =>
      simp [write, objectText, commaed, writeMembers_eq, Layout.closing, Layout.member,
        Member.chars, Member.inner, quoted, quote]

variable (blank : layout.IsBlank)

include blank in
theorem isSpacing_closing (n : Nat) (empty : Bool) : IsSpacing (layout.closing n empty) := by
  cases empty
  · exact blank.beforeClose n
  · exact isSpacing_nil

include blank in
theorem isSpaced_item (n : Nat) (j : Json) : (layout.item n j).IsSpaced :=
  ⟨blank.beforeItem n, isSpacing_nil⟩

include blank in
theorem isSpaced_member (n : Nat) (m : String × Json) : (layout.member n m).IsSpaced :=
  ⟨blank.beforeItem n, isSpacing_nil, blank.afterColon, isSpacing_nil⟩

include blank in
/-- What is written is a value by the grammar. -/
theorem isValue_write (h : IsExact j) (n : Nat) : IsValue (write layout n j) := by
  have unsigned (n : Nat) : IsUnsigned (Nat.toDigits 10 n) := by
    simpa using IsUnsigned.mk (isWhole_toDigits n) .none .none
  induction h generalizing n with
  | null => exact .nullWord
  | bool b =>
      cases b
      · exact .falseWord
      · exact .trueWord
  | natural m => exact .unsigned (unsigned m)
  | negative m => exact .negative (unsigned m)
  | string s => exact .text (spells_escapeChar _).isTextBody
  | array h ih =>
      rw [write_array]
      refine .list (isSpacing_closing blank n _) (fun i hi => ?_) (fun i hi => ?_)
      · obtain ⟨j, -, rfl⟩ := List.mem_map.1 hi
        exact isSpaced_item blank n j
      · obtain ⟨j, hj, rfl⟩ := List.mem_map.1 hi
        exact ih j hj (n + 1)
  | object h ih =>
      rw [write_object]
      refine .object (isSpacing_closing blank n _) (fun m hm => ?_) (fun m hm => ?_)
        (fun m hm => ?_)
      · obtain ⟨j, -, rfl⟩ := List.mem_map.1 hm
        exact isSpaced_member blank n j
      · obtain ⟨j, -, rfl⟩ := List.mem_map.1 hm
        exact (spells_escapeChar _).isTextBody
      · obtain ⟨j, hj, rfl⟩ := List.mem_map.1 hm
        exact ih j hj (n + 1)

/-- The members of an object as they are written, with their names. -/
def Layout.named (layout : Layout) (n : Nat) (members : List (String × Json)) :
    List (String × Member) :=
  members.map fun m => (m.1, layout.member n m)

include blank in
/-- A record is read from the object that is written of it. -/
theorem takes_record_write {σ : Type} {fields : List (Field σ)} {b t : σ}
    (isExact : ∀ m ∈ members, IsExact m.2) (filled : Fills fields [] b (layout.named n members) t)
    {space : List Char} (hspace : IsSpacing space) (name : String) (left : List Char) :
    Takes (record name b fields) (space ++ (write layout n (object members) ++ left)) t left := by
  have named : ∀ m ∈ layout.named n members, m.2.IsNamed m.1 := by
    intro m hm
    obtain ⟨m', hm', rfl⟩ := List.mem_map.1 hm
    exact ⟨isSpaced_member blank n m', spells_escapeChar _,
      isValue_write blank (isExact m' hm') (n + 1)⟩
  have same : members.map (layout.member n) = (layout.named n members).map Prod.snd := by
    simp [Layout.named]
  rw [write_object, same]
  exact takes_record_object filled named (isSpacing_closing blank n _) hspace name left

theorem reads_write_string (layout : Layout) (n : Nat) (s : String) :
    Reads text (write layout n (.string s)) s := reads_text (spells_escapeChar _)

end Json

open Json

variable {layout : Layout} (blank : layout.IsBlank)

/-! ### Servlets, endpoints and servers -/

namespace Servlet

theorem isExact_toJson (s : Servlet) : IsExact s.toJson :=
  .object (by simp [IsExact.string])

include blank in
theorem reads_write (s : Servlet) (n : Nat) : Reads reader (write layout n s.toJson) s := by
  intro space left hspace _
  refine takes_record_write blank (by simp [IsExact.string]) ?_ hspace _ left
  refine .known rfl (by simp) ((reads_write_string layout (n + 1) s.name).map _) ?_
  refine .known rfl (by simp) ((reads_write_string layout (n + 1) s.contextPath).map _) ?_
  exact .nil (by simp)

end Servlet

namespace Endpoint

include blank in
theorem reads_write_servlets (servlets : List Servlet) (n : Nat) :
    Reads (list Servlet.reader) (write layout n (.array (servlets.map Servlet.toJson)))
      servlets := by
  rw [write_array, List.map_map]
  refine reads_list ?_ (isSpacing_closing blank n _)
  rw [List.forall₂_map_left_iff]
  exact List.forall₂_same.2 fun s _ => ⟨isSpaced_item blank n _,
    isValue_write blank s.isExact_toJson (n + 1), s.reads_write blank (n + 1)⟩

include blank in
theorem takes_write (e : Endpoint) (h : e.port < 2 ^ 16) (n : Nat) {space : List Char}
    (hspace : IsSpacing space) (left : List Char) :
    Takes reader (space ++ (write layout n e.toJson ++ left)) e left := by
  have servlets : IsExact (.array (e.servlets.map Servlet.toJson)) := by
    refine .array fun j hj => ?_
    obtain ⟨s, -, rfl⟩ := List.mem_map.1 hj
    exact s.isExact_toJson
  have port : Reads (natural 16) (write layout (n + 1) (.ofNat e.port)) e.port :=
    reads_natural (isWhole_toDigits _) Nat.ofDigitChars_ten_toDigits h (by decide)
  refine takes_record_write blank ?_ ?_ hspace _ left
  · simp [servlets, IsExact.string, Json.ofNat, IsExact.natural]
  · refine .known rfl (by simp) ((reads_write_string layout (n + 1) e.host).map _) ?_
    refine .known rfl (by simp) (port.map _) ?_
    refine .known rfl (by simp) ((reads_write_servlets blank e.servlets (n + 1)).map _) ?_
    exact .nil (by simp)

/-- A port that is read has sixteen bits. -/
theorem yields_reader : Yields (·.port < 2 ^ 16) reader := by
  refine yields_record ?_ (by decide) _
  intro field hfield
  simp only [List.mem_cons, List.not_mem_nil, or_false] at hfield
  rcases hfield with rfl | rfl | rfl
  · exact .bind fun _ => yields_pure fun _ h => h
  · exact (yields_natural 16).bind_of fun _ fits => yields_pure fun _ _ => fits
  · exact .bind fun _ => yields_pure fun _ h => h

end Endpoint

namespace ServerInstance

include blank in
theorem takes_write (s : ServerInstance) (n : Nat) {space : List Char}
    (hspace : IsSpacing space) (left : List Char) :
    Takes reader (space ++ (write layout n s.toJson ++ left)) s left := by
  obtain ⟨name, state, baseUrl⟩ := s
  have name := (reads_write_string layout (n + 1) name).map
    fun a (s : ServerInstance) => { s with name := a }
  have state := (reads_write_string layout (n + 1) state).map
    fun a (s : ServerInstance) => { s with state := a }
  cases baseUrl with
  | none =>
      refine takes_record_write blank (by simp [IsExact.string]) ?_ hspace _ left
      exact .known rfl (by simp) name (.known rfl (by simp) state (.nil (by simp)))
  | some url =>
      have url : Reads (optional text) (write layout (n + 1) (.string url)) (some url) :=
        reads_optional_text (spells_escapeChar _)
      refine takes_record_write blank (by simp [IsExact.string]) ?_ hspace _ left
      exact .known rfl (by simp) name (.known rfl (by simp) state
        (.known rfl (by simp) (url.map _) (.nil (by simp))))

end ServerInstance

/-! ### Whole texts -/

/-- The value is read from what is written of it, in either layout. -/
def IsReadBack {α : Type} (r : Reader α) (j : Json) (a : α) : Prop :=
  readText r j.compact = .ok a ∧ readText r j.pretty = .ok a

theorem isReadBack_of_takes {α : Type} {r : Reader α} {j : Json} {a : α}
    (h : ∀ layout : Layout, layout.IsBlank → Takes r (write layout 0 j) a []) :
    IsReadBack r j a := by
  have written (layout : Layout) (blank : layout.IsBlank) :
      readText r (String.ofList (write layout 0 j)) = .ok a := by
    have read := readText_of_takes (h layout blank) isSpacing_nil
    rwa [List.append_nil] at read
  exact ⟨written _ isBlank_tight, written _ isBlank_spread⟩

theorem Endpoint.isReadBack (e : Endpoint) (h : e.port < 2 ^ 16) :
    IsReadBack reader e.toJson e := by
  refine isReadBack_of_takes fun layout blank => ?_
  have taken := e.takes_write blank h 0 isSpacing_nil []
  rwa [List.nil_append, List.append_nil] at taken

theorem ServerInstance.isReadBack (s : ServerInstance) : IsReadBack reader s.toJson s := by
  refine isReadBack_of_takes fun layout blank => ?_
  have taken := s.takes_write blank 0 isSpacing_nil []
  rwa [List.nil_append, List.append_nil] at taken

/-- Endpoints and servers are read back from what is written of them. What is read of a text is read
again from what is written of it. -/
theorem written_isReadBack :
    (∀ e : Endpoint, e.port < 2 ^ 16 → IsReadBack Endpoint.reader e.toJson e) ∧
    (∀ s : ServerInstance, IsReadBack ServerInstance.reader s.toJson s) ∧
    (∀ text e, readText Endpoint.reader text = .ok e → IsReadBack Endpoint.reader e.toJson e) ∧
    ∀ text s, readText ServerInstance.reader text = .ok s →
      IsReadBack ServerInstance.reader s.toJson s :=
  ⟨Endpoint.isReadBack, ServerInstance.isReadBack,
    fun _ e hread => e.isReadBack (Endpoint.yields_reader.of_readText hread),
    fun _ s _ => s.isReadBack⟩

/-- An endpoint whose names need escapes. -/
def quirkyEndpoint : Endpoint := ⟨"10.0.0.5", 7001, [⟨"Main \"β\"", "/\\\t"⟩, ⟨"", "/"⟩]⟩

/-- An endpoint whose names need escapes, and a server without an address. -/
theorem written_isReadBack_quirky :
    IsReadBack Endpoint.reader quirkyEndpoint.toJson quirkyEndpoint ∧
      IsReadBack ServerInstance.reader (ServerInstance.toJson ⟨"AdminServer", "RUNNING", none⟩)
        ⟨"AdminServer", "RUNNING", none⟩ := by
  obtain ⟨endpoint, server, endpointAgain, serverAgain⟩ := written_isReadBack
  have first := endpoint quirkyEndpoint (by decide)
  have second := server ⟨"AdminServer", "RUNNING", none⟩
  exact ⟨endpointAgain _ _ first.1, serverAgain _ _ second.2⟩

end DomainDeploy
