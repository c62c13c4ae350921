import Mathlib.Data.List.TakeWhile
import DomainDeploy.Text.Blank

/-!
# Trimming

A text is trimmed when it has no blank at either end, and then trimming leaves it as it is; so
trimming twice is trimming once. An optional text counts as given when there is more to it than
blanks (`Text.IsGiven`).
-/

namespace DomainDeploy.Text

variable {p : Char → Bool} {cs : List Char}

theorem dropWhile_of_head? (h : ∀ c ∈ cs.head?, p c = false) : cs.dropWhile p = cs := by
  cases cs with
  | nil => rfl
  | cons c cs => exact List.dropWhile_cons_of_neg (by simpa using h)

theorem trimWhere_of_ends (hfirst : ∀ c ∈ cs.head?, p c = false)
    (hlast : ∀ c ∈ cs.getLast?, p c = false) : trimWhere p cs = cs := by
  rw [trimWhere, dropWhile_of_head? hfirst,
    dropWhile_of_head? (by simpa [List.head?_reverse] using hlast), List.reverse_reverse]

/-- What a list starts with behind everything dropped is not to be dropped. -/
theorem of_mem_head?_dropWhile {c : Char} (h : c ∈ (cs.dropWhile p).head?) : p c = false := by
  have stopped := List.head?_dropWhile_not p cs
  rw [h] at stopped
  simpa using stopped

theorem trimWhere_prefix (p : Char → Bool) (cs : List Char) :
    trimWhere p cs <+: cs.dropWhile p := by
  have split := List.reverse_prefix.2 (List.dropWhile_suffix (l := (cs.dropWhile p).reverse) p)
  rwa [List.reverse_reverse] at split

theorem trimWhere_trimWhere (p : Char → Bool) (cs : List Char) :
    trimWhere p (trimWhere p cs) = trimWhere p cs := by
  refine trimWhere_of_ends (fun c hc => ?_) fun c hc => ?_
  · obtain ⟨rest, hrest⟩ := trimWhere_prefix p cs
    have kept : c ∈ (cs.dropWhile p).head? := by
      rw [← hrest, List.head?_append, hc]
      rfl
    exact of_mem_head?_dropWhile kept
  · rw [trimWhere, List.getLast?_reverse] at hc
    exact of_mem_head?_dropWhile hc

theorem trimWhere_eq_nil_iff : trimWhere p cs = [] ↔ ∀ c ∈ cs, p c = true := by
  rw [trimWhere, List.reverse_eq_nil_iff, List.dropWhile_eq_nil_iff]
  constructor
  · intro h
    rw [← List.dropWhile_eq_nil_iff]
    cases hrest : cs.dropWhile p with
    | nil => rfl
    | cons c rest =>
        have first : c ∈ (cs.dropWhile p).head? := by simp [hrest]
        have kept := of_mem_head?_dropWhile first
        have dropped := h c (by simp [hrest])
        rw [dropped] at kept
        cases kept
  · intro h
    simp [List.dropWhile_eq_nil_iff.2 h]

theorem trim_trim (text : String) : trim (trim text) = trim text := by
  rw [trim, trim, String.toList_ofList, trimWhere_trimWhere]

theorem isEmpty_trim (text : String) : (trim text).isEmpty = isAllBlank text := by
  rw [Bool.eq_iff_iff, isAllBlank, List.all_eq_true, String.isEmpty_iff, trim, ← String.toList_inj,
    String.toList_ofList]
  exact trimWhere_eq_nil_iff

theorem trim_ne_empty {text : String} (visible : isAllBlank text = false) : trim text ≠ "" := by
  rw [ne_eq, ← String.isEmpty_iff, isEmpty_trim, visible]
  exact Bool.false_ne_true

/-! ### Optional texts -/

variable {value : Option String} {text : String}

/-- The text is a value without the blanks around it, and there is more to it than blanks. -/
def IsGiven (value : Option String) (text : String) : Prop :=
  ∃ raw, value = some raw ∧ isAllBlank raw = false ∧ text = trim raw

theorem nonBlank_eq_some_iff : nonBlank value = some text ↔ IsGiven value text := by
  rw [nonBlank, Option.filter_eq_some_iff, Option.map_eq_some_iff]
  constructor
  · rintro ⟨⟨raw, rfl, rfl⟩, visible⟩
    exact ⟨raw, rfl, by simpa [isEmpty_trim] using visible, rfl⟩
  · rintro ⟨raw, rfl, visible, rfl⟩
    exact ⟨⟨raw, rfl, rfl⟩, by simp [isEmpty_trim, visible]⟩

theorem nonBlank_eq_none_iff : nonBlank value = none ↔ ∀ text, ¬IsGiven value text := by
  simp only [← nonBlank_eq_some_iff, Option.eq_none_iff_forall_ne_some, ne_eq]

/-- What stands in for a text counts only when the text is not given. -/
theorem nonBlank_orElse_eq_some_iff {other : Option String} :
    (nonBlank value <|> other) = some text ↔
      IsGiven value text ∨ (∀ text, ¬IsGiven value text) ∧ other = some text := by
  rw [← nonBlank_eq_none_iff, ← nonBlank_eq_some_iff]
  cases nonBlank value <;> simp

end DomainDeploy.Text
