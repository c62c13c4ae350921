import Mathlib.Data.List.Forall2

/-!
# Lists in parts

A path, a query, an address or a name is a list of parts with a separator between any two of them.
What stands in the list stands in a part or is the separator (`mem_intercalate`), and what it is
split into at the separator does not hold it (`not_mem_of_mem_splitOn`).
-/

namespace DomainDeploy

section

variable {α β : Type}

/-- What stands in a text of parts stands in a part or between two of them. -/
theorem mem_intercalate {separator : List α} {parts : List (List α)} {a : α}
    (h : a ∈ separator.intercalate parts) : a ∈ separator ∨ ∃ part ∈ parts, a ∈ part := by
  induction parts with
  | nil => simp at h
  | cons part parts ih =>
      cases parts with
      | nil => exact .inr ⟨part, by simp, by simpa using h⟩
      | cons part' parts =>
          rw [List.intercalate_cons_cons] at h
          simp only [List.mem_append] at h
          rcases h with (h | h) | h
          · exact .inr ⟨part, by simp, h⟩
          · exact .inl h
          · rcases ih h with h | ⟨found, hfound, ha⟩
            · exact .inl h
            · exact .inr ⟨found, List.mem_cons_of_mem _ hfound, ha⟩

/-- What stands in a part stands in the text. -/
theorem mem_intercalate_of_mem {separator : List α} {parts : List (List α)} {part : List α}
    (h : part ∈ parts) {a : α} (ha : a ∈ part) : a ∈ separator.intercalate parts := by
  induction parts with
  | nil => simp at h
  | cons first parts ih =>
      cases parts with
      | nil =>
          obtain rfl := List.mem_singleton.1 h
          simpa using ha
      | cons second parts =>
          rw [List.intercalate_cons_cons]
          simp only [List.mem_append]
          rcases List.mem_cons.1 h with rfl | h
          · exact .inl (.inl ha)
          · exact .inr (ih h)

/-- One part of a text, with everything before it and everything behind it. -/
theorem intercalate_append_cons (separator : List α) (before : List (List α)) (part : List α)
    (behind : List (List α)) : separator.intercalate (before ++ part :: behind) =
      before.flatMap (· ++ separator) ++ (part ++ behind.flatMap (separator ++ ·)) := by
  induction before with
  | nil =>
      induction behind generalizing part with
      | nil => simp
      | cons next behind ih =>
          have hnext := ih next
          rw [List.nil_append, List.flatMap_nil, List.nil_append] at hnext
          rw [List.nil_append, List.intercalate_cons_cons, hnext]
          simp
  | cons first before ih =>
      rw [List.cons_append, List.intercalate_cons_of_ne_nil (by simp), ih]
      simp

/-- No part that a text is split into holds what it was split at. -/
theorem not_mem_of_mem_splitOn [BEq α] [LawfulBEq α] {a : α} {text part : List α}
    (h : part ∈ text.splitOn a) : a ∉ part := by
  induction text generalizing part with
  | nil =>
      obtain rfl : part = [] := by simpa using h
      simp
  | cons b text ih =>
      rw [List.splitOn_cons_eq_if_modifyHead] at h
      split at h
      · rcases List.mem_cons.1 h with rfl | h
        · simp
        · exact ih h
      next hb =>
        obtain ⟨first, rest, hsplit⟩ := List.exists_cons_of_ne_nil (List.splitOn_ne_nil a text)
        rw [hsplit] at h ih
        rcases List.mem_cons.1 h with rfl | h
        · have hfirst := ih List.mem_cons_self
          simp only [beq_iff_eq] at hb
          rw [List.mem_cons, not_or]
          exact ⟨Ne.symm hb, hfirst⟩
        · exact ih (List.mem_cons_of_mem _ h)

/-! ### Two lists side by side -/

theorem exists_of_forall₂ {R : α → β → Prop} {as : List α} {bs : List β} (h : List.Forall₂ R as bs)
    {b : β} (hb : b ∈ bs) : ∃ a ∈ as, R a b := by
  induction h with
  | nil => simp at hb
  | @cons a₀ b₀ as bs hab h ih =>
      rcases List.mem_cons.1 hb with rfl | hb
      · exact ⟨a₀, List.mem_cons_self, hab⟩
      · obtain ⟨a, ha, hab⟩ := ih hb
        exact ⟨a, List.mem_cons_of_mem _ ha, hab⟩

theorem mapM_eq_some {f : α → Option β} {as : List α} {bs : List β} :
    as.mapM f = some bs ↔ List.Forall₂ (fun a b => f a = some b) as bs := by
  induction as generalizing bs with
  | nil => simp [eq_comm]
  | cons a as ih =>
      rw [List.forall₂_cons_left_iff, List.mapM_cons]
      simp only [Option.bind_eq_bind, Option.bind_eq_some_iff, Option.pure_def,
        Option.some.injEq, ih]
      constructor
      · rintro ⟨b, hb, bs, hbs, rfl⟩
        exact ⟨b, bs, hb, hbs, rfl⟩
      · rintro ⟨b, bs, hb, hbs, rfl⟩
        exact ⟨b, hb, bs, hbs, rfl⟩

end

end DomainDeploy
