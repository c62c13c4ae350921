import DomainDeploy.Proofs.Questions
import DomainDeploy.Proofs.Walk
import DomainDeploy.Rest.Connection

/-!
# What is behind a channel

When the questions of a program are carried out by programs that ask others, there is a dialogue
behind the dialogue: `Carried` relates the two, turn by turn, and `leadsTo_via` says that nothing
else happens. Behind a channel to the management endpoint an attribute is read by one request or by
none, and the reading is told by the status and by what was received of the body.
-/

namespace DomainDeploy

namespace Program

variable {S T : Signature} {ν α τ : Type} {bridge : Bridge S T ν τ} {s s' : τ}

/-- The turns of the first dialogue are carried out, one after the other, by the second. -/
inductive Carried (bridge : Bridge S T ν τ) : τ → Dialogue S → Dialogue T → τ → Prop
  | nil {s : τ} : Carried bridge s [] [] s
  | cons {q : S.Question} {r : S.Answer q} {s s₁ s₂ : τ} {behind rest' : Dialogue T}
      {rest : Dialogue S} (answered : (bridge q s).LeadsTo behind (r, s₁))
      (later : Carried bridge s₁ rest rest' s₂) :
      Carried bridge s (⟨q, r⟩ :: rest) (behind ++ rest') s₂

/-- A program over a bridge ends with what some dialogue leads it to, and that is carried out. -/
theorem leadsTo_via {p : Program S ν α} {d : Dialogue T} {a : α} :
    (p.via bridge s).LeadsTo d (a, s') ↔
      ∃ front, p.LeadsTo front a ∧ Carried bridge s front d s' := by
  induction p generalizing s d with
  | done b =>
      constructor
      · intro h
        rcases h with ⟨rfl, h⟩
        cases h
        exact ⟨[], ⟨rfl, rfl⟩, .nil⟩
      · intro h
        rcases h with ⟨_, ⟨rfl, rfl⟩, ⟨⟩⟩
        exact ⟨rfl, rfl⟩
  | note l p ih => exact ih
  | ask q k ih =>
      rw [via, leadsTo_andThen]
      constructor
      · intro h
        rcases h with ⟨behind, ⟨r, s₁⟩, rest', rfl, h₁, h₂⟩
        obtain ⟨rest, h₃, h₄⟩ := (ih r).1 h₂
        exact ⟨⟨q, r⟩ :: rest, ⟨r, rest, rfl, h₃⟩, .cons h₁ h₄⟩
      · intro h
        rcases h with ⟨_, ⟨r, rest, rfl, h₃⟩, h⟩
        cases h with
        | cons h₁ h₄ => exact ⟨_, (r, _), _, rfl, h₁, (ih r).2 ⟨rest, h₃, h₄⟩⟩

theorem carried_append {front front' : Dialogue S} {d : Dialogue T} :
    Carried bridge s (front ++ front') d s' ↔
      ∃ d₁ s₁ d₂, d = d₁ ++ d₂ ∧ Carried bridge s front d₁ s₁ ∧ Carried bridge s₁ front' d₂ s' := by
  induction front generalizing s d with
  | nil =>
      constructor
      · intro h
        exact ⟨[], s, d, rfl, .nil, h⟩
      · intro h
        rcases h with ⟨_, _, _, rfl, ⟨⟩, h⟩
        exact h
  | cons t front ih =>
      constructor
      · intro h
        cases h with
        | cons answered later =>
            obtain ⟨d₁, s₁, d₂, rfl, h₁, h₂⟩ := ih.1 later
            exact ⟨_, s₁, d₂, (List.append_assoc ..).symm, .cons answered h₁, h₂⟩
      · intro h
        rcases h with ⟨_, s₁, d₂, rfl, h₁, h₂⟩
        cases h₁ with
        | cons answered later =>
            rw [List.append_assoc]
            exact .cons answered (ih.2 ⟨_, s₁, d₂, rfl, later, h₂⟩)

end Program

end DomainDeploy
