import DomainDeploy.Proofs.Questions

/-!
# Surroundings that never change

Surroundings are static when they answer a question in the same way whenever it is asked. What a
program comes to there depends on nothing but the answers to questions that it may ask
(`Asks.outcome_congr`), and it is told by the one dialogue with these answers (`outcome_eq_iff`).
-/

namespace DomainDeploy

namespace Program

variable {S : Signature} {ν α β : Type}

/-- Surroundings that answer a question in the same way whenever it is asked. -/
def Static (S : Signature) := (q : S.Question) → S.Answer q

namespace Static

/-- Static surroundings have no state. -/
def responder (D : Static S) : Responder S Unit := fun q _ => (D q, ())

/-- What a program comes to. -/
def outcome (D : Static S) (p : Program S ν α) : α := (p.run D.responder ()).value

variable {D : Static S}

@[simp] theorem outcome_done (a : α) : D.outcome (done a : Program S ν α) = a := rfl

@[simp] theorem outcome_note (l : ν) (p : Program S ν α) :
    D.outcome (note l p) = D.outcome p := rfl

@[simp] theorem outcome_ask (q : S.Question) (k : S.Answer q → Program S ν α) :
    D.outcome (ask q k) = D.outcome (k (D q)) := rfl

@[simp] theorem outcome_andThen (p : Program S ν α) (f : α → Program S ν β) :
    D.outcome (p.andThen f) = D.outcome (f (D.outcome p)) := by
  induction p with
  | done a => rfl
  | note l p ih => exact ih
  | ask q k ih => exact ih (D q)

/-- A program that may fail comes to what its steps come to, one after the other. -/
theorem outcome_run_bind {ε : Type} (x : ExceptT ε (Program S ν) α)
    (f : α → ExceptT ε (Program S ν) β) :
    D.outcome (x >>= f).run = D.outcome x.run >>= fun a => D.outcome (f a).run := by
  rw [run_bind_eq_andThen, outcome_andThen]
  cases D.outcome x.run <;> rfl

/-- Every answer of the dialogue is the one that the surroundings give. -/
def Gives (D : Static S) (d : Dialogue S) : Prop := ∀ t ∈ d, D t.1 = t.2

/-- What a program comes to is told by the one dialogue that the surroundings give. -/
theorem outcome_eq_iff {p : Program S ν α} {a : α} :
    D.outcome p = a ↔ ∃ d, p.LeadsTo d a ∧ D.Gives d := by
  induction p with
  | done b =>
      constructor
      · rintro rfl
        exact ⟨[], ⟨rfl, rfl⟩, by simp [Gives]⟩
      · intro h
        rcases h with ⟨_, ⟨-, rfl⟩, -⟩
        rfl
  | note l p ih => exact ih
  | ask q k ih =>
      rw [outcome_ask, ih (D q)]
      constructor
      · intro h
        rcases h with ⟨d, hd, hgives⟩
        exact ⟨⟨q, D q⟩ :: d, ⟨D q, d, rfl, hd⟩, List.forall_mem_cons.2 ⟨rfl, hgives⟩⟩
      · intro h
        rcases h with ⟨_, ⟨r, d, rfl, hd⟩, hgives⟩
        have hr : D q = r := hgives ⟨q, r⟩ (by simp)
        subst hr
        exact ⟨d, hd, fun t ht => hgives t (List.mem_cons_of_mem _ ht)⟩

/-- A question that a program comes to ask. -/
def Asked (D : Static S) (p : Program S ν α) (q : S.Question) : Prop :=
  ∃ t ∈ (p.run D.responder ()).dialogue, t.1 = q

variable {ε : Type} {x : ExceptT ε (Program S ν) α} {f : α → ExceptT ε (Program S ν) β} {a : α}
  {q : S.Question}

theorem Asked.bind (h : D.Asked x.run q) (f : α → ExceptT ε (Program S ν) β) :
    D.Asked (x >>= f).run q := by
  rcases h with ⟨t, ht, rfl⟩
  refine ⟨t, ?_, rfl⟩
  rw [run_bind_eq_andThen, dialogue_run_andThen]
  exact List.mem_append_left _ ht

theorem asked_bind_of_ok (hx : D.outcome x.run = .ok a) (h : D.Asked (f a).run q) :
    D.Asked (x >>= f).run q := by
  rcases h with ⟨t, ht, rfl⟩
  refine ⟨t, ?_, rfl⟩
  rw [dialogue_run_bind_of_ok hx]
  exact List.mem_append_right _ ht

end Static

/-- Answers to questions that a program never asks do not matter. -/
theorem Asks.outcome_congr {P : S.Question → Prop} {p : Program S ν α} {D D' : Static S}
    (h : p.Asks P) (hD : ∀ q, P q → D q = D' q) : D.outcome p = D'.outcome p := by
  have hw : ∀ q, P q → D.responder q = D'.responder q := by
    intro q hq
    funext s
    rw [Static.responder, Static.responder, hD q hq]
  rw [Static.outcome, Static.outcome, h.run_congr hw]

end Program

/-! ### Static domains -/

open Program Activity

namespace Program.Static

variable {α β : Type} {D D' : Static Outside}

/-- The answer to a call. -/
def reply (D : Static Outside) (c : Call) : Except DeployError Reading := D (.call c)

/-- What an activity comes to. -/
def value (D : Static Outside) (x : Activity α) : Except DeployError α := D.outcome x.run

@[simp] theorem value_pure (a : α) : D.value (pure a : Activity α) = .ok a := rfl

@[simp] theorem value_throw (e : DeployError) : D.value (throw e : Activity α) = .error e := rfl

@[simp] theorem value_ofResult (r : Except DeployError α) : D.value (ofResult r) = r := rfl

@[simp] theorem value_note (level : LogLevel) (text : String) :
    D.value (Activity.note level text) = .ok () := rfl

@[simp] theorem value_call (c : Call) : D.value (call c) = D.reply c := rfl

/-- An activity comes to what its steps come to, one after the other. -/
@[simp] theorem value_bind (x : Activity α) (f : α → Activity β) :
    D.value (x >>= f) = D.value x >>= fun a => D.value (f a) := outcome_run_bind x f

@[simp] theorem value_map (f : α → β) (x : Activity α) : D.value (f <$> x) = f <$> D.value x := by
  rw [← bind_pure_comp, ← bind_pure_comp, value_bind]
  rfl

theorem value_eq_iff {x : Activity α} {r : Except DeployError α} :
    D.value x = r ↔ ∃ d, x.run.LeadsTo d r ∧ D.Gives d := outcome_eq_iff

theorem value_bind_eq_ok {α β : Type} {x : Activity α} {f : α → Activity β} {b : β} :
    D.value (x >>= f) = .ok b ↔ ∃ a, D.value x = .ok a ∧ D.value (f a) = .ok b := by
  rw [value_bind]
  cases D.value x with
  | error e => simp [bind, Except.bind]
  | ok a => simp [bind, Except.bind]

theorem value_getText (object : ObjectName) (name : String) :
    D.value (getText object name) = D.reply (.get object name) >>= Reading.toText := by
  simp [getText, Activity.get]

theorem asked_call (c : Call) : D.Asked (call c).run (.call c) :=
  ⟨⟨.call c, D.reply c⟩, List.mem_cons_self, rfl⟩

theorem value_congr {P : Outside.Question → Prop} {x : Activity α} (h : x.run.Asks P)
    (hD : ∀ q, P q → D q = D' q) : D.value x = D'.value x := h.outcome_congr hD

end Program.Static

end DomainDeploy
