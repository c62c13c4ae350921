import DomainDeploy.Program
import DomainDeploy.Proofs.Results

/-!
# Dialogues

What surroundings can make of a program is told by its dialogues: the questions that it asks with
the answers that it gets, in their order, without the lines that it notes. `p.LeadsTo d a` says
that `p` asks the questions of `d` and, getting its answers, ends with `a`. Every run is led by its
own dialogue (`leadsTo_run`), whatever the surroundings and their state, so a statement about all
dialogues of a program is a statement about all of its runs.

`p.Asks P` says that every question `p` may come to ask satisfies `P`.
-/

namespace DomainDeploy.Program

variable {S : Signature} {ν ε α β σ : Type}

/-- A question with its answer. -/
abbrev Turn (S : Signature) := (q : S.Question) × S.Answer q

/-- Questions with their answers, in their order. -/
abbrev Dialogue (S : Signature) := List (Turn S)

/-- The turn that an event is; a noted line is none. -/
def Event.turn? : Event S ν → Option (Turn S)
  | .asked q r => some ⟨q, r⟩
  | .noted _ => none

/-- What was asked and answered in a run. -/
def Played.dialogue (played : Played S ν σ α) : Dialogue S :=
  played.history.filterMap Event.turn?

/-- The program asks the questions of the dialogue and ends with that value when it gets the
answers of the dialogue. -/
def LeadsTo : Program S ν α → Dialogue S → α → Prop
  | done a, d, b => d = [] ∧ a = b
  | note _ p, d, b => p.LeadsTo d b
  | ask q k, d, b => ∃ r rest, d = ⟨q, r⟩ :: rest ∧ (k r).LeadsTo rest b

@[simp] theorem leadsTo_done {a b : α} {d : Dialogue S} :
    (done a : Program S ν α).LeadsTo d b ↔ d = [] ∧ a = b := Iff.rfl

@[simp] theorem leadsTo_note {l : ν} {p : Program S ν α} {d : Dialogue S} {b : α} :
    (note l p).LeadsTo d b ↔ p.LeadsTo d b := Iff.rfl

@[simp] theorem leadsTo_request {q : S.Question} {d : Dialogue S} {r : S.Answer q} :
    (request q : Program S ν (S.Answer q)).LeadsTo d r ↔ d = [⟨q, r⟩] := by
  constructor
  · intro h
    rcases h with ⟨r', rest, rfl, rfl, rfl⟩
    rfl
  · rintro rfl
    exact ⟨r, [], rfl, rfl, rfl⟩

/-- A run is led to its value by what was asked and answered in it. -/
theorem leadsTo_run (w : Responder S σ) (p : Program S ν α) (s : σ) :
    p.LeadsTo (p.run w s).dialogue (p.run w s).value := by
  induction p generalizing s with
  | done a => exact ⟨rfl, rfl⟩
  | note l p ih => exact ih s
  | ask q k ih => exact ⟨(w q s).1, _, rfl, ih (w q s).1 (w q s).2⟩

/-- A dialogue of two programs in turn falls into a dialogue of each. -/
theorem leadsTo_andThen {p : Program S ν α} {f : α → Program S ν β} {d : Dialogue S} {b : β} :
    (p.andThen f).LeadsTo d b ↔
      ∃ d₁ a d₂, d = d₁ ++ d₂ ∧ p.LeadsTo d₁ a ∧ (f a).LeadsTo d₂ b := by
  induction p generalizing d with
  | done a =>
      constructor
      · intro h
        exact ⟨[], a, d, rfl, ⟨rfl, rfl⟩, h⟩
      · intro h
        rcases h with ⟨_, _, d₂, rfl, ⟨rfl, rfl⟩, h⟩
        exact h
  | note l p ih => exact ih
  | ask q k ih =>
      constructor
      · intro h
        rcases h with ⟨r, rest, rfl, h⟩
        obtain ⟨d₁, a, d₂, rfl, h₁, h₂⟩ := (ih r).1 h
        exact ⟨⟨q, r⟩ :: d₁, a, d₂, rfl, ⟨r, d₁, rfl, h₁⟩, h₂⟩
      · intro h
        rcases h with ⟨_, a, d₂, rfl, ⟨r, d₁, rfl, h₁⟩, h₂⟩
        exact ⟨r, d₁ ++ d₂, rfl, (ih r).2 ⟨d₁, a, d₂, rfl, h₁, h₂⟩⟩

/-- Getting the same answers a program ends with the same value. -/
theorem LeadsTo.unique {p : Program S ν α} {d : Dialogue S} {a b : α} (h : p.LeadsTo d a)
    (h' : p.LeadsTo d b) : a = b := by
  induction p generalizing d with
  | done c => exact h.2.symm.trans h'.2
  | note l p ih => exact ih h h'
  | ask q k ih =>
      obtain ⟨r, rest, rfl, h⟩ := h
      obtain ⟨r', rest', hd, h'⟩ := h'
      obtain ⟨hr, rfl⟩ := List.cons.inj hd
      cases hr
      exact ih r h h'

/-- What a run ends with is what its dialogue leads to. -/
theorem value_run_eq_iff {w : Responder S σ} {p : Program S ν α} {s : σ} {a : α} :
    (p.run w s).value = a ↔ p.LeadsTo (p.run w s).dialogue a := by
  constructor
  · rintro rfl
    exact leadsTo_run w p s
  · exact (leadsTo_run w p s).unique

section

variable {p : Program S ν α} {f : α → Program S ν β} {w : Responder S σ} {s : σ}

theorem value_run_andThen :
    ((p.andThen f).run w s).value = ((f (p.run w s).value).run w (p.run w s).state).value := by
  rw [run_andThen]

theorem state_run_andThen :
    ((p.andThen f).run w s).state = ((f (p.run w s).value).run w (p.run w s).state).state := by
  rw [run_andThen]

theorem dialogue_run_andThen :
    ((p.andThen f).run w s).dialogue =
      (p.run w s).dialogue ++ ((f (p.run w s).value).run w (p.run w s).state).dialogue := by
  rw [run_andThen]
  exact List.filterMap_append

theorem value_run_say_andThen (l : ν) (k : Unit → Program S ν α) :
    (((say l).andThen k).run w s).value = ((k ()).run w s).value := rfl

theorem dialogue_run_say_andThen (l : ν) (k : Unit → Program S ν α) :
    (((say l).andThen k).run w s).dialogue = ((k ()).run w s).dialogue := rfl

variable {q : S.Question} {k : S.Answer q → Program S ν α}

theorem value_run_request_andThen :
    (((request q).andThen k).run w s).value = ((k (w q s).1).run w (w q s).2).value := rfl

theorem dialogue_run_request_andThen :
    (((request q).andThen k).run w s).dialogue =
      ⟨q, (w q s).1⟩ :: ((k (w q s).1).run w (w q s).2).dialogue := rfl

end

/-! ### Programs that may fail -/

variable {x : ExceptT ε (Program S ν) α} {f : α → ExceptT ε (Program S ν) β} {d : Dialogue S}

theorem run_bind_eq_andThen (x : ExceptT ε (Program S ν) α)
    (f : α → ExceptT ε (Program S ν) β) :
    (x >>= f).run = x.run.andThen fun
      | .ok a => (f a).run
      | .error e => done (.error e) := rfl

section

variable {w : Responder S σ} {s : σ} {a : α}

theorem value_run_bind_of_ok (h : (x.run.run w s).value = .ok a) :
    ((x >>= f).run.run w s).value = ((f a).run.run w (x.run.run w s).state).value := by
  rw [run_bind_eq_andThen, value_run_andThen, h]

theorem dialogue_run_bind_of_ok (h : (x.run.run w s).value = .ok a) :
    ((x >>= f).run.run w s).dialogue =
      (x.run.run w s).dialogue ++ ((f a).run.run w (x.run.run w s).state).dialogue := by
  rw [run_bind_eq_andThen, dialogue_run_andThen, h]

end

/-- Two steps in turn come to what the second comes to, unless the first fails. -/
theorem leadsTo_bind {r : Except ε β} :
    (x >>= f).run.LeadsTo d r ↔
      (∃ e, r = .error e ∧ x.run.LeadsTo d (.error e)) ∨
        ∃ d₁ a d₂, d = d₁ ++ d₂ ∧ x.run.LeadsTo d₁ (.ok a) ∧ (f a).run.LeadsTo d₂ r := by
  rw [run_bind_eq_andThen, leadsTo_andThen]
  constructor
  · intro h
    rcases h with ⟨d₁, first, d₂, rfl, h₁, h₂⟩
    cases first with
    | ok a => exact .inr ⟨d₁, a, d₂, rfl, h₁, h₂⟩
    | error e =>
        obtain ⟨rfl, rfl⟩ := h₂
        exact .inl ⟨e, rfl, by simpa using h₁⟩
  · intro h
    rcases h with ⟨e, rfl, h⟩ | ⟨d₁, a, d₂, rfl, h₁, h₂⟩
    · exact ⟨d, .error e, [], by simp, h, rfl, rfl⟩
    · exact ⟨d₁, .ok a, d₂, rfl, h₁, h₂⟩

/-- Two steps in turn succeed when both do. -/
theorem leadsTo_bind_ok {b : β} :
    (x >>= f).run.LeadsTo d (.ok b) ↔
      ∃ d₁ a d₂, d = d₁ ++ d₂ ∧ x.run.LeadsTo d₁ (.ok a) ∧ (f a).run.LeadsTo d₂ (.ok b) := by
  rw [leadsTo_bind]
  simp

/-- Two steps in turn fail when the first does, or the second behind it. -/
theorem leadsTo_bind_error {e : ε} :
    (x >>= f).run.LeadsTo d (.error e) ↔
      x.run.LeadsTo d (.error e) ∨
        ∃ d₁ a d₂, d = d₁ ++ d₂ ∧ x.run.LeadsTo d₁ (.ok a) ∧ (f a).run.LeadsTo d₂ (.error e) := by
  rw [leadsTo_bind]
  simp

@[simp] theorem leadsTo_pure {a : α} {r : Except ε α} :
    (pure a : ExceptT ε (Program S ν) α).run.LeadsTo d r ↔ d = [] ∧ .ok a = r := Iff.rfl

@[simp] theorem leadsTo_throw {e : ε} {r : Except ε α} :
    (throw e : ExceptT ε (Program S ν) α).run.LeadsTo d r ↔ d = [] ∧ .error e = r := Iff.rfl

/-- Computing with the result changes nothing about the dialogue. -/
theorem leadsTo_bind_pure {f : α → β} {r : Except ε β} :
    (x >>= fun a => pure (f a)).run.LeadsTo d r ↔
      ∃ first, x.run.LeadsTo d first ∧ first.map f = r := by
  rw [leadsTo_bind]
  constructor
  · intro h
    rcases h with ⟨e, rfl, h⟩ | ⟨d₁, a, _, rfl, h, rfl, rfl⟩
    · exact ⟨.error e, h, rfl⟩
    · exact ⟨.ok a, by simpa using h, rfl⟩
  · intro h
    obtain ⟨first, h, rfl⟩ := h
    cases first with
    | ok a => exact .inr ⟨d, a, [], by simp, h, rfl, rfl⟩
    | error e => exact .inl ⟨e, rfl, h⟩

/-! ### What a program may ask -/

/-- Every question that the program may come to ask satisfies `P`. -/
def Asks (P : S.Question → Prop) : Program S ν α → Prop
  | done _ => True
  | note _ p => p.Asks P
  | ask q k => P q ∧ ∀ r, (k r).Asks P

variable {P Q : S.Question → Prop}

theorem asks_request {q : S.Question} (h : P q) :
    (request q : Program S ν (S.Answer q)).Asks P := ⟨h, fun _ => trivial⟩

theorem Asks.mono {p : Program S ν α} (h : p.Asks P) (hPQ : ∀ q, P q → Q q) : p.Asks Q := by
  induction p with
  | done a => trivial
  | note l p ih => exact ih h
  | ask q k ih => exact ⟨hPQ q h.1, fun r => ih r (h.2 r)⟩

theorem Asks.andThen {p : Program S ν α} {f : α → Program S ν β} (h : p.Asks P)
    (hf : ∀ a, (f a).Asks P) : (p.andThen f).Asks P := by
  induction p with
  | done a => exact hf a
  | note l p ih => exact ih h
  | ask q k ih => exact ⟨h.1, fun r => ih r (h.2 r)⟩

theorem Asks.bind (h : x.run.Asks P) (hf : ∀ a, (f a).run.Asks P) : (x >>= f).run.Asks P := by
  rw [run_bind_eq_andThen]
  refine h.andThen fun r => ?_
  cases r with
  | ok a => exact hf a
  | error e => trivial

/-- Surroundings that answer alike what a program may ask play it alike. -/
theorem Asks.run_congr {p : Program S ν α} {w w' : Responder S σ} (h : p.Asks P)
    (hw : ∀ q, P q → w q = w' q) (s : σ) : p.run w s = p.run w' s := by
  induction p generalizing s with
  | done a => rfl
  | note l p ih => simp only [run, ih h]
  | ask q k ih => simp only [run, hw q h.1, ih _ (h.2 _)]

/-- A program that asks nothing leaves its surroundings as they are. -/
theorem Asks.state_run {p : Program S ν α} {w : Responder S σ} (h : p.Asks fun _ => False) (s : σ) :
    (p.run w s).state = s := by
  induction p with
  | done a => rfl
  | note l p ih => exact ih h
  | ask q k ih => exact h.1.elim

/-- Nothing but what a program may ask stands in its dialogues. -/
theorem Asks.of_leadsTo {p : Program S ν α} {a : α} (h : p.Asks P) (hd : p.LeadsTo d a) :
    ∀ t ∈ d, P t.1 := by
  induction p generalizing d with
  | done b =>
      obtain ⟨rfl, -⟩ := hd
      simp
  | note l p ih => exact ih h hd
  | ask q k ih =>
      obtain ⟨r, rest, rfl, hrest⟩ := hd
      intro t ht
      rcases List.mem_cons.1 ht with rfl | ht
      · exact h.1
      · exact ih r (h.2 r) hrest t ht

end DomainDeploy.Program
