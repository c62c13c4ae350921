/-!
# Programs that ask

A program is a value: either it is done, or it notes a line for the log and goes on, or it asks
its surroundings one question and goes on with the answer.  What the surroundings answer is not
part of the program, so a statement about a program speaks about every domain, every server and
every clock at once.  A question's answer type depends on the question, which is what a
`Signature` records.

`Program.run` plays a program against a `Responder` and keeps the history of questions and
answers; `Program.via` answers one kind of question by programs that ask another kind;
`Program.renote` changes only what is noted.
-/

namespace DomainDeploy

/-- A kind of question together with the type of its answers. -/
structure Signature where
  Question : Type
  Answer : Question → Type

/-- A program that asks questions of `S` and ends with an `α`; `ν` is what it notes on its way. -/
inductive Program (S : Signature) (ν : Type) (α : Type) where
  | done (value : α)
  | note (line : ν) (next : Program S ν α)
  | ask (question : S.Question) (next : S.Answer question → Program S ν α)

namespace Program

variable {S T : Signature} {ν α β γ : Type}

/-- Runs `p`, then the program that its value selects. -/
def andThen : Program S ν α → (α → Program S ν β) → Program S ν β
  | done a, f => f a
  | note l p, f => note l (p.andThen f)
  | ask q k, f => ask q fun r => (k r).andThen f

instance : Monad (Program S ν) where
  pure := done
  bind := andThen

@[simp] theorem pure_eq_done (a : α) : (pure a : Program S ν α) = done a := rfl

@[simp] theorem bind_eq_andThen (p : Program S ν α) (f : α → Program S ν β) :
    p >>= f = p.andThen f := rfl

@[simp] theorem done_andThen (a : α) (f : α → Program S ν β) : (done a).andThen f = f a := rfl

@[simp] theorem note_andThen (l : ν) (p : Program S ν α) (f : α → Program S ν β) :
    (note l p).andThen f = note l (p.andThen f) := rfl

@[simp] theorem ask_andThen (q : S.Question) (k : S.Answer q → Program S ν α)
    (f : α → Program S ν β) : (ask q k).andThen f = ask q fun r => (k r).andThen f := rfl

@[simp] theorem andThen_done (p : Program S ν α) : p.andThen done = p := by
  induction p with
  | done a => rfl
  | note l p ih => simp [ih]
  | ask q k ih => simp [ih]

theorem andThen_assoc (p : Program S ν α) (f : α → Program S ν β) (g : β → Program S ν γ) :
    (p.andThen f).andThen g = p.andThen fun a => (f a).andThen g := by
  induction p with
  | done a => rfl
  | note l p ih => simp [ih]
  | ask q k ih => simp [ih]

instance : LawfulMonad (Program S ν) :=
  LawfulMonad.mk' _ (fun p => andThen_done p) (fun _ _ => rfl) (fun p f g => andThen_assoc p f g)

/-- Asks one question and ends with its answer. -/
def request (q : S.Question) : Program S ν (S.Answer q) := ask q done

/-- Notes one line. -/
def say (l : ν) : Program S ν Unit := note l (done ())

/-- What stands in the history of a run: a question with the answer it got, or a noted line. -/
inductive Event (S : Signature) (ν : Type) where
  | asked (question : S.Question) (answer : S.Answer question)
  | noted (line : ν)

/-- Surroundings with a state of type `σ`: they answer every question and may change with it. -/
abbrev Responder (S : Signature) (σ : Type) := (q : S.Question) → σ → S.Answer q × σ

/-- Where a run stands at its end. -/
structure Played (S : Signature) (ν σ α : Type) where
  value : α
  state : σ
  history : List (Event S ν)

/-- Plays the program against `surroundings` that are in state `s`. -/
def run {σ : Type} (surroundings : Responder S σ) : Program S ν α → σ → Played S ν σ α
  | done a, s => ⟨a, s, []⟩
  | note l p, s =>
    let ended := p.run surroundings s
    { ended with history := .noted l :: ended.history }
  | ask q k, s =>
    let (r, s') := surroundings q s
    let ended := (k r).run surroundings s'
    { ended with history := .asked q r :: ended.history }

/-- A way to answer the questions of `S` by programs over `T`, with a state that each answer gets
from the one before. -/
abbrev Bridge (S T : Signature) (ν σ : Type) :=
  (q : S.Question) → σ → Program T ν (S.Answer q × σ)

/-- Answers each question of `S` by a program over `T`, starting from a state of the bridge. -/
def via {σ : Type} (bridge : Bridge S T ν σ) : Program S ν α → σ → Program T ν (α × σ)
  | done a, s => done (a, s)
  | note l p, s => note l (p.via bridge s)
  | ask q k, s => (bridge q s).andThen fun r => (k r.1).via bridge r.2

@[simp] theorem via_done {σ : Type} (b : Bridge S T ν σ) (a : α) (s : σ) :
    (done a : Program S ν α).via b s = done (a, s) := rfl

theorem via_andThen {σ : Type} (b : Bridge S T ν σ) (p : Program S ν α) (f : α → Program S ν β)
    (s : σ) : (p.andThen f).via b s = (p.via b s).andThen fun r => (f r.1).via b r.2 := by
  induction p generalizing s with
  | done a => rfl
  | note l p ih => simp [via, ih]
  | ask q k ih => simp [via, ih, andThen_assoc]

/-- Notes lines in turn, then goes on with `p`. -/
def noteAll (lines : List ν) (p : Program S ν α) : Program S ν α := lines.foldr note p

/-- The same program noting the lines `f l` wherever `p` notes `l`. -/
def renote {μ : Type} (f : ν → List μ) : Program S ν α → Program S μ α
  | done a => done a
  | note l p => noteAll (f l) (p.renote f)
  | ask q k => ask q fun r => (k r).renote f

/-- Running a program after another is running both in turn. -/
theorem run_andThen {σ : Type} (w : Responder S σ) (p : Program S ν α) (f : α → Program S ν β)
    (s : σ) :
    (p.andThen f).run w s =
      let first := p.run w s
      let second := (f first.value).run w first.state
      { second with history := first.history ++ second.history } := by
  induction p generalizing s with
  | done a => simp [run]
  | note l p ih => simp [run, ih]
  | ask q k ih => simp [run, ih]

end Program

end DomainDeploy
