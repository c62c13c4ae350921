import DomainDeploy.Proofs.Cleanup
import DomainDeploy.Proofs.Nesting
import DomainDeploy.Proofs.Static

/-!
# What can be foreseen

Surroundings change with every question, so a reading that was made may be out of date when the next
one is made. `Always w P s c R` says that a call is answered with a reading that satisfies `R`, from
the state `s` on and for as long as nothing is asked but what satisfies `P`. Where enough is known of
that kind, what a program that asks nothing else comes to can be foreseen (`Foresees`), although the
answers on the way to it need not be known.

An operation opens its channel when its trust store can be published and the domain answers
(`opened_iff`), and then what is told is what its body was foreseen to come to (`told_of_foresees`).
-/

namespace DomainDeploy

open Program Activity

namespace Program

variable {S : Signature} {ν ε α β σ : Type} {w : Responder S σ} {P : S.Question → Prop}
  {s s' s'' : σ}

/-! ### States that can come about -/

/-- Answering questions that satisfy `P` leads from `s` to `s'`. -/
inductive Reaches (w : Responder S σ) (P : S.Question → Prop) (s : σ) : σ → Prop
  | refl : Reaches w P s s
  | tail {s' : σ} {q : S.Question} (hq : P q) (reached : Reaches w P s s') :
      Reaches w P s (w q s').2

theorem Reaches.trans (h : Reaches w P s s') (h' : Reaches w P s' s'') : Reaches w P s s'' := by
  induction h' with
  | refl => exact h
  | tail hq reached ih => exact ih.tail hq

theorem reaches_run (p : Program S ν α) (s : σ) (h : ∀ t ∈ (p.run w s).dialogue, P t.1) :
    Reaches w P s (p.run w s).state := by
  induction p generalizing s with
  | done a => exact .refl
  | note l p ih => exact ih s h
  | ask q k ih =>
      obtain ⟨hq, hrest⟩ := List.forall_mem_cons.1 h
      exact (Reaches.refl.tail hq).trans (ih _ (w q s).2 hrest)

/-- Answering questions that satisfy `P` changes nothing. -/
def Stays (w : Responder S σ) (P : S.Question → Prop) : Prop := ∀ q s, P q → (w q s).2 = s

theorem stays_responder (D : Static S) : Stays D.responder P := fun _ _ _ => rfl

theorem Reaches.eq_of_stays (stays : Stays w P) (h : Reaches w P s s') : s' = s := by
  induction h with
  | refl => rfl
  | tail hq reached ih => rw [stays _ _ hq, ih]

/-- Every answer in the dialogue of a run is one that the surroundings gave on the way. -/
theorem answered_run (p : Program S ν α) (s : σ) :
    ∀ t ∈ (p.run w s).dialogue, ∃ s', (w t.1 s').1 = t.2 := by
  induction p generalizing s with
  | done a => exact nofun
  | note l p ih => exact ih s
  | ask q k ih =>
      intro t ht
      rcases List.mem_cons.1 ht with rfl | ht
      · exact ⟨s, rfl⟩
      · exact ih _ _ t ht

/-- From `s` on, as long as nothing is asked but what satisfies `P`, the program asks nothing else
either and comes to what satisfies `Q`. -/
def Foresees (w : Responder S σ) (P : S.Question → Prop) (s : σ) (p : Program S ν α)
    (Q : α → Prop) : Prop :=
  ∀ s', Reaches w P s s' → Q (p.run w s').value ∧ ∀ t ∈ (p.run w s').dialogue, P t.1

theorem foresees_done {a : α} {Q : α → Prop} (h : Q a) :
    Foresees w P s (done a : Program S ν α) Q := by
  intro s' _
  exact ⟨h, by simp [run, Played.dialogue]⟩

theorem Asks.foresees {p : Program S ν α} (h : p.Asks P) : Foresees w P s p fun _ => True := by
  intro s' _
  exact ⟨trivial, h.of_leadsTo (leadsTo_run w p s')⟩

theorem foresees_request {q : S.Question} {Q : S.Answer q → Prop} (hP : P q)
    (hQ : ∀ s', Reaches w P s s' → Q (w q s').1) :
    Foresees w P s (request q : Program S ν (S.Answer q)) Q := by
  intro s' hs
  refine ⟨hQ s' hs, ?_⟩
  intro t ht
  obtain rfl : t = ⟨q, (w q s').1⟩ := by
    simpa [request, run, Played.dialogue, Event.turn?] using ht
  exact hP

theorem Foresees.andThen {p : Program S ν α} {f : α → Program S ν β} {Q : α → Prop}
    {R : β → Prop} (h : Foresees w P s p Q) (hf : ∀ a, Q a → Foresees w P s (f a) R) :
    Foresees w P s (p.andThen f) R := by
  intro s' hs
  obtain ⟨hvalue, hasked⟩ := h s' hs
  obtain ⟨hvalue', hasked'⟩ := hf _ hvalue _ (hs.trans (reaches_run p s' hasked))
  rw [value_run_andThen, dialogue_run_andThen]
  exact ⟨hvalue', List.forall_mem_append.2 ⟨hasked, hasked'⟩⟩

theorem Foresees.imp {p : Program S ν α} {Q Q' : α → Prop} (h : Foresees w P s p Q)
    (hQ : ∀ a, Q a → Q' a) : Foresees w P s p Q' := by
  intro s' hs
  obtain ⟨hvalue, hasked⟩ := h s' hs
  exact ⟨hQ _ hvalue, hasked⟩

/-- What is foreseen stays foreseen. -/
theorem Foresees.later {p : Program S ν α} {Q : α → Prop} (h : Foresees w P s p Q)
    (reached : Reaches w P s s') : Foresees w P s' p Q := by
  intro s'' hs
  exact h s'' (reached.trans hs)

/-- It is foreseen that the program succeeds with a value that satisfies `Q`. -/
def Yields (w : Responder S σ) (P : S.Question → Prop) (s : σ) (x : ExceptT ε (Program S ν) α)
    (Q : α → Prop) : Prop :=
  Foresees w P s x.run fun r => ∃ a, r = .ok a ∧ Q a

theorem yields_pure {a : α} {Q : α → Prop} (h : Q a) :
    Yields w P s (pure a : ExceptT ε (Program S ν) α) Q :=
  foresees_done ⟨a, rfl, h⟩

theorem Yields.bind {x : ExceptT ε (Program S ν) α} {f : α → ExceptT ε (Program S ν) β}
    {Q : α → Prop} {R : Except ε β → Prop} (h : Yields w P s x Q)
    (hf : ∀ a, Q a → Foresees w P s (f a).run R) : Foresees w P s (x >>= f).run R := by
  rw [run_bind_eq_andThen]
  refine Foresees.andThen h fun r hr => ?_
  obtain ⟨a, rfl, ha⟩ := hr
  exact hf a ha

end Program

/-! ### Readings that stay possible -/

open Outside.Question

variable {σ α : Type} {w : Responder Outside σ} {P : Outside.Question → Prop} {s : σ}
  {object : ObjectName} {field name : String}

/-- From `s` on, as long as nothing is asked but what satisfies `P`, the call is answered with a
reading that satisfies `R`. -/
def Always (w : Responder Outside σ) (P : Outside.Question → Prop) (s : σ) (c : Call)
    (R : Reading → Prop) : Prop :=
  ∀ s', Reaches w P s s' → ∃ reading, (w (.call c) s').1 = .ok reading ∧ R reading

/-- The object has a name that satisfies `R`. -/
def IsCalled (w : Responder Outside σ) (P : Outside.Question → Prop) (s : σ) (object : ObjectName)
    (R : String → Prop) : Prop :=
  Always w P s (.get object "Name") fun reading => ∃ text, reading = .text text ∧ R text

/-- The attribute is a reference to an object that satisfies `R`. -/
def Refers (w : Responder Outside σ) (P : Outside.Question → Prop) (s : σ) (object : ObjectName)
    (field : String) (R : ObjectName → Prop) : Prop :=
  Always w P s (.get object field) fun reading => ∃ found, reading = .reference found ∧ R found

/-- The attribute lists objects that satisfy `R`, which may be others each time. -/
def Lists (w : Responder Outside σ) (P : Outside.Question → Prop) (s : σ) (object : ObjectName)
    (field : String) (R : List ObjectName → Prop) : Prop :=
  Always w P s (.get object field) fun reading =>
    ∃ objects, reading.toReferences = .ok objects ∧ R objects

/-- Every object that is listed has another name. -/
def ListsOnlyOthers (w : Responder Outside σ) (P : Outside.Question → Prop) (s : σ)
    (holder : ObjectName) (links name : String) : Prop :=
  Lists w P s holder links fun objects => ∀ object ∈ objects, IsCalled w P s object (· ≠ name)

/-- Every object that is listed has a name, and one of them has this one. -/
def ListsNamed (w : Responder Outside σ) (P : Outside.Question → Prop) (s : σ)
    (holder : ObjectName) (links name : String) : Prop :=
  Lists w P s holder links fun objects =>
    (∀ object ∈ objects, IsCalled w P s object fun _ => True) ∧
      ∃ object ∈ objects, IsCalled w P s object (· = name)

section

variable {holder found : ObjectName} {links : String} {paths : List String} (stays : Stays w P)

include stays

theorem always_of_stays {c : Call} {reading : Reading} {R : Reading → Prop}
    (h : (w (.call c) s).1 = .ok reading) (hR : R reading) : Always w P s c R := by
  intro s' hs
  rw [hs.eq_of_stays stays]
  exact ⟨reading, h, hR⟩

theorem refers_of_stays {R : ObjectName → Prop}
    (h : (w (.call (.get holder links)) s).1 = .ok (.reference found)) (hR : R found) :
    Refers w P s holder links R := always_of_stays stays h ⟨found, rfl, hR⟩

theorem isCalled_of_stays {R : String → Prop} {path : String}
    (h : (w (.call (.get ⟨path⟩ "Name")) s).1 = .ok (.text path)) (hR : R path) :
    IsCalled w P s ⟨path⟩ R := always_of_stays stays h ⟨path, rfl, hR⟩

theorem listsOnlyOthers_of_stays
    (h : (w (.call (.get holder links)) s).1 = .ok (.references (paths.map ObjectName.mk)))
    (named : ∀ path ∈ paths, (w (.call (.get ⟨path⟩ "Name")) s).1 = .ok (.text path))
    (other : name ∉ paths) : ListsOnlyOthers w P s holder links name := by
  refine always_of_stays stays h ⟨_, rfl, fun object hobject => ?_⟩
  obtain ⟨path, hpath, rfl⟩ := List.mem_map.1 hobject
  exact isCalled_of_stays stays (named path hpath) (ne_of_mem_of_not_mem hpath other)

theorem listsNamed_of_stays
    (h : (w (.call (.get holder links)) s).1 = .ok (.references (paths.map ObjectName.mk)))
    (named : ∀ path ∈ paths, (w (.call (.get ⟨path⟩ "Name")) s).1 = .ok (.text path))
    (present : name ∈ paths) : ListsNamed w P s holder links name := by
  refine always_of_stays stays h ⟨_, rfl, fun object hobject => ?_, ⟨name⟩,
    List.mem_map_of_mem present, isCalled_of_stays stays (named name present) rfl⟩
  obtain ⟨path, hpath, rfl⟩ := List.mem_map.1 hobject
  exact isCalled_of_stays stays (named path hpath) trivial

end

theorem yields_note (level : LogLevel) (text : String) :
    Yields w P s (Activity.note level text) fun _ => True := by
  intro s' _
  exact ⟨⟨(), rfl, trivial⟩, nofun⟩

theorem foresees_throw {e : DeployError} {Q : Except DeployError α → Prop} (h : Q (.error e)) :
    Foresees w P s (throw e : Activity α).run Q := foresees_done h

/-- Reading an attribute that can be read, as some kind of value. -/
theorem yields_getAs {f : Reading → Except DeployError α} {Q : α → Prop}
    (h : Always w P s (.get object field) fun reading => ∃ a, f reading = .ok a ∧ Q a)
    (asked : P (.call (.get object field))) :
    Yields w P s (get object field >>= fun reading => ofResult (f reading)) Q := by
  have read : Yields w P s (get object field) fun reading =>
      ∃ a, f reading = .ok a ∧ Q a := foresees_request (S := Outside) asked h
  refine read.bind fun reading hreading => ?_
  obtain ⟨a, ha, hQ⟩ := hreading
  rw [ha]
  exact foresees_done ⟨a, rfl, hQ⟩

theorem yields_getText {Q : String → Prop}
    (h : Always w P s (.get object field) fun reading => ∃ text, reading = .text text ∧ Q text)
    (asked : P (.call (.get object field))) : Yields w P s (getText object field) Q := by
  refine yields_getAs ?_ asked
  intro s' hs
  obtain ⟨_, hreply, text, rfl, hQ⟩ := h s' hs
  exact ⟨_, hreply, text, rfl, hQ⟩

theorem yields_getReferences {Q : List ObjectName → Prop} (h : Lists w P s object field Q)
    (asked : P (.call (.get object field))) : Yields w P s (getReferences object field) Q :=
  yields_getAs h asked

theorem yields_getReference {Q : ObjectName → Prop} (h : Refers w P s object field Q)
    (asked : P (.call (.get object field))) : Yields w P s (getReference object field) Q := by
  have read : Yields w P s (get object field) fun reading =>
      ∃ found, reading = .reference found ∧ Q found := foresees_request (S := Outside) asked h
  refine read.bind fun reading hreading => ?_
  obtain ⟨found, rfl, hQ⟩ := hreading
  exact foresees_done ⟨found, rfl, hQ⟩

section

variable (reads : ∀ q : Outside.Question, q.IsStateless → P q)

include reads

theorem yields_firstNamed_none {objects : List ObjectName}
    (h : ∀ object ∈ objects, IsCalled w P s object (· ≠ name)) :
    Yields w P s (firstNamed name objects) (· = none) := by
  induction objects with
  | nil => exact yields_pure rfl
  | cons object rest ih =>
      obtain ⟨hobject, hrest⟩ := List.forall_mem_cons.1 h
      refine (yields_getText hobject (reads _ (by simp))).bind fun text htext => ?_
      rw [if_neg (by simpa using htext)]
      exact ih hrest

theorem yields_firstNamed_some {objects : List ObjectName}
    (h : ∀ object ∈ objects, IsCalled w P s object fun _ => True)
    (named : ∃ object ∈ objects, IsCalled w P s object (· = name)) :
    Yields w P s (firstNamed name objects) (· ≠ none) := by
  induction objects with
  | nil => simp at named
  | cons object rest ih =>
      obtain ⟨hobject, hrest⟩ := List.forall_mem_cons.1 h
      -- the first object may have the name too, but if another name is read it is one of the rest
      by_cases first : IsCalled w P s object (· = name)
      · refine (yields_getText first (reads _ (by simp))).bind fun text htext => ?_
        rw [if_pos (by simpa using htext)]
        exact yields_pure (by simp)
      · obtain ⟨other, hother, hnamed⟩ := named
        rcases List.mem_cons.1 hother with rfl | hother
        · exact (first hnamed).elim
        · refine (yields_getText hobject (reads _ (by simp))).bind fun text _ => ?_
          split
          · exact yields_pure (by simp)
          · exact ih hrest ⟨other, hother, hnamed⟩

theorem yields_search_none {holder : ObjectName} {links : String}
    (h : ListsOnlyOthers w P s holder links name) (stateless : links ≠ "State") :
    Yields w P s (getReferences holder links >>= firstNamed name) (· = none) :=
  (yields_getReferences h (reads _ stateless)).bind fun _ => yields_firstNamed_none reads

theorem yields_search_some {holder : ObjectName} {links : String}
    (h : ListsNamed w P s holder links name) (stateless : links ≠ "State") :
    Yields w P s (getReferences holder links >>= firstNamed name) (· ≠ none) :=
  (yields_getReferences h (reads _ stateless)).bind fun _ hobjects =>
    yields_firstNamed_some reads hobjects.1 hobjects.2

end

/-! ### Sessions that can be foreseen -/

namespace TrustGuard

variable {g g₁ : TrustGuard} {context : TrustContext}

theorem apply_of_enter (h : g.enter context = (.ok (), g₁)) :
    g.stash.apply context = (.ok (), g₁) := by
  rw [enter_eq] at h
  split at h
  · rename_i applied
    rw [applied]
    exact h
  · cases h

end TrustGuard

namespace Deployer

variable {D : Deployer} {t : Task} {g : TrustGuard}

theorem dialogue_perform : ((D.perform t g).run w s).dialogue =
    ((D.inSession (D.bodyOf t) g).run w s).dialogue := by
  cases t <;> rfl

theorem dialogue_perform_of_enter {g₁ : TrustGuard}
    (entered : g.enter D.configuration.trust = (.ok (), g₁)) :
    ∃ rest, ((D.perform t g).run w s).dialogue = ⟨.connect, (w .connect s).1⟩ :: rest := by
  rw [dialogue_perform, inSession, entered]
  exact ⟨_, dialogue_run_request_andThen⟩

/-- A channel is opened when the trust store can be published and the domain answers. -/
theorem opened_iff : ⟨.connect, .ok ()⟩ ∈ ((D.perform t g).run w s).dialogue ↔
    (∃ g₁, g.enter D.configuration.trust = (.ok (), g₁)) ∧ (w .connect s).1 = .ok () := by
  constructor
  · intro opened
    obtain ⟨r, g', session⟩ : ∃ r g', D.Session (D.bodyOf t) g
        ((D.perform t g).run w s).dialogue r g' :=
      ⟨_, _, session_of_perform (leadsTo_run w (D.perform t g) s)⟩
    have first {g₁ : TrustGuard} (entered : g.enter D.configuration.trust = (.ok (), g₁)) :
        ∃ rest, ((D.perform t g).run w s).dialogue = ⟨.connect, (w .connect s).1⟩ :: rest :=
      dialogue_perform_of_enter entered
    generalize ((D.perform t g).run w s).dialogue = dialogue at opened session first
    cases session with
    | barred entered => cases opened
    | refused entered => cases List.mem_singleton.1 opened
    | held entered body_leadsTo =>
        obtain ⟨rest, hrest⟩ := first entered
        have hturn := (List.cons.inj hrest).1
        exact ⟨⟨_, entered⟩, by simpa using hturn.symm⟩
  · rintro ⟨⟨g₁, entered⟩, connected⟩
    obtain ⟨rest, hrest⟩ := dialogue_perform_of_enter (t := t) (w := w) (s := s) entered
    rw [hrest, connected]
    exact List.mem_cons_self

/-- Within an open channel an operation comes to what its body does. -/
theorem verdict_of_enter {g₁ : TrustGuard} (entered : g.enter D.configuration.trust = (.ok (), g₁))
    (connected : (w .connect s).1 = .ok ()) :
    D.verdict (D.bodyOf t) w g s =
      ((D.bodyOf t g₁.current).run.run w (w .connect s).2).value := by
  rw [verdict, TrustGuard.apply_of_enter entered, connected]
  rfl

/-- Within an open channel an operation asks what its body asks. -/
theorem dialogue_of_enter {g₁ : TrustGuard} (entered : g.enter D.configuration.trust = (.ok (), g₁))
    (connected : (w .connect s).1 = .ok ()) :
    ∃ closed, ((D.perform t g).run w s).dialogue = ⟨.connect, .ok ()⟩ ::
      (((D.bodyOf t g₁.current).run.run w (w .connect s).2).dialogue ++
        [⟨.disconnect, closed⟩]) := by
  rw [dialogue_perform, inSession, entered]
  simp only [bind_eq_andThen]
  rw [dialogue_run_request_andThen, connected]
  simp only
  rw [dialogue_run_andThen]
  obtain ⟨closed, hclosed, -⟩ := leadsTo_finish (leadsTo_run w
    (finish ((D.bodyOf t g₁.current).run.run w (w .connect s).2).value g₁)
      ((D.bodyOf t g₁.current).run.run w (w .connect s).2).state)
  rw [hclosed]
  exact ⟨closed, rfl⟩

variable {Q : Except DeployError t.Value → Prop}

theorem told_of_foresees (opening : P .connect)
    (h : ∀ store, Foresees w P s (D.bodyOf t store).run Q)
    (opened : ⟨.connect, .ok ()⟩ ∈ ((D.perform t g).run w s).dialogue) :
    ∃ came, Q came ∧ Tells (D.cleanupErrors g ((D.perform t g).run w s).dialogue) came
      ((D.perform t g).run w s).value.1 := by
  obtain ⟨⟨g₁, entered⟩, connected⟩ := opened_iff.1 opened
  refine ⟨D.verdict (D.bodyOf t) w g s, ?_, D.tells_perform t w g s⟩
  rw [verdict_of_enter entered connected]
  exact (h g₁.current _ (Reaches.refl.tail opening)).1

theorem asks_noteCleanup (errors : List DeployError) : (noteCleanup errors).Asks P := by
  induction errors with
  | nil => trivial
  | cons e rest ih => exact ih

theorem asks_finish {α : Type} (closing : P .disconnect) (result : Except DeployError α)
    (g : TrustGuard) : (finish result g).Asks P :=
  Asks.andThen (asks_request (S := Outside) closing) fun _ =>
    (asks_noteCleanup _).andThen fun _ => trivial

theorem asks_abandon {α : Type} (e : DeployError) (g : TrustGuard) :
    (abandon (α := α) e g).Asks P := by
  unfold abandon
  split <;> trivial

/-- Around what the body asks there are only the opening and the closing of the channel. -/
theorem asked_of_foresees (opening : P .connect) (closing : P .disconnect)
    (h : ∀ store, Foresees w P s (D.bodyOf t store).run Q) :
    ∀ turn ∈ ((D.perform t g).run w s).dialogue, P turn.1 := by
  have session : Foresees w P s (D.inSession (D.bodyOf t) g) fun _ => True := by
    unfold inSession
    split
    · exact foresees_done trivial
    · refine Foresees.andThen (foresees_request (S := Outside) (Q := fun _ => True) opening
        fun _ _ => trivial) fun opened _ => ?_
      cases opened with
      | error e => exact (asks_abandon e _).foresees
      | ok u => exact (h _).andThen fun result _ => (asks_finish closing result _).foresees
  rw [dialogue_perform]
  exact (session s .refl).2

end Deployer

end DomainDeploy
