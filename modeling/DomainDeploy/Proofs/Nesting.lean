import Mathlib.Data.List.Induction
import DomainDeploy.Trust.Scopes

/-!
# Nesting of trust scopes

A guard may be stashed, applied and reverted in any order, and scopes may end in any order. Whatever
happens comes to a list of moves of the guard, and the level of that list, stashes less reverts and
never below zero, tells all there is to know (`IsNestedAfter`): the guard holds a capture as long as
the level is positive, the capture is what was published when the level rose from zero for the last
time, and what takes the level back to zero publishes it again.

While steps keep to scopes, that is, nothing is stashed or reverted by hand and nothing applied
without a scope, the level is the number of scopes alive; so what was published at the start is
published whenever no scope is alive (`run_isNested`).
-/

namespace DomainDeploy

namespace TrustBoard

/-- No write that is still to come is refused. -/
def IsWilling (b : TrustBoard) : Prop := ∀ i, b.writes ≤ i → b.refusal i = none

variable {b : TrustBoard}

theorem IsWilling.publish_eq (h : b.IsWilling) (store : TrustStore) :
    b.publish store = (.ok (), { b with published := store, writes := b.writes + 1 }) := by
  simp [publish, h b.writes (Nat.le_refl _)]

theorem IsWilling.publish (h : b.IsWilling) (store : TrustStore) :
    (b.publish store).2.IsWilling := by
  rw [h.publish_eq store]
  intro i hi
  exact h i (Nat.le_trans (Nat.le_succ _) hi)

end TrustBoard

namespace TrustGuard

/-! ### Moves of a guard -/

/-- What is done to a guard. -/
inductive Move where
  | stash
  | apply (context : TrustContext)
  | revert

/-- The guard after a move. -/
def move (g : TrustGuard) : Move → TrustGuard
  | .stash => g.stash
  | .apply context => (g.apply context).2
  | .revert => g.revert.2

/-- The guard after moves, one after the other. -/
def play (g : TrustGuard) (moves : List Move) : TrustGuard := moves.foldl move g

/-- Stashes less reverts, never below zero on the way. -/
def level (moves : List Move) : Nat :=
  moves.foldl (fun n m => match m with
    | .stash => n + 1
    | .apply _ => n
    | .revert => n - 1) 0

/-- No scope is held and nothing is captured. -/
structure IsUnheld (g : TrustGuard) : Prop where
  depth : g.depth = 0
  saved : g.saved = none

variable {g : TrustGuard} {moves : List Move} {m : Move} {store : TrustStore}

@[simp] theorem play_nil : g.play [] = g := rfl

theorem play_append (moves moves' : List Move) :
    g.play (moves ++ moves') = (g.play moves).play moves' := List.foldl_append

theorem play_concat (moves : List Move) (m : Move) :
    g.play (moves ++ [m]) = (g.play moves).move m := play_append moves [m]

@[simp] theorem level_nil : level [] = 0 := rfl

@[simp] theorem level_stash : level (moves ++ [.stash]) = level moves + 1 := by simp [level]

@[simp] theorem level_apply (context : TrustContext) :
    level (moves ++ [.apply context]) = level moves := by simp [level]

@[simp] theorem level_revert : level (moves ++ [.revert]) = level moves - 1 := by simp [level]

/-! ### What a move changes -/

section

variable {context : TrustContext}

theorem saved_apply : (g.apply context).2.saved = g.saved := by
  unfold apply
  cases context.store? <;> rfl

theorem isWilling_apply (h : g.board.IsWilling) : (g.apply context).2.board.IsWilling := by
  unfold apply
  cases context.store? with
  | none => exact h
  | some wanted => exact h.publish _

theorem saved_stash : g.stash.saved = if g.depth = 0 then some g.current else g.saved := by
  simp [stash, current]

theorem depth_revert : g.revert.2.depth = g.depth - 1 := by
  unfold revert
  split <;> simp_all

theorem saved_revert : g.revert.2.saved = if g.depth = 1 then none else g.saved := by
  unfold revert
  split <;> simp_all

theorem isWilling_revert (h : g.board.IsWilling) : g.revert.2.board.IsWilling := by
  unfold revert
  split
  · exact h
  · exact h.publish _
  · exact h

/-- The last revert publishes the capture. -/
theorem current_revert (h : g.board.IsWilling) (last : g.depth = 1)
    (captured : g.saved = some store) : g.revert.2.current = store := by
  simp [revert, last, captured, h.publish_eq, current]

end

theorem isWilling_move (h : g.board.IsWilling) (m : Move) : (g.move m).board.IsWilling := by
  cases m with
  | stash => exact h
  | apply context => exact isWilling_apply h
  | revert => exact isWilling_revert h

theorem isWilling_play (h : g.board.IsWilling) (moves : List Move) :
    (g.play moves).board.IsWilling := by
  induction moves generalizing g with
  | nil => exact h
  | cons m moves ih => exact ih (isWilling_move h m)

/-- The depth is the level of the moves. -/
theorem depth_play (unheld : g.IsUnheld) (moves : List Move) :
    (g.play moves).depth = level moves := by
  induction moves using List.reverseRecOn with
  | nil => exact unheld.depth
  | append_singleton moves m ih =>
      rw [play_concat]
      cases m with
      | stash => simp [move, ih]
      | apply context => simp [move, depth_apply, ih]
      | revert => simp [move, depth_revert, ih]

/-! ### The capture -/

/-- The level rose from zero over what published `store`, and has not come back to zero since. -/
def IsCaptureOf (g : TrustGuard) (moves : List Move) (store : TrustStore) : Prop :=
  ∃ before after, moves = before ++ .stash :: after ∧ level before = 0 ∧
    (∀ past, past <+: after → 0 < level (before ++ .stash :: past)) ∧
      (g.play before).current = store

theorem IsCaptureOf.level_pos (h : g.IsCaptureOf moves store) : 0 < level moves := by
  obtain ⟨before, after, rfl, -, positive, -⟩ := h
  exact positive after (List.prefix_refl after)

/-- A move makes a capture where the level rises from zero, and keeps one while the level stays
positive. -/
theorem isCaptureOf_concat :
    g.IsCaptureOf (moves ++ [m]) store ↔
      (level moves = 0 ∧ m = .stash ∧ (g.play moves).current = store) ∨
        g.IsCaptureOf moves store ∧ 0 < level (moves ++ [m]) := by
  constructor
  · intro h
    obtain ⟨before, after, hmoves, low, positive, published⟩ := h
    rcases List.eq_nil_or_concat after with rfl | ⟨after, last, rfl⟩
    · obtain ⟨rfl, hm⟩ := List.append_inj' hmoves rfl
      exact .inl ⟨low, List.singleton_inj.1 hm, published⟩
    · obtain ⟨rfl, hm⟩ : moves = before ++ .stash :: after ∧ [m] = [last] := by
        refine List.append_inj' ?_ rfl
        simpa using hmoves
      obtain rfl := List.singleton_inj.1 hm
      refine .inr ⟨⟨before, after, rfl, low, fun past hpast => ?_, published⟩, ?_⟩
      · exact positive past (hpast.trans (by simp))
      · rw [hmoves]
        exact positive _ (List.prefix_refl _)
  · intro h
    rcases h with ⟨low, rfl, published⟩ | ⟨⟨before, after, rfl, low, positive, published⟩, hlevel⟩
    · refine ⟨moves, [], rfl, low, fun past hpast => ?_, published⟩
      rw [List.prefix_nil.1 hpast]
      simp
    · refine ⟨before, after ++ [m], by simp, low, fun past hpast => ?_, published⟩
      rcases List.prefix_concat_iff.1 hpast with rfl | hpast
      · simpa using hlevel
      · exact positive past hpast

/-- What is captured is the capture of the moves. -/
theorem saved_play_iff (unheld : g.IsUnheld) (moves : List Move) (store : TrustStore) :
    (g.play moves).saved = some store ↔ g.IsCaptureOf moves store := by
  induction moves using List.reverseRecOn with
  | nil =>
      rw [play_nil, unheld.saved]
      exact ⟨nofun, fun h => absurd h.level_pos (Nat.lt_irrefl 0)⟩
  | append_singleton moves m ih =>
      have depth := depth_play unheld moves
      rw [play_concat, isCaptureOf_concat, ← ih]
      cases m with
      | stash =>
          rw [move, saved_stash, depth]
          by_cases low : level moves = 0
          · have nothing : (g.play moves).saved ≠ some store := by
              intro captured
              exact absurd (ih.1 captured).level_pos (by simp [low])
            simp [low, nothing]
          · simp [low]
      | apply context =>
          rw [move, saved_apply]
          constructor
          · intro captured
            exact .inr ⟨captured, by simpa using (ih.1 captured).level_pos⟩
          · intro h
            rcases h with ⟨-, h, -⟩ | h
            · cases h
            · exact h.1
      | revert =>
          rw [move, saved_revert, depth]
          by_cases last : level moves = 1
          · simp [last]
          · simp only [last, if_false]
            constructor
            · intro captured
              have positive := (ih.1 captured).level_pos
              exact .inr ⟨captured, by rw [level_revert]; omega⟩
            · intro h
              rcases h with ⟨-, h, -⟩ | h
              · cases h
              · exact h.1

/-- As long as the level is positive there is a capture. -/
theorem exists_isCaptureOf (g : TrustGuard) (positive : 0 < level moves) :
    ∃ store, g.IsCaptureOf moves store := by
  induction moves using List.reverseRecOn with
  | nil => exact absurd positive (Nat.lt_irrefl 0)
  | append_singleton moves m ih =>
      by_cases low : level moves = 0
      · cases m with
        | stash => exact ⟨_, isCaptureOf_concat.2 (.inl ⟨low, rfl, rfl⟩)⟩
        | apply context => simp [low] at positive
        | revert => simp [low] at positive
      · obtain ⟨store, captured⟩ := ih (Nat.pos_of_ne_zero low)
        exact ⟨store, isCaptureOf_concat.2 (.inr ⟨captured, positive⟩)⟩

/-- What holds of a guard after moves of one that was not held. -/
structure IsNestedAfter (g : TrustGuard) (moves : List Move) : Prop where
  depth : (g.play moves).depth = level moves
  held_iff : (g.play moves).saved.isSome ↔ 0 < (g.play moves).depth
  captured : ∀ store, (g.play moves).saved = some store ↔ g.IsCaptureOf moves store
  /-- No move changes the capture while the guard stays held. -/
  kept : ∀ m, 0 < (g.play moves).depth → 0 < ((g.play moves).move m).depth →
    ((g.play moves).move m).saved = (g.play moves).saved
  /-- A move that lets the guard go publishes the capture. -/
  restored : ∀ m, (g.play moves).depth = 1 → ((g.play moves).move m).depth = 0 →
    (g.play moves).saved = some ((g.play moves).move m).current

theorem isNestedAfter (unheld : g.IsUnheld) (willing : g.board.IsWilling) (moves : List Move) :
    g.IsNestedAfter moves := by
  have depth := depth_play unheld
  have captured := saved_play_iff unheld
  have held (positive : 0 < level moves) : ∃ store, (g.play moves).saved = some store := by
    obtain ⟨store, h⟩ := exists_isCaptureOf g positive
    exact ⟨store, (captured moves store).2 h⟩
  refine ⟨depth moves, ?_, captured moves, fun m positive stays => ?_, fun m last free => ?_⟩
  · rw [depth, Option.isSome_iff_exists]
    constructor
    · intro h
      obtain ⟨store, h⟩ := h
      exact ((captured moves store).1 h).level_pos
    · exact held
  · obtain ⟨store, h⟩ := held (by simpa [depth] using positive)
    rw [← play_concat, depth] at stays
    rw [h, ← play_concat, captured, isCaptureOf_concat]
    exact .inr ⟨(captured moves store).1 h, stays⟩
  · rw [depth] at last
    rw [← play_concat, depth] at free
    cases m with
    | stash => simp at free
    | apply context => simp [last] at free
    | revert =>
        obtain ⟨store, h⟩ := held (by simp [last])
        rw [move, current_revert (isWilling_play willing moves) ((depth moves).trans last) h, h]

end TrustGuard

/-! ### Steps of scopes -/

open TrustGuard

/-- The moves of the guard that a step comes to while those scopes are alive. -/
def TrustStep.moves (alive : List String) : TrustStep → List Move
  | .stash => [.stash]
  | .revert => [.revert]
  | .apply context => [.apply context]
  | .enter name context =>
    .stash :: .apply context :: if alive.contains name then [.revert] else []
  | .finish name | .drop name => if alive.contains name then [.revert] else []

namespace TrustScopes

variable {s : TrustScopes}

/-- The scopes after steps, one after the other. -/
def run (s : TrustScopes) (steps : List TrustStep) : TrustScopes :=
  steps.foldl (fun s t => (s.step t).2) s

/-- All moves of the guard that steps come to. -/
def moves (s : TrustScopes) : List TrustStep → List Move
  | [] => []
  | t :: rest => t.moves s.alive ++ (s.step t).2.moves rest

theorem enter_of_isWilling {g : TrustGuard} (willing : g.board.IsWilling) (context : TrustContext) :
    g.enter context = (.ok (), (g.stash.apply context).2) := by
  unfold enter TrustGuard.apply
  cases context.store? with
  | none => rfl
  | some wanted => simp only [willing.publish_eq, board_stash]

theorem dropped_eq (g : TrustGuard) : (dropped g).1 = g.revert.2 := by
  unfold dropped
  split <;> simp_all

theorem guard_step (willing : s.guard.board.IsWilling) (t : TrustStep) :
    (s.step t).2.guard = s.guard.play (t.moves s.alive) := by
  cases t with
  | stash => rfl
  | revert => rfl
  | apply context => rfl
  | enter name context =>
      simp only [step, enter_of_isWilling willing, TrustStep.moves]
      split
      · exact dropped_eq _
      · rfl
  | finish name =>
      simp only [step, TrustStep.moves]
      split <;> rfl
  | drop name =>
      simp only [step, TrustStep.moves]
      split
      · exact dropped_eq _
      · rfl

theorem guard_run (willing : s.guard.board.IsWilling) (steps : List TrustStep) :
    (s.run steps).guard = s.guard.play (s.moves steps) := by
  induction steps generalizing s with
  | nil => rfl
  | cons t rest ih =>
      have hguard := guard_step willing t
      rw [moves, play_append, ← hguard]
      exact ih (by rw [hguard]; exact isWilling_play willing _)

/-! ### Steps that keep to scopes -/

/-- Whether a step leaves the guard to the scopes: nothing is stashed or reverted by hand, and
nothing is applied without a scope. -/
def Allows (s : TrustScopes) : TrustStep → Prop
  | .stash | .revert => False
  | .apply _ => s.alive ≠ []
  | .enter .. | .finish _ | .drop _ => True

/-- Whether each of the steps leaves the guard to the scopes that are alive then. -/
def KeepsToScopes (s : TrustScopes) : List TrustStep → Prop
  | [] => True
  | t :: rest => s.Allows t ∧ (s.step t).2.KeepsToScopes rest

end TrustScopes

/-- The guard publishes `store`, or will when it is let go. -/
structure TrustGuard.ComesBackTo (g : TrustGuard) (store : TrustStore) : Prop where
  willing : g.board.IsWilling
  free : g.depth = 0 → g.current = store
  held : 0 < g.depth → g.saved = some store

namespace TrustGuard.ComesBackTo

variable {g : TrustGuard} {store : TrustStore}

theorem stash (h : g.ComesBackTo store) : g.stash.ComesBackTo store where
  willing := h.willing
  free := by simp
  held _ := by
    rw [saved_stash]
    by_cases free : g.depth = 0
    · rw [if_pos free, h.free free]
    · rw [if_neg free, h.held (Nat.pos_of_ne_zero free)]

theorem apply (h : g.ComesBackTo store) (held : 0 < g.depth) (context : TrustContext) :
    (g.apply context).2.ComesBackTo store where
  willing := isWilling_apply h.willing
  free free := by
    rw [depth_apply] at free
    omega
  held _ := by rw [saved_apply, h.held held]

theorem revert (h : g.ComesBackTo store) : g.revert.2.ComesBackTo store where
  willing := isWilling_revert h.willing
  free free := by
    rw [depth_revert] at free
    by_cases last : g.depth = 1
    · exact current_revert h.willing last (h.held (by omega))
    · have nothing : g.depth = 0 := by omega
      rw [← h.free nothing]
      simp [TrustGuard.revert, nothing]
  held held := by
    rw [depth_revert] at held
    rw [saved_revert, if_neg (by omega), h.held (by omega)]

end TrustGuard.ComesBackTo

namespace TrustScopes

variable {s : TrustScopes} {store : TrustStore}

/-- The guard is held once for each scope alive, and comes back to `store`. -/
structure IsBalanced (s : TrustScopes) (store : TrustStore) : Prop where
  depth : s.guard.depth = s.alive.length
  guard : s.guard.ComesBackTo store

theorem IsBalanced.ended (h : s.IsBalanced store) {name : String} (alive : name ∈ s.alive) :
    (⟨s.guard.revert.2, s.alive.erase name⟩ : TrustScopes).IsBalanced store where
  depth := by rw [depth_revert, h.depth, List.length_erase_of_mem alive]
  guard := h.guard.revert

theorem IsBalanced.step {t : TrustStep} (h : s.IsBalanced store) (allowed : s.Allows t) :
    (s.step t).2.IsBalanced store := by
  cases t with
  | stash => exact allowed.elim
  | revert => exact allowed.elim
  | apply context =>
      have held : 0 < s.guard.depth := by
        rw [h.depth]
        exact List.length_pos_iff.2 allowed
      exact ⟨(s.guard.depth_apply context).trans h.depth, h.guard.apply held context⟩
  | enter name context =>
      have entered := h.guard.stash.apply (by simp) context
      have deeper : (s.guard.stash.apply context).2.depth = s.alive.length + 1 := by
        rw [depth_apply, depth_stash, h.depth]
      simp only [TrustScopes.step, enter_of_isWilling h.guard.willing]
      split
      · -- the scope that had the name before ends at once, so as many are alive as before
        rw [dropped_eq]
        exact ⟨by rw [depth_revert, deeper]; rfl, entered.revert⟩
      · exact ⟨deeper, entered⟩
  | finish name =>
      simp only [TrustScopes.step]
      split
      · rename_i alive
        exact h.ended (List.contains_iff_mem.1 alive)
      · exact h
  | drop name =>
      simp only [TrustScopes.step]
      split
      · rename_i alive
        rw [dropped_eq]
        exact h.ended (List.contains_iff_mem.1 alive)
      · exact h

theorem IsBalanced.run {steps : List TrustStep} (h : s.IsBalanced store)
    (keeps : s.KeepsToScopes steps) : (s.run steps).IsBalanced store := by
  induction steps generalizing s with
  | nil => exact h
  | cons t rest ih => exact ih (h.step keeps.1) keeps.2

theorem KeepsToScopes.of_prefix {past steps : List TrustStep} (h : s.KeepsToScopes steps)
    (hpast : past <+: steps) : s.KeepsToScopes past := by
  induction past generalizing s steps with
  | nil => trivial
  | cons t past ih =>
      obtain ⟨rest, rfl⟩ := hpast
      exact ⟨h.1, ih h.2 (List.prefix_append past rest)⟩

/-- Whatever steps are taken from a guard that is not held, on a board that refuses nothing, the
guard is nested after every move; and while they keep to scopes, what was published at the start is
published whenever no scope is alive. -/
theorem run_isNested (g : TrustGuard) (steps : List TrustStep) (unheld : g.IsUnheld)
    (willing : g.board.IsWilling) :
    let start : TrustScopes := ⟨g, []⟩
    (start.run steps).guard = g.play (start.moves steps) ∧
      (∀ past, past <+: start.moves steps → g.IsNestedAfter past) ∧
        (start.KeepsToScopes steps → ∀ past, past <+: steps → (start.run past).alive = [] →
          (start.run past).guard.current = g.current) := by
  intro start
  refine ⟨guard_run willing steps, fun past _ => isNestedAfter unheld willing past, ?_⟩
  intro keeps past hpast nobody
  have balanced : start.IsBalanced g.current :=
    ⟨unheld.depth, willing, fun _ => rfl, fun held => by simp [start, unheld.depth] at held⟩
  have ended := balanced.run (keeps.of_prefix hpast)
  exact ended.guard.free (by rw [ended.depth, nobody]; rfl)

/-- Two scopes that overlap: the one that started first ends first. -/
def overlapping : List TrustStep :=
  let custom (location : String) : TrustContext := { mode := .custom, location := some location }
  [.enter "outer" (custom "/outer.pem"), .enter "inner" (custom "/inner.pem"), .drop "outer",
    .apply (custom "/late.pem"), .finish "inner"]

/-- After two scopes that overlap, what was published before is published again. -/
theorem run_isNested_overlapping :
    let g := TrustGuard.ofPublished ⟨some "/original.pem", none⟩
    let start : TrustScopes := ⟨g, []⟩
    (g.IsUnheld ∧ g.board.IsWilling ∧ start.KeepsToScopes overlapping ∧
      (start.run overlapping).alive = []) ∧
      (start.run overlapping).guard = g.play (start.moves overlapping) ∧
        (∀ past, past <+: start.moves overlapping → g.IsNestedAfter past) ∧
          (start.run overlapping).guard.current = g.current := by
  intro g start
  have unheld : g.IsUnheld := ⟨rfl, rfl⟩
  have willing : g.board.IsWilling := fun _ _ => rfl
  have keeps : start.KeepsToScopes overlapping := by
    refine ⟨trivial, trivial, trivial, ?_, trivial, trivial⟩
    exact List.cons_ne_nil "inner" []
  have nobody : (start.run overlapping).alive = [] := by decide
  obtain ⟨played, nested, kept⟩ := run_isNested g overlapping unheld willing
  exact ⟨⟨unheld, willing, keeps, nobody⟩, played, nested,
    kept keeps overlapping (List.prefix_refl _) nobody⟩

end TrustScopes

end DomainDeploy
