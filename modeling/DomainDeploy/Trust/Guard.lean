import DomainDeploy.DeployError
import DomainDeploy.Trust.Context

/-!
# The trust guard

While a channel is in use the trust store of its context is published, and afterwards what was
published before is put back.  Scopes nest: the guard counts how many are held, captures the
published store when the first one starts and puts it back when the last one ends.  Publishing may
be refused, and then nothing changes.

The guard is a value, and each of its operations gives the guard that comes after it.
-/

namespace DomainDeploy

/-- The place where a trust store is published. -/
structure TrustBoard where
  published : TrustStore
  /-- How often something has been published or refused. -/
  writes : Nat := 0
  /-- What the writes of the given index are refused with. -/
  refusal : Nat → Option DeployError := fun _ => none

namespace TrustBoard

/-- Publishes a store, unless this write is refused. -/
def publish (b : TrustBoard) (store : TrustStore) : Except DeployError Unit × TrustBoard :=
  match b.refusal b.writes with
  | some e => (.error e, { b with writes := b.writes + 1 })
  | none => (.ok (), { b with published := store, writes := b.writes + 1 })

end TrustBoard

/-- A board with the number of scopes that are held and the store that was published before. -/
structure TrustGuard where
  board : TrustBoard
  depth : Nat := 0
  saved : Option TrustStore := none

namespace TrustGuard

/-- A guard over what is published now, which nothing refuses to change. -/
def ofPublished (published : TrustStore) : TrustGuard := ⟨⟨published, 0, fun _ => none⟩, 0, none⟩

/-- The store that is published now. -/
def current (g : TrustGuard) : TrustStore := g.board.published

/-- Whether a scope is held. -/
def isHeld (g : TrustGuard) : Bool := 0 < g.depth

/-- Holds one more scope; the first one captures what is published. -/
def stash (g : TrustGuard) : TrustGuard :=
  { g with
    depth := g.depth + 1
    saved := if g.depth == 0 then some g.board.published else g.saved }

/-- Publishes the store of a context on top of what is published. -/
def apply (g : TrustGuard) (context : TrustContext) : Except DeployError Unit × TrustGuard :=
  match context.store? with
  | none => (.ok (), g)
  | some wanted =>
    let (result, board) := g.board.publish (wanted.overlay g.current)
    (result, { g with board })

/-- Holds one scope less; when the last one ends, the capture is published again and forgotten. -/
def revert (g : TrustGuard) : Except DeployError Unit × TrustGuard :=
  match g.depth with
  | 0 => (.ok (), g)
  | 1 =>
    let (result, board) := g.board.publish (g.saved.getD .nowhere)
    (result.mapError fun e => .guardCleanup e.message, ⟨board, 0, none⟩)
  | depth + 2 => (.ok (), { g with depth := depth + 1 })

/-- Starts a scope for a context.  A scope that cannot publish its store ends at once. -/
def enter (g : TrustGuard) (context : TrustContext) : Except DeployError Unit × TrustGuard :=
  match g.stash.apply context with
  | (.ok (), g) => (.ok (), g)
  | (.error e, g) =>
    match g.revert with
    | (.ok (), g) => (.error e, g)
    | (.error cleanup, g) => (.error (e.attach [cleanup]), g)

@[simp] theorem current_ofPublished (store : TrustStore) : (ofPublished store).current = store :=
  rfl

@[simp] theorem depth_stash (g : TrustGuard) : g.stash.depth = g.depth + 1 := rfl

@[simp] theorem board_stash (g : TrustGuard) : g.stash.board = g.board := rfl

@[simp] theorem depth_apply (g : TrustGuard) (context : TrustContext) :
    (g.apply context).2.depth = g.depth := by
  unfold apply
  cases context.store? <;> rfl

end TrustGuard

end DomainDeploy
