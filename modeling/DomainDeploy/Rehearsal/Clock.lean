/-!
# A clock that is known in advance

Sleeps end at once, unless the operation is cancelled during one of them or has been cancelled
before: then the sleep does not end by itself, and neither does any later one.
-/

namespace DomainDeploy

/-- A clock that knows during which sleeps the operation is cancelled, the first sleep being 1. -/
structure RehearsedClock where
  /-- How many sleeps there have been. -/
  slept : Nat := 0
  cancelledAt : List Nat := []
  isCancelled : Bool := false
deriving Repr

namespace RehearsedClock

/-- Sleeps once; the answer tells whether the sleep ended by itself. -/
def sleep (c : RehearsedClock) : Bool × RehearsedClock :=
  let slept := c.slept + 1
  let isCancelled := c.isCancelled || c.cancelledAt.contains slept
  (!isCancelled, { c with slept, isCancelled })

end RehearsedClock

end DomainDeploy
