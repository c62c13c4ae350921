import DomainDeploy.Json.Fault

/-!
# Reading from the left

A `Reader` takes characters from the front of a text and either ends with a value or raises a
cause.  It reads from left to right, so the first fault of a text decides.  A cause is *placed*
when the place it belongs to is known.  A value of the wrong shape is often found out only when
its last character has been read; such a cause *floats*, with the place reached so far, until the
value that holds it has been closed.
-/

namespace DomainDeploy.Json

/-- The characters still to be read and the number of bytes already read. -/
structure Cursor where
  rest : List Char
  offset : Nat

/-- Why reading stopped. -/
inductive Trouble where
  /-- The cause belongs to byte `offset`. -/
  | placed (cause : Cause) (offset : Nat)
  /-- The cause has no place yet; reading stood at `reached`. -/
  | floating (cause : Cause) (reached : Cursor)

/-- What takes characters from the front of a text. -/
def Reader (α : Type) := Cursor → Except Trouble (α × Cursor)

namespace Reader

variable {α β : Type}

/-- Reads nothing and ends with `a`. -/
def done (a : α) : Reader α := fun c => .ok (a, c)

/-- Reads with `r` and then with what its value selects. -/
def andThen (r : Reader α) (f : α → Reader β) : Reader β := fun c =>
  match r c with
  | .ok (a, c') => f a c'
  | .error e => .error e

instance : Monad Reader where
  pure := done
  bind := andThen

@[simp] theorem pure_apply (a : α) (c : Cursor) : (pure a : Reader α) c = .ok (a, c) := rfl

theorem bind_apply (r : Reader α) (f : α → Reader β) (c : Cursor) :
    (r >>= f) c = match r c with
      | .ok (a, c') => f a c'
      | .error e => .error e := rfl

end Reader

variable {α : Type}

/-- The cursor behind the character `c`. -/
def Cursor.behind (offset : Nat) (c : Char) (rest : List Char) : Cursor :=
  ⟨rest, offset + c.utf8Size⟩

/-- Raises a cause at the place reached. -/
def failHere (cause : Cause) : Reader α := fun c => .error (.placed cause c.offset)

/-- Raises a cause at the next byte, or at the end of the text. -/
def failAhead (cause : Cause) : Reader α := fun c =>
  .error (.placed cause (if c.rest.isEmpty then c.offset else c.offset + 1))

/-- Raises a cause at the byte behind the first one of the character just taken. -/
def failInside (taken : Char) (cause : Cause) : Reader α := fun c =>
  .error (.placed cause (c.offset - taken.utf8Size + 1))

/-- Raises a cause whose place is found later. -/
def failLater (cause : Cause) : Reader α := fun c => .error (.floating cause c)

/-- The next character, which stays unread. -/
def peek : Reader (Option Char) := fun c => .ok (c.rest.head?, c)

/-- Takes the next character, if there is one. -/
def next : Reader (Option Char) := fun c =>
  match c.rest with
  | [] => .ok (none, c)
  | ch :: rest => .ok (some ch, .behind c.offset ch rest)

/-- Takes the next character and forgets it. -/
def eat : Reader Unit := fun c =>
  match c.rest with
  | [] => .ok ((), c)
  | ch :: rest => .ok ((), .behind c.offset ch rest)

/-- The white space of the format. -/
def isSpace (c : Char) : Bool := c == ' ' || c == '\n' || c == '\t' || c == '\r'

/-- The cursor behind the white space at its front. -/
def skipSpaceFrom : List Char → Nat → Cursor
  | [], offset => ⟨[], offset⟩
  | c :: rest, offset => if isSpace c then skipSpaceFrom rest (offset + 1) else ⟨c :: rest, offset⟩

/-- Skips white space and shows the character behind it. -/
def peekToken : Reader (Option Char) := fun c =>
  let c := skipSpaceFrom c.rest c.offset
  .ok (c.rest.head?, c)

/-- Reads the remaining characters of a word. -/
def word : List Char → Reader Unit
  | [] => pure ()
  | w :: ws => do
    match ← next with
    | none => failHere .endInValue
    | some c => if c == w then word ws else failInside c .expectedWord

/-- Places a floating cause where reading stands. -/
def placeLate (r : Reader α) : Reader α := fun c =>
  match r c with
  | .error (.floating cause reached) => .error (.placed cause reached.offset)
  | other => other

/-- Ends a list behind its last item. -/
def endList : Reader Unit := do
  match ← peekToken with
  | some ']' => eat
  | some ',' =>
    eat
    match ← peekToken with
    | some ']' => failAhead .trailingComma
    | _ => failAhead .trailingText
  | some _ => failAhead .trailingText
  | none => failAhead .endInList

/-- Ends an object behind its last member. -/
def endObject : Reader Unit := do
  match ← peekToken with
  | some '\x7d' => eat
  | some ',' => failAhead .trailingComma
  | some _ => failAhead .trailingText
  | none => failAhead .endInObject

/-- Where reading stands after `finish` was tried. -/
def reachedAfter (finish : Reader Unit) (reached : Cursor) : Cursor :=
  match finish reached with
  | .ok (_, c) => c
  | .error (.floating _ c) => c
  | .error (.placed ..) => skipSpaceFrom reached.rest reached.offset

/-- Reads the inside of a bracketed value and then its end.  When the inside raises a cause that
has no place yet, the end is looked for all the same, and the cause floats on from there. -/
def closing (inside : Reader α) (finish : Reader Unit) : Reader α := fun c =>
  match inside c with
  | .ok (a, c') => finish.andThen (fun _ => .done a) c'
  | .error (.floating cause reached) => .error (.floating cause (reachedAfter finish reached))
  | .error e => .error e

/-- Whether there is another item in a list, whose first item it is when `first`. -/
def moreItems (first : Bool) : Reader Bool := do
  match ← peekToken with
  | none => failAhead .endInList
  | some ']' => pure false
  | some c =>
    if first then pure true
    else if c == ',' then
      eat
      match ← peekToken with
      | some ']' => failAhead .trailingComma
      | some _ => pure true
      | none => failAhead .endInValue
    else failAhead .expectedListEnd

/-- Whether there is another member in an object, whose first member it is when `first`. -/
def moreMembers (first : Bool) : Reader Bool := do
  match ← peekToken with
  | none => failAhead .endInObject
  | some '\x7d' => pure false
  | some c =>
    if first then
      if c == '"' then pure true else failAhead .nameNotText
    else if c == ',' then
      eat
      match ← peekToken with
      | some '"' => pure true
      | some '\x7d' => failAhead .trailingComma
      | some _ => failAhead .nameNotText
      | none => failAhead .endInValue
    else failAhead .expectedObjectEnd

/-- Reads the colon between a name and its value. -/
def colon : Reader Unit := do
  match ← peekToken with
  | some ':' => eat
  | some _ => failAhead .expectedColon
  | none => failAhead .endInObject

/-- Skips white space and shows the first character of a value, which must follow. -/
def peekValue : Reader Char := do
  match ← peekToken with
  | some c => pure c
  | none => failAhead .endInValue

end DomainDeploy.Json
