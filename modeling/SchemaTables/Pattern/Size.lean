import SchemaTables.Pattern.Property
import SchemaTables.Pattern.Basic

/-!
# The size of a compiled pattern

A pattern is compiled into two automata over bytes, one that reads forward and one that reads
backward, and each may take ten megabytes.  A repetition is compiled as that many copies of its
body, so short patterns can be too large.

`Weight` counts the bytes of either automaton: thirty-two for a state, eight more for each of
several byte ranges that leave it, four for each branch.  The classes of properties have the
weight that the table of properties gives; a bracketed class is taken to weigh as much as its parts
together.
-/

namespace SchemaTables.Pattern

/-- What a compiled expression weighs, and what it can match of the empty text. -/
structure Weight where
  forward : Nat
  backward : Nat
  /-- Can it match the empty text? -/
  nullable : Bool
  /-- Can it match nothing but the empty text? -/
  blank : Bool
  deriving Inhabited

namespace Weight

def state : Nat := 32

/-- An expression that is not there; it is compiled where it stands alone. -/
def nothing : Weight := ⟨state, state, true, true⟩

def ofClass (forward backward : Nat) : Weight := ⟨forward, backward, false, false⟩

/-- A literal character takes a state a byte. -/
def ofChar (c : Char) : Weight := ofClass (state * c.utf8Size) (state * c.utf8Size)

/-- Any character but a line break. -/
def dot : Weight := ofClass 368 1000

/-- A place between characters. -/
def place : Weight := ⟨state, state, true, true⟩

/-- One after the other. -/
def andThen (first second : Weight) : Weight :=
  ⟨first.forward + second.forward, first.backward + second.backward,
    first.nullable && second.nullable, first.blank && second.blank⟩

/-- A choice: a branching state, a joining state and the branches. -/
def choice (branches : List Weight) : Weight :=
  match branches with
  | [] => nothing
  | [branch] => branch
  | branches =>
    let joints := 2 * state + 4 * branches.length
    ⟨branches.foldl (fun n w => n + w.forward) joints,
      branches.foldl (fun n w => n + w.backward) joints,
      branches.any (·.nullable), branches.all (·.blank)⟩

/-- A group that captures has a state at either end when read forward. -/
def capture (w : Weight) : Weight := { w with forward := w.forward + 2 * state }

def copies (count : Nat) (one : Nat) : Nat := if count = 0 then state else count * one

/-- The bytes of at least `least` copies, `one` being the bytes of a copy. -/
def unbounded (nullable : Bool) (least one : Nat) : Nat :=
  if least = 0 then if nullable then one + 3 * state + 16 else one + state + 8
  else least * one + state + 8

/-- The bytes of `least` to `most` copies. -/
def bounded (least most one : Nat) : Nat :=
  if least = most then copies least one
  else copies least one + state + (most - least) * (state + 8 + one)

/-- A repetition.  The empty text need not be repeated. -/
def repeated (least : Nat) (most? : Option Nat) (w : Weight) : Weight :=
  let least := if w.blank then min least 1 else least
  let most? := if w.blank then some (min (most?.getD 1) 1) else most?
  match most? with
  | some 0 => nothing
  | some most =>
    if least = 1 ∧ most = 1 then w
    else
      ⟨bounded least most w.forward, bounded least most w.backward, w.nullable || least == 0,
        w.blank⟩
  | none =>
    ⟨unbounded w.nullable least w.forward, unbounded w.nullable least w.backward,
      w.nullable || least == 0, w.blank⟩

/-- What surrounds every compiled pattern. -/
def frame : Nat := 8 * state

/-- The bytes that an automaton may take. -/
def limit : Nat := 10 * 0x100000

/-- Is it small enough in both directions? -/
def fits (w : Weight) : Bool := w.forward + frame ≤ limit && w.backward + frame ≤ limit

end Weight

/-- The bytes of a short class and of its complement, in either direction; without the Unicode
meaning they are sets of bytes. -/
def shortWeight (unicode negated : Bool) : ShortClass → Nat × Nat
  | .digit => if !unicode then (64, 64) else if negated then (2168, 11656) else (1320, 4640)
  | .space => if !unicode then (80, 80) else if negated then (760, 1924) else (392, 680)
  | .word => if !unicode then (96, 96) else if negated then (18760, 45064) else (19480, 48168)

def Query.property? : Query → Option Property
  | .named name => named? name
  | .valued name value => valued? name value

/-- About the bytes of a range of characters beyond its first state. -/
def rangeWeight (first last : Char) : Nat × Nat :=
  if last.toNat < 0x80 then (8, 8)
  else
    let pieces := first.utf8Size + last.utf8Size
    (16 * pieces + 8, 36 * pieces)

mutual

/-- The bytes of a set beyond its first and last state. -/
def ClassSet.weight (unicode : Bool) : ClassSet → Nat × Nat
  | .empty => (0, 0)
  | .letter one => rangeWeight one.char one.char
  | .range first last => rangeWeight first.char last.char
  | .posix _ => (24, 24)
  | .short kind negated => shortWeight unicode negated kind
  | .property query _ =>
    match query.property? with
    | some found => (found.forward, found.backward)
    | none => (0, 0)
  | .bracketed _ set => set.weight unicode
  | .union items => weightAll unicode items
  | .operation .intersection left _ => left.weight unicode
  | .operation .difference left _ => left.weight unicode
  | .operation .symmetricDifference left right =>
    let (a, b) := left.weight unicode
    let (c, d) := right.weight unicode
    (a + c, b + d)

def ClassSet.weightAll (unicode : Bool) : List ClassSet → Nat × Nat
  | [] => (0, 0)
  | item :: rest =>
    let (a, b) := item.weight unicode
    let (c, d) := weightAll unicode rest
    (a + c, b + d)

end

end SchemaTables.Pattern
