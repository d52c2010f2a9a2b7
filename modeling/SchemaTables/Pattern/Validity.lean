import SchemaTables.Pattern.Reader
import SchemaTables.Pattern.Size

/-!
# Valid patterns

A pattern is valid when it can be read, when all that it names exists, when it matches nothing but
whole characters, and when it is not too large once compiled.

Where the flag `u` is off, a pattern speaks about bytes.  There it must not match bytes beyond
ASCII one at a time: no dot, no byte escape beyond ASCII, no complement of a class, and no class
with such bytes in it.
-/

namespace SchemaTables.Pattern

/-- Does a letter stand for a byte beyond ASCII when Unicode is off? -/
def Letter.isHighByte (letter : Letter) : Bool := letter.byte && 0x80 ≤ letter.char.toNat

/-- Does a set of bytes hold those beyond ASCII?  A set holds all of them or none; `none` where the
set may not stand among bytes. -/
def highBytes? : ClassSet → Option Bool
  | set => go set
where
  /-- Of one set. -/
  go : ClassSet → Option Bool
    | .empty => some false
    | .letter letter => if letter.char.toNat < 0x80 then some false else none
    | .range first last =>
      if first.char.toNat < 0x80 ∧ last.char.toNat < 0x80 then some false else none
    | .posix negated => some negated
    | .short _ negated => if negated then none else some false
    | .property _ _ => none
    | .bracketed negated set =>
      match go set with
      | some high => if (high != negated) then none else some false
      | none => none
    | .union items => goAll items
    | .operation kind left right =>
      match go left, go right with
      | some a, some b =>
        match kind with
        | .intersection => some (a && b)
        | .difference => some (a && !b)
        | .symmetricDifference => some (a != b)
      | _, _ => none
  /-- Of several sets together. -/
  goAll : List ClassSet → Option Bool
    | [] => some false
    | item :: rest =>
      match go item, goAll rest with
      | some a, some b => some (a || b)
      | _, _ => none

mutual

/-- Do all properties that a set names exist? -/
def ClassSet.isKnown : ClassSet → Bool
  | .property query _ => query.property?.isSome
  | .bracketed _ set => set.isKnown
  | .union items => allKnown items
  | .operation _ left right => left.isKnown && right.isKnown
  | _ => true

def ClassSet.allKnown : List ClassSet → Bool
  | [] => true
  | item :: rest => item.isKnown && allKnown rest

end

/-- A bracketed class may stand here. -/
def isValidClass (unicode negated : Bool) (set : ClassSet) : Bool :=
  if unicode then set.isKnown else highBytes? (.bracketed negated set) == some false

def classWeight (unicode : Bool) (set : ClassSet) : Weight :=
  match set with
  | .letter letter => .ofChar letter.char
  | set =>
    let (a, b) := set.weight unicode
    .ofClass (2 * Weight.state + a) (2 * Weight.state + b)

mutual

/-- Whether Unicode is on behind an expression, and what the expression weighs; `none` if it is
not valid.  Flags reach to the end of the group around them, across the branches of a choice. -/
def Tree.check? (unicode : Bool) : Tree → Option (Bool × Weight)
  | .empty => some (unicode, .nothing)
  | .flags items => some ((items.state? .unicode).getD unicode, ⟨0, 0, true, true⟩)
  | .letter one =>
    if !unicode && one.isHighByte then none else some (unicode, .ofChar one.char)
  | .dot => if unicode then some (unicode, .dot) else none
  | .place => some (unicode, .place)
  | .short kind negated =>
    if !unicode && negated then none
    else
      let (a, b) := shortWeight unicode negated kind
      some (unicode, .ofClass a b)
  | .property query _ =>
    match unicode, query.property? with
    | true, some found => some (unicode, .ofClass found.forward found.backward)
    | _, _ => none
  | .bracketed negated set =>
    if isValidClass unicode negated set then some (unicode, classWeight unicode set) else none
  | .repetition least most? body =>
    match body.check? unicode with
    | some (after, w) => some (after, w.repeated least most?)
    | none => none
  | .group kind body =>
    let inner :=
      match kind with
      | .plain items => (items.state? .unicode).getD unicode
      | _ => unicode
    match body.check? inner with
    | some (_, w) =>
      match kind with
      | .plain _ => some (unicode, w)
      | _ => some (unicode, w.capture)
    | none => none
  | .alternation branches =>
    match checkAll? unicode branches with
    | some (after, ws) => some (after, .choice ws)
    | none => none
  | .concat parts =>
    match checkAll? unicode parts with
    | some (after, ws) => some (after, ws.foldl Weight.andThen ⟨0, 0, true, true⟩)
    | none => none

def Tree.checkAll? (unicode : Bool) : List Tree → Option (Bool × List Weight)
  | [] => some (unicode, [])
  | part :: rest =>
    match part.check? unicode with
    | some (unicode, w) =>
      match checkAll? unicode rest with
      | some (unicode, ws) => some (unicode, w :: ws)
      | none => none
    | none => none

end

def isValid (text : String) : Bool :=
  match read? text with
  | some tree =>
    match tree.check? true with
    | some (_, w) => w.fits
    | none => false
  | none => false

end SchemaTables.Pattern
