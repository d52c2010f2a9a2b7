import SchemaTables.Json.Basic
import SchemaTables.Text.Segments

/-!
# Paths and pointers into documents

The segments of a path name the member or the item to go to, one after the other.  An item position
has no sign and no leading zero.

A pointer is the text of a path.  It is empty, and then selects the whole document, or starts with a
slash; in a segment `~1` stands for a slash and `~0` for a tilde.
-/

namespace SchemaTables.Json

/-- A segment with its escapes resolved: first `~1`, then `~0`. -/
def pointerSegment (segment : String) : String :=
  let slashes : List Char → List Char := fun chars => unescape '1' '/' chars
  String.ofList (unescape '0' '~' (slashes segment.toList))
where
  /-- Replaces a tilde and a digit by a character, from left to right. -/
  unescape (digit char : Char) : List Char → List Char
    | '~' :: c :: rest =>
      if c = digit then char :: unescape digit char rest else '~' :: unescape digit char (c :: rest)
    | c :: rest => c :: unescape digit char rest
    | [] => []

/-- The item position that a segment writes. -/
def itemPosition? (segment : String) : Option Nat :=
  match segment.toList with
  | [] => none
  | '0' :: _ :: _ => none
  | digits =>
    if digits.all Char.isDigit then
      let position := digits.foldl (fun n c => n * 10 + (c.toNat - '0'.toNat)) 0
      if position ≤ Number.maxWord then some position else none
    else none

/-- The value that a segment selects. -/
def step? (value : Json) (segment : String) : Option Json :=
  match value with
  | .object members => Keyed.get? members segment
  | .array items => (itemPosition? segment).bind fun i => items[i]?
  | _ => none

/-- The value at a path of member names and item positions. -/
def at? : Json → List String → Option Json
  | value, [] => some value
  | value, segment :: rest => (value.step? segment).bind fun inner => inner.at? rest
termination_by structural _ path => path

def pointer? (value : Json) (pointer : String) : Option Json :=
  match Text.split '/' pointer with
  | "" :: segments => value.at? (segments.map pointerSegment)
  | _ => none

end SchemaTables.Json
