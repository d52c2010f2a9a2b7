import SchemaTables.Jq.Reader
import SchemaTables.Jq.Trace

/-!
# The library of filters

Some filters are built in; the others are defined by them, in the filter language itself.
-/

namespace SchemaTables.Jq

/-! ## Built-in filters -/

/-- The built-in filters without an argument. -/
def constants : Keyed (Value → Trace) :=
  [ ("empty", fun _ => {}),
    ("error", fun v => .fail (.raised v)),
    ("null", fun _ => .of .null),
    ("true", fun _ => .of (.bool true)),
    ("false", fun _ => .of (.bool false)),
    ("nan", fun _ => .of (.float (0.0 / 0.0))),
    ("infinite", fun _ => .of (.float (1.0 / 0.0))),
    ("type", fun v => .of (.string v.typeName)),
    ("length", fun v => .ofResult v.length),
    ("keys_unsorted", fun v => .ofResult (v.keys.map .array)),
    ("sort", fun v => .ofResult (sorted v)),
    ("reverse", fun v => .ofResult (reversed v)),
    ("floor", fun v => .ofResult v.floor),
    ("tostring", fun v => .of (.string v.plainText)),
    ("tojson", fun v => .of (.string v.text)),
    ("@json", fun v => .of (.string v.text)),
    ("@text", fun v => .of (.string v.plainText)),
    ("fromjson", fun v => .ofResult (parsed v)),
    ("tonumber", fun v => .ofResult (numbered v)),
    ("ascii_downcase", fun v => .ofResult (onString v fun text => .string (text.map Char.toLower))),
    ("ascii_upcase", fun v => .ofResult (onString v fun text => .string (text.map Char.toUpper))) ]
where
  /-- What a string becomes. -/
  onString (value : Value) (f : String → Value) : Except Fault Value :=
    match value with
    | .string text => .ok (f text)
    | value => .error (.unusable value .string)
  /-- The items in order. -/
  sorted (value : Value) : Except Fault Value :=
    match value with
    | .array items => .ok (.array (items.mergeSort fun x y => !y.isBefore x))
    | value => .error (.unusable value .array)
  /-- The items from last to first. -/
  reversed (value : Value) : Except Fault Value :=
    match value with
    | .array items => .ok (.array items.reverse)
    | .string text => .ok (.string (String.ofList text.toList.reverse))
    | .null => .ok (.array [])
    | value => .error (.unusable value .rangeable)
  /-- The value that a text writes. -/
  parsed (value : Value) : Except Fault Value :=
    match value with
    | .string text =>
      match Json.read text with
      | .ok document => .ok (.ofJson document)
      | .error e =>
        .error (.raised (.string ("cannot parse " ++ text ++ " as JSON: " ++ e.message)))
    | value => .error (.unusable value .string)
  /-- The number that a text writes. -/
  numbered (value : Value) : Except Fault Value :=
    match value with
    | .string text =>
      match Json.read text with
      | .ok (.number number) => .ok (.ofNumber number)
      | _ => .error (.raised (.string ("cannot parse " ++ text ++ " as number")))
    | value => if value.float?.isSome then .ok value else .error (.unusable value .number)

/-- Calculates on two strings. -/
def onStrings (value other : Value) (f : String → String → Value) : Except Fault Value :=
  match value, other with
  | .string text, .string other => .ok (f text other)
  | .string _, other => .error (.unusable other .string)
  | value, _ => .error (.unusable value .string)

/-- The built-in filters of the values of one argument. -/
def unaries : Keyed (Value → Value → Except Fault Value) :=
  [ ("has", fun v key => v.has key),
    ("split", fun v other => onStrings v other Value.splitString),
    ("startswith", fun v other => onStrings v other fun text start =>
      .bool (Text.startsWith start text)),
    ("endswith", fun v other => onStrings v other fun text stop =>
      .bool (stop.toList.reverse.isPrefixOf text.toList.reverse)),
    ("ltrimstr", fun v other => .ok (trimmedLeft v other)),
    ("rtrimstr", fun v other => .ok (trimmedRight v other)),
    ("contains", fun v other => .ok (.bool (containsWithin other.depth v other))) ]
where
  /-- Without the given start. -/
  trimmedLeft (value other : Value) : Value :=
    match value, other with
    | .string text, .string start => .string ((Text.afterStart? start text).getD text)
    | value, _ => value
  /-- Without the given end. -/
  trimmedRight (value other : Value) : Value :=
    match value, other with
    | .string text, .string stop =>
      if stop.toList.reverse.isPrefixOf text.toList.reverse then
        .string (String.ofList (text.toList.take (text.length - stop.length)))
      else .string text
    | value, _ => value
  /-- Is a value a part of another? -/
  containsWithin : Nat → Value → Value → Bool
    | 0, _, _ => true
    | depth + 1, value, other =>
      match value, other with
      | .string text, .string part => (text.splitOn part).length != 1 || part.isEmpty
      | .array items, .array parts =>
        parts.all fun part => items.any fun item => containsWithin depth item part
      | .object members, .object parts =>
        parts.all fun (key, part) =>
          (Keyed.get? members key).any fun member => containsWithin depth member part
      | value, other => value.equals other

/-- The built-in filters that treat their arguments as filters. -/
def controls : List (String × Nat) :=
  [("first", 1), ("last", 1), ("limit", 2), ("range", 2), ("sort_by", 1)]

/-- Is there a built-in filter of this name with so many arguments? -/
def isBuiltIn (name : String) (arity : Nat) : Bool :=
  (arity == 0 && constants.contains name) || (arity == 1 && unaries.contains name) ||
    controls.contains (name, arity)

/-! ## Defined filters -/

/-- The definitions of the other filters; each may use those before it. -/
def libraryText : String :=
  Text.concat
    [ "def not: if . then false else true end; ",
      "def error(f): f | error; ",
      "def select(f): if f then . else empty end; ",
      "def recurse(f): def rec: ., (f | rec); rec; ",
      "def recurse: recurse(.[]?); ",
      "def recurse(f; cond): recurse(f | select(cond)); ",
      "def values: select(. != null); ",
      "def nulls: select(. == null); ",
      "def booleans: select(type == \"boolean\"); ",
      "def numbers: select(type == \"number\"); ",
      "def strings: select(type == \"string\"); ",
      "def arrays: select(type == \"array\"); ",
      "def objects: select(type == \"object\"); ",
      "def iterables: select(. >= []); ",
      "def scalars: select(. < []); ",
      "def map(f): [.[] | f]; ",
      "def map_values(f): .[] |= f; ",
      "def add(f): reduce f as $x (null; . + $x); ",
      "def add: add(.[]); ",
      "def first: .[0]; ",
      "def last: .[-1]; ",
      "def nth($n): .[$n]; ",
      "def nth($n; f): last(limit($n + 1; f)); ",
      "def isempty(g): first((g | false), true); ",
      "def any(g; cond): isempty(first(g | cond | select(.))) | not; ",
      "def any(cond): any(.[]; cond); ",
      "def any: any(.); ",
      "def all(g; cond): isempty(first(g | cond | select(. | not))); ",
      "def all(cond): all(.[]; cond); ",
      "def all: all(.); ",
      "def isvalid(f): try (f | true) catch false; ",
      "def keys: keys_unsorted | sort; ",
      "def to_entries: [keys_unsorted[] as $k | \x7bkey: $k, value: .[$k]\x7d]; ",
      "def from_entries: map(\x7b(.key): .value\x7d) | add + \x7b\x7d; ",
      "def with_entries(f): to_entries | map(f) | from_entries; ",
      "def del(f): f |= empty; ",
      "def range($n): range(0; $n); ",
      "def range($from; $upto; $by): $from | if $by > 0 then ",
      "def rec: if . < $upto then ., (. + $by | rec) else empty end; rec elif $by < 0 then ",
      "def rec: if . > $upto then ., (. + $by | rec) else empty end; rec else empty end; ",
      "def until(cond; f): def rec: if cond then . else f | rec end; rec; ",
      "def while(cond; f): def rec: if cond then ., (f | rec) else empty end; rec; ",
      "def repeat(f): def rec: ., (f | rec); rec; ",
      "def in(xs): . as $x | xs | has($x); ",
      "def inside(xs): . as $x | xs | contains($x); ",
      "def walk(f): def rec: (.[]? |= rec) | f; rec; ",
      "def getpath($p): if $p == [] then . else .[$p[0]] | getpath($p[1:]) end; ",
      "def flatten: [recurse(arrays[]) | select(type != \"array\")]; ",
      "def group_by(f): [[sort_by(f)[] | [f, .]] | ",
      "reduce .[] as [$k, $v] ([]; if . != [] and .[-1][0] == $k ",
      "then .[-1][1] += [$v] else . + [[$k, [$v]]] end) | .[][1]]; ",
      "def unique_by(f): [group_by(f)[] | .[0]]; ",
      "def unique: unique_by(.); ",
      "def min_by(f): if . == [] then null else sort_by(f)[0] end; ",
      "def max_by(f): if . == [] then null else sort_by(f)[-1] end; ",
      "def min: min_by(.); ",
      "def max: max_by(.); ",
      "def join($s): if . == [] then \"\" else reduce .[1:][] as $x ",
      "(.[0] | tostring; . + $s + ($x | tostring)) end; " ]

/-- The definitions of the other filters. -/
def library : List Definition := Definition.listOfText libraryText

end SchemaTables.Jq
