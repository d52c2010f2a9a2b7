import SchemaTables.Jq.Operation

/-!
# Outputs of filters

A filter has any number of outputs, and may then stop before its end: at a fault, or by leaving a
label around it.
-/

namespace SchemaTables.Jq

/-- Why a filter stops before its end. -/
inductive Stop
  | fault (fault : Fault)
  /-- The filter leaves the label of this number. -/
  | left (label : Nat)
  deriving Inhabited

/-- What comes out of a filter. -/
structure Trace where
  outputs : List Value := []
  stop : Option Stop := none
  deriving Inhabited

namespace Trace

def of (value : Value) : Trace := ⟨[value], none⟩

/-- No output, and a fault. -/
def fail (fault : Fault) : Trace := ⟨[], some (.fault fault)⟩

def ofResult : Except Fault Value → Trace
  | .ok value => .of value
  | .error fault => .fail fault

def ofResults : Except Fault (List Value) → Trace
  | .ok values => ⟨values, none⟩
  | .error fault => .fail fault

/-- One output, or the reason to stop. -/
def ofStopped : Except Stop Value → Trace
  | .ok value => .of value
  | .error stop => ⟨[], some stop⟩

/-- One trace and then another, which is asked for only if the first does not stop. -/
def append (first : Trace) (second : Unit → Trace) : Trace :=
  match first.stop with
  | some _ => first
  | none => ⟨first.outputs ++ (second ()).outputs, (second ()).stop⟩

/-- The traces of values, one after the other, up to the first that stops. -/
def chain (f : Value → Trace) : List Value → Option Stop → Trace
  | [], stop => ⟨[], stop⟩
  | value :: rest, stop =>
    let head := f value
    match head.stop with
    | some _ => head
    | none =>
      let tail := chain f rest stop
      ⟨head.outputs ++ tail.outputs, tail.stop⟩

/-- Feeds each output to a filter. -/
def bind (trace : Trace) (f : Value → Trace) : Trace := chain f trace.outputs trace.stop

def toList (trace : Trace) : Except Stop (List Value) :=
  match trace.stop with
  | none => .ok trace.outputs
  | some stop => .error stop

/-- The first output, if there is one before the filter stops. -/
def first? (trace : Trace) : Except Stop (Option Value) :=
  match trace.outputs, trace.stop with
  | value :: _, _ => .ok (some value)
  | [], none => .ok none
  | [], some stop => .error stop

def take (count : Nat) (trace : Trace) : Trace :=
  if count ≤ trace.outputs.length then ⟨trace.outputs.take count, none⟩ else trace

def takeLast (trace : Trace) : Trace :=
  match trace.stop with
  | some _ => ⟨[], trace.stop⟩
  | none => ⟨trace.outputs.getLast?.toList, none⟩

/-- Goes on with a filter of the fault. -/
def rescue (trace : Trace) (handler : Value → Trace) : Trace :=
  match trace.stop with
  | some (.fault fault) =>
    let rest := handler fault.toValue
    ⟨trace.outputs ++ rest.outputs, rest.stop⟩
  | _ => trace

/-- Ends at a fault without it. -/
def quiet (trace : Trace) : Trace := trace.rescue fun _ => {}

/-- Ends at a fault without it, where access is optional. -/
def quietIf (optional : Bool) (trace : Trace) : Trace := if optional then trace.quiet else trace

/-- Ends where a label is left. -/
def within (label : Nat) (trace : Trace) : Trace :=
  match trace.stop with
  | some (.left other) => if other = label then ⟨trace.outputs, none⟩ else trace
  | _ => trace

/-- Passes a value through a step for each output. -/
def fold (step : Value → Value → Trace) : List Value → Option Stop → Value → Trace
  | [], none, state => .of state
  | [], some stop, _ => ⟨[], some stop⟩
  | value :: rest, stop, state => (step value state).bind (fold step rest stop)

/-- Passes a value through a step for each output, and shows every state. -/
def unfold (step show_ : Value → Value → Trace) : List Value → Option Stop → Value → Trace
  | [], stop, _ => ⟨[], stop⟩
  | value :: rest, stop, state =>
    (step value state).bind fun state =>
      (show_ value state).append fun _ => unfold step show_ rest stop state

end Trace

namespace Value

/-- Leaves a value as it is where access to it is optional. -/
def unlessOptional (optional : Bool) (value : Value) (fault : Fault) : Except Stop Value :=
  if optional then .ok value else .error (.fault fault)

/-- Changes items; each may become any number of items. -/
def changeItems (change : Value → Trace) : List Value → Except Stop (List Value)
  | [] => .ok []
  | item :: rest =>
    match (change item).toList, changeItems change rest with
    | .ok changed, .ok others => .ok (changed ++ others)
    | .error stop, _ => .error stop
    | .ok _, .error stop => .error stop

/-- Changes the values of members; one that becomes nothing is removed. -/
def changeMembers (change : Value → Trace) :
    List (String × Value) → Except Stop (List (String × Value))
  | [] => .ok []
  | (key, value) :: rest =>
    match (change value).first?, changeMembers change rest with
    | .ok (some changed), .ok others => .ok ((key, changed) :: others)
    | .ok none, .ok others => .ok others
    | .error stop, _ => .error stop
    | .ok _, .error stop => .error stop

def changeAll (optional : Bool) (change : Value → Trace) (value : Value) : Except Stop Value :=
  match value with
  | .array items => (changeItems change items).map .array
  | .object members => (changeMembers change members).map .object
  | value => value.unlessOptional optional (.unusable value .iterable)

/-- Changes the member of a name.  One that becomes nothing is removed, and the last member takes
its place. -/
def changeMember (change : Value → Trace) (members : List (String × Value)) (name : String) :
    Except Stop Value :=
  match (change ((Keyed.get? members name).getD .null)).first? with
  | .ok (some changed) => .ok (.object (Keyed.insert members name changed))
  | .ok none => .ok (.object (Keyed.swapErase members name))
  | .error stop => .error stop

/-- Changes an item.  One that becomes nothing is removed. -/
def changeItem (change : Value → Trace) (items : List Value) (i : Nat) : Except Stop Value :=
  match (change (items.getD i .null)).first? with
  | .ok (some changed) => .ok (.array (items.set i changed))
  | .ok none => .ok (.array (items.eraseIdx i))
  | .error stop => .error stop

/-- Changes what is under a key. -/
def changeIndex (optional : Bool) (change : Value → Trace) (value key : Value) :
    Except Stop Value :=
  match value, key with
  | .object members, .string name => changeMember change members name
  | .object _, key => value.unlessOptional optional (.unindexable value key)
  | .array items, .int i =>
    match position? i items.length with
    | some place => changeItem change items place
    | none =>
      value.unlessOptional optional
        (.raised (.string ("index " ++ toString i ++ " out of bounds")))
  | .array _, key => value.unlessOptional optional (.unusable key .integer)
  | value, _ => value.unlessOptional optional (.unusable value .iterable)

/-- Changes a part of an array. -/
def changeSlice (optional : Bool) (change : Value → Trace) (lower upper : Option Value)
    (value : Value) : Except Stop Value :=
  match value with
  | .array items =>
    match span items.length lower upper with
    | .error fault => value.unlessOptional optional fault
    | .ok (start, count) =>
      match (change (.array ((items.drop start).take count))).first? with
      | .error stop => .error stop
      | .ok none => .ok (.array (items.take start ++ items.drop (start + count)))
      | .ok (some (.array changed)) =>
        .ok (.array (items.take start ++ changed ++ items.drop (start + count)))
      | .ok (some other) => .error (.fault (.unusable other .array))
  | value => value.unlessOptional optional (.unusable value .array)

end Value

end SchemaTables.Jq
