import SchemaTables.Jq.Library

/-!
# Running filters

A filter is run on an input in a scope of names.  It can also be run backwards, to change what it
selects: `change` passes each part of the input that the filter selects through another filter and
puts the results in its place.

Calls may nest without end; they are cut off at a depth.
-/

namespace SchemaTables.Jq

/-- What a name in a scope stands for. -/
inductive Binding
  | value (name : String) (value : Value)
  /-- An argument: a filter with its own scope. -/
  | argument (name : String) (body : Term) (scope : List Binding)
  | definition (definition : Definition)
  | label (name : String) (number : Nat)
  deriving Inhabited

/-- The names that can be used, the innermost first. -/
abbrev Scope := List Binding

namespace Scope

def valueOf? : Scope → String → Option Value
  | [], _ => none
  | .value other value :: rest, name => if other = name then some value else valueOf? rest name
  | _ :: rest, name => valueOf? rest name

def label? : Scope → String → Option Nat
  | [], _ => none
  | .label other number :: rest, name => if other = name then some number else label? rest name
  | _ :: rest, name => label? rest name

/-- The argument or the definition that a call means; a definition with the scope it stands in,
which holds the definition itself. -/
def filter? : Scope → String → Nat → Option (Binding × Scope)
  | [], _, _ => none
  | .argument other body scope :: rest, name, arity =>
    if other = name ∧ arity = 0 then some (.argument other body scope, scope)
    else filter? rest name arity
  | .definition definition :: rest, name, arity =>
    if definition.name = name ∧ definition.parameters.length = arity then
      some (.definition definition, .definition definition :: rest)
    else filter? rest name arity
  | _ :: rest, name, arity => filter? rest name arity

def library : Scope := (Jq.library.map Binding.definition).reverse

end Scope

/-- Binds arguments to parameters: variables to each of their values, others to filters. -/
def bindArguments (run : Term → Trace) (caller : Scope) (then_ : Scope → Trace) :
    List String → List Term → Scope → Trace
  | parameter :: parameters, argument :: arguments, scope =>
    match parameter.toList with
    | '$' :: name =>
      (run argument).bind fun value =>
        bindArguments run caller then_ parameters arguments
          (.value (String.ofList name) value :: scope)
    | _ =>
      bindArguments run caller then_ parameters arguments
        (.argument parameter argument caller :: scope)
  | _, _, scope => then_ scope

def buildObject (run : Term → Trace) : Value → List (Term × Term) → Trace
  | built, [] => .of built
  | built, (key, value) :: rest =>
    (run key).bind fun key => (run value).bind fun value =>
      match (Value.member key value).bind (Value.calculate .add built) with
      | .ok built => buildObject run built rest
      | .error fault => .fail fault

def formatted (format : Option String) (value : Value) : String :=
  if format = some "json" then value.text else value.plainText

/-- Strings with the outputs of filters in them. -/
def buildString (run : Term → Trace) (format : Option String) : String → List Term → Trace
  | built, [] => .of (.string built)
  | built, .text text :: rest => buildString run format (built ++ text) rest
  | built, part :: rest =>
    (run part).bind fun value => buildString run format (built ++ formatted format value) rest

def integersUpTo (start stop : Int) : List Value :=
  (List.range (stop - start).toNat).map fun (i : Nat) => .int (start + i)

/-- The items of an array by what a filter says of them. -/
def sortBy (key : Value → Trace) (value : Value) : Trace :=
  match value with
  | .array items =>
    match items.mapM fun item => (key item).toList.map fun keys => (Value.array keys, item) with
    | .ok pairs => .of (.array ((pairs.mergeSort fun x y => !y.1.isBefore x.1).map Prod.snd))
    | .error stop => ⟨[], some stop⟩
  | value => .fail (.unusable value .array)

def runBuiltIn (run : Term → Value → Trace) (name : String) (arguments : List Term)
    (input : Value) : Trace :=
  match arguments with
  | [] =>
    match constants.get? name with
    | some filter => filter input
    | none => {}
  | [argument] =>
    if name = "first" then (run argument input).take 1
    else if name = "last" then (run argument input).takeLast
    else if name = "sort_by" then sortBy (run argument) input
    else
      match unaries.get? name with
      | some filter => (run argument input).bind fun value => .ofResult (filter input value)
      | none => {}
  | [first, second] =>
    if name = "limit" then
      (run first input).bind fun
        | .int count => if 0 < count then (run second input).take count.toNat else {}
        | value => .fail (.unusable value .integer)
    else
      (run first input).bind fun start => (run second input).bind fun stop =>
        match start, stop with
        | .int start, .int stop => ⟨integersUpTo start stop, none⟩
        | .int _, stop => .fail (.unusable stop .integer)
        | start, _ => .fail (.unusable start .integer)
  | _ => {}

mutual

def run : Nat → Scope → Term → Value → Trace
  | 0, _, _, _ => .fail .tooDeep
  | fuel + 1, scope, term, input =>
    let sub (term : Term) : Trace := run fuel scope term input
    match term with
    | .identity => .of input
    | .number text => .of (.ofLiteral text)
    | .text value => .of (.string value)
    | .template format parts => buildString sub format "" parts
    | .emptyArray => .of (.array [])
    | .array body => .ofStopped ((sub body).toList.map .array)
    | .object members => buildObject sub (.object []) members
    | .negate body => (sub body).bind fun value => .ofResult value.negate
    | .pipe first second => (sub first).bind fun value => run fuel scope second value
    | .comma first second => (sub first).append fun _ => sub second
    | .bind source name body =>
      (sub source).bind fun value => run fuel (.value name value :: scope) body input
    | .calculate operator left right =>
      (sub left).bind fun x => (sub right).bind fun y => .ofResult (x.calculate operator y)
    | .compare comparison left right =>
      (sub left).bind fun x => (sub right).bind fun y => .of (.bool (comparison.holds x y))
    | .both left right =>
      (sub left).bind fun x =>
        if x.isTrue then (sub right).bind fun y => .of (.bool y.isTrue) else .of (.bool false)
    | .either left right =>
      (sub left).bind fun x =>
        if x.isTrue then .of (.bool true) else (sub right).bind fun y => .of (.bool y.isTrue)
    | .alternative left right =>
      let first := sub left
      let kept : Trace := ⟨first.outputs.filter Value.isTrue, first.stop⟩
      if kept.outputs.isEmpty && kept.stop.isNone then sub right else kept
    | .assign target source =>
      (sub source).bind fun value => change fuel scope target (fun _ => .of value) input
    | .update target step => change fuel scope target (run fuel scope step) input
    | .updateCalculated operator target source =>
      (sub source).bind fun value =>
        change fuel scope target (fun old => .ofResult (old.calculate operator value)) input
    | .updateMissing target source =>
      (sub source).bind fun value =>
        change fuel scope target (fun old => .of (if old.isTrue then old else value)) input
    | .attempt body => (sub body).quiet
    | .rescue body handler => (sub body).rescue (run fuel scope handler)
    | .conditional condition yes no =>
      (sub condition).bind fun value => if value.isTrue then sub yes else sub no
    | .reduce source name start step =>
      let items := sub source
      (sub start).bind
        (Trace.fold (fun item => run fuel (.value name item :: scope) step) items.outputs
          items.stop)
    | .foreach source name start step result =>
      let items := sub source
      (sub start).bind
        (Trace.unfold (fun item => run fuel (.value name item :: scope) step)
          (fun item => run fuel (.value name item :: scope) result) items.outputs items.stop)
    | .label name body => (run fuel (.label name fuel :: scope) body input).within fuel
    | .leave name =>
      match scope.label? name with
      | some number => ⟨[], some (.left number)⟩
      | none => {}
    | .define name parameters body rest =>
      run fuel (.definition ⟨name, parameters, body⟩ :: scope) rest input
    | .call name arguments =>
      match scope.filter? name arguments.length with
      | some (.definition definition, inner) =>
        bindArguments sub scope (fun inner => run fuel inner definition.body input)
          definition.parameters arguments inner
      | some (.argument _ body _, inner) => run fuel inner body input
      | _ => runBuiltIn (run fuel scope) name arguments input
    | .variable name => .of ((scope.valueOf? name).getD .null)
    | .recurse => run fuel scope (.call "recurse" []) input
    | .values base optional =>
      (sub base).bind fun value => (Trace.ofResults value.items).quietIf optional
    | .index base key optional =>
      (sub base).bind fun value => (sub key).bind fun key =>
        (Trace.ofResult (value.index key)).quietIf optional
    | .sliceFrom base lower optional =>
      (sub base).bind fun value => (sub lower).bind fun lower =>
        (Trace.ofResult (value.slice (some lower) none)).quietIf optional
    | .sliceTo base upper optional =>
      (sub base).bind fun value => (sub upper).bind fun upper =>
        (Trace.ofResult (value.slice none (some upper))).quietIf optional
    | .slice base lower upper optional =>
      (sub base).bind fun value => (sub lower).bind fun lower => (sub upper).bind fun upper =>
        (Trace.ofResult (value.slice (some lower) (some upper))).quietIf optional

/-- The input with all that a filter selects passed through a step. -/
def change : Nat → Scope → Term → (Value → Trace) → Value → Trace
  | 0, _, _, _, _ => .fail .tooDeep
  | fuel + 1, scope, term, step, input =>
    let sub (term : Term) : Trace := run fuel scope term input
    let inside (base : Term) (access : Value → Trace) : Trace := change fuel scope base access input
    match term with
    | .identity => step input
    | .pipe first second => inside first (change fuel scope second step)
    | .comma first second => (inside first step).bind (change fuel scope second step)
    | .bind source name body =>
      let values := sub source
      Trace.fold (fun value => change fuel (.value name value :: scope) body step) values.outputs
        values.stop input
    | .alternative left right =>
      let first := sub left
      if first.outputs.any Value.isTrue || first.stop.isSome then inside left step
      else inside right step
    | .attempt body =>
      match (inside body step).stop with
      | some (.fault _) => .of input
      | _ => inside body step
    | .conditional condition yes no =>
      let values := sub condition
      Trace.fold (fun value => change fuel scope (if value.isTrue then yes else no) step)
        values.outputs values.stop input
    | .label name body =>
      (change fuel (.label name fuel :: scope) body step input).within fuel
    | .define name parameters body rest =>
      change fuel (.definition ⟨name, parameters, body⟩ :: scope) rest step input
    | .call name arguments =>
      match scope.filter? name arguments.length with
      | some (.definition definition, inner) =>
        bindArguments sub scope (fun inner => change fuel inner definition.body step input)
          definition.parameters arguments inner
      | some (.argument _ body _, inner) => change fuel inner body step input
      | _ =>
        match arguments, name with
        | [], "empty" => .of input
        | [], "error" => .fail (.raised input)
        | _, _ => .fail (.noPath input)
    | .recurse => change fuel scope (.call "recurse" []) step input
    | .values base optional =>
      inside base fun value => .ofStopped (value.changeAll optional step)
    | .index base key optional =>
      let keys := sub key
      inside base (Trace.fold (fun key value => .ofStopped (value.changeIndex optional step key))
        keys.outputs keys.stop)
    | .sliceFrom base lower optional =>
      let lowers := sub lower
      inside base (Trace.fold
        (fun lower value => .ofStopped (value.changeSlice optional step (some lower) none))
        lowers.outputs lowers.stop)
    | .sliceTo base upper optional =>
      let uppers := sub upper
      inside base (Trace.fold
        (fun upper value => .ofStopped (value.changeSlice optional step none (some upper)))
        uppers.outputs uppers.stop)
    | .slice base lower upper optional =>
      let pairs := (sub lower).bind fun lower => (sub upper).bind fun upper =>
        .of (.array [lower, upper])
      inside base (Trace.fold
        (fun pair value =>
          match pair with
          | .array [lower, upper] =>
            .ofStopped (value.changeSlice optional step (some lower) (some upper))
          | _ => .of value)
        pairs.outputs pairs.stop)
    | _ => .fail (.noPath input)

end

/-- The depth at which calls are cut off. -/
def callDepth : Nat := 3000

end SchemaTables.Jq
