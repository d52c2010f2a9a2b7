import SchemaTables.Jq.Library

/-!
# Names in filters

Every filter, variable and label that is used has to be defined, built in or in the library.
-/

namespace SchemaTables.Jq

/-- What a name stands for. -/
inductive NameKind
  | filter (arity : Nat)
  | variable
  | label
  deriving DecidableEq, Inhabited

def NameKind.text : NameKind → String
  | .filter arity => "Filter(" ++ toString arity ++ ")"
  | .variable => "Var"
  | .label => "Label"

structure Name where
  kind : NameKind
  text : String
  deriving DecidableEq, Inhabited

/-- The name of a parameter: those that start with `$` are variables. -/
def Name.ofParameter (parameter : String) : Name :=
  match parameter.toList with
  | '$' :: name => ⟨.variable, String.ofList name⟩
  | _ => ⟨.filter 0, parameter⟩

def Definition.toName (definition : Definition) : Name :=
  ⟨.filter definition.parameters.length, definition.name⟩

/-- A name that is used but not known, where that is so. -/
def unknown (known : List Name) (name : Name) : List Name :=
  if known.contains name then [] else [name]

/-- A filter that is used but neither known nor built in, where that is so. -/
def unknownFilter (known : List Name) (name : String) (arity : Nat) : List Name :=
  if isBuiltIn name arity then [] else unknown known ⟨.filter arity, name⟩

mutual

/-- The unknown names in a filter, in the order in which they are met. -/
def Term.unknownNames (known : List Name) : Term → List Name
  | .identity | .number _ | .text _ | .emptyArray | .recurse => []
  | .template format parts =>
    (match format with
      | some name => unknownFilter known ("@" ++ name) 0
      | none => []) ++ unknownInAll known parts
  | .array body => body.unknownNames known
  | .object members => unknownInPairs known members
  | .negate body => body.unknownNames known
  | .pipe first second | .comma first second =>
    first.unknownNames known ++ second.unknownNames known
  | .bind source name body =>
    source.unknownNames known ++ body.unknownNames (⟨.variable, name⟩ :: known)
  | .calculate _ left right | .compare _ left right | .both left right | .either left right
  | .alternative left right => left.unknownNames known ++ right.unknownNames known
  | .assign target source | .update target source | .updateCalculated _ target source
  | .updateMissing target source => target.unknownNames known ++ source.unknownNames known
  | .attempt body => body.unknownNames known
  | .rescue body handler => body.unknownNames known ++ handler.unknownNames known
  | .conditional condition yes no =>
    condition.unknownNames known ++ yes.unknownNames known ++ no.unknownNames known
  | .reduce source name start step =>
    source.unknownNames known ++ start.unknownNames known ++
      step.unknownNames (⟨.variable, name⟩ :: known)
  | .foreach source name start step result =>
    let inside := ⟨.variable, name⟩ :: known
    source.unknownNames known ++ start.unknownNames known ++ step.unknownNames inside ++
      result.unknownNames inside
  | .label name body => body.unknownNames (⟨.label, name⟩ :: known)
  | .leave name => unknown known ⟨.label, name⟩
  | .define name parameters body rest =>
    let own : Name := ⟨.filter parameters.length, name⟩
    body.unknownNames (parameters.map Name.ofParameter ++ own :: known) ++
      rest.unknownNames (own :: known)
  | .call name arguments =>
    unknownInAll known arguments ++ unknownFilter known name arguments.length
  | .variable name => unknown known ⟨.variable, name⟩
  | .values base _ => base.unknownNames known
  | .index base key _ => base.unknownNames known ++ key.unknownNames known
  | .sliceFrom base lower _ => base.unknownNames known ++ lower.unknownNames known
  | .sliceTo base upper _ => base.unknownNames known ++ upper.unknownNames known
  | .slice base lower upper _ =>
    base.unknownNames known ++ lower.unknownNames known ++ upper.unknownNames known

def unknownInAll (known : List Name) : List Term → List Name
  | [] => []
  | term :: rest => term.unknownNames known ++ unknownInAll known rest

def unknownInPairs (known : List Name) : List (Term × Term) → List Name
  | [] => []
  | (first, second) :: rest =>
    first.unknownNames known ++ second.unknownNames known ++ unknownInPairs known rest

end

def Name.written (name : Name) : String :=
  match name.kind with
  | .filter _ => name.text
  | .variable | .label => "$" ++ name.text

end SchemaTables.Jq
