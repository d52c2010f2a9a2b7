import SchemaTables.Schema.WellFormed

/-!
# Shapes of keywords

A schema is well-formed if the value of each of its keywords has the shape that the keyword asks for
(`Schema.allKeywords_eq_all`).  Whether a value has a shape depends on the schemas inside it, which
are checked one by one.
-/

namespace SchemaTables.Schema

variable {isValid : String → Bool}

def hasShape (isValid : String → Bool) (shape : Shape) (value : Json) : Bool :=
  match shape, value with
  | .typeNames, value => isTypeNames value
  | .natural, value => isNatural value
  | .number, value => value.number?.isSome
  | .positive, value => isPositive value
  | .text, value => value.isString
  | .truth, value => value.bool?.isSome
  | .pattern, value => isPattern isValid value
  | .names, value => (uniqueTexts? value).isSome
  | .values, value => value.items?.isSome
  | .schema, value => isWellFormed value isValid
  | .schemaMap, .object schemas => schemas.all fun entry => isWellFormed entry.2 isValid
  | .patternMap, .object schemas =>
    (Keyed.keys schemas).all isValid && schemas.all fun entry => isWellFormed entry.2 isValid
  | .dependencies, .object schemas =>
    schemas.all fun entry => isWellFormed entry.2 isValid || (uniqueTexts? entry.2).isSome
  | .someSchemas, .array schemas => !schemas.isEmpty && schemas.all (isWellFormed · isValid)
  | .items, .array schemas => schemas.all (isWellFormed · isValid)
  | .items, value => isWellFormed value isValid
  | .anything, _ => true
  | _, _ => false

theorem allItems_eq_all (schemas : List Json) :
    allItems schemas isValid = schemas.all (isWellFormed · isValid) := by
  induction schemas with
  | nil => rw [allItems, List.all_nil]
  | cons item rest ih => rw [allItems, ih, List.all_cons]

theorem allMembers_eq_all (schemas : Keyed Json) :
    allMembers schemas isValid = schemas.all fun entry => isWellFormed entry.2 isValid := by
  induction schemas with
  | nil => rw [allMembers, List.all_nil]
  | cons entry rest ih => rw [allMembers, ih, List.all_cons]

theorem allDependencies_eq_all (schemas : Keyed Json) :
    allDependencies schemas isValid =
      schemas.all fun entry => isWellFormed entry.2 isValid || (uniqueTexts? entry.2).isSome := by
  induction schemas with
  | nil => rw [allDependencies, List.all_nil]
  | cons entry rest ih => rw [allDependencies, ih, List.all_cons]

theorem allKeywords_eq_all (members : Keyed Json) :
    allKeywords members isValid =
      members.all fun entry => hasShape isValid (shapeOf entry.1) entry.2 := by
  induction members with
  | nil => rw [allKeywords, List.all_nil]
  | cons entry rest ih =>
      obtain ⟨keyword, value⟩ := entry
      rw [allKeywords.eq_def]
      dsimp only
      rw [ih, List.all_cons]
      congr 1
      cases shapeOf keyword <;> cases value <;>
        simp only [hasShape, allItems_eq_all, allMembers_eq_all, allDependencies_eq_all]

end SchemaTables.Schema
