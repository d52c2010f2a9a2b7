import Mathlib.Logic.Relation
import SchemaTables.Proofs.Json.Distinct
import SchemaTables.Proofs.Schema.Shapes

/-!
# The check of schemas is deep

The keywords of a schema lead to further schemas (`Schema.Inner`).  A value is well-formed exactly
when every position that is reached in this way holds a truth value, or an object whose own keywords
have values of the required shapes (`isWellFormed_iff_forall_reached`).

Which texts are valid patterns is whatever the check is told.  The shapes and the positions are
stated here for the names of the keywords.  They are those of the
table that the check looks keywords up in (`hasKeywordShapes_iff`, `Inner.holds`, `Inner.of_holds`).
-/

namespace SchemaTables.Schema

variable {isValid : String → Bool}

/-! ## What a single schema must be like -/

/-- An array of texts, none of them twice. -/
def AreNames (value : Json) : Prop :=
  ∃ texts : List String, texts.Nodup ∧ value = .array (texts.map .string)

/-- The name of a type, or an array of names of types that is not empty and has none twice. -/
def AreTypeNames (value : Json) : Prop :=
  (∃ name ∈ typeNames, value = .string name) ∨
    ∃ names : List String, names ≠ [] ∧ names.Nodup ∧ (∀ name ∈ names, name ∈ typeNames) ∧
      value = .array (names.map .string)

def naturalKeywords : List String :=
  ["minLength", "maxLength", "minItems", "maxItems", "minProperties", "maxProperties"]

def numberKeywords : List String := ["minimum", "maximum", "exclusiveMinimum", "exclusiveMaximum"]

def textKeywords : List String :=
  ["title", "description", "$ref", "$id", "$schema", "$comment", "format"]

def truthKeywords : List String := ["uniqueItems", "readOnly", "writeOnly"]

def mapKeywords : List String := ["properties", "definitions"]

def listKeywords : List String := ["allOf", "anyOf", "oneOf"]

def schemaKeywords : List String :=
  ["additionalItems", "additionalProperties", "contains", "propertyNames", "not", "if", "then",
    "else"]

/-- The own keywords of a schema have values of the required shapes, whatever the schemas in them
are like. -/
structure HasKeywordShapes (isValid : String → Bool) (members : Keyed Json) : Prop where
  type : ∀ value, ("type", value) ∈ members → AreTypeNames value
  natural : ∀ keyword ∈ naturalKeywords, ∀ value, (keyword, value) ∈ members →
    ∃ n : Nat, value = .number (.int n)
  number : ∀ keyword ∈ numberKeywords, ∀ value, (keyword, value) ∈ members →
    ∃ number, value = .number number
  multipleOf : ∀ value, ("multipleOf", value) ∈ members →
    ∃ number : Number, number.isPositive = true ∧ value = .number number
  text : ∀ keyword ∈ textKeywords, ∀ value, (keyword, value) ∈ members →
    ∃ text, value = .string text
  truth : ∀ keyword ∈ truthKeywords, ∀ value, (keyword, value) ∈ members →
    ∃ truth, value = .bool truth
  pattern : ∀ value, ("pattern", value) ∈ members →
    ∃ text, isValid text = true ∧ value = .string text
  required : ∀ value, ("required", value) ∈ members → AreNames value
  enum : ∀ value, ("enum", value) ∈ members → ∃ values, value = .array values
  map : ∀ keyword ∈ mapKeywords, ∀ value, (keyword, value) ∈ members →
    ∃ schemas, value = .object schemas
  patternProperties : ∀ value, ("patternProperties", value) ∈ members →
    ∃ schemas, (∀ name ∈ Keyed.keys schemas, isValid name = true) ∧ value = .object schemas
  dependencies : ∀ value, ("dependencies", value) ∈ members → ∃ schemas, value = .object schemas
  list : ∀ keyword ∈ listKeywords, ∀ value, (keyword, value) ∈ members →
    ∃ schemas, schemas ≠ [] ∧ value = .array schemas

/-- A truth value, or an object whose own keywords have values of the required shapes. -/
def IsSchema (isValid : String → Bool) (value : Json) : Prop :=
  (∃ truth, value = .bool truth) ∨
    ∃ members, value = .object members ∧ HasKeywordShapes isValid members

/-- A keyword of the first value holds the second one in the place of a schema. -/
inductive Inner : Json → Json → Prop
  | schema {members : Keyed Json} {keyword : String} {inner : Json}
      (hkeyword : keyword ∈ schemaKeywords) (hmem : (keyword, inner) ∈ members) :
      Inner (.object members) inner
  | entry {members schemas : Keyed Json} {keyword name : String} {inner : Json}
      (hkeyword : keyword ∈ "patternProperties" :: mapKeywords)
      (hmem : (keyword, .object schemas) ∈ members) (hentry : (name, inner) ∈ schemas) :
      Inner (.object members) inner
  | dependency {members schemas : Keyed Json} {name : String} {inner : Json}
      (hmem : ("dependencies", .object schemas) ∈ members) (hentry : (name, inner) ∈ schemas)
      (hnames : ¬AreNames inner) :
      Inner (.object members) inner
  | choice {members : Keyed Json} {schemas : List Json} {keyword : String} {inner : Json}
      (hkeyword : keyword ∈ listKeywords) (hmem : (keyword, .array schemas) ∈ members)
      (hitem : inner ∈ schemas) :
      Inner (.object members) inner
  | item {members : Keyed Json} {schemas : List Json} {inner : Json}
      (hmem : ("items", .array schemas) ∈ members) (hitem : inner ∈ schemas) :
      Inner (.object members) inner
  | items {members : Keyed Json} {inner : Json} (hmem : ("items", inner) ∈ members)
      (harray : ∀ schemas, inner ≠ .array schemas) :
      Inner (.object members) inner

/-! ## The shapes of the table of keywords -/

/-- The value has the shape, whatever the schemas in it are like. -/
def Shape.Fits (isValid : String → Bool) : Shape → Json → Prop
  | .typeNames, value => AreTypeNames value
  | .natural, value => ∃ n : Nat, value = .number (.int n)
  | .number, value => ∃ number, value = .number number
  | .positive, value => ∃ number : Number, number.isPositive = true ∧ value = .number number
  | .text, value => ∃ text, value = .string text
  | .truth, value => ∃ truth, value = .bool truth
  | .pattern, value => ∃ text, isValid text = true ∧ value = .string text
  | .names, value => AreNames value
  | .values, value => ∃ values, value = .array values
  | .schemaMap, value => ∃ schemas, value = .object schemas
  | .patternMap, value =>
    ∃ schemas, (∀ name ∈ Keyed.keys schemas, isValid name = true) ∧ value = .object schemas
  | .dependencies, value => ∃ schemas, value = .object schemas
  | .someSchemas, value => ∃ schemas, schemas ≠ [] ∧ value = .array schemas
  | .schema, _ => True
  | .items, _ => True
  | .anything, _ => True

/-- A value of the shape holds the inner value in the place of a schema. -/
def Shape.Holds : Shape → Json → Json → Prop
  | .schema, value, inner => inner = value
  | .schemaMap, .object schemas, inner => ∃ name, (name, inner) ∈ schemas
  | .patternMap, .object schemas, inner => ∃ name, (name, inner) ∈ schemas
  | .dependencies, .object schemas, inner => (∃ name, (name, inner) ∈ schemas) ∧ ¬AreNames inner
  | .someSchemas, .array schemas, inner => inner ∈ schemas
  | .items, .array schemas, inner => inner ∈ schemas
  | .items, value, inner => inner = value
  | _, _, _ => False

theorem mapM_string?_eq_some {items : List Json} {texts : List String} :
    items.mapM Json.string? = some texts ↔ items = texts.map .string := by
  induction items generalizing texts with
  | nil => cases texts <;> simp
  | cons item rest ih =>
      rw [List.mapM_cons, Option.bind_eq_bind, Option.bind_eq_some_iff]
      cases item with
      | string text =>
          cases texts <;> simp [Json.string?, Option.bind_eq_some_iff, ih, and_comm]
      | _ => cases texts <;> simp [Json.string?]

theorem uniqueTexts?_eq_some {value : Json} {texts : List String} :
    uniqueTexts? value = some texts ↔ texts.Nodup ∧ value = .array (texts.map .string) := by
  cases value with
  | array items =>
      rw [uniqueTexts?, Json.array.injEq, ← mapM_string?_eq_some]
      cases items.mapM Json.string? with
      | none => simp
      | some found =>
          rw [Option.ite_none_right_eq_some, Option.some_inj]
          exact and_congr_left fun heq => by rw [heq]
  | _ => simp [uniqueTexts?]

theorem isSome_uniqueTexts? {value : Json} :
    (uniqueTexts? value).isSome = true ↔ AreNames value := by
  simp only [Option.isSome_iff_exists, uniqueTexts?_eq_some, AreNames]

theorem isTypeNames_iff {value : Json} : isTypeNames value = true ↔ AreTypeNames value := by
  cases value with
  | string name => simp [isTypeNames, AreTypeNames]
  | array items =>
      simp only [isTypeNames, AreTypeNames, Bool.and_eq_true, Bool.not_eq_true',
        List.isEmpty_eq_false_iff, Option.any_eq_true, uniqueTexts?_eq_some, List.all_eq_true,
        List.contains_eq_mem, decide_eq_true_eq, Json.array.injEq]
      constructor
      · rintro ⟨hempty, names, ⟨hnodup, rfl⟩, hnames⟩
        exact .inr ⟨names, by simpa using hempty, hnodup, hnames, rfl⟩
      · rintro (⟨name, -, heq⟩ | ⟨names, hempty, hnodup, hnames, rfl⟩)
        · cases heq
        · exact ⟨by simpa using hempty, names, ⟨hnodup, rfl⟩, hnames⟩
  | _ => simp [isTypeNames, AreTypeNames]

theorem isNatural_iff {value : Json} :
    isNatural value = true ↔ ∃ n : Nat, value = .number (.int n) := by
  cases value with
  | number number =>
      cases number with
      | int value =>
          simp only [isNatural, Json.number?, Option.bind_some, Number.natural?, Json.number.injEq,
            Number.int.injEq]
          rw [Option.isSome_ite]
          constructor
          · exact Int.eq_ofNat_of_zero_le
          · rintro ⟨n, rfl⟩
            exact Int.natCast_nonneg n
      | float _ => simp [isNatural, Json.number?, Number.natural?]
  | _ => simp [isNatural, Json.number?]

theorem all_values_iff (check : Json → Bool) {schemas : Keyed Json} :
    (schemas.all fun entry => check entry.2) = true ↔
      ∀ inner, (∃ name, (name, inner) ∈ schemas) → check inner = true := by
  rw [List.all_eq_true]
  constructor
  · rintro h inner ⟨name, hmem⟩
    exact h (name, inner) hmem
  · rintro h ⟨name, inner⟩ hmem
    exact h inner ⟨name, hmem⟩

/-- An entry of dependencies need not be a schema if it is an array of names. -/
theorem hasShape_dependencies_iff {schemas : Keyed Json} :
    hasShape isValid .dependencies (.object schemas) = true ↔
      ∀ inner, Shape.dependencies.Holds (.object schemas) inner →
        isWellFormed inner isValid = true := by
  refine (all_values_iff fun inner =>
    isWellFormed inner isValid || (uniqueTexts? inner).isSome).trans (forall_congr' fun inner => ?_)
  rw [Shape.Holds, and_imp, Bool.or_eq_true, isSome_uniqueTexts?, or_comm, or_iff_not_imp_left]

/-- A value has a shape if it does so by itself and the schemas in it are well-formed. -/
theorem hasShape_iff {shape : Shape} {value : Json} :
    hasShape isValid shape value = true ↔
      shape.Fits isValid value ∧
        ∀ inner, shape.Holds value inner → isWellFormed inner isValid = true := by
  cases shape with
  | typeNames => simp [hasShape, Shape.Fits, Shape.Holds, isTypeNames_iff]
  | natural => simp [hasShape, Shape.Fits, Shape.Holds, isNatural_iff]
  | names => simp [hasShape, Shape.Fits, Shape.Holds, isSome_uniqueTexts?]
  | schema => simp [hasShape, Shape.Fits, Shape.Holds]
  | anything => simp [hasShape, Shape.Fits, Shape.Holds]
  | schemaMap =>
      cases value with
      | object schemas =>
          simp only [hasShape, Shape.Fits, Shape.Holds, all_values_iff (isWellFormed · isValid)]
          simp
      | _ => simp [hasShape, Shape.Fits]
  | patternMap =>
      cases value with
      | object schemas =>
          simp only [hasShape, Shape.Fits, Shape.Holds, Bool.and_eq_true,
            all_values_iff (isWellFormed · isValid)]
          simp
      | _ => simp [hasShape, Shape.Fits]
  | dependencies =>
      cases value with
      | object schemas => rw [hasShape_dependencies_iff]; simp [Shape.Fits]
      | _ => simp [hasShape, Shape.Fits]
  | _ =>
      cases value <;>
        simp [hasShape, Shape.Fits, Shape.Holds, Json.number?, isPositive, Json.isString,
          Json.string?, Json.bool?, isPattern, Json.items?]

/-! ## The table and the names of the keywords -/

/-- The keywords of a shape, as the table lists them. -/
def keywordsOf (shape : Shape) : List String :=
  Keyed.keys (keywords.filter fun entry => entry.2 = shape)

theorem mem_keywordsOf {shape : Shape} {keyword : String} :
    keyword ∈ keywordsOf shape ↔ (keyword, shape) ∈ keywords := by
  simp [keywordsOf, Keyed.mem_keys_iff]

theorem shapeOf_of_mem {shape : Shape} {keyword : String} (h : keyword ∈ keywordsOf shape) :
    shapeOf keyword = shape := by
  have hdistinct : Keyed.Distinct keywords := by
    unfold Keyed.Distinct
    decide
  rw [shapeOf, hdistinct.get?_of_mem (mem_keywordsOf.mp h), Option.getD_some]

theorem mem_of_shapeOf {shape : Shape} {keyword : String} (h : shapeOf keyword = shape)
    (hshape : shape ≠ .anything) : keyword ∈ keywordsOf shape := by
  rw [shapeOf] at h
  cases hget : Keyed.get? keywords keyword with
  | none =>
      rw [hget, Option.getD_none] at h
      exact absurd h.symm hshape
  | some found =>
      rw [hget, Option.getD_some] at h
      rw [mem_keywordsOf, ← h]
      exact Keyed.mem_of_get? hget

theorem HasKeywordShapes.fits_of_mem {members : Keyed Json} (h : HasKeywordShapes isValid members) :
    ∀ (shape : Shape), ∀ keyword ∈ keywordsOf shape, ∀ value, (keyword, value) ∈ members →
      shape.Fits isValid value
  | .typeNames => List.forall_mem_singleton.mpr h.type
  | .natural => h.natural
  | .number => h.number
  | .positive => List.forall_mem_singleton.mpr h.multipleOf
  | .text => h.text
  | .truth => h.truth
  | .pattern => List.forall_mem_singleton.mpr h.pattern
  | .names => List.forall_mem_singleton.mpr h.required
  | .values => List.forall_mem_singleton.mpr h.enum
  | .schemaMap => h.map
  | .patternMap => List.forall_mem_singleton.mpr h.patternProperties
  | .dependencies => List.forall_mem_singleton.mpr h.dependencies
  | .someSchemas => h.list
  | .schema | .items | .anything => fun _ _ _ _ => trivial

theorem HasKeywordShapes.of_fits {members : Keyed Json}
    (h : ∀ (shape : Shape), ∀ keyword ∈ keywordsOf shape, ∀ value, (keyword, value) ∈ members →
      shape.Fits isValid value) : HasKeywordShapes isValid members where
  type := h .typeNames "type" (by decide)
  natural := h .natural
  number := h .number
  multipleOf := h .positive "multipleOf" (by decide)
  text := h .text
  truth := h .truth
  pattern := h .pattern "pattern" (by decide)
  required := h .names "required" (by decide)
  enum := h .values "enum" (by decide)
  map := h .schemaMap
  patternProperties := h .patternMap "patternProperties" (by decide)
  dependencies := h .dependencies "dependencies" (by decide)
  list := h .someSchemas

theorem hasKeywordShapes_iff {members : Keyed Json} :
    HasKeywordShapes isValid members ↔
      ∀ keyword value, (keyword, value) ∈ members → (shapeOf keyword).Fits isValid value := by
  constructor
  · intro h keyword value hmem
    by_cases hshape : shapeOf keyword = .anything
    · rw [hshape]
      trivial
    · exact h.fits_of_mem _ keyword (mem_of_shapeOf rfl hshape) value hmem
  · intro h
    refine .of_fits fun shape keyword hkeyword value hmem => ?_
    rw [← shapeOf_of_mem hkeyword]
    exact h keyword value hmem

theorem Inner.holds {members : Keyed Json} {inner : Json} (h : Inner (.object members) inner) :
    ∃ keyword value, (keyword, value) ∈ members ∧ (shapeOf keyword).Holds value inner := by
  cases h with
  | schema hkeyword hmem =>
      have hshape : shapeOf _ = .schema := shapeOf_of_mem hkeyword
      refine ⟨_, inner, hmem, ?_⟩
      rw [hshape, Shape.Holds]
  | entry hkeyword hmem hentry =>
      refine ⟨_, _, hmem, ?_⟩
      rcases List.mem_cons.mp hkeyword with rfl | hkeyword
      · exact ⟨_, hentry⟩
      · have hshape : shapeOf _ = .schemaMap := shapeOf_of_mem hkeyword
        rw [hshape]
        exact ⟨_, hentry⟩
  | dependency hmem hentry hnames => exact ⟨"dependencies", _, hmem, ⟨_, hentry⟩, hnames⟩
  | choice hkeyword hmem hitem =>
      have hshape : shapeOf _ = .someSchemas := shapeOf_of_mem hkeyword
      refine ⟨_, _, hmem, ?_⟩
      rw [hshape]
      exact hitem
  | item hmem hitem => exact ⟨"items", _, hmem, hitem⟩
  | items hmem harray =>
      refine ⟨"items", inner, hmem, ?_⟩
      cases inner with
      | array schemas => exact absurd rfl (harray schemas)
      | _ => rfl

theorem Inner.of_holds {members : Keyed Json} {keyword : String} {value inner : Json}
    (hmem : (keyword, value) ∈ members) (h : (shapeOf keyword).Holds value inner) :
    Inner (.object members) inner := by
  cases hshape : shapeOf keyword with
  | schema =>
      rw [hshape, Shape.Holds] at h
      subst h
      exact .schema (mem_of_shapeOf hshape nofun) hmem
  | schemaMap =>
      rw [hshape] at h
      cases value with
      | object schemas =>
          obtain ⟨name, hentry⟩ := h
          exact .entry (List.mem_cons_of_mem _ (mem_of_shapeOf hshape nofun)) hmem hentry
      | _ => exact h.elim
  | patternMap =>
      obtain rfl := List.mem_singleton.mp (mem_of_shapeOf hshape nofun)
      cases value with
      | object schemas =>
          obtain ⟨name, hentry⟩ := h
          exact .entry List.mem_cons_self hmem hentry
      | _ => exact h.elim
  | dependencies =>
      obtain rfl := List.mem_singleton.mp (mem_of_shapeOf hshape nofun)
      cases value with
      | object schemas =>
          obtain ⟨⟨name, hentry⟩, hnames⟩ := h
          exact .dependency hmem hentry hnames
      | _ => exact h.elim
  | someSchemas =>
      rw [hshape] at h
      cases value with
      | array schemas => exact .choice (mem_of_shapeOf hshape nofun) hmem h
      | _ => exact h.elim
  | items =>
      obtain rfl := List.mem_singleton.mp (mem_of_shapeOf hshape nofun)
      cases value with
      | array schemas => exact .item hmem h
      | _ =>
          cases h
          exact .items hmem nofun
  | _ =>
      rw [hshape] at h
      cases value <;> exact h.elim

/-! ## The whole check -/

/-- The check of one schema, and of those that its keywords lead to. -/
theorem isWellFormed_iff {value : Json} :
    isWellFormed value isValid = true ↔
      IsSchema isValid value ∧ ∀ inner, Inner value inner → isWellFormed inner isValid = true := by
  cases value with
  | bool truth =>
      refine iff_of_true (by rw [isWellFormed]) ⟨.inl ⟨truth, rfl⟩, ?_⟩
      intro inner hinner
      cases hinner
  | object members =>
      rw [isWellFormed, allKeywords_eq_all, List.all_eq_true]
      constructor
      · intro h
        refine ⟨.inr ⟨members, rfl, ?_⟩, fun inner hinner => ?_⟩
        · rw [hasKeywordShapes_iff]
          intro keyword value hmem
          exact (hasShape_iff.mp (h _ hmem)).1
        · obtain ⟨keyword, value, hmem, hholds⟩ := hinner.holds
          exact (hasShape_iff.mp (h _ hmem)).2 inner hholds
      · rintro ⟨⟨_, heq⟩ | ⟨_, heq, hshapes⟩, hinner⟩ ⟨keyword, value⟩ hmem
        · cases heq
        · cases heq
          have hfits := hasKeywordShapes_iff.mp hshapes keyword value hmem
          exact hasShape_iff.mpr ⟨hfits, fun inner hholds => hinner inner (.of_holds hmem hholds)⟩
  | _ => simp [isWellFormed, IsSchema]

theorem Inner.sizeOf_lt {value inner : Json} (h : Inner value inner) :
    sizeOf inner < sizeOf value := by
  cases h with
  | schema _ hmem => exact Json.sizeOf_lt_of_mem hmem
  | entry _ hmem hentry =>
      exact Nat.lt_trans (Json.sizeOf_lt_of_mem hentry) (Json.sizeOf_lt_of_mem hmem)
  | dependency hmem hentry _ =>
      exact Nat.lt_trans (Json.sizeOf_lt_of_mem hentry) (Json.sizeOf_lt_of_mem hmem)
  | choice _ hmem hitem =>
      exact Nat.lt_trans (Json.sizeOf_lt_of_item hitem) (Json.sizeOf_lt_of_mem hmem)
  | item hmem hitem =>
      exact Nat.lt_trans (Json.sizeOf_lt_of_item hitem) (Json.sizeOf_lt_of_mem hmem)
  | items hmem _ => exact Json.sizeOf_lt_of_mem hmem

theorem isWellFormed_of_reached {value position : Json} (h : isWellFormed value isValid = true)
    (hreached : Relation.ReflTransGen Inner value position) :
    isWellFormed position isValid = true := by
  induction hreached with
  | refl => exact h
  | tail _ hinner ih => exact (isWellFormed_iff.mp ih).2 _ hinner

/-- Whatever texts are valid patterns, a value is well-formed if every position in it that must hold
a schema does so. -/
theorem isWellFormed_iff_forall_reached (isValid : String → Bool) (value : Json) :
    isWellFormed value isValid = true ↔
      ∀ position, Relation.ReflTransGen Inner value position → IsSchema isValid position := by
  constructor
  · intro h position hreached
    exact (isWellFormed_iff.mp (isWellFormed_of_reached h hreached)).1
  · intro h
    induction hsize : sizeOf value using Nat.strongRecOn generalizing value with
    | ind size ih =>
        refine isWellFormed_iff.mpr ⟨h value .refl, fun inner hinner => ?_⟩
        exact ih (sizeOf inner) (hsize ▸ hinner.sizeOf_lt) inner
          (fun position hreached => h position (.head hinner hreached)) rfl

/-- An item of a dependency is reached, and three is no schema. -/
example :
    isWellFormed (.object [("dependencies", .object [("size",
      .object [("items", .array [.bool true, .number (.int 3)])])])]) = false := by
  decide

end SchemaTables.Schema
