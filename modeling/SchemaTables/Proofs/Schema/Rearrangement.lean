import SchemaTables.Proofs.Schema.MetadataOrder
import SchemaTables.Proofs.Schema.Shapes

/-!
# Rearranged schemas

A schema is rearranged by putting its keywords in another order and adding members that are never
read, in itself and in any of the schemas inside it; the fields of metadata may be rearranged in the
same way (`Schema.Rearranged`).  The entries of `properties`, and of other maps of schemas, keep
their order.

All that is read of a schema is found by look-ups, so rearranged schemas are alike: under each
keyword that is read they have the same value, or rearranged ones (`Rearranged.alike`).
-/

namespace SchemaTables.Schema

open Json

/-- The keywords that are read: those whose shapes are checked, and those that describe tables. -/
def keywordNames : List String :=
  Keyed.keys keywords ++ ["default", "metadata", "x-primary-key"]

mutual

/-- The second value has the keywords of the first in some order, with rearranged values, and may
have members besides that are never read. -/
inductive Rearranged : Json → Json → Prop
  | same (value : Json) : Rearranged value value
  | object {members changed others : Keyed Json} (hmembers : RearrangedMembers members changed)
      (hextends : changed.Extends keywordNames others) :
      Rearranged (.object members) (.object others)

/-- The members have the same keywords, in the same order, and rearranged values. -/
inductive RearrangedMembers : Keyed Json → Keyed Json → Prop
  | nil : RearrangedMembers [] []
  | cons {keyword : String} {value other : Json} {rest others : Keyed Json}
      (hvalue : RearrangedValue keyword value other) (hrest : RearrangedMembers rest others) :
      RearrangedMembers ((keyword, value) :: rest) ((keyword, other) :: others)

/-- The values of a keyword are the same, up to the order of metadata and of the keywords of schemas
inside them. -/
inductive RearrangedValue : String → Json → Json → Prop
  | same (keyword : String) (value : Json) : RearrangedValue keyword value value
  | metadata {members others : Keyed Json}
      (hextends : members.Extends Metadata.fieldNames others) :
      RearrangedValue "metadata" (.object members) (.object others)
  | schema {keyword : String} {value other : Json}
      (hshape : shapeOf keyword = .schema ∨ shapeOf keyword = .items)
      (hvalue : Rearranged value other) : RearrangedValue keyword value other
  | schemas {keyword : String} {items others : List Json}
      (hshape : shapeOf keyword = .someSchemas ∨ shapeOf keyword = .items)
      (hitems : RearrangedItems items others) :
      RearrangedValue keyword (.array items) (.array others)
  | entries {keyword : String} {entries others : Keyed Json}
      (hshape : shapeOf keyword = .schemaMap ∨ shapeOf keyword = .patternMap ∨
        shapeOf keyword = .dependencies)
      (hentries : RearrangedEntries entries others) :
      RearrangedValue keyword (.object entries) (.object others)

/-- The items are rearranged one by one. -/
inductive RearrangedItems : List Json → List Json → Prop
  | nil : RearrangedItems [] []
  | cons {item other : Json} {rest others : List Json} (hitem : Rearranged item other)
      (hrest : RearrangedItems rest others) : RearrangedItems (item :: rest) (other :: others)

/-- The entries have the same names, in the same order, and rearranged values. -/
inductive RearrangedEntries : Keyed Json → Keyed Json → Prop
  | nil : RearrangedEntries [] []
  | cons {name : String} {value other : Json} {rest others : Keyed Json}
      (hvalue : Rearranged value other) (hrest : RearrangedEntries rest others) :
      RearrangedEntries ((name, value) :: rest) ((name, other) :: others)

end

/-! ## Shapes -/

variable {isValid : String → Bool}

theorem shapeOf_of_notMem {keyword : String} (h : keyword ∉ keywordNames) :
    shapeOf keyword = .anything := by
  have hnone : Keyed.get? keywords keyword = none := by
    rw [Keyed.get?_eq_none_iff]
    intro hmem
    exact h (List.mem_append_left _ hmem)
  rw [shapeOf, hnone]
  rfl

theorem allKeywords_extends {members others : Keyed Json}
    (h : members.Extends keywordNames others) :
    allKeywords others isValid = allKeywords members isValid := by
  obtain ⟨added, hadded, hperm⟩ := h
  have hnone : (added.all fun entry => hasShape isValid (shapeOf entry.1) entry.2) = true := by
    rw [List.all_eq_true]
    intro entry hentry
    rw [shapeOf_of_notMem (hadded entry.1 (List.mem_map_of_mem hentry))]
    rfl
  rw [allKeywords_eq_all, allKeywords_eq_all, ← hperm.all_eq, List.all_append, hnone,
    Bool.and_true]

theorem RearrangedEntries.keys_eq : ∀ {entries others : Keyed Json},
    RearrangedEntries entries others → others.keys = entries.keys
  | _, _, .nil => rfl
  | _, _, .cons _ hrest => by rw [Keyed.keys_cons, Keyed.keys_cons, hrest.keys_eq]

theorem RearrangedItems.isEmpty_eq {items others : List Json} (h : RearrangedItems items others) :
    others.isEmpty = items.isEmpty := by
  cases h <;> rfl

theorem Rearranged.eq_of_members? {value other : Json} (h : Rearranged value other)
    (hvalue : value.members? = none) : other = value := by
  cases h with
  | same => rfl
  | object _ _ => cases hvalue

theorem Rearranged.uniqueTexts?_eq {value other : Json} (h : Rearranged value other) :
    uniqueTexts? other = uniqueTexts? value := by
  cases h with
  | same => rfl
  | object _ _ => rfl

mutual

/-- Rearranging schemas keeps them well-formed, or not. -/
theorem Rearranged.isWellFormed_eq : ∀ {value other : Json}, Rearranged value other →
    isWellFormed other isValid = isWellFormed value isValid
  | _, _, .same _ => rfl
  | _, _, .object hmembers hextends => by
      rw [isWellFormed, isWellFormed, allKeywords_extends hextends, hmembers.allKeywords_eq]

theorem RearrangedMembers.allKeywords_eq : ∀ {members others : Keyed Json},
    RearrangedMembers members others →
      allKeywords others isValid = allKeywords members isValid
  | _, _, .nil => rfl
  | _, _, .cons hvalue hrest => by
      have hothers := hrest.allKeywords_eq
      rw [allKeywords_eq_all, allKeywords_eq_all] at hothers ⊢
      rw [List.all_cons, List.all_cons, hvalue.hasShape_eq, hothers]

theorem RearrangedValue.hasShape_eq : ∀ {keyword : String} {value other : Json},
    RearrangedValue keyword value other →
      hasShape isValid (shapeOf keyword) other = hasShape isValid (shapeOf keyword) value
  | _, _, _, .same _ _ => rfl
  | _, _, _, .metadata _ => rfl
  | _, _, _, .schema (.inl hshape) hvalue => by
      rw [hshape]
      exact hvalue.isWellFormed_eq
  | _, _, _, .schema (.inr hshape) (.same _) => rfl
  | _, _, _, .schema (.inr hshape) (.object hmembers hextends) => by
      rw [hshape]
      exact (Rearranged.object hmembers hextends).isWellFormed_eq
  | _, _, _, .schemas (.inl hshape) hitems => by
      rw [hshape, hasShape, hasShape, hitems.all_eq, hitems.isEmpty_eq]
  | _, _, _, .schemas (.inr hshape) hitems => by
      rw [hshape]
      exact hitems.all_eq
  | _, _, _, .entries (.inl hshape) hentries => by
      rw [hshape]
      exact hentries.all_eq
  | _, _, _, .entries (.inr (.inl hshape)) hentries => by
      rw [hshape, hasShape, hasShape, hentries.all_eq, hentries.keys_eq]
  | _, _, _, .entries (.inr (.inr hshape)) hentries => by
      rw [hshape]
      exact hentries.all_dependencies_eq

theorem RearrangedItems.all_eq : ∀ {items others : List Json}, RearrangedItems items others →
    others.all (isWellFormed · isValid) = items.all (isWellFormed · isValid)
  | _, _, .nil => rfl
  | _, _, .cons hitem hrest => by
      rw [List.all_cons, List.all_cons, hitem.isWellFormed_eq, hrest.all_eq]

theorem RearrangedEntries.all_eq : ∀ {entries others : Keyed Json},
    RearrangedEntries entries others →
      (others.all fun entry => isWellFormed entry.2 isValid) =
        entries.all fun entry => isWellFormed entry.2 isValid
  | _, _, .nil => rfl
  | _, _, .cons hvalue hrest => by
      rw [List.all_cons, List.all_cons, hvalue.isWellFormed_eq, hrest.all_eq]

theorem RearrangedEntries.all_dependencies_eq : ∀ {entries others : Keyed Json},
    RearrangedEntries entries others →
      (others.all fun entry => isWellFormed entry.2 isValid || (uniqueTexts? entry.2).isSome) =
        entries.all fun entry => isWellFormed entry.2 isValid || (uniqueTexts? entry.2).isSome
  | _, _, .nil => rfl
  | _, _, .cons hvalue hrest => by
      rw [List.all_cons, List.all_cons, hvalue.isWellFormed_eq, hvalue.uniqueTexts?_eq,
        hrest.all_dependencies_eq]

end

/-! ## Look-ups -/

/-- Under each keyword that is read, both find the same or rearranged values, or nothing. -/
def Alike (members others : Keyed Json) : Prop :=
  ∀ keyword ∈ keywordNames,
    Option.Rel (RearrangedValue keyword) (members.get? keyword) (others.get? keyword)

theorem RearrangedMembers.get? : ∀ {members others : Keyed Json},
    RearrangedMembers members others → ∀ keyword,
      Option.Rel (RearrangedValue keyword) (members.get? keyword) (others.get? keyword)
  | _, _, .nil, _ => .none
  | _, _, @RearrangedMembers.cons name value other rest others hvalue hrest, keyword => by
      rw [Keyed.get?, Keyed.get?]
      by_cases hname : name = keyword
      · rw [if_pos hname, if_pos hname]
        exact .some (hname ▸ hvalue)
      · rw [if_neg hname, if_neg hname]
        exact hrest.get? keyword

theorem RearrangedEntries.refl : ∀ entries : Keyed Json, RearrangedEntries entries entries
  | [] => .nil
  | (_, value) :: rest => .cons (.same value) (refl rest)

/-- An object is rearranged to an object that is alike. -/
theorem Rearranged.alike {members : Keyed Json} {other : Json}
    (h : Rearranged (.object members) other) (hdistinct : other.Distinct) :
    ∃ others, other = .object others ∧ Alike members others := by
  cases h with
  | same =>
      refine ⟨members, rfl, ?_⟩
      intro keyword _
      cases Keyed.get? members keyword with
      | none => exact .none
      | some value => exact .some (.same keyword value)
  | @object _ changed others hmembers hextends =>
      refine ⟨others, rfl, ?_⟩
      intro keyword hkeyword
      rw [hextends.get? hdistinct.keyed hkeyword]
      exact hmembers.get? keyword

/-! ## Values of single keywords -/

/-- A keyword that is read and whose value holds neither schemas nor metadata. -/
def IsPlain (keyword : String) : Prop :=
  keyword ∈ keywordNames ∧ keyword ≠ "metadata" ∧
    shapeOf keyword ∉ [Shape.schema, .items, .someSchemas, .schemaMap, .patternMap, .dependencies]

instance (keyword : String) : Decidable (IsPlain keyword) := inferInstanceAs (Decidable (_ ∧ _ ∧ _))

namespace RearrangedValue

variable {keyword : String} {value other : Json}

theorem eq_of_isPlain (h : RearrangedValue keyword value other) (hplain : IsPlain keyword) :
    other = value := by
  obtain ⟨-, hmetadata, hshape⟩ := hplain
  cases h with
  | same => rfl
  | metadata _ => exact absurd rfl hmetadata
  | schema hschema _ => rcases hschema with h | h <;> simp [h] at hshape
  | schemas hschemas _ => rcases hschemas with h | h <;> simp [h] at hshape
  | entries hentries _ => rcases hentries with h | h | h <;> simp [h] at hshape

theorem members?_of_schemaMap (h : RearrangedValue keyword value other)
    (hshape : shapeOf keyword = .schemaMap) :
    Option.Rel RearrangedEntries value.members? other.members? := by
  cases h with
  | same =>
      cases value.members? with
      | none => exact .none
      | some entries => exact .some (.refl entries)
  | metadata _ => exact absurd hshape (by decide)
  | schema hschema _ => rcases hschema with h | h <;> rw [h] at hshape <;> cases hshape
  | schemas hschemas _ => rcases hschemas with h | h <;> rw [h] at hshape <;> cases hshape
  | entries _ hentries => exact .some hentries

theorem members?_of_items (h : RearrangedValue keyword value other)
    (hshape : shapeOf keyword = .items) :
    Option.Rel (fun inner other => Rearranged (.object inner) (.object other)) value.members?
      other.members? := by
  cases h with
  | same =>
      cases value.members? with
      | none => exact .none
      | some inner => exact .some (.same _)
  | metadata _ => exact absurd hshape (by decide)
  | schema _ hvalue =>
      cases hvalue with
      | same =>
          cases value.members? with
          | none => exact .none
          | some inner => exact .some (.same _)
      | object hmembers hextends => exact .some (.object hmembers hextends)
  | schemas _ _ => exact .none
  | entries hentries _ => rcases hentries with h | h | h <;> rw [h] at hshape <;> cases hshape

theorem eq_or_extends (h : RearrangedValue keyword value other) (hkeyword : keyword = "metadata") :
    other = value ∨ ∃ members others, value = .object members ∧ other = .object others ∧
      Keyed.Extends Metadata.fieldNames members others := by
  have hshape : shapeOf keyword = .anything := by
    rw [hkeyword]
    rfl
  cases h with
  | same => exact Or.inl rfl
  | metadata hextends => exact Or.inr ⟨_, _, rfl, rfl, hextends⟩
  | schema hschema _ => rcases hschema with h | h <;> rw [h] at hshape <;> cases hshape
  | schemas hschemas _ => rcases hschemas with h | h <;> rw [h] at hshape <;> cases hshape
  | entries hentries _ => rcases hentries with h | h | h <;> rw [h] at hshape <;> cases hshape

end RearrangedValue

theorem eq_none_or_some_of_rel {α : Type} {Related : α → α → Prop} {first second : Option α}
    (h : Option.Rel Related first second) :
    (first = none ∧ second = none) ∨
      ∃ a b, first = some a ∧ second = some b ∧ Related a b := by
  cases h with
  | none => exact Or.inl ⟨rfl, rfl⟩
  | some h => exact Or.inr ⟨_, _, rfl, rfl, h⟩

theorem rel_bind {α β : Type} {Related : α → α → Prop} {Related' : β → β → Prop}
    {f : α → Option β} {first second : Option α} (h : Option.Rel Related first second)
    (hf : ∀ a b, Related a b → Option.Rel Related' (f a) (f b)) :
    Option.Rel Related' (first.bind f) (second.bind f) := by
  cases h with
  | none => exact .none
  | some h => exact hf _ _ h

namespace Alike

variable {members others : Keyed Json}

theorem get?_eq (h : Alike members others) {keyword : String} (hplain : IsPlain keyword) :
    others.get? keyword = members.get? keyword := by
  rcases eq_none_or_some_of_rel (h keyword hplain.1) with
    ⟨hmembers, hothers⟩ | ⟨value, other, hmembers, hothers, hvalue⟩
  · rw [hmembers, hothers]
  · rw [hmembers, hothers, hvalue.eq_of_isPlain hplain]

theorem stringMember?_eq (h : Alike members others) {keyword : String} (hplain : IsPlain keyword) :
    stringMember? others keyword = stringMember? members keyword := by
  rw [stringMember?, stringMember?, h.get?_eq hplain]

theorem typeName?_eq (h : Alike members others) : typeName? others = typeName? members := by
  rw [typeName?, typeName?, h.stringMember?_eq (by decide)]

theorem properties (h : Alike members others) :
    Option.Rel RearrangedEntries ((members.get? "properties").bind members?)
      ((others.get? "properties").bind members?) :=
  rel_bind (h "properties" (by decide)) fun _ _ hvalue => hvalue.members?_of_schemaMap rfl

theorem items (h : Alike members others) :
    Option.Rel (fun inner other => Rearranged (.object inner) (.object other))
      ((members.get? "items").bind members?) ((others.get? "items").bind members?) :=
  rel_bind (h "items" (by decide)) fun _ _ hvalue => hvalue.members?_of_items rfl

/-- The metadata are the same, or have the same fields in some order. -/
theorem metadata (h : Alike members others) :
    others.get? "metadata" = members.get? "metadata" ∨
      ∃ inner other, members.get? "metadata" = some (.object inner) ∧
        others.get? "metadata" = some (.object other) ∧
          Keyed.Extends Metadata.fieldNames inner other := by
  rcases eq_none_or_some_of_rel (h "metadata" (by decide)) with
    ⟨hmembers, hothers⟩ | ⟨value, found, hmembers, hothers, hvalue⟩
  · exact Or.inl (hothers.trans hmembers.symm)
  · rcases hvalue.eq_or_extends rfl with rfl | ⟨inner, other, rfl, rfl, hextends⟩
    · exact Or.inl (hothers.trans hmembers.symm)
    · exact Or.inr ⟨inner, other, hmembers, hothers, hextends⟩

end Alike

end SchemaTables.Schema
