import Mathlib.Data.List.ReduceOption
import SchemaTables.Proofs.Ddl.Catalog

/-!
# Tables as they are declared

What a table is like once it has been built is written down here from the fields of its columns and
references alone (`Table.state`), without the functions that statements are made with.  What these
functions compute is said first, one by one; both come to the same (`Table.state_eq`).
-/

namespace SchemaTables

/-! ## What the parts of statements are made from -/

theorem nonEmpty?_eq_some_iff {text? : Option String} {text : String} :
    nonEmpty? text? = some text ↔ text? = some text ∧ text ≠ "" := by
  rw [nonEmpty?, Option.filter_eq_some_iff, bne_iff_ne]

theorem nonEmpty?_eq_none_iff {text? : Option String} :
    nonEmpty? text? = none ↔ text? = none ∨ text? = some "" := by
  cases text? with
  | none => simp [nonEmpty?]
  | some text => simp [nonEmpty?]

/-- A column is given its literal, or else the expression of its metadata that is not empty. -/
theorem Column.initial?_eq_some_iff {column : Column} {value : Default} :
    column.initial? = some value ↔
      (∃ scalar, column.attributes.default = some scalar ∧ .literal scalar.toText = value) ∨
        column.attributes.default = none ∧ ∃ expression,
          column.attributes.metadata.default = some expression ∧ expression ≠ "" ∧
            .raw expression = value := by
  cases hdefault : column.attributes.default with
  | some scalar => simp [initial?, hdefault]
  | none =>
      have hraw : column.initial? =
          (nonEmpty? column.attributes.metadata.default).map Default.raw := by
        rw [initial?, hdefault]
        cases nonEmpty? column.attributes.metadata.default <;> rfl
      simp [hraw, nonEmpty?_eq_some_iff, and_assoc]

/-- A column has the comment of its metadata that is not empty, or else its title, its description,
or both with a colon between them. -/
theorem Column.comment?_eq_some_iff {column : Column} {text : String} :
    column.comment? = some text ↔
      (column.attributes.metadata.comment = some text ∧ text ≠ "") ∨
        (column.attributes.metadata.comment = none ∨
          column.attributes.metadata.comment = some "") ∧
          ((∃ title description, column.attributes.title = some title ∧
              column.attributes.description = some description ∧
                title ++ ": " ++ description = text) ∨
            (column.attributes.title = some text ∧ column.attributes.description = none) ∨
            column.attributes.title = none ∧ column.attributes.description = some text) := by
  rw [← nonEmpty?_eq_some_iff, ← nonEmpty?_eq_none_iff, comment?]
  cases nonEmpty? column.attributes.metadata.comment with
  | some comment => simp
  | none => cases column.attributes.title <;> cases column.attributes.description <;> simp

/-- A table has its declared key, or else the key `id`, if a column is called so. -/
theorem Table.key?_eq_some_iff {table : Table} {key : String} :
    table.key? = some key ↔
      table.primaryKey = some key ∨
        table.primaryKey = none ∧ "id" ∈ table.columns.map (·.name) ∧ "id" = key := by
  cases hkey : table.primaryKey with
  | some declared => simp [key?, hkey]
  | none =>
      simp only [key?, hkey, TableWith.column?, reduceCtorEq, false_or, true_and,
        Option.map_eq_some_iff]
      constructor
      · rintro ⟨column, hcolumn, rfl⟩
        have hid : column.name = "id" := by simpa using List.find?_some hcolumn
        exact ⟨hid ▸ List.mem_map_of_mem (List.mem_of_find?_eq_some hcolumn), hid.symm⟩
      · rintro ⟨hmem, rfl⟩
        obtain ⟨column, hcolumn, hid⟩ := List.mem_map.mp hmem
        cases hfound : table.columns.find? fun column => column.name == "id" with
        | none => exact absurd hid (by simpa using List.find?_eq_none.mp hfound column hcolumn)
        | some found => exact ⟨found, rfl, by simpa using List.find?_some hfound⟩

/-! ## Columns -/

/-- The type of the values that a column stores. -/
def StorageType.columnType : StorageType → ColumnType
  | .uuid => .uuid
  | .string => .varchar 255
  | .email => .varchar 255
  | .date => .date
  | .datetime => .timestamp
  | .dateTime => .timestamp
  | .boolean => .boolean
  | .number => .real
  | .integer => .integer
  | .json => .json
  | .jsonb => .jsonb

def KeyType.columnType : KeyType → ColumnType
  | .string => .varchar 255
  | .email => .varchar 255
  | .uuid => .uuid
  | .boolean => .boolean
  | .integer => .integer
  | .json => .json
  | .jsonb => .jsonb

/-- What stands between the quotes of a literal or of a label. -/
def Scalar.label : Scalar → String
  | .text value => value
  | .number value => value.text
  | .bool value => if value then "1" else "0"

namespace Attributes

/-- The literal, or else the expression of the metadata.  No expression is empty. -/
def initial? (attributes : Attributes) : Option Default :=
  (attributes.default.map fun value => Default.literal value.label).or
    ((attributes.metadata.default.filter (· ≠ "")).map Default.raw)

/-- The comment of the metadata, or else what there is of title and description.  No comment of the
metadata is empty. -/
def remark? (attributes : Attributes) : Option String :=
  (attributes.metadata.comment.filter (· ≠ "")).or
    (match [attributes.title, attributes.description].reduceOption with
      | [] => none
      | parts => some (": ".intercalate parts))

end Attributes

/-- The name of the type that the enumeration of a column has in a table. -/
def Column.labelType (table : String) (column : Column) : String :=
  table ++ "_" ++ column.name ++ "_enum"

/-- A column of a table as it is declared. -/
def Column.declared (table : Table) (column : Column) : ColumnDefinition where
  name := column.name
  type :=
    match column.attributes.choices with
    | some choices => .enumeration (column.labelType table.name) (choices.map Scalar.label)
    | none => column.storage.columnType
  notNull := column.name ∈ table.required ∨ column.attributes.metadata.notNull = true
  default := column.attributes.initial?
  comment := column.attributes.remark?

/-- The check on a column of integers that has a bound. -/
def Column.range (column : Column) : List Check :=
  if column.storage = .integer ∧
      ¬ (column.attributes.minimum = none ∧ column.attributes.maximum = none) then
    [⟨column.name, column.attributes.minimum, column.attributes.maximum⟩]
  else []

/-- The column of a reference. -/
def Reference.declared (reference : Reference) : ColumnDefinition where
  name := reference.name
  type := reference.type.columnType

/-! ## Tables -/

namespace Table

/-- The types that the enumerations of a table would have, with their labels. -/
def labelTypes (table : Table) : Keyed (List String) :=
  table.columns.flatMap fun column =>
    match column.attributes.choices with
    | some choices => [(column.labelType table.name, choices.map Scalar.label)]
    | none => []

/-- The state of a table, from the fields of its columns and references: its own columns and then
those of its references, its key, its checks, and its indexes, unique columns and foreign keys. -/
def state (table : Table) : TableState where
  columns := table.columns.map (Column.declared table) ++ table.references.map Reference.declared
  primaryKey :=
    table.primaryKey.or (if "id" ∈ table.columns.map (·.name) then some "id" else none)
  checks := table.columns.flatMap Column.range
  indexes := (table.columns.filter fun column => column.attributes.metadata.index).map (·.name)
  uniques :=
    (table.columns.filter fun column => column.attributes.metadata.unique).map (·.name) ++
      (table.references.filter fun reference => reference.cardinality = .one).map (·.name)
  foreignKeys :=
    table.references.map fun reference => ⟨reference.name, reference.table, reference.column⟩

end Table

/-! ## Declarations and definitions -/

theorem ColumnType.ofStorage_eq (storage : StorageType) :
    ColumnType.ofStorage storage = storage.columnType := by
  cases storage <;> rfl

theorem KeyType.ofStorage_storage (type : KeyType) :
    ColumnType.ofStorage type.storage = type.columnType := by
  cases type <;> rfl

theorem Scalar.toText_eq_label (scalar : Scalar) : scalar.toText = scalar.label := by
  rcases scalar with value | value | (_ | _)
  all_goals rfl

theorem choiceTexts_eq (choices : List Scalar) : choiceTexts choices = choices.map Scalar.label :=
  List.map_congr_left fun choice _ => choice.toText_eq_label

namespace Column

theorem initial?_eq (column : Column) : column.initial? = column.attributes.initial? := by
  ext value
  rw [initial?_eq_some_iff, Attributes.initial?, Option.or_eq_some_iff, Option.map_eq_none_iff]
  simp [Option.filter_eq_some_iff, Scalar.toText_eq_label, and_assoc]

theorem comment?_eq (column : Column) : column.comment? = column.attributes.remark? := by
  ext text
  rw [comment?_eq_some_iff, Attributes.remark?, Option.or_eq_some_iff, Option.filter_eq_some_iff,
    Option.filter_eq_none_iff]
  cases column.attributes.metadata.comment <;> cases column.attributes.title <;>
    cases column.attributes.description <;> simp [List.reduceOption]

theorem definition_eq_declared (table : Table) (column : Column) :
    column.definition table.name table.required = column.declared table := by
  have htype : column.type table.name = (column.declared table).type := by
    rw [type, declared]
    cases column.attributes.choices with
    | none => exact ColumnType.ofStorage_eq column.storage
    | some choices =>
        dsimp only
        rw [choiceTexts_eq]
        rfl
  rw [definition, htype, initial?_eq, comment?_eq, declared]
  simp

theorem toList_check? (column : Column) : column.check?.toList = column.range := by
  rw [check?, range]
  cases column.attributes.minimum <;> cases column.attributes.maximum <;> split <;> simp_all

end Column

theorem Reference.definition_eq_declared (reference : Reference) :
    reference.definition = reference.declared := by
  rw [definition, declared, KeyType.ofStorage_storage]

namespace Table

theorem enumTypes_eq (dialect : Dialect) (table : Table) :
    table.enumTypes dialect = if dialect = .pg then table.labelTypes else [] := by
  cases dialect with
  | mysql => rfl
  | pg =>
      rw [enumTypes, labelTypes, List.filterMap_eq_flatMap_toList]
      refine congrArg table.columns.flatMap (funext fun column => ?_)
      cases column.attributes.choices with
      | none => rfl
      | some choices =>
          rw [Option.map_some, choiceTexts_eq]
          rfl

theorem key?_eq (table : Table) :
    table.key? =
      table.primaryKey.or (if "id" ∈ table.columns.map (·.name) then some "id" else none) := by
  ext key
  rw [key?_eq_some_iff, Option.or_eq_some_iff, Option.ite_none_right_eq_some, Option.some_inj]

/-- The state of a table in the words of its statements. -/
theorem state_eq (table : Table) :
    table.state =
      { columns :=
          table.columns.map (Column.definition table.name table.required) ++
            table.references.map Reference.definition
        primaryKey := table.key?
        checks := table.columns.filterMap Column.check?
        indexes :=
          (table.columns.filter fun column => column.attributes.metadata.index).map (·.name)
        uniques :=
          (table.columns.filter fun column => column.attributes.metadata.unique).map (·.name) ++
            (table.references.filter fun reference => reference.cardinality = .one).map (·.name)
        foreignKeys := table.references.map fun reference =>
          ⟨reference.name, reference.table, reference.column⟩ } := by
  have hcolumns : table.columns.map (Column.definition table.name table.required) =
      table.columns.map (Column.declared table) :=
    List.map_congr_left fun column _ => column.definition_eq_declared table
  have hreferences : table.references.map Reference.definition =
      table.references.map Reference.declared :=
    List.map_congr_left fun reference _ => reference.definition_eq_declared
  have hchecks : table.columns.filterMap Column.check? = table.columns.flatMap Column.range := by
    rw [List.filterMap_eq_flatMap_toList]
    exact congrArg table.columns.flatMap (funext Column.toList_check?)
  rw [hcolumns, hreferences, hchecks, key?_eq, state]

end Table

end SchemaTables
