import SchemaTables.Proofs.Ddl.Columns

/-!
# Columns that must have a value

A column that stores a property says `not null` if the property is required or its metadata say so.
The column of a reference says so in no case, although a table may require its references as well.

The main statement is `required_notNull_iff`: the columns of all required properties say `not null`
exactly if no table requires a reference.
-/

namespace SchemaTables

/-! ## Columns in words -/

/-- The column is written with the words that forbid missing values. -/
def ColumnDefinition.SaysNotNull (dialect : Dialect) (definition : ColumnDefinition) : Prop :=
  .words " not null" ∈ definition.pieces dialect

instance (dialect : Dialect) (definition : ColumnDefinition) :
    Decidable (definition.SaysNotNull dialect) :=
  inferInstanceAs (Decidable (_ ∈ _))

theorem mem_of_mem_separated {between : String} {piece : Piece} {parts : List (List Piece)}
    (h : piece ∈ separated between parts) :
    piece = .words between ∨ ∃ part ∈ parts, piece ∈ part := by
  induction parts with
  | nil => simp [separated] at h
  | cons part rest ih =>
      by_cases hrest : rest = []
      · subst hrest
        exact Or.inr ⟨part, List.mem_cons_self, h⟩
      · rw [separated.eq_3 _ _ _ hrest] at h
        rcases List.mem_append.mp h with hpart | h
        · exact Or.inr ⟨part, List.mem_cons_self, hpart⟩
        · rcases List.mem_cons.mp h with hbetween | h
          · exact Or.inl hbetween
          · refine (ih h).imp id ?_
            rintro ⟨other, hother, hpiece⟩
            exact ⟨other, List.mem_cons_of_mem _ hother, hpiece⟩

theorem ColumnType.not_mem_pieces (dialect : Dialect) (type : ColumnType) :
    .words " not null" ∉ type.pieces dialect := by
  cases type with
  | varchar length =>
      intro h
      have hwords : " not null" = "varchar(" ++ toString length ++ ")" :=
        Piece.words.inj (List.mem_singleton.mp h)
      have hhead := congrArg (fun text => text.toList.head?) hwords
      simp at hhead
  | enumeration name values =>
      cases dialect with
      | pg => simp [pieces]
      | mysql =>
          intro h
          rcases List.mem_append.mp h with h | h
          · rcases List.mem_cons.mp h with h | h
            · exact absurd h (by decide)
            · rcases mem_of_mem_separated h with h | ⟨part, hpart, h⟩
              · exact absurd h (by decide)
              · obtain ⟨value, -, rfl⟩ := List.mem_map.mp hpart
                cases List.mem_singleton.mp h
          · exact absurd (List.mem_singleton.mp h) (by decide)
  | _ => cases dialect <;> decide

/-- Neither its type nor its default nor its comment makes a column say so. -/
theorem ColumnDefinition.saysNotNull_iff {dialect : Dialect} {definition : ColumnDefinition} :
    definition.SaysNotNull dialect ↔ definition.notNull = true := by
  have htype := ColumnType.not_mem_pieces dialect definition.type
  have hdefault : .words " not null" ∉ (definition.default.map Default.pieces).getD [] := by
    rcases definition.default with _ | (text | expression)
    · simp
    · simp [Default.pieces]
    · simp [Default.pieces]
  have hcomment : .words " not null" ∉ definition.commentPieces dialect := by
    rw [commentPieces]
    split
    · simp
    · simp
  cases hnotNull : definition.notNull with
  | true => simp [SaysNotNull, pieces, hnotNull]
  | false => simp [SaysNotNull, pieces, hnotNull, htype, hdefault, hcomment]

/-! ## What the statements on a table say -/

/-- The statements on the table declare one column of the name. -/
def Table.DeclaresOnce (dialect : Dialect) (table : Table) (name : String)
    (definition : ColumnDefinition) : Prop :=
  ∀ other, table.Declares dialect other ∧ other.name = name ↔ other = definition

namespace Node

variable {node : Node} {linked : List LinkedTable} {table : Table} {dialect : Dialect}

/-- The metadata of a stored property say that its column must have a value. -/
def Marks (node : Node) (name : String) : Prop :=
  ∃ column ∈ node.columns, column.name = name ∧ column.attributes.metadata.notNull = true

/-- What the statements on the table of a node say about missing values.  Each property that is
stored and each reference has one column.  The column of a stored property says `not null` if and
only if it is required or its metadata say so; that of a reference does not say it. -/
structure Nullability (dialect : Dialect) (node : Node) (table : Table) : Prop where
  stored : ∀ name property, (name, property) ∈ node.properties →
    (property.column? name).isSome = true → ∃ definition,
      table.DeclaresOnce dialect name definition ∧
        (definition.SaysNotNull dialect ↔ name ∈ node.schema.required ∨ node.Marks name)
  reference : ∀ name target, (name, .reference target) ∈ node.properties → ∃ definition,
    table.DeclaresOnce dialect name definition ∧ ¬ definition.SaysNotNull dialect
  declared : ∀ definition, table.Declares dialect definition → ∃ property,
    (definition.name, property) ∈ node.properties ∧ property.isNested = false

/-- The columns of required properties say `not null`, and of the others those whose metadata say
so. -/
structure RequiredNotNull (dialect : Dialect) (node : Node) (table : Table) : Prop where
  required : ∀ definition, table.Declares dialect definition →
    definition.name ∈ node.schema.required → definition.SaysNotNull dialect
  optional : ∀ definition, table.Declares dialect definition →
    definition.name ∉ node.schema.required → ¬ node.Marks definition.name →
      ¬ definition.SaysNotNull dialect

theorem declaresOnce_of_mem (h : TableWith.ResolvesTo linked node.table table)
    (hdistinct : Keyed.Distinct node.schema.properties) {definition : ColumnDefinition}
    (hmem : definition ∈ table.definitions) :
    table.DeclaresOnce dialect definition.name definition := by
  intro other
  rw [Table.declares_iff]
  constructor
  · rintro ⟨hother, hname⟩
    exact List.inj_on_of_nodup_map (nodup_definitions h hdistinct) hother hmem hname
  · rintro rfl
    exact ⟨hmem, rfl⟩

/-- No other column has the name of a stored one. -/
theorem marks_iff (hdistinct : Keyed.Distinct node.schema.properties) {column : Column}
    (hcolumn : column ∈ node.columns) :
    node.Marks column.name ↔ column.attributes.metadata.notNull = true := by
  constructor
  · rintro ⟨other, hother, hname, hmarked⟩
    have hnodup := (List.nodup_append.mp (nodup_names hdistinct)).1
    rwa [List.inj_on_of_nodup_map hnodup hother hcolumn hname] at hmarked
  · intro hmarked
    exact ⟨column, hcolumn, rfl, hmarked⟩

theorem nullability (h : TableWith.ResolvesTo linked node.table table)
    (hdistinct : Keyed.Distinct node.schema.properties) : node.Nullability dialect table := by
  have hcolumns : table.columns = node.columns := h.columns
  have hreferences : table.references.map (·.name) = node.links.map (·.name) := h.names
  have hrequired : table.required = node.schema.required := h.required
  constructor
  · intro name property hmem hstored
    obtain ⟨column, hcolumn⟩ := Option.isSome_iff_exists.mp hstored
    have hname := Property.column?_name hcolumn
    subst hname
    have hcolumn : column ∈ node.columns := mem_columns.mpr ⟨property, hmem, hcolumn⟩
    have hdefinition : column.definition table.name table.required ∈ table.definitions := by
      rw [← hcolumns] at hcolumn
      exact List.mem_append_left _ (List.mem_map_of_mem hcolumn)
    refine ⟨_, declaresOnce_of_mem h hdistinct hdefinition, ?_⟩
    rw [ColumnDefinition.saysNotNull_iff, marks_iff hdistinct hcolumn, ← hrequired]
    simp [Column.definition]
  · intro name target hmem
    have hlink : name ∈ table.references.map (·.name) := by
      rw [hreferences]
      exact List.mem_map_of_mem (mem_links.mpr ⟨.reference target, hmem, rfl⟩ :
        node.place.link name target ∈ node.links)
    obtain ⟨reference, hreference, rfl⟩ := List.mem_map.mp hlink
    have hdefinition : reference.definition ∈ table.definitions :=
      List.mem_append_right _ (List.mem_map_of_mem hreference)
    refine ⟨_, declaresOnce_of_mem h hdistinct hdefinition, ?_⟩
    rw [ColumnDefinition.saysNotNull_iff]
    simp [Reference.definition]
  · intro definition hdeclares
    rcases List.mem_append.mp (Table.declares_iff.mp hdeclares) with hstored | hadded
    · rw [hcolumns] at hstored
      obtain ⟨column, hcolumn, rfl⟩ := List.mem_map.mp hstored
      obtain ⟨property, hmem, hstored⟩ := mem_columns.mp hcolumn
      refine ⟨property, hmem, ?_⟩
      cases property <;> first | rfl | cases hstored
    · obtain ⟨reference, hreference, rfl⟩ := List.mem_map.mp hadded
      have hname : reference.name ∈ node.links.map (·.name) := by
        rw [← hreferences]
        exact List.mem_map_of_mem hreference
      obtain ⟨link, hlink, heq⟩ := List.mem_map.mp hname
      obtain ⟨property, hmem, hlinked⟩ := mem_links.mp hlink
      refine ⟨property, ?_, ?_⟩
      · rw [heq] at hmem
        exact hmem
      · cases property <;> first | rfl | cases hlinked

/-- Each declared column is that of a stored property or of a reference. -/
theorem Nullability.stored_or_reference (h : node.Nullability dialect table)
    {definition : ColumnDefinition} (hdeclares : table.Declares dialect definition) :
    (definition.SaysNotNull dialect ↔
        definition.name ∈ node.schema.required ∨ node.Marks definition.name) ∨
      (∃ target, (definition.name, .reference target) ∈ node.properties) ∧
        ¬ definition.SaysNotNull dialect := by
  -- a reference back may stand in the place of a stored property of its name, so what decides is
  -- the property that the node has
  obtain ⟨property, hmem, hnested⟩ := h.declared definition hdeclares
  by_cases hstored : (property.column? definition.name).isSome = true
  · obtain ⟨found, honce, hwritten⟩ := h.stored definition.name property hmem hstored
    have heq : definition = found := (honce definition).mp ⟨hdeclares, rfl⟩
    rw [← heq] at hwritten
    exact Or.inl hwritten
  · cases property with
    | reference target =>
        obtain ⟨found, honce, hnot⟩ := h.reference definition.name target hmem
        have heq : definition = found := (honce definition).mp ⟨hdeclares, rfl⟩
        rw [← heq] at hnot
        exact Or.inr ⟨⟨target, hmem⟩, hnot⟩
    | nested schema => cases hnested
    | list items => cases hnested
    | _ => exact absurd rfl hstored

/-- The columns of a table are as its required properties say if it requires no reference. -/
theorem Nullability.requiredNotNull_iff (h : node.Nullability dialect table) :
    node.RequiredNotNull dialect table ↔
      ∀ name ∈ node.schema.required, ∀ target, (name, .reference target) ∉ node.properties := by
  constructor
  · intro hrule name hname target hmem
    obtain ⟨definition, honce, hnot⟩ := h.reference name target hmem
    obtain ⟨hdeclares, heq⟩ := (honce definition).mpr rfl
    rw [← heq] at hname
    exact hnot (hrule.required definition hdeclares hname)
  · intro hnone
    constructor
    · intro definition hdeclares hname
      rcases h.stored_or_reference hdeclares with hwritten | ⟨⟨target, hmem⟩, -⟩
      · exact hwritten.mpr (Or.inl hname)
      · exact absurd hmem (hnone _ hname target)
    · intro definition hdeclares hname hmarks
      rcases h.stored_or_reference hdeclares with hwritten | ⟨-, hnot⟩
      · intro h
        exact (hwritten.mp h).elim hname hmarks
      · exact hnot

end Node

/-! ## Compiled documents -/

/-- In the statements of an accepted document, at whatever depth, the columns of stored properties
say `not null` where they are required or marked, and those of references never say it.  Required
properties have columns that must have a value, and only they and those that are marked, if and only
if no table requires a reference. -/
theorem required_notNull_iff {document : Json} {dialect : Dialect} {script : Script}
    (hdistinct : document.Distinct) (h : compile dialect document = .ok script) :
    ∃ database nodes tables, document.Becomes database nodes tables ∧
      script = (Migration.ofTables dialect tables).script dialect ∧
      List.Forall₂ (Node.Nullability dialect) nodes tables ∧
      (List.Forall₂ (Node.RequiredNotNull dialect) nodes tables ↔
        ∀ node, database.Visits node → ∀ name ∈ node.schema.required, ∀ target,
          (name, .reference target) ∉ node.properties) := by
  obtain ⟨database, nodes, tables, hbecomes, hkeyed, hscript⟩ := exists_becomes hdistinct h
  have hnullability : List.Forall₂ (Node.Nullability dialect) nodes tables := by
    apply hbecomes.forall₂
    intro node table hnode hresolved
    exact Node.nullability hresolved (hkeyed.declared node hnode.declares).distinct
  refine ⟨database, nodes, tables, hbecomes, hscript, hnullability, ?_, ?_⟩
  · intro hrule node hnode
    have hnone : List.Forall₂ (fun (node : Node) (_ : Table) => ∀ name ∈ node.schema.required,
        ∀ target, (name, .reference target) ∉ node.properties) nodes tables :=
      List.Forall₂.mp (fun _ _ hrule hnull =>
        (Node.Nullability.requiredNotNull_iff hnull).mp hrule) hrule hnullability
    obtain ⟨_, -, hnode⟩ := exists_right_of_forall₂ hnone ((hbecomes.visited node).mpr hnode)
    exact hnode
  · intro hnone
    refine forall₂_of_forall_mem hnullability ?_
    intro node hnode table _ hnull
    exact hnull.requiredNotNull_iff.mpr (hnone node ((hbecomes.visited node).mp hnode))

/-! ## Required authors -/

/-- A document with users and their posts. -/
def authorDocument (required : List String) : Json :=
  .object
    [("type", .string "object"),
      ("properties", .object
        [("users", .object
          [("type", .string "object"),
            ("properties", .object [("id", .object [("type", .string "integer")])])]),
          ("posts", .object
            [("type", .string "object"),
              ("required", .array (required.map .string)),
              ("properties", .object
                [("title", .object [("type", .string "string")]),
                  ("body", .object
                    [("type", .string "string"),
                      ("metadata", .object [("notNull", .bool true)])]),
                  ("author", .object [("$ref", .string "#/users/id")])])])])]

def writerSchema : TableSchema := { properties := [("id", .primitive .integer {})] }

def postSchema (required : List String) : TableSchema :=
  { properties :=
      [("title", .text none {}), ("body", .text none { metadata := { notNull := true } }),
        ("author", .reference "#/users/id")]
    required }

def authorTables (required : List String) : List Table :=
  [{ name := "users", columns := [⟨"id", .integer, {}⟩] },
    { name := "posts"
      required
      columns :=
        [⟨"title", .string, {}⟩, ⟨"body", .string, { metadata := { notNull := true } }⟩]
      references := [⟨"author", .integer, "users", "id", .one⟩] }]

/-- The title of a post is required, its body is marked, and its author is neither. -/
theorem required_notNull_title :
    (authorDocument ["title"]).Distinct ∧
      compileTables (authorDocument ["title"]) = .ok (authorTables ["title"]) ∧
      ∃ database nodes,
        (authorDocument ["title"]).Becomes database nodes (authorTables ["title"]) ∧
        .top "posts" (postSchema ["title"]) ∈ nodes ∧
        List.Forall₂ (Node.RequiredNotNull .pg) nodes (authorTables ["title"]) := by
  have hdistinct : (authorDocument ["title"]).Distinct := by
    simp [authorDocument, Json.Distinct, Json.DistinctMembers, Json.DistinctItems, Keyed.Distinct,
      Keyed.keys]
  have htables : compileTables (authorDocument ["title"]) = .ok (authorTables ["title"]) := rfl
  have hread : Database.read (authorDocument ["title"]) =
      .ok [("users", writerSchema), ("posts", postSchema ["title"])] := rfl
  have hcompile : compile .pg (authorDocument ["title"]) =
      .ok ((Migration.ofTables .pg (authorTables ["title"])).script .pg) :=
    compile_of_compileTables htables
  obtain ⟨database, nodes, tables, hbecomes, -, -, hiff⟩ := required_notNull_iff hdistinct hcompile
  cases htables.symm.trans hbecomes.compiled
  cases hread.symm.trans hbecomes.read
  refine ⟨hdistinct, rfl, _, nodes, hbecomes, ?_, hiff.mpr ?_⟩
  · exact (hbecomes.visited _).mpr (.top (List.mem_cons_of_mem _ List.mem_cons_self))
  · intro node hnode name hname target hmem
    have hflat : ∀ top schema,
        (top, schema) ∈ [("users", writerSchema), ("posts", postSchema ["title"])] →
          (Node.top top schema).children = [] := by
      intro top schema htop
      rcases List.mem_cons.mp htop with husers | htop
      · cases husers
        rfl
      · cases List.mem_singleton.mp htop
        rfl
    obtain ⟨top, schema, htop, rfl⟩ := hnode.exists_top hflat
    rcases List.mem_cons.mp htop with husers | htop
    · cases husers
      cases hname
    · cases List.mem_singleton.mp htop
      cases List.mem_singleton.mp hname
      simp [Node.top, Node.properties, withBack, postSchema] at hmem

/-- The author of a post is required, and yet its column may be empty, in either dialect. -/
theorem required_notNull_not_author :
    (authorDocument ["title", "author"]).Distinct ∧
      compileTables (authorDocument ["title", "author"]) = .ok (authorTables ["title", "author"]) ∧
      Database.read (authorDocument ["title", "author"]) =
        .ok [("users", writerSchema), ("posts", postSchema ["title", "author"])] ∧
      ∀ dialect, ∃ table ∈ authorTables ["title", "author"], table.name = "posts" ∧
        ∃ definition, table.Declares dialect definition ∧ definition.name = "author" ∧
          ¬ definition.SaysNotNull dialect := by
  refine ⟨?_, rfl, rfl, ?_⟩
  · simp [authorDocument, Json.Distinct, Json.DistinctMembers, Json.DistinctItems, Keyed.Distinct,
      Keyed.keys]
  · intro dialect
    refine ⟨_, List.mem_cons_of_mem _ List.mem_cons_self, rfl,
      { name := "author", type := .integer }, ?_, rfl, ?_⟩
    · rw [Table.declares_iff]
      exact List.mem_append_right _ List.mem_cons_self
    · rw [ColumnDefinition.saysNotNull_iff]
      exact Bool.false_ne_true

end SchemaTables
