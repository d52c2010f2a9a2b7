import SchemaTables.Proofs.Compilation
import SchemaTables.Proofs.Schema.TableLists
import SchemaTables.Proofs.Table.TableNames

/-!
# Further tables

Tables that are declared behind those of a document leave everything in place that the document was
compiled to: each pass goes on where it ended, and so does the removal.

References are resolved among all tables, but to the first table of a name.  A reference that was
resolved before is therefore resolved to the same column, even if a further table has the name of
the table to which it leads (`Link.resolve_append`).
-/

namespace SchemaTables

/-- The second document has further tables behind those of the first one. -/
def Json.AppendsTables (document extended : Json) : Prop :=
  ∃ tables more, document.get? "properties" = some (.object tables) ∧
    extended.get? "properties" = some (.object (tables ++ more))

/-- The texts of the first pass. -/
def firstPass (dialect : Dialect) (tables : List Table) : List String :=
  (tables.flatMap (Table.creation dialect)).map (Statement.text dialect)

/-- The texts of the second pass. -/
def secondPass (dialect : Dialect) (tables : List Table) : List String :=
  (tables.flatMap (Table.connection dialect)).map (Statement.text dialect)

theorem up_script (dialect : Dialect) (tables : List Table) :
    ((Migration.ofTables dialect tables).script dialect).up =
      firstPass dialect tables ++ secondPass dialect tables := List.map_append

theorem firstPass_append (dialect : Dialect) (tables more : List Table) :
    firstPass dialect (tables ++ more) = firstPass dialect tables ++ firstPass dialect more := by
  rw [firstPass, List.flatMap_append, List.map_append]
  rfl

theorem secondPass_append (dialect : Dialect) (tables more : List Table) :
    secondPass dialect (tables ++ more) = secondPass dialect tables ++ secondPass dialect more := by
  rw [secondPass, List.flatMap_append, List.map_append]
  rfl

theorem down_script_append (dialect : Dialect) (tables more : List Table) :
    ((Migration.ofTables dialect (tables ++ more)).script dialect).down =
      ((Migration.ofTables dialect tables).script dialect).down ++
        ((Migration.ofTables dialect more).script dialect).down := by
  simp [Migration.script, Migration.ofTables]

/-! ## Reading and flattening -/

/-- The further document is read as the database of the first one with further tables behind. -/
theorem Json.AppendsTables.read {document extended : Json} {database longer : Database}
    (h : document.AppendsTables extended) (hread : Database.read document = .ok database)
    (hlonger : Database.read extended = .ok longer) :
    ∃ more, longer = database ++ more := by
  obtain ⟨properties, further, hproperties, hfurther⟩ := h
  obtain ⟨-, members, found, rfl, hfound, htables⟩ := Database.read_eq_ok_iff.mp hread
  obtain ⟨-, others, all, rfl, hall, hothers⟩ := Database.read_eq_ok_iff.mp hlonger
  cases hfound.symm.trans hproperties
  cases hall.symm.trans hfurther
  have hfirst : readTables properties = ⟨database, []⟩ := readTables_eq_iff.mpr htables
  have hall : readTables (properties ++ further) = ⟨longer, []⟩ := readTables_eq_iff.mpr hothers
  rw [readTables_append, hfirst] at hall
  exact ⟨(readTables further).value, (congrArg Report.value hall).symm⟩

theorem Database.tables_append (database more : Database) :
    Database.tables (database ++ more) = database.tables ++ more.tables := by
  rw [tables, tables, tables, placedTables_eq, placedTables_eq, placedTables_eq,
    List.flatMap_append, List.map_append]

/-! ## Resolving -/

theorem table?_append {tables : List (TableWith ρ)} {name : String} {table : TableWith ρ}
    (h : table? tables name = some table) (more : List (TableWith ρ)) :
    table? (tables ++ more) name = some table := by
  rw [table?] at h ⊢
  rw [List.find?_append, h, Option.some_or]

/-- A reference that is resolved among some tables is resolved to the same column if there are
further ones behind. -/
theorem Link.resolve_append {tables : List LinkedTable} {link : Link} {reference : Reference}
    (h : link.resolve tables = .ok reference) (more : List LinkedTable) :
    link.resolve (tables ++ more) = .ok reference := by
  cases htable : table? tables (Target.ofPath link.target).table with
  | none => simp [resolve, htable] at h
  | some table =>
      -- the first table of the name is found among the tables, before any further one
      rw [← h, resolve, resolve, htable, table?_append htable]

theorem TableWith.resolve_append {linked : List LinkedTable} {tables : List Table}
    (h : resolveAll linked = .ok tables) (more : List LinkedTable) {table : LinkedTable}
    (htable : table ∈ linked) : table.resolve (linked ++ more) = table.resolve linked := by
  have hlinks : ∀ link ∈ table.references,
      (link.resolve (linked ++ more)).toOption = (link.resolve linked).toOption := by
    intro link hlink
    obtain ⟨reference, hreference⟩ := exists_resolve_of_resolveAll h htable hlink
    rw [hreference, Link.resolve_append hreference]
  rw [resolve, resolve, List.filterMap_congr hlinks]

theorem resolveAll_append {linked more : List LinkedTable} {tables all : List Table}
    (h : resolveAll linked = .ok tables) (hall : resolveAll (linked ++ more) = .ok all) :
    ∃ further, all = tables ++ further := by
  refine ⟨more.map fun table => table.resolve (linked ++ more), ?_⟩
  rw [resolveAll_eq_ok hall, resolveAll_eq_ok h, List.map_append]
  congr 1
  apply List.map_congr_left
  intro table htable
  exact TableWith.resolve_append h more htable

/-! ## Compiling -/

/-- Of two accepted documents of which the second one has further tables behind those of the first,
the second is compiled to the tables of the first with further ones behind: each pass over the
tables is a pass over those of the first document and then over the further ones, and what removes
the tables begins with what removes those of the first document. -/
theorem compile_appended {document extended : Json} {dialect : Dialect} {script longer : Script}
    (happends : document.AppendsTables extended) (hcompile : compile dialect document = .ok script)
    (hextended : compile dialect extended = .ok longer) :
    ∃ tables more, compileTables document = .ok tables ∧
      compileTables extended = .ok (tables ++ more) ∧
      script.up = firstPass dialect tables ++ secondPass dialect tables ∧
      longer.up = firstPass dialect tables ++ firstPass dialect more ++
        secondPass dialect tables ++ secondPass dialect more ∧
      script.down <+: longer.down := by
  obtain ⟨tables, htables, rfl⟩ := compile_eq_ok hcompile
  obtain ⟨all, hall, rfl⟩ := compile_eq_ok hextended
  obtain ⟨database, hread, hresolve⟩ := compileTables_eq_ok htables
  obtain ⟨larger, hlarger, hresolveAll⟩ := compileTables_eq_ok hall
  obtain ⟨added, rfl⟩ := happends.read hread hlarger
  rw [Database.tables_append] at hresolveAll
  obtain ⟨more, rfl⟩ := resolveAll_append hresolve hresolveAll
  refine ⟨tables, more, htables, hall, up_script dialect tables, ?_, ?_⟩
  · rw [up_script, firstPass_append, secondPass_append, List.append_assoc, List.append_assoc,
      List.append_assoc]
  · rw [down_script_append]
    exact List.prefix_append _ _

/-! ## Likes -/

/-- Posts of users, under a name of their own, and likes that refer to them. -/
def likesMembers : Keyed Json :=
  [("users_posts", .object
      [("type", .string "object"),
        ("properties", .object [("id", .object [("type", .string "integer")])])]),
    ("likes", .object
      [("type", .string "object"),
        ("properties", .object [("post", .object [("$ref", .string "#/users_posts/id")])])])]

/-- Users with posts inside, which become a second table `users_posts`. -/
def nestedPostsMembers : Keyed Json :=
  [("users", .object
      [("type", .string "object"),
        ("properties", .object
          [("id", .object [("type", .string "integer")]),
            ("posts", .object
              [("type", .string "object"),
                ("properties", .object [("title", .object [("type", .string "string")])])])])])]

def documentOf (members : Keyed Json) : Json :=
  .object [("type", .string "object"), ("properties", .object members)]

def likesTables : List Table :=
  [{ name := "users_posts", columns := [⟨"id", .integer, {}⟩] },
    { name := "likes", references := [⟨"post", .integer, "users_posts", "id", .one⟩] }]

/-- The tables of the users behind them. -/
def nestedPostsTables : List Table :=
  [{ name := "users_posts"
     columns := [⟨"title", .string, {}⟩]
     references := [⟨"users_id", .integer, "users", "id", .one⟩] },
    { name := "users", columns := [⟨"id", .integer, {}⟩] }]

theorem compile_appended_likes :
    (documentOf likesMembers).AppendsTables (documentOf (likesMembers ++ nestedPostsMembers)) ∧
      compileTables (documentOf likesMembers) = .ok likesTables ∧
      compileTables (documentOf (likesMembers ++ nestedPostsMembers)) =
        .ok (likesTables ++ nestedPostsTables) ∧
      ((Migration.ofTables .pg likesTables).script .pg).down <+:
        ((Migration.ofTables .pg (likesTables ++ nestedPostsTables)).script .pg).down := by
  have happends : (documentOf likesMembers).AppendsTables
      (documentOf (likesMembers ++ nestedPostsMembers)) :=
    ⟨likesMembers, nestedPostsMembers, rfl, rfl⟩
  have htables : compileTables (documentOf likesMembers) = .ok likesTables := rfl
  have hall : compileTables (documentOf (likesMembers ++ nestedPostsMembers)) =
      .ok (likesTables ++ nestedPostsTables) := rfl
  have hcompile : compile .pg (documentOf likesMembers) =
      .ok ((Migration.ofTables .pg likesTables).script .pg) := compile_of_compileTables htables
  obtain ⟨-, -, -, -, -, -, hdown⟩ :=
    compile_appended happends hcompile (compile_of_compileTables hall)
  exact ⟨happends, htables, hall, hdown⟩

end SchemaTables
