import SchemaTables.Proofs.Compilation
import SchemaTables.Proofs.Ddl.Definitions
import SchemaTables.Proofs.Table.Preservation

/-!
# Names of flat tables

The name of a flat table joins its path with `_`.  No two flat tables of an accepted document have
the same path, but a name in a path may hold `_` itself: a table `posts` inside of `users` and a
table `users_posts` at the top are both called `users_posts`.

The main statement is `tableNames_nodup_iff_separated`.  Cut at every `_`, a path consists of words,
and the names of tables, and with them the names of the tables that are created, are different
exactly if no two paths consist of the same words.
-/

namespace SchemaTables

/-- The words of a path: its names, each of them cut at every `_`. -/
def Place.words (place : Place) : List String := place.path.flatMap (Text.split '_')

namespace Database

variable {database : Database} {first second : Node}

/-- No two tables that flattening comes to have paths of the same words. -/
def Separated (database : Database) : Prop :=
  ∀ first second, database.Visits first → database.Visits second →
    first.place.words = second.place.words → first = second

/-- Two tables have the same name exactly if their paths consist of the same words. -/
theorem Declares.tableName_eq_iff (hfirst : database.Declares first)
    (hsecond : database.Declares second) :
    first.place.tableName = second.place.tableName ↔
      first.place.words = second.place.words :=
  @Text.join_eq_join_iff '_' _ _ hfirst.path_ne_nil hsecond.path_ne_nil

theorem NamesAvoid.separated (hnames : database.NamesAvoid '_') (hkeyed : database.WellKeyed) :
    database.Separated := by
  intro first second hfirst hsecond hwords
  have hname : first.place.tableName = second.place.tableName :=
    (hfirst.declares.tableName_eq_iff hsecond.declares).mpr hwords
  exact hfirst.declares.eq_of_tableName hsecond.declares hkeyed hnames hname

theorem names_eq_map_placedTables :
    database.tables.map (·.name) = database.placedTables.map fun placed => placed.table.name := by
  rw [tables, List.map_map]
  rfl

theorem names_nodup_of_separated (hkeyed : database.WellKeyed) (h : database.Separated) :
    (database.tables.map (·.name)).Nodup := by
  rw [names_eq_map_placedTables, List.Nodup, List.pairwise_map]
  refine (paths_pairwise hkeyed).imp_of_mem ?_
  intro a b ha hb hpath hname
  obtain ⟨first, hfirst, rfl⟩ := mem_placedTables.mp ha
  obtain ⟨second, hsecond, rfl⟩ := mem_placedTables.mp hb
  have hwords : first.place.words = second.place.words :=
    (hfirst.declares.tableName_eq_iff hsecond.declares).mp hname
  have heq : first = second := h first second hfirst hsecond hwords
  exact hpath (by rw [heq])

theorem separated_of_names_nodup (hkeyed : database.WellKeyed)
    (h : (database.tables.map (·.name)).Nodup) : database.Separated := by
  intro first second hfirst hsecond hwords
  have hname : first.place.tableName = second.place.tableName :=
    (hfirst.declares.tableName_eq_iff hsecond.declares).mpr hwords
  rw [names_eq_map_placedTables] at h
  have hplaced : first.placed = second.placed :=
    List.inj_on_of_nodup_map h (mem_placedTables.mpr ⟨first, hfirst, rfl⟩)
      (mem_placedTables.mpr ⟨second, hsecond, rfl⟩) hname
  have hpath : first.place.path = second.place.path := congrArg PlacedTable.path hplaced
  exact hfirst.declares.eq_of_path hsecond.declares hkeyed hpath

end Database

/-! ## Names of created tables -/

theorem names_of_resolveAll {linked : List LinkedTable} {tables : List Table}
    (h : resolveAll linked = .ok tables) : tables.map (·.name) = linked.map (·.name) := by
  rw [resolveAll_eq_ok h, List.map_map]
  rfl

/-- Where the names of tables are different, a reference has one candidate. -/
theorem Reference.PointsInto.filter_eq_singleton {tables : List Table} {reference : Reference}
    (h : reference.PointsInto tables) (hnodup : (tables.map (·.name)).Nodup) :
    ∃ target, tables.filter (fun table => table.name = reference.table) = [target] := by
  obtain ⟨target, column, htarget, -, -⟩ := h
  refine ⟨target, ?_⟩
  rw [← table?_name htarget]
  exact SchemaTables.filter_eq_singleton (List.pairwise_map.mp hnodup) (mem_of_table? htarget)

/-- The flat tables of an accepted document have different names, and so have the tables that its
statements create, exactly if no two paths consist of the same words.  A reference leads to the
first table of a name; where the names are different, there is no other.  They are if none of the
names that they are joined from holds `_`. -/
theorem tableNames_nodup_iff_separated {document : Json} {database : Database}
    (hread : Database.read document = .ok database) (hdistinct : document.Distinct) :
    ((database.tables.map (·.name)).Nodup ↔ database.Separated) ∧
      (database.NamesAvoid '_' → database.Separated) ∧
      ∀ dialect script, compile dialect document = .ok script →
        ∃ tables, compileTables document = .ok tables ∧
          script = (Migration.ofTables dialect tables).script dialect ∧
          ((createdNames (Migration.ofTables dialect tables).up).Nodup ↔ database.Separated) ∧
          ∀ table ∈ tables, ∀ reference ∈ table.references, reference.PointsInto tables ∧
            (database.Separated → ∃ target,
              tables.filter (fun other => other.name = reference.table) = [target]) := by
  have hkeyed := Database.wellKeyed_of_read hread hdistinct
  have hnames : (database.tables.map (·.name)).Nodup ↔ database.Separated :=
    ⟨Database.separated_of_names_nodup hkeyed, Database.names_nodup_of_separated hkeyed⟩
  refine ⟨hnames, fun havoid => havoid.separated hkeyed, ?_⟩
  intro dialect script hcompile
  obtain ⟨tables, htables, hscript⟩ := compile_eq_ok hcompile
  obtain ⟨found, hfound, hresolve⟩ := compileTables_eq_ok htables
  cases hread.symm.trans hfound
  refine ⟨tables, htables, hscript, ?_, ?_⟩
  · rw [Migration.createdNames_up, names_of_resolveAll hresolve]
    exact hnames
  · intro table htable reference hreference
    have hpoints := pointsInto_of_resolveAll hresolve table htable reference hreference
    refine ⟨hpoints, ?_⟩
    intro hseparated
    apply hpoints.filter_eq_singleton
    rw [names_of_resolveAll hresolve]
    exact hnames.mpr hseparated

theorem tableNames_nodup_accounts : (accounts.tables.map (·.name)).Nodup := by
  have hnames : accounts.NamesAvoid '_' := by decide
  obtain ⟨hnodup, hseparated, -⟩ :=
    tableNames_nodup_iff_separated read_accountDocument accountDocument_distinct
  exact hnodup.mpr (hseparated hnames)

/-! ## Two tables of one name -/

/-- Users with their posts, and a table beside them that is called like the posts of users. -/
def userPosts : Database :=
  [("users",
      { properties :=
          [("id", .primitive .integer {}),
            ("posts", .nested { properties := [("title", .text none {})] })] }),
    ("users_posts", { properties := [("id", .primitive .integer {})] })]

def userPostsDocument : Json :=
  .object
    [("type", .string "object"),
      ("properties", .object
        [("users", .object
          [("type", .string "object"),
            ("properties", .object
              [("id", .object [("type", .string "integer")]),
                ("posts", .object
                  [("type", .string "object"),
                    ("properties", .object
                      [("title", .object [("type", .string "string")])])])])]),
          ("users_posts", .object
            [("type", .string "object"),
              ("properties", .object [("id", .object [("type", .string "integer")])])])])]

def userPostsTables : List Table :=
  [{ name := "users_posts"
     columns := [⟨"title", .string, {}⟩]
     references := [⟨"users_id", .integer, "users", "id", .one⟩] },
    { name := "users", columns := [⟨"id", .integer, {}⟩] },
    { name := "users_posts", columns := [⟨"id", .integer, {}⟩] }]

theorem tableNames_repeat_userPosts :
    userPostsDocument.Distinct ∧
      Database.read userPostsDocument = .ok userPosts ∧
      ¬ (userPosts.tables.map (·.name)).Nodup ∧
      compileTables userPostsDocument = .ok userPostsTables ∧
      ∀ dialect, ¬ (createdNames (Migration.ofTables dialect userPostsTables).up).Nodup := by
  have hread : Database.read userPostsDocument = .ok userPosts := rfl
  have htables : compileTables userPostsDocument = .ok userPostsTables := rfl
  refine ⟨?_, hread, by decide, htables, ?_⟩
  · simp [userPostsDocument, Json.Distinct, Json.DistinctMembers, Keyed.Distinct, Keyed.keys]
  · intro dialect
    rw [Migration.createdNames_up]
    decide

end SchemaTables
