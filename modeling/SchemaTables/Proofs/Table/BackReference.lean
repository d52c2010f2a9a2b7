import SchemaTables.Ddl.Migration
import SchemaTables.Proofs.Table.Paths
import SchemaTables.Proofs.Table.Resolution

/-!
# References back

A nested table refers back to the key of the table around it by a path that is put together from
names.  Where no name holds a character of the two that separate names, this path leads to the table
around it and to no other, and to the column that is the primary key there.
-/

namespace SchemaTables

/-- How many rows of the table of a property may refer to one row of the table around it. -/
def Property.cardinality : Property → Cardinality
  | .list _ => .many
  | _ => .one

/-! ## Look-ups -/

theorem find?_eq_some_of_unique {α : Type u} {p : α → Bool} {list : List α} {a : α}
    (hmem : a ∈ list) (ha : p a = true) (hunique : ∀ b ∈ list, p b = true → b = a) :
    list.find? p = some a := by
  cases hfind : list.find? p with
  | none =>
      rw [List.find?_eq_none] at hfind
      exact absurd ha (hfind a hmem)
  | some b => rw [hunique b (List.mem_of_find?_eq_some hfind) (List.find?_some hfind)]

theorem Node.column?_eq_some {node : Node} {name : String} {property : Property} {column : Column}
    (hkept : ¬ node.Overwrites) (hdistinct : Keyed.Distinct node.schema.properties)
    (hmem : (name, property) ∈ node.schema.properties)
    (hcolumn : property.column? name = some column) :
    node.table.column? name = some column := by
  have hmem := mem_properties_of_declared hkept hmem
  have hname := Property.column?_name hcolumn
  subst hname
  apply find?_eq_some_of_unique
  · exact mem_columns.mpr ⟨property, hmem, hcolumn⟩
  · exact beq_self_eq_true column.name
  · intro other hother hsame
    obtain ⟨stored, hentry, hstored⟩ := mem_columns.mp hother
    rw [eq_of_beq hsame] at hentry hstored
    rw [(properties_distinct hdistinct).eq_of_mem hentry hmem] at hstored
    exact Option.some.inj (hstored.symm.trans hcolumn)

theorem Property.IsKey.exists_column {property : Property} (h : property.IsKey) (name : String) :
    ∃ column type, property.column? name = some column ∧ column.name = name ∧
      KeyType.ofStorage? column.storage = some type := by
  cases property with
  | primitive kind attributes =>
      cases kind with
      | boolean => exact ⟨_, .boolean, rfl, rfl, rfl⟩
      | integer => exact ⟨_, .integer, rfl, rfl, rfl⟩
      | number => exact h.elim
  | text format attributes =>
      cases format with
      | none => exact ⟨_, .string, rfl, rfl, rfl⟩
      | some format =>
          rw [IsKey] at h
          cases format with
          | uuid => exact ⟨_, .uuid, rfl, rfl, rfl⟩
          | email => exact ⟨_, .email, rfl, rfl, rfl⟩
          | _ => cases h
  | _ => exact h.elim

/-! ## The path of a reference back -/

/-- The path that is written for a key of a table leads to that table and key. -/
theorem Target.ofPath_backReference {place : Place} {key : String} (hne : place.path ≠ [])
    (hpath : ∀ segment ∈ place.path, Text.Avoids '/' segment) (hkey : Text.Avoids '/' key) :
    Target.ofPath (place.backReference key).target = ⟨place.tableName, key⟩ := by
  have htarget : (place.backReference key).target =
      Text.join '/'.toString (("#" :: place.path) ++ [key]) := by
    rw [Text.join_append_singleton _ (by simp)]
    obtain ⟨first, rest, hcons⟩ := List.exists_cons_of_ne_nil hne
    rw [hcons, Text.join_cons_cons, ← hcons]
    rfl
  have havoids : ∀ segment ∈ ("#" :: place.path) ++ [key], Text.Avoids '/' segment := by
    intro segment hsegment
    rcases List.mem_append.mp hsegment with hmem | hmem
    · rcases List.mem_cons.mp hmem with rfl | hmem
      · decide
      · exact hpath segment hmem
    · rw [List.mem_singleton.mp hmem]
      exact hkey
  rw [ofPath, htarget, Text.split_join (by simp) havoids, List.cons_append, List.drop_one,
    List.tail_cons, ofSegments, List.dropLast_concat]
  simp [Place.tableName]

namespace Database

variable {database : Database} {node outer inner : Node}

/-- A reference back has the name of no property that avoids the character joining names. -/
theorem Declares.not_overwrites (h : database.Declares node) (hnames : database.NamesAvoid '_') :
    ¬ node.Overwrites := by
  rintro ⟨back, property, hback, hmem, -⟩
  have havoids := h.avoids_name hnames (by decide) (Keyed.mem_keys_of_mem hmem)
  cases h with
  | top _ => cases hback
  | inside _ hinner =>
      obtain ⟨name, property, -, hchild⟩ := Node.mem_nodesOf.mp hinner
      rw [Node.child?_back? hchild] at hback
      cases hback
      exact backReference_name_ne havoids rfl

theorem Declares.table?_eq_some (h : database.Declares node)
    (hkeyed : database.WellKeyed) (hnames : database.NamesAvoid '_') :
    table? database.tables node.place.tableName = some node.table := by
  have hvisits := h.visits fun node h => h.not_overwrites hnames
  apply find?_eq_some_of_unique
  · exact mem_tables.mpr ⟨node, hvisits, rfl⟩
  · simp [Node.table]
  · intro other hother hname
    obtain ⟨second, hsecond, rfl⟩ := mem_tables.mp hother
    have heq : second.place.tableName = node.place.tableName := by
      simpa [Node.table] using hname
    rw [hsecond.declares.eq_of_tableName h hkeyed hnames heq]

/-- A table in which another is nested declares the key that the other refers to. -/
theorem Declares.keyOrId_mem (h : database.Declares outer) (hkeyed : database.WellKeyed)
    (hinner : inner ∈ outer.declared) :
    outer.schema.keyOrId ∈ Keyed.keys outer.schema.properties := by
  obtain ⟨name, property, hmem, hchild⟩ := Node.mem_nodesOf.mp hinner
  refine (hkeyed.declared outer h).keyOrId_mem name property hmem ?_
  cases property <;> first | rfl | cases hchild

/-- A table in which another is nested has a stored key, of a type that references may point to. -/
theorem Declares.exists_key (h : database.Declares outer) (hkeyed : database.WellKeyed)
    (hnames : database.NamesAvoid '_') (hinner : inner ∈ outer.declared) :
    ∃ column type, outer.table.column? outer.schema.keyOrId = some column ∧
      column.name = outer.schema.keyOrId ∧ KeyType.ofStorage? column.storage = some type := by
  have houter := hkeyed.declared outer h
  obtain ⟨key, hkey⟩ := Keyed.mem_keys_iff.mp (h.keyOrId_mem hkeyed hinner)
  obtain ⟨column, type, hcolumn, hname, htype⟩ := (houter.isKey key hkey).exists_column _
  exact ⟨column, type,
    Node.column?_eq_some (h.not_overwrites hnames) houter.distinct hkey hcolumn, hname, htype⟩

theorem Declares.resolve_backReference (h : database.Declares outer) (hkeyed : database.WellKeyed)
    (hunderscore : database.NamesAvoid '_') (hslash : database.NamesAvoid '/')
    (hinner : inner ∈ outer.declared) :
    ∃ column type, outer.table.column? outer.schema.keyOrId = some column ∧
      KeyType.ofStorage? column.storage = some type ∧
        (inner.place.link outer.backReference.name outer.backReference.target).resolve
            database.tables =
          .ok ⟨outer.backReference.name, type, outer.table.name, outer.schema.keyOrId,
            inner.place.cardinality⟩ := by
  obtain ⟨column, type, hcolumn, hname, htype⟩ :=
    h.exists_key hkeyed hunderscore hinner
  have hkey : Text.Avoids '/' outer.schema.keyOrId :=
    h.avoids_name hslash (by decide) (h.keyOrId_mem hkeyed hinner)
  have htarget : Target.ofPath outer.backReference.target =
      ⟨outer.place.tableName, outer.schema.keyOrId⟩ :=
    Target.ofPath_backReference h.path_ne_nil (h.avoids_path hslash (by decide)) hkey
  refine ⟨column, type, hcolumn, htype, ?_⟩
  simp only [Link.resolve, Place.link, htarget, h.table?_eq_some hkeyed hunderscore,
    hcolumn, htype, hname]

/-- The key that the reference back leads to is the primary key of the table around it. -/
theorem Declares.primaryKey_eq (h : database.Declares outer) (hkeyed : database.WellKeyed)
    (hnames : database.NamesAvoid '_') (hinner : inner ∈ outer.declared) (dialect : Dialect)
    (tables : List LinkedTable) :
    ((outer.table.resolve tables).definition dialect).primaryKey = some outer.schema.keyOrId := by
  obtain ⟨column, type, hcolumn, hname, -⟩ := h.exists_key hkeyed hnames hinner
  have hkey : ((outer.table.resolve tables).definition dialect).primaryKey =
      (outer.table.resolve tables).key? := rfl
  rw [hkey, Table.key?]
  cases hprimary : outer.schema.primaryKey with
  | some key => simp [TableWith.resolve, Node.table, hprimary, TableOf.keyOrId]
  | none =>
      have hid : outer.schema.keyOrId = "id" := by rw [TableOf.keyOrId, hprimary]; rfl
      rw [hid] at hcolumn hname ⊢
      have hcolumns : (outer.table.resolve tables).column? "id" = some column := hcolumn
      have hnone : (outer.table.resolve tables).primaryKey = none := hprimary
      rw [hnone, hcolumns, Option.map_some, hname]

end Database

/-! ## What remains unresolved -/

/-- Where all references back can be resolved, what cannot be was declared. -/
theorem Database.exists_declared_of_mem_referenceDiagnostics {database : Database}
    (hback : ∀ node, database.Visits node → ∀ link, node.backLink? = some link →
      ∃ reference, link.resolve database.tables = .ok reference)
    {diagnostic : Diagnostic} (h : diagnostic ∈ referenceDiagnostics database.tables) :
    ∃ node name target, database.Declares node ∧
      (name, Property.reference target) ∈ node.schema.properties ∧
        diagnostic.path = node.place.origin ++ [name] ∧
          (node.place.link name target).resolve database.tables = .error diagnostic.fault := by
  obtain ⟨table, htable, link, hlink, fault, hresolve, rfl⟩ := mem_referenceDiagnostics.mp h
  obtain ⟨node, hvisits, rfl⟩ := Database.mem_tables.mp htable
  obtain ⟨property, hmem, hlinked⟩ := Node.mem_links.mp hlink
  cases property with
  | reference target =>
      have hlinked : node.place.link link.name target = link := Option.some.inj hlinked
      rcases Node.mem_properties hmem with hdeclared | ⟨back, hsome, hname, htarget⟩
      · refine ⟨node, link.name, target, hvisits.declares, hdeclared, ?_, ?_⟩
        · rw [← hlinked]
          rfl
        · rw [hlinked]
          exact hresolve
      · cases htarget
        have hbackLink : node.backLink? = some link := by
          rw [Node.backLink?, hsome, Option.map_some, ← hname, hlinked]
        obtain ⟨reference, hreference⟩ := hback node hvisits link hbackLink
        cases hresolve.symm.trans hreference
  | _ => cases hlinked

/-- Where no name holds a character that separates names, the reference back of a nested table
leads to the key of the table around it, and what cannot be resolved was declared. -/
theorem backReference_resolves_to_enclosing_key {document : Json} {database : Database}
    (hread : Database.read document = .ok database) (hdistinct : document.Distinct)
    (hunderscore : database.NamesAvoid '_') (hslash : database.NamesAvoid '/') :
    (∀ outer name property inner, database.Declares outer →
      (name, property) ∈ outer.schema.properties → outer.child? name property = some inner →
        ∃ link column type, inner.backLink? = some link ∧
          table? database.tables inner.table.name = some inner.table ∧
          link ∈ inner.table.references ∧
          table? database.tables outer.table.name = some outer.table ∧
          outer.table.column? outer.schema.keyOrId = some column ∧
          link.resolve database.tables =
            .ok ⟨link.name, type, outer.table.name, outer.schema.keyOrId,
              property.cardinality⟩ ∧
          type.storage = column.storage ∧
          ∀ dialect, ((outer.table.resolve database.tables).definition dialect).primaryKey =
            some outer.schema.keyOrId) ∧
      ∀ diagnostics, resolveAll database.tables = .error diagnostics →
        ∀ diagnostic ∈ diagnostics, ∃ node name target, database.Declares node ∧
          (name, Property.reference target) ∈ node.schema.properties ∧
          diagnostic.path = node.place.origin ++ [name] ∧
          (node.place.link name target).resolve database.tables = .error diagnostic.fault := by
  have hkeyed := Database.wellKeyed_of_read hread hdistinct
  constructor
  · intro outer name property inner houter hmem hchild
    have hinner : inner ∈ outer.declared := Node.mem_nodesOf.mpr ⟨name, property, hmem, hchild⟩
    obtain ⟨column, type, hcolumn, htype, hresolve⟩ :=
      houter.resolve_backReference hkeyed hunderscore hslash hinner
    have hlink : inner.backLink? =
        some (inner.place.link outer.backReference.name outer.backReference.target) := by
      rw [Node.backLink?, Node.child?_back? hchild]
      rfl
    have hcardinality : inner.place.cardinality = property.cardinality := by
      cases property <;> cases hchild <;> rfl
    rw [hcardinality] at hresolve
    exact ⟨_, column, type, hlink,
      (houter.inside hinner).table?_eq_some hkeyed hunderscore,
      Node.mem_links_of_backLink? hlink,
      houter.table?_eq_some hkeyed hunderscore, hcolumn, hresolve,
      KeyType.ofStorage?_eq_some_iff.mp htype,
      fun dialect => houter.primaryKey_eq hkeyed hunderscore hinner dialect _⟩
  · intro diagnostics hdiagnostics diagnostic hmem
    rw [resolveAll_eq_error hdiagnostics] at hmem
    refine Database.exists_declared_of_mem_referenceDiagnostics ?_ hmem
    intro node hvisits link hlink
    cases hvisits with
    | top _ => cases hlink
    | @inside outer _ houter hinner =>
        have hinner := Node.mem_declared_of_mem_children hinner
        obtain ⟨name, property, -, hchild⟩ := Node.mem_nodesOf.mp hinner
        obtain ⟨column, type, -, -, hresolve⟩ :=
          houter.declares.resolve_backReference hkeyed hunderscore hslash hinner
        rw [Node.backLink?, Node.child?_back? hchild] at hlink
        cases hlink
        exact ⟨_, hresolve⟩

/-! ## Accounts -/

/-- The settings of a user, with a choice and a list of texts. -/
def settingsSchema : TableSchema :=
  { properties :=
      [("id", .primitive .integer {}),
        ("theme", .text none { choices := some [.text "dark", .text "light"] }),
        ("panels", .list (.text none {}))] }

def usersSchema : TableSchema :=
  { properties := [("email", .text (some .email) {}), ("settings", .nested settingsSchema)]
    primaryKey := some "email" }

/-- Users and posts that refer to them. -/
def accounts : Database :=
  [("users", usersSchema), ("posts", { properties := [("author", .reference "#/users/email")] })]

def accountDocument : Json :=
  .object
    [("type", .string "object"),
      ("properties", .object
        [("users", .object
          [("type", .string "object"),
            ("x-primary-key", .string "email"),
            ("properties", .object
              [("email", .object [("type", .string "string"), ("format", .string "email")]),
                ("settings", .object
                  [("type", .string "object"),
                    ("properties", .object
                      [("id", .object [("type", .string "integer")]),
                        ("theme", .object
                          [("type", .string "string"),
                            ("enum", .array [.string "dark", .string "light"])]),
                        ("panels", .object
                          [("type", .string "array"),
                            ("items", .object [("type", .string "string")])])])])])]),
          ("posts", .object
            [("type", .string "object"),
              ("properties", .object
                [("author", .object [("$ref", .string "#/users/email")])])])])]

theorem read_accountDocument : Database.read accountDocument = .ok accounts := rfl

theorem accountDocument_distinct : accountDocument.Distinct := by
  simp [accountDocument, Json.Distinct, Json.DistinctItems, Json.DistinctMembers, Keyed.Distinct,
    Keyed.keys]

def settingsNode : Node :=
  ⟨(Place.top "users").nested "settings", some ⟨"users_email", "#/users/email"⟩, settingsSchema⟩

def panelsNode : Node :=
  ⟨settingsNode.place.items "panels", some ⟨"users_settings_id", "#/users/settings/id"⟩,
    { properties := [("value", .text none {})] }⟩

/-- The panels of the settings refer back to the key of the settings. -/
theorem backReference_resolves_to_enclosing_key_panels :
    ∃ link ∈ panelsNode.table.references,
      link.resolve accounts.tables =
        .ok ⟨"users_settings_id", .integer, "users_settings", "id", .many⟩ := by
  have hsettings : accounts.Declares settingsNode := by
    have husers : accounts.Declares (.top "users" usersSchema) := .top List.mem_cons_self
    refine .inside husers (Node.mem_nodesOf.mpr ?_)
    exact ⟨"settings", .nested settingsSchema, List.mem_cons_of_mem _ List.mem_cons_self, rfl⟩
  obtain ⟨link, column, type, hback, -, hlink, -, hcolumn, hresolve, htype, -⟩ :=
    (backReference_resolves_to_enclosing_key read_accountDocument accountDocument_distinct
      (by decide) (by decide)).1 settingsNode "panels" (.list (.text none {})) panelsNode hsettings
      (by simp [settingsNode, settingsSchema]) rfl
  cases hback
  cases hcolumn
  have hinteger : KeyType.ofStorage? .integer = some type :=
    KeyType.ofStorage?_eq_some_iff.mpr htype
  cases hinteger
  exact ⟨_, hlink, hresolve⟩

end SchemaTables
