import SchemaTables.Proofs.Table.BackReference

/-!
# Keys are columns that references may point to

The key of a table that is read without faults is one of its own properties, and this property is
stored in a column of a type that references may point to.  A table in which others are nested has
such a key, whether it is declared or stands in under the name `id`.
-/

namespace SchemaTables

/-- The name is that of a property which is fit for a key, and whose column may be referred to. -/
def TableOf.HasKey (table : TableSchema) (key : String) : Prop :=
  ∃ property, Keyed.get? table.properties key = some property ∧ property.IsKey ∧
    ∃ column type, property.column? key = some column ∧
      KeyType.ofStorage? column.storage = some type

/-- The property that a key names, where there is one, is stored and may be referred to. -/
theorem TableOf.WellKeyed.hasKey {table : TableSchema} (h : table.WellKeyed)
    (hmem : table.keyOrId ∈ Keyed.keys table.properties) : table.HasKey table.keyOrId := by
  obtain ⟨property, hproperty⟩ := Keyed.mem_keys_iff.mp hmem
  have hkey : property.IsKey := h.isKey property hproperty
  obtain ⟨column, type, hcolumn, -, htype⟩ := hkey.exists_column table.keyOrId
  exact ⟨property, h.distinct.get?_of_mem hproperty, hkey, column, type, hcolumn, htype⟩

namespace Database

variable {document : Json} {database : Database} {node : Node}

/-- In every table of an accepted document, at whatever depth, a primary key names a property that
is fit for one and may be referred to; without a primary key the same holds of a property `id`; and
a table in which others are nested has such a key. -/
theorem keys_referenceable (hread : Database.read document = .ok database)
    (hdistinct : document.Distinct) (hnode : database.Declares node) :
    (∀ key, node.schema.primaryKey = some key → node.schema.HasKey key) ∧
      (node.schema.primaryKey = none → "id" ∈ Keyed.keys node.schema.properties →
        node.schema.HasKey "id") ∧
      (∀ name property, Keyed.get? node.schema.properties name = some property →
        property.isNested = true → node.schema.HasKey node.schema.keyOrId) := by
  have hkeyed : node.schema.WellKeyed := (wellKeyed_of_read hread hdistinct).declared node hnode
  refine ⟨?_, ?_, ?_⟩
  · intro key hkey
    have hname : node.schema.keyOrId = key := by rw [TableOf.keyOrId, hkey, Option.getD_some]
    have hmem : node.schema.keyOrId ∈ Keyed.keys node.schema.properties :=
      hname ▸ hkeyed.key_mem key hkey
    exact hname ▸ hkeyed.hasKey hmem
  · intro hnone hid
    have hname : node.schema.keyOrId = "id" := by rw [TableOf.keyOrId, hnone, Option.getD_none]
    exact hname ▸ hkeyed.hasKey (hname ▸ hid)
  · intro name property hproperty hnested
    exact hkeyed.hasKey (hkeyed.keyOrId_mem name property (Keyed.mem_of_get? hproperty) hnested)

end Database

/-- The settings of users are nested in them, and the users have a key for it. -/
theorem keys_referenceable_users :
    accounts.Declares (.top "users" usersSchema) ∧
      (Property.nested settingsSchema).isNested = true ∧ usersSchema.HasKey "email" := by
  have husers : accounts.Declares (.top "users" usersSchema) := .top List.mem_cons_self
  obtain ⟨-, -, hnested⟩ :=
    Database.keys_referenceable read_accountDocument accountDocument_distinct husers
  exact ⟨husers, rfl, hnested "settings" (.nested settingsSchema) rfl rfl⟩

end SchemaTables
