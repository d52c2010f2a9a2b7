import SchemaTables.Proofs.Schema.Completeness
import SchemaTables.Proofs.Schema.Keys
import SchemaTables.Proofs.Table.Nesting

/-!
# Tables of accepted documents

Every table of a database that is read without faults, at whatever depth it is nested, has
properties of different names and a key that is fit for one (`Database.wellKeyed_of_read`).  The
invariant carried down the nesting is that the schema of the table is meant by some part of the
document, or is the table of the items of a list.

Documents are those that can be read from a text: the members of each object have different names
(`Json.read_distinct`).
-/

namespace SchemaTables

open Json

/-- A part of a document declares the table, or the items of a list make it up. -/
inductive TableOf.Accepted : TableSchema → Prop
  | table {members raw : Keyed Json} {schema : TableSchema}
      (hmeans : MeansTable members raw schema) (hdistinct : (Json.object raw).Distinct) :
      Accepted schema
  | items {value : Json} {items : Property} (hmeans : Means value items)
      (hdistinct : value.Distinct) (hitems : items.isNested = false) :
      Accepted { properties := [("value", items)] }

namespace TableOf.Accepted

variable {schema : TableSchema}

theorem exists_means (h : Accepted schema) {name : String} {property : Property}
    (hmem : (name, property) ∈ schema.properties) :
    ∃ value, Means value property ∧ value.Distinct := by
  cases h with
  | table hmeans hdistinct =>
      cases hmeans with
      | mk hproperties hrules =>
          obtain ⟨value, hvalue, hproperty⟩ := hproperties.exists_of_mem hmem
          exact ⟨value, hproperty, hdistinct.of_mem hvalue⟩
  | items hmeans hdistinct hitems =>
      cases List.mem_singleton.mp hmem
      exact ⟨_, hmeans, hdistinct⟩

theorem of_nested {value : Json} {table : TableSchema} (hmeans : Means value (.nested table))
    (hdistinct : value.Distinct) : Accepted table := by
  cases hmeans with
  | nested href htype hattributes hstorage hproperties htable =>
      exact .table htable (hdistinct.get? hproperties)

theorem of_list {value : Json} {items : Property} (hmeans : Means value (.list items))
    (hdistinct : value.Distinct) : Accepted items.itemTable := by
  cases hmeans with
  | list href htype hattributes hstorage hitems hinner hmeans =>
      have hdistinct := hdistinct.get? hitems
      cases items with
      | nested table => exact of_nested hmeans hdistinct
      | list items =>
          cases hmeans with
          | list _ htype => exact absurd htype hinner
      | _ => exact .items hmeans hdistinct rfl

theorem of_mem_declared {node child : Node} (h : Accepted node.schema)
    (hchild : child ∈ node.declared) : Accepted child.schema := by
  obtain ⟨name, property, hmem, hchild⟩ := Node.mem_nodesOf.mp hchild
  obtain ⟨value, hmeans, hdistinct⟩ := h.exists_means hmem
  cases property with
  | nested table =>
      cases hchild
      exact of_nested hmeans hdistinct
  | list items =>
      cases hchild
      exact of_list hmeans hdistinct
  | _ => cases hchild

theorem wellKeyed (h : Accepted schema) : schema.WellKeyed := by
  cases h with
  | table hmeans hdistinct => exact hmeans.wellKeyed hdistinct
  | @items value items hmeans hdistinct hitems =>
      constructor
      · exact List.nodup_singleton _
      · intro key hkey
        cases hkey
      · intro property hmem
        simp [TableOf.keyOrId] at hmem
      · intro name property hmem hnested
        cases List.mem_singleton.mp hmem
        rw [hitems] at hnested
        cases hnested

end TableOf.Accepted

/-! ## The tables at the top -/

theorem MeansTables.keys_eq {properties : Keyed Json} {database : Database}
    (h : MeansTables properties database) : database.keys = properties.keys := by
  induction h with
  | nil => rfl
  | cons hhead _ ih => rw [Keyed.keys_cons, Keyed.keys_cons, hhead.1, ih]

theorem MeansTables.exists_of_mem {properties : Keyed Json} {database : Database}
    (h : MeansTables properties database) {name : String} {table : TableSchema}
    (hmem : (name, table) ∈ database) :
    ∃ value, (name, value) ∈ properties ∧ value.MeansTopTable table := by
  induction h with
  | nil => cases hmem
  | @cons member entry _ _ hhead _ ih =>
      rcases List.mem_cons.mp hmem with heq | hmem
      · subst heq
        obtain ⟨other, value⟩ := member
        cases hhead.1
        exact ⟨value, List.mem_cons_self, hhead.2⟩
      · obtain ⟨value, hvalue, hmeans⟩ := ih hmem
        exact ⟨value, List.mem_cons_of_mem _ hvalue, hmeans⟩

namespace Database

/-- The tables at the top have different names, and every table is well-keyed. -/
structure WellKeyed (database : Database) : Prop where
  distinct : Keyed.Distinct database
  declared : ∀ node, database.Declares node → node.schema.WellKeyed

variable {document : Json} {database : Database}

/-- The tables at the top of an accepted document have different names. -/
theorem distinct_of_read (hread : Database.read document = .ok database)
    (hdistinct : document.Distinct) : Keyed.Distinct database := by
  obtain ⟨-, members, properties, rfl, hmembers, htables⟩ := read_eq_ok_iff.mp hread
  rw [Keyed.Distinct, MeansTables.keys_eq htables]
  exact (hdistinct.get? hmembers).keyed

theorem Declares.accepted {node : Node} (h : database.Declares node)
    (hread : Database.read document = .ok database) (hdistinct : document.Distinct) :
    node.schema.Accepted := by
  induction h with
  | @top name schema hmem =>
      obtain ⟨-, members, properties, rfl, hmembers, htables⟩ := read_eq_ok_iff.mp hread
      obtain ⟨value, hvalue, tableMembers, raw, rfl, -, hraw, htable⟩ :=
        MeansTables.exists_of_mem htables hmem
      exact .table htable (((hdistinct.get? hmembers).of_mem hvalue).get? hraw)
  | inside _ hinner ih => exact ih.of_mem_declared hinner

theorem wellKeyed_of_read (hread : Database.read document = .ok database)
    (hdistinct : document.Distinct) : database.WellKeyed :=
  ⟨distinct_of_read hread hdistinct, fun _ h => (h.accepted hread hdistinct).wellKeyed⟩

end Database

end SchemaTables
