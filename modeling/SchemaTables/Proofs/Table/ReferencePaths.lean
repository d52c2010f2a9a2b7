import SchemaTables.Proofs.Json.Paths
import SchemaTables.Proofs.Table.Acceptance
import SchemaTables.Proofs.Table.Resolution

/-!
# Paths to references

A reference that cannot be resolved is reported with a path, which is put together from the places
of the tables around it.  It leads to the reference in the document if that is a property of a table
whose properties lie in the document.  The table of a list of plain items has none there: its column
`value` and its reference back are made up, and the path goes on behind the items, where no
reference is (`reference_path_locates_iff`).
-/

namespace SchemaTables

namespace Json

/-- The value is an object that refers to the target. -/
def RefersTo (value : Json) (target : String) : Prop :=
  ∃ members, value = .object members ∧ stringMember? members "$ref" = some target

/-- The path leads to an object that refers to the target. -/
def RefersAt (document : Json) (path : List String) (target : String) : Prop :=
  ∃ value, document.at? path = some value ∧ value.RefersTo target

variable {document value : Json} {path : List String} {target : String}

theorem refersAt_append_iff (h : document.at? path = some value) (rest : List String) :
    document.RefersAt (path ++ rest) target ↔ value.RefersAt rest target := by
  rw [RefersAt, at?_append_of_at? h, RefersAt]

/-- What refers to a target is read as a reference to it. -/
theorem Means.refersTo_iff {property : Property} (h : Means value property) :
    value.RefersTo target ↔ property = .reference target := by
  constructor
  · rintro ⟨members, rfl, htarget⟩
    cases h with
    | reference href =>
        cases href.symm.trans htarget
        rfl
    | primitive href | text href | document href | nested href | list href =>
        cases href.symm.trans htarget
  · rintro rfl
    cases h with
    | reference href => exact ⟨_, rfl, href⟩

end Json

open Json

/-! ## Tables in the document -/

namespace Node

variable {node : Node} {document : Json}

/-- The properties of the table lie in the document at its origin. -/
def LiesIn (node : Node) (document : Json) : Prop :=
  ∃ raw, document.at? node.place.origin = some (.object raw) ∧ (Json.object raw).Distinct ∧
    MeansAll raw node.schema.properties

/-- The table is that of plain items, which lie in the document before its origin. -/
def ListsIn (node : Node) (document : Json) (place : List String) (part : Json) : Prop :=
  node.place.origin = place ++ ["items", "properties"] ∧
    document.at? (place ++ ["items"]) = some part ∧
      ∃ items, node.schema.properties = [("value", items)] ∧ items.isNested = false ∧
        Means part items

theorem LiesIn.exists_of_mem (h : node.LiesIn document) {name : String} {property : Property}
    (hmem : (name, property) ∈ node.schema.properties) :
    ∃ value, document.at? (node.place.origin ++ [name]) = some value ∧ value.Distinct ∧
      Means value property := by
  obtain ⟨raw, horigin, hdistinct, hmeans⟩ := h
  obtain ⟨value, hvalue, hproperty⟩ := hmeans.exists_of_mem hmem
  exact ⟨value, at?_append_member horigin (hdistinct.keyed.get?_of_mem hvalue),
    hdistinct.of_mem hvalue, hproperty⟩

/-- Behind the origin of such a table, its own references are found and no others. -/
theorem LiesIn.refersAt_iff (h : node.LiesIn document) (name target : String) :
    document.RefersAt (node.place.origin ++ [name]) target ↔
      (name, .reference target) ∈ node.schema.properties := by
  constructor
  · rintro ⟨value, hvalue, hrefers⟩
    obtain ⟨raw, horigin, hdistinct, hmeans⟩ := id h
    -- a member of that name is read as a property of that name
    have hraw : Keyed.get? raw name = some value := by
      rw [at?_append_of_at? horigin, at?, step?] at hvalue
      obtain ⟨found, hfound, hrest⟩ := Option.bind_eq_some_iff.mp hvalue
      cases hrest
      exact hfound
    have hname : name ∈ Keyed.keys node.schema.properties := by
      rw [hmeans.keys_eq]
      exact Keyed.mem_keys_of_mem (Keyed.mem_of_get? hraw)
    obtain ⟨property, hproperty⟩ := Keyed.mem_keys_iff.mp hname
    obtain ⟨other, hother, -, hotherMeans⟩ := h.exists_of_mem hproperty
    cases hvalue.symm.trans hother
    rw [← hotherMeans.refersTo_iff.mp hrefers]
    exact hproperty
  · intro hmem
    obtain ⟨value, hvalue, -, hmeans⟩ := h.exists_of_mem hmem
    exact ⟨value, hvalue, hmeans.refersTo_iff.mpr rfl⟩

/-- A table that a part of the document declares lies there. -/
theorem liesIn_of_means {value : Json} {place : List String}
    (hvalue : document.at? place = some value) (hdistinct : value.Distinct)
    (hmeans : Means value (.nested node.schema))
    (horigin : node.place.origin = place ++ ["properties"]) : node.LiesIn document := by
  rcases node with ⟨nodePlace, back?, schema⟩
  cases hmeans with
  | @nested members raw attributes table href htype hattributes hstorage hproperties htable =>
      cases htable with
      | mk hall hrules =>
          refine ⟨raw, ?_, hdistinct.get? hproperties, hall⟩
          rw [horigin]
          exact at?_append_member hvalue hproperties

/-- What is nested in a table in the document lies there too, if it is no list of plain items. -/
theorem LiesIn.child (h : node.LiesIn document) {name : String} {property : Property} {inner : Node}
    (hmem : (name, property) ∈ node.schema.properties)
    (hchild : node.child? name property = some inner) :
    inner.LiesIn document ∨ ∃ place part, inner.ListsIn document place part := by
  obtain ⟨value, hvalue, hdistinct, hmeans⟩ := h.exists_of_mem hmem
  cases property with
  | nested table =>
      cases hchild
      exact Or.inl (liesIn_of_means hvalue hdistinct hmeans (by simp [Place.nested]))
  | list items =>
      cases hchild
      cases hmeans with
      | list href htype hattributes hstorage hitems hnested hmeans =>
          have hpart := at?_append_member hvalue hitems
          cases items with
          | nested table =>
              have horigin : (node.place.items name).origin =
                  node.place.origin ++ [name] ++ ["items"] ++ ["properties"] := by
                simp [Place.items]
              exact Or.inl (liesIn_of_means hpart (hdistinct.get? hitems) hmeans horigin)
          | list _ =>
              -- items that are lists are refused
              cases hmeans with
              | list _ htype => exact absurd htype hnested
          | _ =>
              have horigin : (node.place.items name).origin =
                  node.place.origin ++ [name] ++ ["items", "properties"] := by
                simp [Place.items]
              exact Or.inr ⟨_, _, horigin, hpart, _, rfl, rfl, hmeans⟩
  | _ => cases hchild

/-- No table is nested in plain items. -/
theorem ListsIn.not_mem_declared {place : List String} {part : Json}
    (h : node.ListsIn document place part) (inner : Node) : inner ∉ node.declared := by
  intro hinner
  obtain ⟨name, property, hmem, hchild⟩ := mem_nodesOf.mp hinner
  obtain ⟨-, -, items, hproperties, hplain, -⟩ := h
  rw [hproperties] at hmem
  cases List.mem_singleton.mp hmem
  cases property with
  | nested _ | list _ => cases hplain
  | _ => cases hchild

end Node

namespace Database

variable {document : Json} {database : Database} {node : Node}

theorem liesIn_top (hread : Database.read document = .ok database) (hdistinct : document.Distinct)
    {name : String} {schema : TableSchema} (hmem : (name, schema) ∈ database) :
    (Node.top name schema).LiesIn document := by
  obtain ⟨-, members, properties, rfl, hmembers, htables⟩ := read_eq_ok_iff.mp hread
  have hproperties := hdistinct.get? hmembers
  obtain ⟨value, hvalue, inner, raw, rfl, -, hraw, htable⟩ := MeansTables.exists_of_mem htables hmem
  cases htable with
  | mk hall hrules =>
      refine ⟨raw, ?_, (hproperties.of_mem hvalue).get? hraw, hall⟩
      have hinner := hproperties.keyed.get?_of_mem hvalue
      show (Json.object members).at? ["properties", name, "properties"] = some (.object raw)
      rw [at?_member hmembers, at?_member hinner, at?_member hraw, at?_nil]

/-- The properties of each declared table lie in the document, if it is not that of plain items. -/
theorem Declares.liesIn_or_listsIn (h : database.Declares node)
    (hread : Database.read document = .ok database) (hdistinct : document.Distinct) :
    node.LiesIn document ∨ ∃ place part, node.ListsIn document place part := by
  induction h with
  | top hmem => exact Or.inl (liesIn_top hread hdistinct hmem)
  | inside _ hinner ih =>
      rcases ih with hlies | ⟨place, part, hlists⟩
      · obtain ⟨name, property, hmem, hchild⟩ := Node.mem_nodesOf.mp hinner
        exact hlies.child hmem hchild
      · exact absurd hinner (hlists.not_mem_declared _)

end Database

/-! ## Reports -/

/-- The target of the reference that the fault is about. -/
def Fault.target? : Fault → Option String
  | .unknownTable target _ | .unknownColumn target _ _
  | .unreferenceable target _ _ _ => some target
  | _ => none

/-- A fault of a reference names its target first. -/
theorem Fault.message_of_target? {fault : Fault} {target : String}
    (h : fault.target? = some target) :
    ∃ rest, fault.message = target ++ " references " ++ rest := by
  cases fault with
  | unknownTable found table =>
      cases h
      have hmessage : (Fault.unknownTable target table).message =
        target ++ (" references " ++ "unknown table \"") ++ table ++ "\"" := rfl
      refine ⟨"unknown table \"" ++ table ++ "\"", ?_⟩
      rw [hmessage]
      simp only [String.append_assoc]
  | unknownColumn found table column =>
      cases h
      have hmessage : (Fault.unknownColumn target table column).message =
        target ++ (" references " ++ "unknown column \"") ++ column ++ "\" in table \"" ++ table ++
          "\"" := rfl
      refine ⟨"unknown column \"" ++ column ++ "\" in table \"" ++ table ++ "\"", ?_⟩
      rw [hmessage]
      simp only [String.append_assoc]
  | unreferenceable found table column type =>
      cases h
      have hmessage : (Fault.unreferenceable target table column type).message =
        target ++ (" references " ++ "disallowed \"") ++ type.name ++ "\" type column \"" ++
          column ++ "\" in table \"" ++ table ++ "\"" := rfl
      refine ⟨"disallowed \"" ++ type.name ++ "\" type column \"" ++ column ++ "\" in table \"" ++
        table ++ "\"", ?_⟩
      rw [hmessage]
      simp only [String.append_assoc]
  | _ => cases h

theorem Link.target?_of_resolve {tables : List LinkedTable} {link : Link} {fault : Fault}
    (h : link.resolve tables = .error fault) : fault.target? = some link.target := by
  have hends := link.ends_resolve tables
  rw [h] at hends
  cases hends with
  | noTable => rfl
  | noColumn => rfl
  | noKey => rfl

/-- What is reported is a reference of a flat table, with its target first.  Where the properties of
the table lie in the document, the path leads to a reference to the target exactly if it was declared
there.  The path of what the table of plain items refers to goes on behind these items. -/
theorem reference_path_locates_iff {document : Json} {database : Database}
    (hread : Database.read document = .ok database) (hdistinct : document.Distinct)
    {diagnostics : List Diagnostic} (hresolve : resolveAll database.tables = .error diagnostics)
    {diagnostic : Diagnostic} (hmem : diagnostic ∈ diagnostics) :
    ∃ node link, database.Visits node ∧ link ∈ node.links ∧
      diagnostic.path = node.place.origin ++ [link.name] ∧
      (∃ rest, diagnostic.message = link.target ++ " references " ++ rest) ∧
      (node.LiesIn document ∧
          (document.RefersAt diagnostic.path link.target ↔
            (link.name, .reference link.target) ∈ node.schema.properties) ∨
        ∃ place part, node.ListsIn document place part ∧
          (document.RefersAt diagnostic.path link.target ↔
            part.RefersAt ["properties", link.name] link.target)) := by
  rw [resolveAll_eq_error hresolve] at hmem
  obtain ⟨table, htable, link, hlink, fault, hfault, rfl⟩ := mem_referenceDiagnostics.mp hmem
  obtain ⟨node, hvisits, rfl⟩ := Database.mem_tables.mp htable
  have horigin : link.origin = node.place.origin := by
    obtain ⟨property, -, hlinked⟩ := Node.mem_links.mp hlink
    cases property with
    | reference target =>
        rw [← Option.some.inj hlinked]
        rfl
    | _ => cases hlinked
  refine ⟨node, link, hvisits, hlink, by rw [horigin],
    Fault.message_of_target? (Link.target?_of_resolve hfault), ?_⟩
  dsimp only
  rw [horigin]
  rcases hvisits.declares.liesIn_or_listsIn hread hdistinct with hlies | ⟨place, part, hlists⟩
  · exact Or.inl ⟨hlies, hlies.refersAt_iff link.name link.target⟩
  · refine Or.inr ⟨place, part, hlists, ?_⟩
    have hpath : node.place.origin ++ [link.name] =
        (place ++ ["items"]) ++ ["properties", link.name] := by
      rw [hlists.1]
      simp
    rw [hpath, refersAt_append_iff hlists.2.1]

/-! ## Posts with tags -/

def taggedDocument (items : Json) : Json :=
  .object
    [("type", .string "object"),
      ("properties", .object
        [("posts", .object
          [("type", .string "object"),
            ("properties", .object
              [("id", .object [("type", .string "integer")]),
                ("tags", .object [("type", .string "array"), ("items", items)])])])])]

def taggedPosts (items : Property) : Database :=
  [("posts", { properties := [("id", .primitive .integer {}), ("tags", .list items)] })]

/-- A reference to a table that is not there. -/
def tagReference : Json := .object [("$ref", .string "#/tags/id")]

/-- Items with a label that refers to a table that is not there. -/
def labelledItems : Json :=
  .object [("type", .string "object"), ("properties", .object [("label", tagReference)])]

theorem taggedDocument_distinct {items : Json} (h : items.Distinct) :
    (taggedDocument items).Distinct := by
  simp [taggedDocument, Json.Distinct, Json.DistinctMembers, Keyed.Distinct, Keyed.keys, h]

/-- The path to the label of an item leads to its reference. -/
theorem reference_path_locates_labelled :
    Database.read (taggedDocument labelledItems) =
        .ok (taggedPosts (.nested { properties := [("label", .reference "#/tags/id")] })) ∧
      (taggedDocument labelledItems).RefersAt
        ["properties", "posts", "properties", "tags", "items", "properties", "label"]
        "#/tags/id" ∧
      ∃ node link,
        (taggedPosts (.nested { properties := [("label", .reference "#/tags/id")] })).Visits node ∧
          link ∈ node.links ∧ node.place.origin ++ [link.name] =
            ["properties", "posts", "properties", "tags", "items", "properties", "label"] := by
  have hread : Database.read (taggedDocument labelledItems) =
      .ok (taggedPosts (.nested { properties := [("label", .reference "#/tags/id")] })) := rfl
  have hdistinct : (taggedDocument labelledItems).Distinct :=
    taggedDocument_distinct (by
      simp [labelledItems, tagReference, Json.Distinct, Json.DistinctMembers, Keyed.Distinct,
        Keyed.keys])
  have hresolve : resolveAll (taggedPosts (.nested
      { properties := [("label", .reference "#/tags/id")] })).tables = .error
        [⟨["properties", "posts", "properties", "tags", "items", "properties", "label"],
          .unknownTable "#/tags/id" "tags"⟩] := rfl
  obtain ⟨node, link, hvisits, hlink, hpath, -, -⟩ :=
    reference_path_locates_iff hread hdistinct hresolve List.mem_cons_self
  exact ⟨hread, ⟨tagReference, rfl, _, rfl, rfl⟩, node, link, hvisits, hlink, hpath.symm⟩

/-- The path that is reported for a tag that is itself a reference leads nowhere: the reference is
the items. -/
theorem reference_path_misses_tags :
    (taggedDocument tagReference).Distinct ∧
      Database.read (taggedDocument tagReference) =
        .ok (taggedPosts (.reference "#/tags/id")) ∧
      resolveAll (taggedPosts (.reference "#/tags/id")).tables = .error
        [⟨["properties", "posts", "properties", "tags", "items", "properties", "value"],
          .unknownTable "#/tags/id" "tags"⟩] ∧
      (taggedDocument tagReference).at?
        ["properties", "posts", "properties", "tags", "items", "properties", "value"] = none ∧
      (taggedDocument tagReference).RefersAt
        ["properties", "posts", "properties", "tags", "items"] "#/tags/id" := by
  have hdistinct : (taggedDocument tagReference).Distinct :=
    taggedDocument_distinct (by
      simp [tagReference, Json.Distinct, Json.DistinctMembers, Keyed.Distinct, Keyed.keys])
  exact ⟨hdistinct, rfl, rfl, rfl, tagReference, rfl, _, rfl, rfl⟩

end SchemaTables
