import SchemaTables.Compilation
import SchemaTables.Proofs.Json.Distinct
import SchemaTables.Proofs.Schema.Completeness
import SchemaTables.Proofs.Schema.Rearrangement
import SchemaTables.Proofs.Schema.TableLists

/-!
# The order of keywords

Tables are read from schemas by look-ups alone, so a rearranged schema is read as the same table,
with the same faults in the same order (`Rearranged.readProperty_eq`).  What depends on the order of
members is the fault that is reported about metadata which cannot be read, so there must be none.

A document with rearranged schemas is therefore compiled to the same result
(`compile_rearranged`).
-/

namespace SchemaTables

open Json Schema

/-- None of the faults is about metadata. -/
def MetadataFit (diagnostics : List Diagnostic) : Prop :=
  ∀ diagnostic ∈ diagnostics, ∀ misfit, diagnostic.fault ≠ .metadata misfit

theorem MetadataFit.of_subset {first second : List Diagnostic} (h : MetadataFit second)
    (hsubset : first ⊆ second) : MetadataFit first :=
  fun diagnostic hmem => h diagnostic (hsubset hmem)

theorem metadataFit_append {first second : List Diagnostic} :
    MetadataFit (first ++ second) ↔ MetadataFit first ∧ MetadataFit second :=
  List.forall_mem_append

/-! ## The rules on keys -/

/-- What properties say they are. -/
def declaredOf (properties : Keyed Json) : Keyed Declared :=
  properties.map fun entry => (entry.1, Declared.ofJson entry.2)

theorem get?_declaredOf (properties : Keyed Json) (name : String) :
    (declaredOf properties).get? name = (properties.get? name).map Declared.ofJson :=
  Keyed.get?_map (fun _ => Declared.ofJson) properties name

theorem firstNested?_eq (properties : Keyed Json) :
    firstNested? properties =
      (declaredOf properties).findSome? fun entry =>
        entry.2.nested?.map fun shape => (entry.1, shape) := by
  induction properties with
  | nil => rfl
  | cons entry rest ih =>
      obtain ⟨name, property⟩ := entry
      have hcons : declaredOf ((name, property) :: rest) =
          (name, Declared.ofJson property) :: declaredOf rest := rfl
      rw [firstNested?, ih, hcons, List.findSome?_cons]
      cases (Declared.ofJson property).nested? <;> rfl

theorem tableFaults_congr {properties others : Keyed Json}
    (h : declaredOf others = declaredOf properties) (key? : Option String)
    (required : List String) :
    tableFaults key? required others = tableFaults key? required properties := by
  have hget : ∀ name, (others.get? name).map Declared.ofJson =
      (properties.get? name).map Declared.ofJson := by
    intro name
    rw [← get?_declaredOf, h, get?_declaredOf]
  have hcontains : ∀ name, others.contains name = properties.contains name := by
    intro name
    have hsome := congrArg Option.isSome (hget name)
    rw [Option.isSome_map, Option.isSome_map] at hsome
    exact hsome
  have hnested : firstNested? others = firstNested? properties := by
    rw [firstNested?_eq, firstNested?_eq, h]
  have hproblem : ∀ name,
      ((others.get? name).bind fun property => (Declared.ofJson property).keyProblem?) =
        (properties.get? name).bind fun property => (Declared.ofJson property).keyProblem? := by
    intro name
    have hbind := congrArg (Option.bind · Declared.keyProblem?) (hget name)
    simpa [Option.bind_map, Function.comp_def] using hbind
  have hexplicit : explicitKeyFaults key? others = explicitKeyFaults key? properties := by
    cases key? with
    | none => rfl
    | some key =>
        have hkey := hget key
        rw [explicitKeyFaults, explicitKeyFaults]
        generalize others.get? key = second, properties.get? key = first at hkey ⊢
        cases first <;> cases second <;> simp at hkey
        · rfl
        · simp only [hkey]
  simp only [tableFaults, implicitKeyFaults, keylessFaults, missingFieldFaults, hexplicit,
    hproblem, hcontains, hnested]

namespace Schema

/-! ## Attributes -/

namespace Alike

variable {members others : Keyed Json}

theorem requiredNames_eq (h : Alike members others) :
    requiredNames others = requiredNames members := by
  rw [requiredNames, requiredNames, h.get?_eq (by decide)]

theorem readMetadata_eq (h : Alike members others) (hdistinct : (Json.object others).Distinct)
    {path : List String} (hfit : MetadataFit (readMetadata path (members.get? "metadata")).faults) :
    readMetadata path (others.get? "metadata") = readMetadata path (members.get? "metadata") := by
  rcases h.metadata with hsame | ⟨inner, other, hmembers, hothers, hextends⟩
  · rw [hsame]
  · have hinner := (hdistinct.get? hothers).keyed
    rw [hmembers] at hfit
    rw [hmembers, hothers]
    cases hdecode : Metadata.decode (.object inner) with
    | ok metadata =>
        simp only [readMetadata, hdecode, Metadata.decode_extends hextends hinner hdecode]
    | error e =>
        simp only [readMetadata, hdecode, Report.refuse] at hfit
        exact absurd rfl (hfit _ List.mem_cons_self e.misfit)

theorem readAttributes_eq (h : Alike members others) (hdistinct : (Json.object others).Distinct)
    {path : List String} (hfit : MetadataFit (readAttributes path members).faults) :
    readAttributes path others = readAttributes path members := by
  have hdefault : others.get? "default" = members.get? "default" := h.get?_eq (by decide)
  have hchoices : others.get? "enum" = members.get? "enum" := h.get?_eq (by decide)
  have htitle := h.stringMember?_eq (show IsPlain "title" by decide)
  have hdescription := h.stringMember?_eq (show IsPlain "description" by decide)
  have hminimum : others.get? "minimum" = members.get? "minimum" := h.get?_eq (by decide)
  have hmaximum : others.get? "maximum" = members.get? "maximum" := h.get?_eq (by decide)
  have hmetadata := h.readMetadata_eq hdistinct (metadataFit_append.mp hfit).2
  simp only [readAttributes, hdefault, hchoices, htitle, hdescription, hminimum, hmaximum,
    hmetadata]

theorem readText_eq (h : Alike members others) (hdistinct : (Json.object others).Distinct)
    {path : List String} (hfit : MetadataFit (readText path members).faults) :
    readText path others = readText path members := by
  have hformat : readFormat path others = readFormat path members := by
    rw [readFormat, readFormat, h.stringMember?_eq (by decide)]
  have hattributes := h.readAttributes_eq hdistinct (metadataFit_append.mp hfit).2
  rw [readText, readText, hformat, hattributes]

theorem readContainer_eq (h : Alike members others) (hdistinct : (Json.object others).Distinct)
    {path : List String} {shape : Container} {inside other : Report (Option Property)}
    (hfit : MetadataFit (readContainer path members shape inside).faults)
    (hinside : MetadataFit inside.faults → other = inside) :
    readContainer path others shape other = readContainer path members shape inside := by
  -- what is inside is read only if the attributes are, and then its faults are among those reported
  have hattributes : MetadataFit (readAttributes path members).faults := by
    refine hfit.of_subset ?_
    rw [readContainer, Report.andThen]
    split
    · exact List.subset_append_left _ _
    · exact List.Subset.refl _
  rw [readContainer, readContainer, h.readAttributes_eq hdistinct hattributes, Report.andThen,
    Report.andThen]
  rw [readContainer, Report.andThen] at hfit
  cases hvalue : (readAttributes path members).value with
  | none => rfl
  | some attributes =>
      rw [hvalue] at hfit
      dsimp only at hfit ⊢
      cases hstorage : attributes.metadata.storage with
      | some storage => rfl
      | none =>
          rw [hstorage] at hfit
          rw [hinside (metadataFit_append.mp hfit).2]

/-! ## What a schema says it is -/

theorem namesStorage_eq (h : Alike members others) (hdistinct : (Json.object others).Distinct) :
    Declared.namesStorage others = Declared.namesStorage members := by
  rw [Declared.namesStorage, Declared.namesStorage]
  rcases h.metadata with hsame | ⟨inner, other, hmembers, hothers, hextends⟩
  · rw [hsame]
  · have htype : Keyed.get? other "type" = Keyed.get? inner "type" :=
      hextends.get? (hdistinct.get? hothers).keyed (by decide)
    rw [hmembers, hothers, Option.bind_some, Option.bind_some, Json.get?, Json.get?, htype]

theorem declared_eq (h : Alike members others) (hdistinct : (Json.object others).Distinct) :
    Declared.ofMembers others = Declared.ofMembers members := by
  have hreference := h.stringMember?_eq (show IsPlain "$ref" by decide)
  have hformat := h.stringMember?_eq (show IsPlain "format" by decide)
  rw [Declared.ofMembers, Declared.ofMembers, hreference, h.typeName?_eq,
    h.namesStorage_eq hdistinct, hformat]

end Alike

theorem Rearranged.declared_eq {value other : Json} (h : Rearranged value other)
    (hdistinct : other.Distinct) : Declared.ofJson other = Declared.ofJson value := by
  cases value with
  | object members =>
      obtain ⟨others, rfl, halike⟩ := h.alike hdistinct
      exact halike.declared_eq hdistinct
  | _ => rw [h.eq_of_members? rfl]

theorem RearrangedEntries.declaredOf_eq {entries others : Keyed Json}
    (h : RearrangedEntries entries others) (hdistinct : DistinctMembers others) :
    declaredOf others = declaredOf entries := by
  induction entries generalizing others with
  | nil =>
      cases h
      rfl
  | cons entry rest ih =>
      cases h with
      | cons hvalue hrest =>
          rw [declaredOf, declaredOf, List.map_cons, List.map_cons, hvalue.declared_eq hdistinct.1]
          exact congrArg _ (ih hrest hdistinct.2)

/-! ## Properties -/

theorem bind_members?_eq_some {members inner : Keyed Json} {key : String}
    (h : (members.get? key).bind members? = some inner) :
    members.get? key = some (.object inner) := by
  obtain ⟨value, hvalue, hinner⟩ := Option.bind_eq_some_iff.mp h
  cases value with
  | object found =>
      cases hinner
      exact hvalue
  | _ => cases hinner

/-- However its schemas are rearranged, the value is read as the same property. -/
def ReadsAlike (value : Json) : Prop :=
  ∀ other, Rearranged value other → other.Distinct →
    ∀ path, MetadataFit (readProperty path value).faults →
      readProperty path other = readProperty path value

theorem RearrangedEntries.readProperties_eq {entries others : Keyed Json}
    (h : RearrangedEntries entries others)
    (hparts : ∀ name value, (name, value) ∈ entries → ReadsAlike value)
    (hdistinct : DistinctMembers others) {path : List String}
    (hfit : MetadataFit (readProperties path entries).faults) :
    readProperties path others = readProperties path entries := by
  induction entries generalizing others with
  | nil =>
      cases h
      rfl
  | cons entry rest ih =>
      cases h with
      | cons hvalue hrest =>
          rw [readProperties] at hfit
          obtain ⟨hfirst, hothers⟩ := metadataFit_append.mp hfit
          have hproperty := hparts _ _ List.mem_cons_self _ hvalue hdistinct.1 _ hfirst
          have hinside : ∀ name value, (name, value) ∈ rest → ReadsAlike value :=
            fun name value hmem => hparts name value (List.mem_cons_of_mem _ hmem)
          rw [readProperties, readProperties, hproperty, ih hrest hinside hdistinct.2 hothers]

namespace Alike

variable {members others raw raw' : Keyed Json}

theorem toTable_eq (h : Alike members others) (hentries : RearrangedEntries raw raw')
    (hparts : ∀ name value, (name, value) ∈ raw → ReadsAlike value)
    (hdistinct : (Json.object raw').Distinct) {path : List String}
    (hfit : MetadataFit ((readProperties path raw).toTable path members raw).faults) :
    (readProperties path raw').toTable path others raw' =
      (readProperties path raw).toTable path members raw := by
  rw [Distinct] at hdistinct
  have hproperties : readProperties path raw' = readProperties path raw :=
    hentries.readProperties_eq hparts hdistinct.2 (metadataFit_append.mp hfit).1
  have hkey := h.stringMember?_eq (show IsPlain "x-primary-key" by decide)
  have hfaults := tableFaults_congr (hentries.declaredOf_eq hdistinct.2)
  simp only [Report.toTable, hproperties, h.requiredNames_eq, hkey, hfaults]

theorem readNested_eq (h : Alike members others) (hdistinct : (Json.object others).Distinct)
    (hparts : ∀ value, sizeOf value < sizeOf (Json.object members) → ReadsAlike value)
    {path : List String} (hfit : MetadataFit (readNested path members members).faults) :
    readNested path others others = readNested path members members := by
  rw [SchemaTables.readNested_eq] at hfit
  rw [SchemaTables.readNested_eq, SchemaTables.readNested_eq]
  rcases eq_none_or_some_of_rel h.properties with
    ⟨hmembers, hothers⟩ | ⟨raw, raw', hmembers, hothers, hentries⟩
  · rw [hmembers, hothers]
  · have hraw : Keyed.get? members "properties" = some (.object raw) :=
      bind_members?_eq_some hmembers
    have hraw' : Keyed.get? others "properties" = some (.object raw') :=
      bind_members?_eq_some hothers
    have hinside : ∀ name value, (name, value) ∈ raw → ReadsAlike value := by
      intro name value hmem
      apply hparts
      have hobject := sizeOf_lt_of_mem (Keyed.mem_of_get? hraw)
      exact Nat.lt_trans (sizeOf_lt_of_mem hmem) hobject
    rw [hmembers] at hfit
    rw [hmembers, hothers]
    dsimp only
    rw [h.toTable_eq hentries hinside (hdistinct.get? hraw') hfit]

theorem readList_eq (h : Alike members others) (hdistinct : (Json.object others).Distinct)
    (hparts : ∀ value, sizeOf value < sizeOf (Json.object members) → ReadsAlike value)
    {path : List String} (hfit : MetadataFit (readList path members).faults) :
    readList path others = readList path members := by
  rw [SchemaTables.readList_eq] at hfit
  rw [SchemaTables.readList_eq, SchemaTables.readList_eq]
  rcases eq_none_or_some_of_rel h.items with
    ⟨hmembers, hothers⟩ | ⟨inner, other, hmembers, hothers, hrearranged⟩
  · rw [hmembers, hothers]
  · have hinner : Keyed.get? members "items" = some (.object inner) :=
      bind_members?_eq_some hmembers
    have hother : (Json.object other).Distinct := hdistinct.get? (bind_members?_eq_some hothers)
    have hreads : ReadsAlike (.object inner) :=
      hparts _ (sizeOf_lt_of_mem (Keyed.mem_of_get? hinner))
    obtain ⟨found, hfound, halike⟩ := hrearranged.alike hother
    cases hfound
    rw [hmembers] at hfit
    rw [hmembers, hothers]
    dsimp only at hfit ⊢
    rw [halike.typeName?_eq]
    by_cases harray : typeName? inner = some (.container .array)
    · rw [if_pos harray, if_pos harray]
    · rw [if_neg harray] at hfit
      rw [if_neg harray, if_neg harray, hreads _ hrearranged hother _ hfit]

end Alike

/-- A rearranged schema is read as the same property, with the same faults. -/
theorem readsAlike (value : Json) : ReadsAlike value := by
  -- the parts of a property that are read are smaller: the entries of its properties, or its items
  induction hsize : sizeOf value using Nat.strongRecOn generalizing value with
  | ind size ih =>
      have hparts : ∀ part, sizeOf part < sizeOf value → ReadsAlike part := by
        intro part hpart
        exact ih _ (hsize ▸ hpart) part rfl
      intro other hrearranged hdistinct path hfit
      cases value with
      | object members =>
          obtain ⟨others, rfl, halike⟩ := hrearranged.alike hdistinct
          have hreference := halike.stringMember?_eq (show IsPlain "$ref" by decide)
          rw [readProperty] at hfit
          rw [readProperty, readProperty, hreference, halike.typeName?_eq]
          cases href : stringMember? members "$ref" with
          | some target => rfl
          | none =>
              rw [href] at hfit
              dsimp only at hfit ⊢
              cases htype : typeName? members with
              | none => rfl
              | some name =>
                  rw [htype] at hfit
                  cases name with
                  | primitive kind =>
                      dsimp only at hfit ⊢
                      rw [halike.readAttributes_eq hdistinct hfit]
                  | string => exact halike.readText_eq hdistinct hfit
                  | container shape =>
                      cases shape with
                      | object =>
                          exact halike.readContainer_eq hdistinct hfit
                            (halike.readNested_eq hdistinct hparts)
                      | array =>
                          exact halike.readContainer_eq hdistinct hfit
                            (halike.readList_eq hdistinct hparts)
      | _ => rw [hrearranged.eq_of_members? rfl]

/-! ## Tables and documents -/

theorem Alike.objectProperties? {members others : Keyed Json} (h : Alike members others) :
    Option.Rel RearrangedEntries (objectProperties? members) (objectProperties? others) := by
  have htype := h.stringMember?_eq (show IsPlain "type" by decide)
  rw [Schema.objectProperties?, Schema.objectProperties?, isObjectSchema, isObjectSchema, htype]
  split
  · exact h.properties
  · exact .none

theorem Rearranged.readTable_eq {value other : Json} (h : Rearranged value other)
    (hdistinct : other.Distinct) {path : List String}
    (hfit : MetadataFit (readTable path value).faults) :
    readTable path other = readTable path value := by
  cases value with
  | object members =>
      obtain ⟨others, rfl, halike⟩ := h.alike hdistinct
      rw [readTable] at hfit
      rw [readTable, readTable]
      rcases eq_none_or_some_of_rel halike.objectProperties? with
        ⟨hmembers, hothers⟩ | ⟨raw, raw', hmembers, hothers, hentries⟩
      · rw [hmembers, hothers]
      · have hraw' : (Json.object raw').Distinct :=
          hdistinct.get? (objectProperties?_eq_some_iff.mp hothers).2
        rw [hmembers] at hfit
        rw [hmembers, hothers]
        dsimp only
        rw [halike.toTable_eq hentries (fun _ value _ => readsAlike value) hraw' hfit]
  | _ => rw [h.eq_of_members? rfl]

theorem RearrangedEntries.readTables_eq {entries others : Keyed Json}
    (h : RearrangedEntries entries others) (hdistinct : DistinctMembers others)
    (hfit : MetadataFit (readTables entries).faults) :
    readTables others = readTables entries := by
  induction entries generalizing others with
  | nil =>
      cases h
      rfl
  | cons entry rest ih =>
      cases h with
      | cons hvalue hrest =>
          rw [readTables] at hfit
          obtain ⟨hfirst, hothers⟩ := metadataFit_append.mp hfit
          have htable := hvalue.readTable_eq hdistinct.1 hfirst
          rw [readTables, readTables, htable, ih hrest hdistinct.2 hothers]

theorem Rearranged.documentProperties? {document other : Json} (h : Rearranged document other)
    (hdistinct : other.Distinct) :
    Option.Rel RearrangedEntries (documentProperties? document) (documentProperties? other) := by
  have hwell : isWellFormed other = isWellFormed document := h.isWellFormed_eq
  cases document with
  | object members =>
      obtain ⟨others, rfl, halike⟩ := h.alike hdistinct
      rw [Schema.documentProperties?, Schema.documentProperties?, hwell]
      rcases eq_none_or_some_of_rel halike.objectProperties? with
        ⟨hmembers, hothers⟩ | ⟨raw, raw', hmembers, hothers, hentries⟩
      · rw [hmembers, hothers]
        exact .none
      · rw [hmembers, hothers]
        dsimp only
        split
        · exact .some hentries
        · exact .none
  | _ =>
      rw [h.eq_of_members? rfl]
      exact .none

end Schema

theorem Database.read_rearranged {document rearranged : Json}
    (h : Rearranged document rearranged) (hdistinct : rearranged.Distinct)
    (hfit : ∀ diagnostics, Database.read document = .error diagnostics →
      MetadataFit diagnostics) :
    Database.read rearranged = Database.read document := by
  rcases eq_none_or_some_of_rel (h.documentProperties? hdistinct) with
    ⟨hdocument, hrearranged⟩ | ⟨tables, others, hdocument, hrearranged, hentries⟩
  · rw [Database.read, Database.read, hdocument, hrearranged]
  · have hothers : (Json.object others).Distinct := by
      obtain ⟨members, rfl, hmembers⟩ := documentProperties?_eq_some hrearranged
      exact hdistinct.get? hmembers
    rw [Distinct] at hothers
    have htables : MetadataFit (readTables tables).faults := by
      have hread := Database.read_eq_toExcept hdocument
      rw [Report.toExcept] at hread
      split at hread
      · next hnone =>
          rw [hnone]
          exact fun _ hmem => absurd hmem List.not_mem_nil
      · exact hfit _ hread
    rw [Database.read_eq_toExcept hdocument, Database.read_eq_toExcept hrearranged,
      hentries.readTables_eq hothers.2 htables]

/-- A document whose keywords and metadata are put in another order, and to which members are added
that are never read, is compiled to the same statements or refused with the same errors in the same
order, provided that all metadata which are read are fit. -/
theorem compile_rearranged {document rearranged : Json} (h : Rearranged document rearranged)
    (hdistinct : rearranged.Distinct)
    (hfit : ∀ diagnostics, Database.read document = .error diagnostics →
      MetadataFit diagnostics) (dialect : Dialect) :
    compile dialect rearranged = compile dialect document := by
  have hread := Database.read_rearranged h hdistinct hfit
  rw [compile, compile, migrate, migrate, compileTables, compileTables, hread]

/-! ## Rearranged users -/

/-- The key of users, with an index. -/
def userKeyMembers : Keyed Json :=
  [("type", .string "integer"),
    ("metadata", .object [("index", .bool true), ("comment", .string "number")])]

/-- The same, with a note in the schema and in the metadata. -/
def notedKeyMembers : Keyed Json :=
  [("$note", .null),
    ("metadata", .object [("note", .null), ("comment", .string "number"), ("index", .bool true)]),
    ("type", .string "integer")]

def userDocument : Json :=
  .object
    [("type", .string "object"),
      ("properties", .object
        [("users", .object
          [("type", .string "object"),
            ("required", .array [.string "id"]),
            ("properties", .object [("id", .object userKeyMembers)])])])]

/-- The same with the keywords in another order. -/
def notedUserDocument : Json :=
  .object
    [("properties", .object
        [("users", .object
          [("properties", .object [("id", .object notedKeyMembers)]),
            ("required", .array [.string "id"]),
            ("type", .string "object")])]),
      ("type", .string "object")]

theorem extends_reverse (names : List String) (entries added : Keyed Json)
    (hadded : ∀ name ∈ added.keys, name ∉ names) :
    entries.Extends names (entries ++ added).reverse :=
  ⟨added, hadded, (List.reverse_perm _).symm⟩

theorem rearranged_userKey : Rearranged (.object userKeyMembers) (.object notedKeyMembers) := by
  refine .object (.cons (.same _ _) (.cons (.metadata ?_) .nil))
    (extends_reverse _ _ [("$note", .null)] (by decide))
  exact extends_reverse _ _ [("note", .null)] (by decide)

theorem rearranged_userDocument : Rearranged userDocument notedUserDocument := by
  have hmap : shapeOf "properties" = .schemaMap := rfl
  have hid : RearrangedEntries [("id", .object userKeyMembers)] [("id", .object notedKeyMembers)] :=
    .cons rearranged_userKey .nil
  have husers := Rearranged.object
    (.cons (.same "type" (.string "object"))
      (.cons (.same "required" (.array [.string "id"]))
        (.cons (.entries (Or.inl hmap) hid) .nil)))
    (extends_reverse keywordNames _ [] (by decide))
  exact .object
    (.cons (.same "type" (.string "object"))
      (.cons (.entries (Or.inl hmap) (.cons husers .nil)) .nil))
    (extends_reverse keywordNames _ [] (by decide))

theorem compile_rearranged_users :
    ∃ script, compile .pg userDocument = .ok script ∧
      compile .pg notedUserDocument = .ok script := by
  have hdistinct : notedUserDocument.Distinct := by
    simp [notedUserDocument, notedKeyMembers, Json.Distinct, Json.DistinctItems,
      Json.DistinctMembers, Keyed.Distinct, Keyed.keys]
  have hfit : ∀ diagnostics, Database.read userDocument = .error diagnostics →
      MetadataFit diagnostics := by
    intro diagnostics hread
    cases hread
  obtain ⟨script, hscript⟩ : ∃ script, compile .pg userDocument = .ok script := ⟨_, rfl⟩
  refine ⟨script, hscript, ?_⟩
  rw [compile_rearranged rearranged_userDocument hdistinct hfit .pg]
  exact hscript

end SchemaTables
