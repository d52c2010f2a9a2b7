import SchemaTables.Json.Reader
import SchemaTables.Proofs.Keyed

/-!
# Documents name each member once

A text may repeat a key, but a document that is read from it does not: the members of an object are
collected by `Keyed.insert`.  `Json.Distinct` is therefore an invariant of the documents that there
are (`Json.read_distinct`), and what is proved about such documents holds of every text.
-/

namespace SchemaTables.Json

/-! ## Parts of documents -/

theorem sizeOf_lt_of_mem {members : Keyed Json} {name : String} {value : Json}
    (h : (name, value) ∈ members) : sizeOf value < sizeOf (Json.object members) := by
  have hentry := List.sizeOf_lt_of_mem h
  simp only [Prod.mk.sizeOf_spec, Json.object.sizeOf_spec] at hentry ⊢
  omega

theorem sizeOf_lt_of_item {items : List Json} {value : Json} (h : value ∈ items) :
    sizeOf value < sizeOf (Json.array items) := by
  have hitem := List.sizeOf_lt_of_mem h
  rw [Json.array.sizeOf_spec]
  omega

theorem distinctItems_iff {items : List Json} :
    DistinctItems items ↔ ∀ item ∈ items, item.Distinct := by
  induction items with
  | nil => simp [DistinctItems]
  | cons item rest ih => simp [DistinctItems, ih]

theorem distinctMembers_iff {members : Keyed Json} :
    DistinctMembers members ↔ ∀ name value, (name, value) ∈ members → value.Distinct := by
  induction members with
  | nil => simp [DistinctMembers]
  | cons entry rest ih =>
      obtain ⟨name, value⟩ := entry
      rw [DistinctMembers, ih]
      constructor
      · rintro ⟨hvalue, hrest⟩ other stored hmem
        rcases List.mem_cons.mp hmem with heq | hmem
        · cases heq
          exact hvalue
        · exact hrest other stored hmem
      · intro h
        exact ⟨h name value List.mem_cons_self, fun other stored hmem =>
          h other stored (List.mem_cons_of_mem _ hmem)⟩

theorem DistinctMembers.of_mem {members : Keyed Json} (h : DistinctMembers members)
    {name : String} {value : Json} (hmem : (name, value) ∈ members) : value.Distinct :=
  distinctMembers_iff.mp h name value hmem

theorem Distinct.keyed {members : Keyed Json} (h : (Json.object members).Distinct) :
    Keyed.Distinct members := by
  rw [Distinct] at h
  exact h.1

theorem Distinct.of_mem {members : Keyed Json} (h : (Json.object members).Distinct)
    {name : String} {value : Json} (hmem : (name, value) ∈ members) : value.Distinct := by
  rw [Distinct] at h
  exact h.2.of_mem hmem

theorem Distinct.get? {members : Keyed Json} (h : (Json.object members).Distinct)
    {name : String} {value : Json} (hget : members.get? name = some value) : value.Distinct :=
  h.of_mem (Keyed.mem_of_get? hget)

theorem Distinct.insert {members : Keyed Json} (h : (Json.object members).Distinct) {name : String}
    {value : Json} (hvalue : value.Distinct) :
    (Json.object (members.insert name value)).Distinct := by
  rw [Distinct] at h ⊢
  refine ⟨h.1.insert name value, distinctMembers_iff.mpr ?_⟩
  intro other stored hmem
  rcases Keyed.mem_of_mem_insert hmem with ⟨-, rfl⟩ | hold
  · exact hvalue
  · exact h.2.of_mem hold

/-! ## Reading -/

/-- What a reading gives, if anything, names each member once. -/
def ReadsDistinct (reading : Cursor → Reading Json) : Prop :=
  ∀ s value rest, reading s = .ok (value, rest) → value.Distinct

theorem readItems_distinct {item : Cursor → Reading Json} (hitem : ReadsDistinct item)
    {bound : List Char} {first : Bool} {acc : List Json} (hacc : ∀ value ∈ acc, value.Distinct) :
    ReadsDistinct (readItems item bound first acc) := by
  intro s result rest h
  fun_induction readItems item bound first acc s with
  | case3 =>
      cases h
      rw [Distinct, distinctItems_iff]
      simpa using hacc
  | case4 _ bound acc s _ _ _ _ _ value next hvalue ih =>
      exact ih (List.forall_mem_cons.mpr ⟨hitem _ value next hvalue, hacc⟩) h
  | case8 _ bound first acc s _ _ _ _ value next hvalue _ _ _ _ ih =>
      exact ih (List.forall_mem_cons.mpr ⟨hitem _ value next hvalue, hacc⟩) h
  | _ => cases h

theorem readMember_distinct {item : Cursor → Reading Json} (hitem : ReadsDistinct item)
    {s rest : Cursor} {name : String} {value : Json}
    (h : readMember item s = .ok ((name, value), rest)) : value.Distinct := by
  rw [readMember] at h
  cases hname : readString s with
  | error e => simp [hname] at h
  | ok named =>
      rw [hname] at h
      dsimp only at h
      split at h
      · cases h
      · next behind _ =>
          cases hitem' : item (named.2.trim.after ':' behind) with
          | error e => simp [hitem', Except.map] at h
          | ok found =>
              rw [hitem'] at h
              cases h
              exact hitem _ _ _ hitem'
      · cases h

theorem readMembers_distinct {item : Cursor → Reading Json} (hitem : ReadsDistinct item)
    {bound : List Char} {first : Bool} {acc : Keyed Json} (hacc : (Json.object acc).Distinct) :
    ReadsDistinct (readMembers item bound first acc) := by
  intro s result rest h
  fun_induction readMembers item bound first acc s with
  | case3 =>
      cases h
      exact hacc
  | case4 _ bound acc s _ _ name value next _ _ hmember ih =>
      exact ih (hacc.insert (readMember_distinct hitem hmember)) h
  | case9 _ bound first acc s _ _ _ _ _ _ name value next hmember _ _ ih =>
      exact ih (hacc.insert (readMember_distinct hitem hmember)) h
  | _ => cases h

theorem distinct_of_map {reading : Except ReadError α} {value : α → Json × Cursor} {result : Json}
    {rest : Cursor} (hvalue : ∀ a, (value a).1.Distinct)
    (h : reading.map value = .ok (result, rest)) : result.Distinct := by
  cases reading with
  | error e => cases h
  | ok found =>
      have heq : value found = (result, rest) := Except.ok.inj h
      have hfound := hvalue found
      rw [heq] at hfound
      exact hfound

/-- A value that is read names each member once, at every level. -/
theorem readValue_distinct (depth : Nat) : ReadsDistinct (readValue depth) := by
  induction depth using Nat.strongRecOn with
  | ind depth ih =>
      intro s value rest h
      have hplain : ∀ value : Json, value.items? = none → value.members? = none →
          value.Distinct := by
        intro value hitems hmembers
        cases value <;> trivial
      rw [readValue.eq_def] at h
      dsimp only at h
      split at h
      · cases h
      · split at h
        · exact distinct_of_map (fun _ => hplain _ rfl rfl) h
        · exact distinct_of_map (fun _ => hplain _ rfl rfl) h
        · exact distinct_of_map (fun _ => hplain _ rfl rfl) h
        · exact distinct_of_map (fun _ => hplain _ rfl rfl) h
        · exact distinct_of_map (fun _ => hplain _ rfl rfl) h
        · cases depth with
          | zero => cases h
          | succ depth =>
              exact readItems_distinct (ih depth (Nat.lt_succ_self depth)) (by simp) _ _ _ h
        · cases depth with
          | zero => cases h
          | succ depth =>
              refine readMembers_distinct (ih depth (Nat.lt_succ_self depth)) ?_ _ _ _ h
              rw [Distinct]
              exact ⟨List.nodup_nil, trivial⟩
        · split at h
          · exact distinct_of_map (fun _ => hplain _ rfl rfl) h
          · cases h

theorem read_distinct {text : String} {document : Json} (h : read text = .ok document) :
    document.Distinct := by
  rw [read, readWithin] at h
  cases hvalue : readValue maxNesting ⟨text.toList, ⟨1, 0⟩⟩ with
  | error e =>
      rw [hvalue] at h
      cases h
  | ok found =>
      rw [hvalue] at h
      dsimp only [bind, Except.bind] at h
      split at h
      · cases h
        exact readValue_distinct _ _ _ _ hvalue
      · cases h

end SchemaTables.Json
