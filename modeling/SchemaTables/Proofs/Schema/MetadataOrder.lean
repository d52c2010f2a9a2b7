import SchemaTables.Proofs.Schema.Keys

/-!
# The order of metadata

A record is read from the members of an object in their order, but each field is read by itself and
put in its own place.  Where every field that is there can be read, the order is therefore of no
influence, and neither are members that are no fields (`Json.decodeMembers_extends`).

Where a field cannot be read the order matters: the first such member is the one that is reported.
-/

namespace SchemaTables.Json

variable {ρ : Type} {fields : List (Field ρ)} {record next result : ρ}

/-! ## Single members -/

/-- Two fields can be read in either order. -/
def Field.Commutes (first second : Field ρ) : Prop :=
  ∀ record a b one both, first.update record a = .ok one → second.update one b = .ok both →
    ∃ other, second.update record b = .ok other ∧ first.update other a = .ok both

/-- Any two different fields can be read in either order. -/
def FieldsCommute (fields : List (Field ρ)) : Prop :=
  ∀ first ∈ fields, ∀ second ∈ fields, first.name ≠ second.name → first.Commutes second

/-- A member takes one record to another: it is read into the field of its name, and skipped if
there is none. -/
def Reads (fields : List (Field ρ)) (entry : String × Json) (record next : ρ) : Prop :=
  match fields.find? (fun field => field.name == entry.1) with
  | none => next = record
  | some field => field.update record entry.2 = .ok next

theorem decodeMembers_cons_eq_ok_iff {entry : String × Json} {rest : Keyed Json} :
    decodeMembers fields record (entry :: rest) = .ok result ↔
      ∃ next, Reads fields entry record next ∧ decodeMembers fields next rest = .ok result := by
  obtain ⟨key, value⟩ := entry
  rw [decodeMembers]
  cases hfind : fields.find? (fun field => field.name == key) with
  | none => simp [Reads, hfind]
  | some field =>
      simp only [Reads, hfind]
      cases hupdate : field.update record value with
      | error e => simp [Decoder.under, hupdate]
      | ok updated => simp [Decoder.under, hupdate]

/-- Members of different names can be read in either order. -/
theorem Reads.swap (hfields : FieldsCommute fields) {first second : String × Json}
    (hne : first.1 ≠ second.1) (hfirst : Reads fields first record next)
    (hsecond : Reads fields second next result) :
    ∃ other, Reads fields second record other ∧ Reads fields first other result := by
  simp only [Reads] at hfirst hsecond ⊢
  cases hone : fields.find? (fun field => field.name == first.1) with
  | none =>
      rw [hone] at hfirst
      subst hfirst
      exact ⟨result, hsecond, rfl⟩
  | some one =>
      rw [hone] at hfirst
      cases htwo : fields.find? (fun field => field.name == second.1) with
      | none =>
          rw [htwo] at hsecond
          subst hsecond
          exact ⟨record, rfl, hfirst⟩
      | some two =>
          rw [htwo] at hsecond
          have hnames : one.name ≠ two.name := by
            have hfirst : one.name = first.1 := by simpa using List.find?_some hone
            have hsecond : two.name = second.1 := by simpa using List.find?_some htwo
            rw [hfirst, hsecond]
            exact hne
          exact hfields one (List.mem_of_find?_eq_some hone) two (List.mem_of_find?_eq_some htwo)
            hnames record first.2 second.2 next result hfirst hsecond

/-! ## All members -/

theorem decodeMembers_perm (hfields : FieldsCommute fields) {members others : Keyed Json}
    (hperm : members.Perm others) (hdistinct : members.Distinct)
    (h : decodeMembers fields record members = .ok result) :
    decodeMembers fields record others = .ok result := by
  induction hperm generalizing record with
  | nil => exact h
  | cons entry _ ih =>
      obtain ⟨next, hentry, hrest⟩ := decodeMembers_cons_eq_ok_iff.mp h
      have hdistinct := (List.nodup_cons.mp hdistinct).2
      exact decodeMembers_cons_eq_ok_iff.mpr ⟨next, hentry, ih hdistinct hrest⟩
  | swap first second rest =>
      -- different names, so different fields
      have hne : second.1 ≠ first.1 := by
        intro heq
        exact (List.nodup_cons.mp hdistinct).1 (List.mem_cons.mpr (Or.inl heq))
      obtain ⟨one, hsecond, hboth⟩ := decodeMembers_cons_eq_ok_iff.mp h
      obtain ⟨two, hfirst, hrest⟩ := decodeMembers_cons_eq_ok_iff.mp hboth
      obtain ⟨other, hfirst, hsecond⟩ := hsecond.swap hfields hne hfirst
      exact decodeMembers_cons_eq_ok_iff.mpr
        ⟨other, hfirst, decodeMembers_cons_eq_ok_iff.mpr ⟨two, hsecond, hrest⟩⟩
  | trans hfirst _ ihfirst ihsecond =>
      exact ihsecond (Keyed.Distinct.perm hdistinct hfirst) (ihfirst hdistinct h)

theorem decodeMembers_skipped {added : Keyed Json}
    (hadded : ∀ name ∈ added.keys, name ∉ fields.map (·.name)) :
    decodeMembers fields record added = .ok record := by
  induction added with
  | nil => rfl
  | cons entry rest ih =>
      obtain ⟨hentry, hrest⟩ := List.forall_mem_cons.mp hadded
      have hnone : fields.find? (fun field => field.name == entry.1) = none := by
        rw [List.find?_eq_none]
        intro field hfield hname
        have heq : field.name = entry.1 := eq_of_beq hname
        exact hentry (heq ▸ List.mem_map_of_mem hfield)
      rw [decodeMembers, hnone]
      exact ih hrest

theorem decodeMembers_append {members added : Keyed Json}
    (h : decodeMembers fields record members = .ok next) :
    decodeMembers fields record (members ++ added) = decodeMembers fields next added := by
  induction members generalizing record with
  | nil =>
      cases h
      rfl
  | cons entry rest ih =>
      obtain ⟨key, value⟩ := entry
      rw [decodeMembers] at h
      rw [List.cons_append, decodeMembers]
      split at h
      · exact ih h
      · split at h
        · exact ih h
        · cases h

theorem decodeMembers_extends (hfields : FieldsCommute fields) {members others : Keyed Json}
    (hextends : members.Extends (fields.map (·.name)) others) (hdistinct : others.Distinct)
    (h : decodeMembers fields record members = .ok result) :
    decodeMembers fields record others = .ok result := by
  obtain ⟨added, hadded, hperm⟩ := hextends
  have hall : Keyed.Distinct (members ++ added) := hdistinct.perm hperm.symm
  refine decodeMembers_perm hfields hperm hall ?_
  rw [decodeMembers_append h, decodeMembers_skipped hadded]

/-! ## Metadata -/

theorem commutes_of_map {α β : Type} {first second : String} {decode : Decoder α}
    {decode' : Decoder β} {put : ρ → α → ρ} {put' : ρ → β → ρ}
    (h : ∀ record a b, put' (put record a) b = put (put' record b) a) :
    Field.Commutes ⟨first, fun record value => (decode value).map (put record)⟩
      ⟨second, fun record value => (decode' value).map (put' record)⟩ := by
  intro record a b one both hone hboth
  dsimp only at hone hboth ⊢
  cases ha : decode a with
  | error e => simp [ha, Except.map] at hone
  | ok found =>
      cases hb : decode' b with
      | error e => simp [hb, Except.map] at hboth
      | ok other =>
          rw [ha] at hone
          rw [hb] at hboth
          cases hone
          cases hboth
          exact ⟨put' record other, rfl, congrArg Except.ok (h record found other).symm⟩

end SchemaTables.Json

namespace SchemaTables.Metadata

open Json

def fieldNames : List String := fields.map (·.name)

theorem fields_commute : FieldsCommute fields := by
  intro first hfirst second hsecond hne
  simp only [fields, List.mem_cons, List.not_mem_nil, or_false] at hfirst hsecond
  rcases hfirst with rfl | rfl | rfl | rfl | rfl | rfl <;>
    rcases hsecond with rfl | rfl | rfl | rfl | rfl | rfl <;>
      first
      | exact absurd rfl hne
      | exact commutes_of_map fun _ _ _ => rfl

/-- Metadata that are read are read alike in every order, and with further members. -/
theorem decode_extends {members others : Keyed Json} (hextends : members.Extends fieldNames others)
    (hdistinct : others.Distinct) {metadata : Metadata}
    (h : decode (.object members) = .ok metadata) : decode (.object others) = .ok metadata :=
  decodeMembers_extends fields_commute hextends hdistinct h

end SchemaTables.Metadata
