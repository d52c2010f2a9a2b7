import SchemaTables.Json.Decode
import SchemaTables.Proofs.Json.Paths
import SchemaTables.Proofs.Keyed

/-!
# Where values do not fit

A decoder that refuses a value tells the path to the part that does not fit.  The path leads to a
part of the value, and the cause is one of that part (`isIn_of_record`).  It is shown for each
decoder that it locates its errors so (`Decoder.Locates`).
-/

namespace SchemaTables.Json

/-! ## Parts that do not fit -/

/-- A value of the kind that a decoder looks for. -/
def Expectation.Admits : Expectation → Json → Prop
  | .boolean, value => value.bool?.isSome = true
  | .string, value => value.isString = true
  | .unit, value => value = .null
  | .choice, value => value.isString = true ∨ value.isObject = true
  | .record _, value => value.isObject = true ∨ value.items?.isSome = true

/-- The value itself does not fit, for this cause. -/
def Misfits (value : Json) : Misfit → Prop
  | .kind found expected => value = found ∧ ¬ expected.Admits found
  | .notOneKey => ∃ members, value = .object members ∧ members.length ≠ 1
  | .unknownChoice name first second => name ≠ first ∧ name ≠ second ∧
      (value = .string name ∨ ∃ content, value = .object [(name, content)])
  | .tooLong length => ∃ items, value = .array items ∧ items.length = length

/-- The path of the error leads to a part of the value that does not fit, for the cause of the
error. -/
def DecodeError.IsIn (e : DecodeError) (value : Json) : Prop :=
  ∃ part, value.at? e.path = some part ∧ part.Misfits e.misfit

/-- Whatever the decoder refuses, the error is in it. -/
def Decoder.Locates (decoder : Decoder α) : Prop :=
  ∀ value e, decoder value = .error e → e.IsIn value

variable {value inner : Json} {cause : Misfit} {e : DecodeError} {segment : String}

theorem isIn_of_misfit (h : (misfit cause : Except DecodeError α) = .error e)
    (hcause : value.Misfits cause) : e.IsIn value := by
  rw [← Except.error.inj h]
  exact ⟨value, rfl, hcause⟩

theorem DecodeError.IsIn.under (h : e.IsIn inner) (hstep : value.step? segment = some inner) :
    (e.under segment).IsIn value := by
  obtain ⟨part, hpart, hmisfits⟩ := h
  exact ⟨part, (at?_cons hstep e.path).trans hpart, hmisfits⟩

theorem Decoder.Locates.under {decoder : Decoder α} (h : decoder.Locates)
    (hstep : value.step? segment = some inner) (herror : decoder.under segment inner = .error e) :
    e.IsIn value := by
  rw [Decoder.under] at herror
  split at herror
  · cases herror
  · next found hfound =>
    rw [← Except.error.inj herror]
    exact (h inner found hfound).under hstep

theorem Decoder.Locates.map {decoder : Decoder α} (h : decoder.Locates) (f : α → β) :
    Decoder.Locates fun value => (decoder value).map f := by
  intro value e herror
  dsimp only at herror
  cases hvalue : decoder value with
  | ok result =>
      rw [hvalue] at herror
      cases herror
  | error found =>
      rw [hvalue] at herror
      rw [← Except.error.inj herror]
      exact h value found hvalue

/-! ## Simple values -/

theorem locates_boolean : Decoder.Locates boolean := by
  intro value e h
  rw [boolean.eq_def] at h
  split at h
  · cases h
  · next hkind =>
    refine isIn_of_misfit h ⟨rfl, ?_⟩
    intro hadmits
    cases value <;> first | exact hkind _ rfl | cases hadmits

theorem locates_text : Decoder.Locates text := by
  intro value e h
  rw [text.eq_def] at h
  split at h
  · cases h
  · next hkind =>
    refine isIn_of_misfit h ⟨rfl, ?_⟩
    intro hadmits
    cases value <;> first | exact hkind _ rfl | cases hadmits

theorem locates_unit : Decoder.Locates unit := by
  intro value e h
  rw [unit.eq_def] at h
  split at h
  · cases h
  · next hkind => exact isIn_of_misfit h ⟨rfl, hkind⟩

theorem Decoder.Locates.optional {decoder : Decoder α} (h : decoder.Locates) :
    Decoder.Locates (optional decoder) := by
  intro value e herror
  rw [optional.eq_def] at herror
  split at herror
  · cases herror
  · exact h.map some value e herror

/-! ## Choices -/

theorem choiceNamed_eq_error {first second : String × α} {name : String}
    (h : choiceNamed first second name = .error e) :
    (misfit (.unknownChoice name first.1 second.1) : Except DecodeError α) = .error e ∧
      name ≠ first.1 ∧ name ≠ second.1 := by
  rw [choiceNamed] at h
  split at h
  · cases h
  · next hfirst =>
    split at h
    · cases h
    · next hsecond => exact ⟨h, hfirst, hsecond⟩

theorem locates_choice (first second : String × α) : Decoder.Locates (choice first second) := by
  intro value e h
  rw [choice.eq_def] at h
  split at h
  · next name =>
    obtain ⟨hmisfit, hfirst, hsecond⟩ := choiceNamed_eq_error h
    exact isIn_of_misfit hmisfit ⟨hfirst, hsecond, Or.inl rfl⟩
  · next name content =>
    split at h
    · split at h
      · cases h
      · next found hfound =>
        have hstep : (Json.object [(name, content)]).step? name = some content := by
          rw [step?, Keyed.get?, if_pos rfl]
        rw [← Except.error.inj h]
        exact locates_unit.under hstep hfound
    · next found hfound =>
      obtain ⟨hmisfit, hfirst, hsecond⟩ := choiceNamed_eq_error hfound
      rw [← Except.error.inj h]
      exact isIn_of_misfit hmisfit ⟨hfirst, hsecond, Or.inr ⟨content, rfl⟩⟩
  · next members hmembers =>
    refine isIn_of_misfit h ⟨members, rfl, ?_⟩
    intro hlength
    obtain ⟨⟨name, content⟩, hsingle⟩ := List.length_eq_one_iff.mp hlength
    exact hmembers name content (by rw [hsingle])
  · next hstring _ hobject =>
    refine isIn_of_misfit h ⟨rfl, ?_⟩
    intro hadmits
    cases value with
    | string name => exact hstring name rfl
    | object members => exact hobject members rfl
    | _ => rcases hadmits with hadmits | hadmits <;> cases hadmits

/-! ## Records -/

variable {ρ : Type} {fields : List (Field ρ)} {record : ρ}

/-- An error among those members of an object that are still to be read is in the object. -/
theorem isIn_of_decodeMembers {members rest : Keyed Json}
    (hfields : ∀ field ∈ fields, ∀ record, (field.update record).Locates)
    (hrest : ∀ name value, (name, value) ∈ rest → members.get? name = some value)
    (h : decodeMembers fields record rest = .error e) : e.IsIn (.object members) := by
  induction rest generalizing record with
  | nil => cases h
  | cons entry rest ih =>
      obtain ⟨key, value⟩ := entry
      have htail : ∀ name value, (name, value) ∈ rest → members.get? name = some value :=
        fun name value hmem => hrest name value (List.mem_cons_of_mem _ hmem)
      rw [decodeMembers] at h
      split at h
      · exact ih htail h
      · next field hfield =>
        split at h
        · exact ih htail h
        · next found hfound =>
          rw [← Except.error.inj h]
          have hstep : (Json.object members).step? key = some value :=
            hrest key value List.mem_cons_self
          exact (hfields field (List.mem_of_find?_eq_some hfield) record).under hstep hfound

/-- Among the items of an array of which those behind a position are still to be read, the error is
in the array. -/
theorem isIn_of_decodeItems (before : List Json) {rest : List Json}
    (hfields : ∀ field ∈ fields, ∀ record, (field.update record).Locates)
    (hlength : before.length + fields.length ≤ Number.maxWord)
    (h : decodeItems fields before.length record rest = .error e) :
    e.IsIn (.array (before ++ rest)) := by
  induction rest generalizing fields before record with
  | nil => cases fields <;> cases h
  | cons item rest ih =>
      cases fields with
      | nil =>
          refine isIn_of_misfit h ⟨before ++ item :: rest, rfl, ?_⟩
          rw [List.length_append]
      | cons field fields =>
          obtain ⟨hfield, hothers⟩ := List.forall_mem_cons.mp hfields
          rw [List.length_cons] at hlength
          rw [decodeItems] at h
          split at h
          · next updated hupdated =>
            have hall : before ++ item :: rest = (before ++ [item]) ++ rest := by simp
            have hposition : before.length + 1 = (before ++ [item]).length := by simp
            rw [hposition] at h
            rw [hall]
            refine ih (before ++ [item]) hothers ?_ h
            rw [← hposition]
            omega
          · next found hfound =>
            have hitem : (before ++ item :: rest)[before.length]? = some item := by simp
            rw [← Except.error.inj h]
            exact (hfield record).under (step?_item (by omega) hitem) hfound

/-- Where a record is refused, the error is in the value, if no object names a member twice. -/
theorem isIn_of_record {name : String} {defaults : ρ}
    (hfields : ∀ field ∈ fields, ∀ record, (field.update record).Locates)
    (hlength : fields.length ≤ Number.maxWord)
    (hdistinct : ∀ members, value = .object members → Keyed.Distinct members)
    (h : Json.record name fields defaults value = .error e) : e.IsIn value := by
  rw [Json.record.eq_def] at h
  split at h
  · next members =>
    exact isIn_of_decodeMembers hfields
      (fun name value hmem => (hdistinct members rfl).get?_of_mem hmem) h
  · exact isIn_of_decodeItems [] hfields (by simpa using hlength) h
  · next hobject harray =>
    refine isIn_of_misfit h ⟨rfl, ?_⟩
    intro hadmits
    cases value with
    | object members => exact hobject members rfl
    | array items => exact harray items rfl
    | _ => rcases hadmits with hadmits | hadmits <;> cases hadmits

end SchemaTables.Json
