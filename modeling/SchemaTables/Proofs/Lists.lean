import Mathlib.Data.List.Forall2

/-!
# Lists related item by item

What is known of two lists whose items are related one by one, for a single item of either list,
and of the items of a list that may each be an error.
-/

namespace SchemaTables

variable {α : Type u} {β : Type v} {R S : α → β → Prop} {first : List α} {second : List β}

theorem exists_left_of_forall₂ (h : List.Forall₂ R first second) {b : β} (hb : b ∈ second) :
    ∃ a ∈ first, R a b := by
  induction h with
  | nil => cases hb
  | cons hhead _ ih =>
      rcases List.mem_cons.mp hb with rfl | hb
      · exact ⟨_, List.mem_cons_self, hhead⟩
      · obtain ⟨a, ha, hrelated⟩ := ih hb
        exact ⟨a, List.mem_cons_of_mem _ ha, hrelated⟩

theorem exists_right_of_forall₂ (h : List.Forall₂ R first second) {a : α} (ha : a ∈ first) :
    ∃ b ∈ second, R a b :=
  exists_left_of_forall₂ h.flip ha

theorem exists_forall₂ (h : ∀ a ∈ first, ∃ b, R a b) : ∃ second, List.Forall₂ R first second := by
  induction first with
  | nil => exact ⟨[], .nil⟩
  | cons a rest ih =>
      obtain ⟨⟨b, hhead⟩, hrest⟩ := List.forall_mem_cons.mp h
      obtain ⟨second, hsecond⟩ := ih hrest
      exact ⟨b :: second, .cons hhead hsecond⟩

/-- A relation is weakened with the items known to be among those of the lists. -/
theorem forall₂_of_forall_mem (h : List.Forall₂ R first second)
    (himp : ∀ a ∈ first, ∀ b ∈ second, R a b → S a b) : List.Forall₂ S first second := by
  induction h with
  | nil => exact .nil
  | cons hhead _ ih =>
      refine .cons (himp _ List.mem_cons_self _ List.mem_cons_self hhead) (ih ?_)
      intro a ha b hb
      exact himp a (List.mem_cons_of_mem _ ha) b (List.mem_cons_of_mem _ hb)

/-! ## Items that may be errors -/

variable {ε : Type u} {entries : List (Except ε α)}

theorem mapM_id_eq_ok_iff {values : List α} :
    entries.mapM id = .ok values ↔ entries = values.map .ok := by
  induction entries generalizing values with
  | nil => cases values <;> simp [pure, Except.pure]
  | cons entry rest ih =>
      rw [List.mapM_cons]
      cases entry with
      | error error => cases values <;> simp [bind, Except.bind]
      | ok value =>
          cases hrest : rest.mapM id with
          | error error => cases values <;> simp [bind, Except.bind, ← ih, hrest]
          | ok others => cases values <;> simp [bind, Except.bind, pure, Except.pure, ← ih, hrest]

theorem exists_eq_map_ok_iff :
    (∃ values : List α, entries = values.map .ok) ↔ ∀ error, .error error ∉ entries := by
  constructor
  · rintro ⟨values, rfl⟩ error hmem
    obtain ⟨value, -, heq⟩ := List.mem_map.mp hmem
    cases heq
  · intro hnone
    induction entries with
    | nil => exact ⟨[], rfl⟩
    | cons entry rest ih =>
        obtain ⟨values, rfl⟩ := ih fun error hmem => hnone error (List.mem_cons_of_mem _ hmem)
        cases entry with
        | error error => exact absurd List.mem_cons_self (hnone error)
        | ok value => exact ⟨value :: values, rfl⟩

end SchemaTables
