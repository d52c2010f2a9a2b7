import Mathlib.Data.List.Nodup
import Mathlib.Data.List.Perm.Basic
import SchemaTables.Keyed

/-!
# Entries and names of keyed lists

Where no name occurs twice, the entries of a keyed list and what look-ups find are the same thing.
`insert` either replaces the one entry of a name or puts a new entry at the end.
-/

namespace SchemaTables.Keyed

variable {α : Type u} {entries : Keyed α} {name key : String} {value : α}

/-! ## Look-ups -/

theorem mem_keys_iff : name ∈ entries.keys ↔ ∃ value, (name, value) ∈ entries := by
  simp [keys]

theorem mem_keys_of_mem (h : (name, value) ∈ entries) : name ∈ entries.keys :=
  mem_keys_iff.mpr ⟨value, h⟩

theorem mem_of_get? (h : entries.get? name = some value) : (name, value) ∈ entries := by
  induction entries with
  | nil => simp [get?] at h
  | cons entry rest ih =>
      obtain ⟨other, stored⟩ := entry
      by_cases hname : other = name
      · subst hname
        have hvalue : stored = value := by simpa [get?] using h
        rw [hvalue]
        exact List.mem_cons_self
      · have hrest : get? rest name = some value := by simpa [get?, hname] using h
        exact List.mem_cons_of_mem _ (ih hrest)

theorem get?_eq_none_iff : entries.get? name = none ↔ name ∉ entries.keys := by
  induction entries with
  | nil => simp [get?, keys]
  | cons entry rest ih =>
      obtain ⟨other, stored⟩ := entry
      by_cases hname : other = name
      · simp [get?, keys_cons, hname]
      · simp [get?, keys_cons, hname, Ne.symm hname, ih]

theorem exists_get?_of_mem_keys (h : name ∈ entries.keys) :
    ∃ value, entries.get? name = some value := by
  cases hget : entries.get? name with
  | some value => exact ⟨value, rfl⟩
  | none => exact absurd h (get?_eq_none_iff.mp hget)

theorem keys_append (first second : Keyed α) :
    keys (first ++ second) = first.keys ++ second.keys := List.map_append

theorem get?_append (first second : Keyed α) (name : String) :
    get? (first ++ second) name = (get? first name).or (get? second name) := by
  induction first with
  | nil => rfl
  | cons entry rest ih =>
      obtain ⟨other, stored⟩ := entry
      rw [List.cons_append, get?, get?, ih]
      split <;> rfl

theorem get?_append_of_get? (h : entries.get? name = some value) (rest : Keyed α) :
    get? (entries ++ rest) name = some value := by
  rw [get?_append, h, Option.some_or]

theorem get?_append_singleton (h : key ∉ entries.keys) (name : String) :
    get? (entries ++ [(key, value)]) name =
      if name = key then some value else entries.get? name := by
  rw [get?_append]
  by_cases hname : name = key
  · rw [if_pos hname, hname, get?_eq_none_iff.mpr h, Option.none_or, get?, if_pos rfl]
  · rw [if_neg hname, get?, if_neg (Ne.symm hname), get?, Option.or_none]

theorem contains_eq_true_iff : entries.contains name = true ↔ name ∈ entries.keys := by
  constructor
  · intro h
    obtain ⟨value, hvalue⟩ := Option.isSome_iff_exists.mp h
    exact mem_keys_of_mem (mem_of_get? hvalue)
  · intro h
    obtain ⟨value, hvalue⟩ := exists_get?_of_mem_keys h
    simp [contains, hvalue]

theorem contains_eq_false_iff : entries.contains name = false ↔ name ∉ entries.keys := by
  rw [← contains_eq_true_iff, Bool.not_eq_true]

theorem Distinct.get?_of_mem (hdistinct : entries.Distinct) (h : (name, value) ∈ entries) :
    entries.get? name = some value := by
  induction entries with
  | nil => simp at h
  | cons entry rest ih =>
      obtain ⟨other, stored⟩ := entry
      obtain ⟨hfresh, hrest⟩ := List.nodup_cons.mp hdistinct
      rcases List.mem_cons.mp h with heq | hmem
      · cases heq
        simp [get?]
      · have hne : other ≠ name := by
          intro heq
          exact hfresh (heq ▸ mem_keys_of_mem hmem)
        simpa [get?, hne] using ih hrest hmem

theorem Distinct.eq_of_mem (hdistinct : entries.Distinct) {other : α}
    (h : (name, value) ∈ entries) (hother : (name, other) ∈ entries) : value = other := by
  have hvalue := hdistinct.get?_of_mem h
  rw [hdistinct.get?_of_mem hother] at hvalue
  exact (Option.some.inj hvalue).symm

/-! ## Changed values -/

theorem get?_map {β : Type v} (change : String → α → β) (entries : Keyed α) (name : String) :
    get? (entries.map fun entry => (entry.1, change entry.1 entry.2)) name =
      (entries.get? name).map (change name) := by
  induction entries with
  | nil => rfl
  | cons entry rest ih =>
      obtain ⟨other, value⟩ := entry
      rw [List.map_cons, get?, get?, ih]
      by_cases hname : other = name
      · rw [if_pos hname, if_pos hname, hname]
        rfl
      · rw [if_neg hname, if_neg hname]

/-! ## Entries in another order -/

theorem Distinct.perm {others : Keyed α} (hdistinct : entries.Distinct) (h : entries.Perm others) :
    others.Distinct := (h.map Prod.fst).nodup hdistinct

theorem Distinct.get?_perm {others : Keyed α} (hdistinct : entries.Distinct)
    (h : entries.Perm others) (name : String) : others.get? name = entries.get? name := by
  cases hget : entries.get? name with
  | some value => exact (hdistinct.perm h).get?_of_mem (h.mem_iff.mp (mem_of_get? hget))
  | none =>
      rw [get?_eq_none_iff] at hget ⊢
      intro hmem
      exact hget ((h.map Prod.fst).mem_iff.mpr hmem)

/-- The second list has the entries of the first one in some order, and further ones that have none
of the names. -/
def Extends (names : List String) (entries others : Keyed α) : Prop :=
  ∃ added : Keyed α, (∀ name ∈ added.keys, name ∉ names) ∧ (entries ++ added).Perm others

theorem Extends.get? {names : List String} {others : Keyed α}
    (h : entries.Extends names others) (hdistinct : others.Distinct) (hname : name ∈ names) :
    others.get? name = entries.get? name := by
  obtain ⟨added, hadded, hperm⟩ := h
  have hall : Distinct (entries ++ added) := hdistinct.perm hperm.symm
  have hnone : Keyed.get? added name = none := by
    rw [get?_eq_none_iff]
    intro hmem
    exact hadded name hmem hname
  rw [hall.get?_perm hperm, get?_append, hnone, Option.or_none]

/-! ## What entries turn into -/

/-- What entries turn into comes from the entry of its name, if it takes over the names. -/
theorem mem_filterMap {f : String × α → Option β} {nameOf : β → String}
    (hname : ∀ entry b, f entry = some b → nameOf b = entry.1) {b : β} :
    b ∈ entries.filterMap f ↔
      ∃ value, (nameOf b, value) ∈ entries ∧ f (nameOf b, value) = some b := by
  rw [List.mem_filterMap]
  constructor
  · rintro ⟨⟨name, value⟩, hmem, hb⟩
    cases hname (name, value) b hb
    exact ⟨value, hmem, hb⟩
  · rintro ⟨value, hmem, hb⟩
    exact ⟨(nameOf b, value), hmem, hb⟩

theorem Distinct.pairwise_filterMap (hdistinct : entries.Distinct) {f : String × α → Option β}
    {nameOf : β → String} (hname : ∀ entry b, f entry = some b → nameOf b = entry.1) :
    (entries.filterMap f).Pairwise fun first second => nameOf first ≠ nameOf second := by
  rw [Distinct, keys, List.Nodup, List.pairwise_map] at hdistinct
  rw [List.pairwise_filterMap]
  refine hdistinct.imp ?_
  intro first second hne a ha b hb
  rw [hname first a ha, hname second b hb]
  exact hne

/-! ## Inserting -/

theorem mem_insert_self : (key, value) ∈ entries.insert key value := by
  apply mem_of_get?
  rw [get?_insert, if_pos rfl]

theorem mem_of_mem_insert {stored : α} (h : (name, stored) ∈ entries.insert key value) :
    (name = key ∧ stored = value) ∨ (name, stored) ∈ entries := by
  induction entries with
  | nil =>
      rw [insert, List.mem_singleton, Prod.mk.injEq] at h
      exact Or.inl h
  | cons entry rest ih =>
      obtain ⟨other, old⟩ := entry
      by_cases hother : other = key
      · rw [insert, if_pos hother, List.mem_cons, Prod.mk.injEq] at h
        rcases h with ⟨hname, hstored⟩ | hrest
        · exact Or.inl ⟨hname.trans hother, hstored⟩
        · exact Or.inr (List.mem_cons_of_mem _ hrest)
      · rw [insert, if_neg hother, List.mem_cons] at h
        rcases h with heq | hrest
        · exact Or.inr (heq ▸ List.mem_cons_self)
        · rcases ih hrest with hnew | hold
          · exact Or.inl hnew
          · exact Or.inr (List.mem_cons_of_mem _ hold)

theorem mem_insert_of_ne {stored : α} (hne : name ≠ key) (h : (name, stored) ∈ entries) :
    (name, stored) ∈ entries.insert key value := by
  induction entries with
  | nil => simp at h
  | cons entry rest ih =>
      obtain ⟨other, old⟩ := entry
      rw [List.mem_cons, Prod.mk.injEq] at h
      rcases h with ⟨hname, hstored⟩ | hrest
      · rw [insert, if_neg (hname ▸ hne), hname, hstored]
        exact List.mem_cons_self
      · rw [insert]
        split
        · exact List.mem_cons_of_mem _ hrest
        · exact List.mem_cons_of_mem _ (ih hrest)

end SchemaTables.Keyed
