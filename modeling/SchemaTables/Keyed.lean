/-!
# Keyed lists

A keyed list holds named entries in the order in which they were declared.  Object members, the
properties of a table and the tables of a database are all keyed lists: the order is what the
generated statements follow, and the first entry of a name is the one that a look-up finds.

`insert` keeps the place of a name that is already there, so it never introduces a second entry
of one name.
-/

namespace SchemaTables

/-- Named entries in declaration order. -/
abbrev Keyed (α : Type u) := List (String × α)

namespace Keyed

variable {α : Type u}

def keys (entries : Keyed α) : List String := entries.map Prod.fst

/-- The first entry under a name. -/
def get? : Keyed α → String → Option α
  | [], _ => none
  | (name, value) :: rest, key => if name = key then some value else get? rest key

def contains (entries : Keyed α) (key : String) : Bool := (entries.get? key).isSome

/-- Puts a value under a name: in the place of the first entry of that name, else at the end. -/
def insert : Keyed α → String → α → Keyed α
  | [], key, value => [(key, value)]
  | (name, old) :: rest, key, value =>
    if name = key then (name, value) :: rest else (name, old) :: insert rest key value

/-- Removes the first entry of a name and closes the gap with the last entry. -/
def swapErase (entries : Keyed α) (key : String) : Keyed α :=
  match entries.findIdx? (fun entry => entry.1 == key), entries.getLast? with
  | some i, some last =>
    if i + 1 = entries.length then entries.dropLast else entries.dropLast.set i last
  | _, _ => entries

/-- No name occurs twice. -/
def Distinct (entries : Keyed α) : Prop := entries.keys.Nodup

theorem keys_cons (entry : String × α) (rest : Keyed α) :
    keys (entry :: rest) = entry.1 :: keys rest := rfl

theorem get?_insert (entries : Keyed α) (key : String) (value : α) (other : String) :
    (entries.insert key value).get? other =
      if key = other then some value else entries.get? other := by
  induction entries with
  | nil => simp [insert, get?]
  | cons entry rest ih =>
    obtain ⟨name, old⟩ := entry
    by_cases hname : name = key
    · subst hname
      by_cases ho : name = other <;> simp [insert, get?, ho]
    · by_cases ho : name = other
      · subst ho
        simp [insert, get?, hname, Ne.symm hname]
      · simp [insert, get?, hname, ho, ih]

theorem keys_insert (entries : Keyed α) (key : String) (value : α) :
    (entries.insert key value).keys =
      if key ∈ entries.keys then entries.keys else entries.keys ++ [key] := by
  induction entries with
  | nil => simp [insert, keys]
  | cons entry rest ih =>
    obtain ⟨name, old⟩ := entry
    by_cases hname : name = key
    · subst hname
      simp [insert, keys]
    · have hne : key ≠ name := fun h => hname h.symm
      simp only [insert, if_neg hname, keys_cons, ih, List.mem_cons, hne, false_or]
      split <;> simp

theorem Distinct.insert {entries : Keyed α} (h : entries.Distinct) (key : String) (value : α) :
    (entries.insert key value).Distinct := by
  unfold Distinct at *
  rw [keys_insert]
  split
  · exact h
  · next hmem => simpa [List.nodup_append] using ⟨h, fun a ha hak => hmem (hak ▸ ha)⟩

end Keyed

end SchemaTables
