import SchemaTables.Ddl.Migration
import SchemaTables.Ddl.Text
import SchemaTables.Proofs.Text.Segments

/-!
# Names of constraints and types

The names of the constraints of a table are put together from its name, a column and a kind.  A kind
holds no `_`, so it is what stands behind the last one: two constraints of a table have the same
name only if they are of the same kind and on the same column.
-/

namespace SchemaTables

/-- What stands behind the last separator, and what stands before it. -/
theorem append_separator_injective {c : Char} {first second firstEnd secondEnd : List Char}
    (h₁ : c ∉ firstEnd) (h₂ : c ∉ secondEnd)
    (h : first ++ c :: firstEnd = second ++ c :: secondEnd) :
    first = second ∧ firstEnd = secondEnd := by
  have hreverse := congrArg (Text.splitChars c ∘ List.reverse) h
  simp only [Function.comp_apply, List.reverse_append, List.reverse_cons, List.append_assoc,
    List.cons_append, List.nil_append] at hreverse
  rw [Text.splitChars_append_cons (by simpa using h₁),
    Text.splitChars_append_cons (by simpa using h₂)] at hreverse
  have hend : firstEnd = secondEnd := List.reverse_injective (List.cons.inj hreverse).1
  subst hend
  exact ⟨List.append_cancel_right h, rfl⟩

theorem toList_constraintName (table column kind : String) :
    (constraintName table column kind).toList =
      table.toList ++ '_' :: (column.toList ++ '_' :: kind.toList) := by
  simp [constraintName, String.toList_append]

theorem enumTypeName_eq (table column : String) :
    enumTypeName table column = constraintName table column "enum" := by
  have htext : "_enum" = "_" ++ "enum" := by decide
  rw [enumTypeName, constraintName, htext, String.append_assoc, String.append_assoc,
    String.append_assoc, String.append_assoc, String.append_assoc]

/-- The column and the kind of a constraint are known by its name. -/
theorem constraintName_injective {table first second kind other : String}
    (h₁ : Text.Avoids '_' kind) (h₂ : Text.Avoids '_' other)
    (h : constraintName table first kind = constraintName table second other) :
    first = second ∧ kind = other := by
  have hlist := congrArg String.toList h
  rw [toList_constraintName, toList_constraintName] at hlist
  have htail := (List.cons.inj (List.append_cancel_left hlist)).2
  obtain ⟨hcolumn, hkind⟩ := append_separator_injective h₁ h₂ htail
  exact ⟨String.toList_injective hcolumn, String.toList_injective hkind⟩

/-- No constraint on a column is called like that of the primary key. -/
theorem keyName_ne_constraintName (table column kind : String) :
    keyName table ≠ constraintName table column kind := by
  intro h
  have hlist := congrArg String.toList h
  rw [toList_constraintName, keyName, String.toList_append] at hlist
  have htail := List.append_cancel_left hlist
  have hkey : "_pkey".toList = '_' :: ['p', 'k', 'e', 'y'] := by decide
  rw [hkey] at htail
  have hmem : '_' ∈ ['p', 'k', 'e', 'y'] := by
    rw [(List.cons.inj htail).2]
    exact List.mem_append_right _ List.mem_cons_self
  exact absurd hmem (by decide)

end SchemaTables
