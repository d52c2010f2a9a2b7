import SchemaTables.Files.Path
import SchemaTables.Proofs.Text.Segments

/-!
# The names of a continued path

A path that is continued by a name has the names of the path before it, and the name itself as the
last one (`split_join`); whether it is absolute does not change.
-/

namespace SchemaTables

namespace Path

/-- A text that names an entry of the directory that it is looked up in. -/
structure IsName (name : String) : Prop where
  avoids : Text.Avoids '/' name
  ne_empty : name ≠ ""
  ne_dot : name ≠ "."
  ne_dots : name ≠ ".."

variable {base name path stem : String}

/-- The segments of a path in front of a name that continues it. -/
def segments (base : String) : List String :=
  if base.isEmpty then []
  else if base.toList.getLast? = some '/' then (Text.split '/' base).dropLast
  else Text.split '/' base

/-! ## Continued paths -/

theorem not_isAbsolute_of_avoids (h : Text.Avoids '/' name) : isAbsolute name = false := by
  have hslash : "/".toList = ['/'] := by decide
  rw [isAbsolute, Text.startsWith, hslash]
  cases hname : name.toList with
  | nil => rfl
  | cons c rest =>
      rw [Text.Avoids, hname, List.mem_cons, not_or] at h
      simp [List.isPrefixOf, h.1]

theorem join_of_avoids (h : Text.Avoids '/' name) :
    join base name =
      if base.isEmpty then name
      else if base.toList.getLast? = some '/' then base ++ name
      else base ++ "/" ++ name := by
  simp [join, not_isAbsolute_of_avoids h]

theorem exists_eq_append_slash (h : base.toList.getLast? = some '/') :
    ∃ front, base = front ++ Char.toString '/' := by
  obtain ⟨front, hfront⟩ := List.getLast?_eq_some_iff.mp h
  refine ⟨String.ofList front, String.toList_injective ?_⟩
  rw [hfront, String.toList_append, String.toList_ofList]
  rfl

theorem split_join (h : Text.Avoids '/' name) :
    Text.split '/' (join base name) = segments base ++ [name] := by
  rw [join_of_avoids h, segments]
  by_cases hempty : base.isEmpty
  · rw [if_pos hempty, if_pos hempty, Text.split_of_avoids h, List.nil_append]
  rw [if_neg hempty, if_neg hempty]
  by_cases hslash : base.toList.getLast? = some '/'
  · rw [if_pos hslash, if_pos hslash]
    obtain ⟨front, rfl⟩ := exists_eq_append_slash hslash
    have hfront : Text.split '/' (front ++ Char.toString '/') = Text.split '/' front ++ [""] := by
      have hsplit := @Text.split_append '/' front ""
      have hempty : Text.split '/' "" = [""] := by decide
      rwa [String.append_empty, hempty] at hsplit
    rw [hfront, List.dropLast_concat, Text.split_append, Text.split_of_avoids h]
  · rw [if_neg hslash, if_neg hslash]
    have hsplit := @Text.split_append '/' base name
    rwa [Text.split_of_avoids h] at hsplit

/-- The segments of a continued path are all its segments, as it does not end in a slash. -/
theorem segments_join (h : IsName name) : segments (join base name) = segments base ++ [name] := by
  have hchars : name.toList ≠ [] := by
    intro hnil
    exact h.ne_empty (String.toList_eq_nil_iff.mp hnil)
  obtain ⟨front, hfront⟩ : ∃ front : List Char, (join base name).toList = front ++ name.toList := by
    rw [join_of_avoids h.avoids]
    split
    · exact ⟨[], rfl⟩
    · split
      · exact ⟨base.toList, String.toList_append⟩
      · exact ⟨(base ++ "/").toList, String.toList_append⟩
  have hempty : ¬ (join base name).isEmpty := by
    rw [String.isEmpty_iff]
    intro heq
    rw [heq] at hfront
    exact hchars (List.append_eq_nil_iff.mp hfront.symm).2
  have hslash : (join base name).toList.getLast? ≠ some '/' := by
    rw [hfront, List.getLast?_append_of_ne_nil _ hchars]
    intro hlast
    exact h.avoids (List.mem_of_getLast? hlast)
  rw [segments, if_neg hempty, if_neg hslash, split_join h.avoids]

theorem isAbsolute_join (h : Text.Avoids '/' name) :
    isAbsolute (join base name) = isAbsolute base := by
  have hslash : "/".toList = ['/'] := by decide
  have hlonger : base.toList ≠ [] → ∀ rest, isAbsolute (base ++ rest) = isAbsolute base := by
    intro hne rest
    obtain ⟨c, others, hbase⟩ := List.exists_cons_of_ne_nil hne
    simp [isAbsolute, Text.startsWith, String.toList_append, hbase, hslash, List.isPrefixOf]
  rw [join_of_avoids h]
  by_cases hempty : base.isEmpty
  · rw [if_pos hempty, not_isAbsolute_of_avoids h, String.isEmpty_iff.mp hempty]
    decide
  have hne : base.toList ≠ [] := by
    intro hnil
    exact hempty (String.isEmpty_iff.mpr (String.toList_eq_nil_iff.mp hnil))
  rw [if_neg hempty]
  split
  · exact hlonger hne name
  · rw [String.append_assoc]
    exact hlonger hne ("/" ++ name)

/-! ## Stems -/

theorem avoids_of_stem? (h : stem? path = some stem) : Text.Avoids '/' stem := by
  rw [stem?] at h
  split at h
  · contradiction
  · contradiction
  · next name _ hlast =>
    have hname : Text.Avoids '/' name :=
      Text.avoids_of_mem_split (List.mem_filter.mp (List.mem_of_getLast? hlast)).1
    have hsub : ∀ chars : List Char, beforeLastDot chars ⊆ chars := by
      intro chars c hc
      rw [beforeLastDot] at hc
      split at hc
      · exact hc
      · have hdrop := List.mem_of_mem_drop (List.mem_reverse.mp hc)
        exact List.mem_reverse.mp ((List.dropWhile_sublist _).subset hdrop)
    cases h
    rw [Text.Avoids, String.toList_ofList]
    intro hslash
    exact hname (hsub _ hslash)

end Path

end SchemaTables
