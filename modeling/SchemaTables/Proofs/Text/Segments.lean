import Mathlib.Data.List.Nodup
import SchemaTables.Text.Segments

/-!
# Joining and splitting are inverse

Joining the segments of a text gives the text back, and splitting what was joined cuts every
segment at the separators in it.  Segments that do not hold the separator are therefore found again,
and joining is injective on them; in general, two lists of segments are joined to one text exactly
if they are the same after that cut (`join_eq_join_iff`).
-/

namespace SchemaTables.Text

variable {separator : Char}

/-- The text does not hold the character. -/
def Avoids (c : Char) (text : String) : Prop := c ∉ text.toList

instance (c : Char) (text : String) : Decidable (Avoids c text) :=
  inferInstanceAs (Decidable (¬ c ∈ text.toList))

/-! ## Splitting -/

/-- What stands before a separator and what stands behind it are cut on their own. -/
theorem splitChars_append (before after : List Char) :
    splitChars separator (before ++ separator :: after) =
      splitChars separator before ++ splitChars separator after := by
  induction before with
  | nil => simp [splitChars]
  | cons c rest ih =>
      by_cases hc : c = separator
      · simp [splitChars, hc, ih]
      · obtain ⟨first, others, hrest⟩ :=
          List.exists_cons_of_ne_nil (splitChars_ne_nil separator rest)
        simp [splitChars, hc, ih, hrest]

theorem splitChars_of_notMem {chars : List Char} (h : separator ∉ chars) :
    splitChars separator chars = [chars] := by
  induction chars with
  | nil => rfl
  | cons c rest ih =>
      rw [List.mem_cons, not_or] at h
      rw [splitChars, if_neg (Ne.symm h.1), ih h.2]

theorem splitChars_append_cons {chars : List Char} (h : separator ∉ chars) (rest : List Char) :
    splitChars separator (chars ++ separator :: rest) = chars :: splitChars separator rest := by
  rw [splitChars_append, splitChars_of_notMem h, List.singleton_append]

theorem split_append (before after : String) :
    split separator (before ++ separator.toString ++ after) =
      split separator before ++ split separator after := by
  have hlist : (before ++ separator.toString ++ after).toList =
      before.toList ++ separator :: after.toList := by
    simp [String.toList_append]
  rw [split, hlist, splitChars_append, List.map_append, split, split]

theorem split_of_avoids {segment : String} (h : Avoids separator segment) :
    split separator segment = [segment] := by
  rw [split, splitChars_of_notMem h, List.map_singleton, String.ofList_toList]

theorem avoids_of_mem_split {text segment : String} (h : segment ∈ split separator text) :
    Avoids separator segment := by
  have hchars : ∀ chars, ∀ part ∈ splitChars separator chars, separator ∉ part := by
    intro chars
    induction chars with
    | nil => simp [splitChars]
    | cons c rest ih =>
        by_cases hc : c = separator
        · simpa [splitChars, hc] using ih
        · obtain ⟨first, others, hrest⟩ :=
            List.exists_cons_of_ne_nil (splitChars_ne_nil separator rest)
          rw [hrest, List.forall_mem_cons] at ih
          simpa [splitChars, hc, hrest, Ne.symm hc] using ih
  obtain ⟨part, hpart, rfl⟩ := List.mem_map.mp h
  rw [Avoids, String.toList_ofList]
  exact hchars _ part hpart

theorem flatMap_split_of_avoids {segments : List String}
    (h : ∀ segment ∈ segments, Avoids separator segment) :
    segments.flatMap (split separator) = segments := by
  induction segments with
  | nil => rfl
  | cons segment rest ih =>
      obtain ⟨hsegment, hrest⟩ := List.forall_mem_cons.mp h
      rw [List.flatMap_cons, split_of_avoids hsegment, ih hrest, List.singleton_append]

/-! ## Joining -/

theorem join_cons_cons (text segment next : String) (others : List String) :
    join text (segment :: next :: others) = segment ++ text ++ join text (next :: others) := rfl

/-- Splitting what was joined cuts every segment further. -/
theorem split_join_eq_flatMap {segments : List String} (hne : segments ≠ []) :
    split separator (join separator.toString segments) = segments.flatMap (split separator) := by
  induction segments with
  | nil => exact absurd rfl hne
  | cons segment rest ih =>
      cases rest with
      | nil => simp [join]
      | cons next others =>
          rw [join_cons_cons, split_append, ih (by simp)]
          rfl

theorem split_join {segments : List String} (hne : segments ≠ [])
    (h : ∀ segment ∈ segments, Avoids separator segment) :
    split separator (join separator.toString segments) = segments := by
  rw [split_join_eq_flatMap hne, flatMap_split_of_avoids h]

theorem join_split (text : String) : join separator.toString (split separator text) = text := by
  have hchars : ∀ chars, join separator.toString ((splitChars separator chars).map String.ofList) =
      String.ofList chars := by
    intro chars
    induction chars with
    | nil => rfl
    | cons c rest ih =>
        obtain ⟨first, others, hrest⟩ :=
          List.exists_cons_of_ne_nil (splitChars_ne_nil separator rest)
        rw [hrest, List.map_cons] at ih
        apply String.toList_injective
        by_cases hc : c = separator
        · rw [splitChars, if_pos hc, hrest, List.map_cons, List.map_cons, join_cons_cons, ih, hc]
          simp [String.toList_append]
        · rw [splitChars, if_neg hc, hrest, String.toList_ofList,
            ← @String.toList_ofList rest, ← ih]
          cases others with
          | nil => simp [join]
          | cons next others => simp [join_cons_cons, String.toList_append]
  rw [split, hchars, String.ofList_toList]

theorem split_injective : Function.Injective (split separator) := by
  intro first second h
  rw [← @join_split separator first, h, join_split]

/-- Two lists of segments are joined to one text exactly if they are the same once every segment is
cut at the separators in it. -/
theorem join_eq_join_iff {first second : List String} (hfirst : first ≠ [])
    (hsecond : second ≠ []) :
    join separator.toString first = join separator.toString second ↔
      first.flatMap (split separator) = second.flatMap (split separator) := by
  rw [← split_join_eq_flatMap hfirst, ← split_join_eq_flatMap hsecond]
  exact split_injective.eq_iff.symm

theorem join_injective {first second : List String} (hfirst : first ≠ []) (hsecond : second ≠ [])
    (h₁ : ∀ segment ∈ first, Avoids separator segment)
    (h₂ : ∀ segment ∈ second, Avoids separator segment)
    (heq : join separator.toString first = join separator.toString second) :
    first = second := by
  rw [join_eq_join_iff hfirst hsecond, flatMap_split_of_avoids h₁,
    flatMap_split_of_avoids h₂] at heq
  exact heq

theorem join_append_singleton (text : String) {segments : List String} (hne : segments ≠ [])
    (last : String) :
    join text (segments ++ [last]) = join text segments ++ text ++ last := by
  induction segments with
  | nil => exact absurd rfl hne
  | cons segment rest ih =>
      cases rest with
      | nil => rfl
      | cons next others =>
          rw [List.cons_append, List.cons_append, join_cons_cons, ← List.cons_append,
            ih (by simp), join_cons_cons]
          simp only [String.append_assoc]

end SchemaTables.Text
