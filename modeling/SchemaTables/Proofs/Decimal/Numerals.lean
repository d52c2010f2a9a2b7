import SchemaTables.Json.Number

/-!
# The characters of numbers

A number is written with digits, signs, a point and the letter in front of an exponent, whatever its
layout is (`Number.areNumerals_text`).  No text of a number therefore opens a quote or ends a
statement.
-/

namespace SchemaTables

namespace Decimal

/-- A character that numbers are written with. -/
def IsNumeral (c : Char) : Prop := c.isDigit = true ∨ c ∈ ['.', 'e', '+', '-']

instance : DecidablePred IsNumeral := fun c =>
  inferInstanceAs (Decidable (c.isDigit = true ∨ c ∈ ['.', 'e', '+', '-']))

def AreNumerals (chars : List Char) : Prop := ∀ c ∈ chars, IsNumeral c

instance (chars : List Char) : Decidable (AreNumerals chars) :=
  List.decidableBAll IsNumeral chars

theorem areNumerals_append {first second : List Char} :
    AreNumerals (first ++ second) ↔ AreNumerals first ∧ AreNumerals second :=
  List.forall_mem_append

theorem areNumerals_cons {c : Char} {rest : List Char} :
    AreNumerals (c :: rest) ↔ IsNumeral c ∧ AreNumerals rest :=
  List.forall_mem_cons

theorem AreNumerals.subset {first second : List Char} (h : AreNumerals second)
    (hsubset : first ⊆ second) : AreNumerals first :=
  fun c hc => h c (hsubset hc)

/-! ## Digits -/

theorem areNumerals_digitsOf (n : Nat) : AreNumerals (digitsOf n) := by
  intro c hc
  exact Or.inl (Nat.isDigit_of_mem_toDigits (by decide) (by decide) hc)

theorem areNumerals_zeros (count : Nat) : AreNumerals (zeros count) := by
  intro c hc
  rw [(List.mem_replicate.mp hc).2]
  decide

theorem areNumerals_shortest (x : Binary64) : AreNumerals (shortest x).digits := by
  have hdropped : ∀ digits : List Char, trimZeros digits ⊆ digits := by
    intro digits c hc
    have hmem : c ∈ digits.reverse :=
      (List.dropWhile_sublist _).subset (List.mem_reverse.mp hc)
    exact List.mem_reverse.mp hmem
  exact (areNumerals_digitsOf _).subset (hdropped _)

/-! ## Layouts -/

theorem areNumerals_positional {d : Digits} (h : AreNumerals d.digits) :
    AreNumerals (positional d) := by
  rw [positional]
  split
  · rw [areNumerals_append, areNumerals_append]
    exact ⟨⟨by decide, areNumerals_zeros _⟩, h⟩
  · dsimp only
    split
    · rw [areNumerals_append, areNumerals_append]
      exact ⟨⟨h, areNumerals_zeros _⟩, by decide⟩
    · rw [areNumerals_append, areNumerals_cons]
      exact ⟨h.subset (List.take_subset _ _), by decide, h.subset (List.drop_subset _ _)⟩

theorem areNumerals_scientific {d : Digits} (h : AreNumerals d.digits) (plusSign : Bool) :
    AreNumerals (scientific plusSign d) := by
  rw [scientific, areNumerals_append, areNumerals_append, areNumerals_cons]
  refine ⟨⟨?_, by decide, ?_⟩, areNumerals_digitsOf _⟩
  · split
    · decide
    · next c hdigits =>
        rwa [hdigits] at h
    · next c rest _ hdigits =>
        rw [hdigits, areNumerals_cons] at h
        rw [areNumerals_cons, areNumerals_cons]
        exact ⟨h.1, by decide, h.2⟩
  · split
    · decide
    · split
      · decide
      · decide

theorem Layout.areNumerals_text (layout : Layout) (x : Binary64) :
    AreNumerals (layout.text x).toList := by
  rw [Layout.text]
  dsimp only
  rw [String.toList_ofList, areNumerals_append]
  constructor
  · split
    · decide
    · decide
  · split
    · decide
    · split
      · exact areNumerals_positional (areNumerals_shortest x)
      · exact areNumerals_scientific (areNumerals_shortest x) _

end Decimal

open Decimal

theorem areNumerals_toString (n : Nat) : AreNumerals (toString n).toList := by
  rw [Nat.toString_eq_repr, Nat.repr, String.toList_ofList]
  exact areNumerals_digitsOf n

theorem toString_injective {i j : Nat} (h : (toString i).toList = (toString j).toList) : i = j := by
  have hdigits : ∀ n : Nat, (toString n).toList = Nat.toDigits 10 n := by
    intro n
    rw [Nat.toString_eq_repr, Nat.repr, String.toList_ofList]
  rw [hdigits, hdigits] at h
  have hvalues := congrArg (fun digits => Nat.ofDigitChars 10 digits 0) h
  rwa [Nat.ofDigitChars_toDigits (by decide) (by decide),
    Nat.ofDigitChars_toDigits (by decide) (by decide)] at hvalues

/-- A number is written with digits, signs, a point and the letter of an exponent. -/
theorem Number.areNumerals_text (number : Number) : AreNumerals number.text.toList := by
  cases number with
  | int value =>
      cases value with
      | ofNat n => exact areNumerals_toString n
      | negSucc n =>
          have htext : (Number.int (Int.negSucc n)).text = "-" ++ toString (n + 1) := rfl
          rw [htext, String.toList_append, areNumerals_append]
          exact ⟨by decide, areNumerals_toString (n + 1)⟩
  | float value => exact Layout.areNumerals_text _ value

end SchemaTables
