import Mathlib.Data.Nat.Digits.Defs
import SchemaTables.Json.Pointer

/-!
# Following paths

A path is followed one segment after the other, so a path that continues another one is followed
from the part to which that one leads (`at?_append`).  A position is written in decimal, and read
back as the position that it is (`itemPosition?_toString`).
-/

namespace SchemaTables.Json

variable {value inner : Json} {segment : String}

/-! ## Paths -/

theorem at?_nil : value.at? [] = some value := rfl

theorem at?_cons (h : value.step? segment = some inner) (rest : List String) :
    value.at? (segment :: rest) = inner.at? rest := by
  rw [at?, h, Option.bind_some]

theorem at?_append (value : Json) (first second : List String) :
    value.at? (first ++ second) = (value.at? first).bind fun inner => inner.at? second := by
  induction first generalizing value with
  | nil => rfl
  | cons segment rest ih =>
      rw [List.cons_append, at?, at?, Option.bind_assoc]
      exact Option.bind_congr fun inner _ => ih inner

/-- A path that goes on behind the path to a part is followed from that part. -/
theorem at?_append_of_at? {path : List String} (h : value.at? path = some inner)
    (rest : List String) : value.at? (path ++ rest) = inner.at? rest := by
  rw [at?_append, h, Option.bind_some]

theorem at?_member {members : Keyed Json} (h : members.get? segment = some inner)
    (rest : List String) : (Json.object members).at? (segment :: rest) = inner.at? rest := by
  rw [at?, step?, h, Option.bind_some]

theorem at?_append_member {path : List String} {members : Keyed Json}
    (h : value.at? path = some (.object members)) (hinner : members.get? segment = some inner) :
    value.at? (path ++ [segment]) = some inner := by
  rw [at?_append_of_at? h, at?_member hinner, at?_nil]

/-! ## Positions -/

theorem head?_toDigits_ne {n : Nat} (h : 0 < n) : (Nat.toDigits 10 n).head? ≠ some '0' := by
  induction n using Nat.strong_induction_on with
  | h n ih =>
      rw [Nat.toDigits_eq_if (by decide)]
      split
      · intro hzero
        have hchar : n.digitChar = '0' := Option.some.inj hzero
        rw [Nat.digitChar_eq_zero] at hchar
        omega
      · next hlarge =>
        -- the first digit is that of the number without its last one
        have hfirst := ih (n / 10) (by omega) (by omega)
        obtain ⟨c, rest, hcons⟩ := List.exists_cons_of_ne_nil (@Nat.toDigits_ne_nil (n / 10) 10)
        rw [hcons] at hfirst ⊢
        exact hfirst

theorem itemPosition?_toString {i : Nat} (h : i ≤ Number.maxWord) :
    itemPosition? (toString i) = some i := by
  have hdigits : (toString i).toList = Nat.toDigits 10 i := by
    simp
  have hall : (Nat.toDigits 10 i).all Char.isDigit = true := by
    rw [List.all_eq_true]
    intro c hc
    exact Nat.isDigit_of_mem_toDigits (by decide) (by decide) hc
  have hvalue : (Nat.toDigits 10 i).foldl (fun n c => n * 10 + (c.toNat - '0'.toNat)) 0 = i := by
    simpa only [Nat.ofDigitChars_eq_foldl, Nat.mul_comm 10] using
      Nat.ofDigitChars_toDigits (b := 10) (n := i) (by decide) (by decide)
  rw [itemPosition?, hdigits]
  split
  · next hnil => exact absurd hnil Nat.toDigits_ne_nil
  · next c rest hzero =>
    -- only the position zero begins with a zero, and it is that digit alone
    have hpositive : ¬ 0 < i := by
      intro hpositive
      apply head?_toDigits_ne hpositive
      rw [hzero]
      rfl
    rw [Nat.eq_zero_of_not_pos hpositive, Nat.toDigits_zero] at hzero
    cases hzero
  · rw [if_pos hall, hvalue]
    exact if_pos h

theorem step?_item {items : List Json} {i : Nat} (hposition : i ≤ Number.maxWord)
    (h : items[i]? = some inner) : (Json.array items).step? (toString i) = some inner := by
  rw [step?, itemPosition?_toString hposition, Option.bind_some, h]

end SchemaTables.Json
