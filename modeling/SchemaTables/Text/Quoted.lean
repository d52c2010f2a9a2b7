/-!
# Quoted texts

A text between quotes, where a quote inside it is written twice.
-/

namespace SchemaTables.Text

/-- Characters in which every quote is written twice. -/
def doubled (quote : Char) : List Char → List Char
  | [] => []
  | c :: rest => if c = quote then quote :: quote :: doubled quote rest else c :: doubled quote rest

def quoted (quote : Char) (text : String) : String :=
  String.ofList (quote :: (doubled quote text.toList ++ [quote]))

/-- Reads up to the quote that ends a quoted text: the characters inside, and those behind it. -/
def unquote? (quote : Char) : List Char → Option (List Char × List Char)
  | [] => none
  | [c] => if c = quote then some ([], []) else none
  | c :: d :: rest =>
    if c = quote then
      if d = quote then (unquote? quote rest).map fun (inside, behind) => (quote :: inside, behind)
      else some ([], d :: rest)
    else (unquote? quote (d :: rest)).map fun (inside, behind) => (c :: inside, behind)

theorem unquote?_doubled (quote : Char) (text behind : List Char)
    (hbehind : behind.head? ≠ some quote) :
    unquote? quote (doubled quote text ++ quote :: behind) = some (text, behind) := by
  induction text with
  | nil =>
    cases behind with
    | nil => simp [doubled, unquote?]
    | cons d rest =>
      have hd : d ≠ quote := fun h => hbehind (by simp [h])
      simp [doubled, unquote?, hd]
  | cons c rest ih =>
    by_cases hc : c = quote
    · subst hc
      simp [doubled, unquote?, ih]
    · have hstart : ∃ d tail, doubled quote rest ++ quote :: behind = d :: tail := by
        cases h : doubled quote rest ++ quote :: behind with
        | nil => simp at h
        | cons d tail => exact ⟨d, tail, rfl⟩
      obtain ⟨d, tail, htail⟩ := hstart
      simp only [doubled, if_neg hc, List.cons_append, htail]
      rw [htail] at ih
      simp [unquote?, hc, ih]

end SchemaTables.Text
