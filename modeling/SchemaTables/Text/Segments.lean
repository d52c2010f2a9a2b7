/-!
# Texts made of segments

Reference targets, table names and error paths are segments written with a one-character
separator between them.  `split` and `join` are inverse to each other where no segment holds the
separator.
-/

namespace SchemaTables.Text

/-- Cuts characters at every separator; there is always at least one segment. -/
def splitChars (separator : Char) : List Char → List (List Char)
  | [] => [[]]
  | c :: rest =>
    if c = separator then [] :: splitChars separator rest
    else match splitChars separator rest with
      | [] => [[c]]
      | first :: others => (c :: first) :: others

def split (separator : Char) (text : String) : List String :=
  (splitChars separator text.toList).map String.ofList

/-- Segments written with a separator text between neighbours. -/
def join (separator : String) : List String → String
  | [] => ""
  | [segment] => segment
  | segment :: rest => segment ++ separator ++ join separator rest

def concat : List String → String
  | [] => ""
  | text :: rest => text ++ concat rest

def startsWith (start text : String) : Bool := start.toList.isPrefixOf text.toList

/-- Drops the given beginning, where it is there. -/
def afterStart? (start text : String) : Option String :=
  if startsWith start text then some (String.ofList (text.toList.drop start.length)) else none

theorem splitChars_ne_nil (separator : Char) (text : List Char) :
    splitChars separator text ≠ [] := by
  cases text with
  | nil => simp [splitChars]
  | cons c rest =>
    unfold splitChars
    split
    · simp
    · split <;> simp

end SchemaTables.Text
