import SchemaTables.Files.Search
import SchemaTables.Jq.Filter

/-!
# Tools

A command does not filter documents or match paths by itself.  It leaves both to tools, which it
knows by what they are asked for and what they may answer; their faults are texts to it.
-/

namespace SchemaTables.Command

/-- What a command asks of its tools. -/
structure Tools (m : Type → Type) where
  /-- What the text of a filter is compiled to. -/
  Program : Type
  compile : String → Except Jq.FilterError Program
  /-- All outputs of a program on a document, or its first fault. -/
  outputs : Program → Json → Except String (List Json)
  /-- The paths that a pattern stands for, or what is wrong with it.  In the place of a path there
  can be the reason why a directory cannot be looked into. -/
  search : String → m (Except String (List (Except String String)))

/-- The tools of this library.  The filters that they know are those of `Jq.library`. -/
def Tools.standard {m : Type → Type} [Monad m] (system : System m) : Tools m where
  Program := Jq.Filter
  compile := Jq.Filter.ofText
  outputs filter document := (filter.outputs document).mapError Jq.Fault.message
  search := Search.ofText system

end SchemaTables.Command
