import SchemaTables.Jq.Evaluation
import SchemaTables.Jq.Names

/-!
# Filters of documents

A filter is made from a text once and then applied to any number of documents.  Each of its outputs
is a document again; a fault is the outcome of the whole application.
-/

namespace SchemaTables.Jq

/-- A filter and the text it was made from. -/
structure Filter where
  source : String
  term : Term
  deriving Inhabited

/-- Why a text makes no filter. -/
inductive FilterError
  | unreadable
  | undefined (names : List Name)
  deriving DecidableEq, Inhabited

/-- The lines that say what is not defined in a text. -/
def undefinedLines (source : String) (names : List Name) : List String :=
  names.map fun name =>
    "undefined `" ++ name.written ++ "`: " ++ name.kind.text ++ " in `" ++ source ++ "`"

/-- A fault of a filter on a document of a name, in words. -/
def faultMessage (source name cause : String) : String :=
  "jq `" ++ source ++ "` failed on " ++ name ++ ": " ++ cause

namespace Filter

def libraryNames : List Name := library.map Definition.toName

def ofText (source : String) : Except FilterError Filter :=
  match Term.ofText? source with
  | none => .error .unreadable
  | some term =>
    match term.unknownNames libraryNames with
    | [] => .ok ⟨source, term⟩
    | names => .error (.undefined names)

def outputs (filter : Filter) (document : Json) : Except Fault (List Json) :=
  let trace := run callDepth .library filter.term (.ofJson document)
  match trace.stop with
  | some (.fault fault) => .error fault
  | _ => .ok (trace.outputs.map Value.toJson)

def faultMessage (filter : Filter) (name : String) (fault : Fault) : String :=
  Jq.faultMessage filter.source name fault.message

end Filter

end SchemaTables.Jq
