import SchemaTables.Json.Decode
import SchemaTables.Schema.Basic

/-!
# Reading metadata

The `metadata` keyword of a column is a record of six fields.
-/

namespace SchemaTables

def JsonStorage.decode : Json.Decoder JsonStorage :=
  Json.choice ("json", .json) ("jsonb", .jsonb)

namespace Metadata

/-- The fields in declaration order. -/
def fields : List (Json.Field Metadata) :=
  [ ⟨"index", fun record value =>
      (Json.boolean value).map fun flag => { record with index := flag }⟩,
    ⟨"unique", fun record value =>
      (Json.boolean value).map fun flag => { record with unique := flag }⟩,
    ⟨"default", fun record value =>
      (Json.optional Json.text value).map fun text => { record with default := text }⟩,
    ⟨"notNull", fun record value =>
      (Json.boolean value).map fun flag => { record with notNull := flag }⟩,
    ⟨"comment", fun record value =>
      (Json.optional Json.text value).map fun text => { record with comment := text }⟩,
    ⟨"type", fun record value =>
      (Json.optional JsonStorage.decode value).map fun storage =>
        { record with storage := storage }⟩ ]

def decode : Json.Decoder Metadata := Json.record "Metadata" fields {}

end Metadata

end SchemaTables
