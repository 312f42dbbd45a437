import RecordSearch.Expression.Codec
import RecordSearch.Request.Basic

/-!
# Requests as documents

All fields of a request are optional. Its texts are taken as they are, blank ones included.
-/

namespace RecordSearch.Request

def fieldNames : List String :=
  ["index", "page", "limit", "sort", "filter", "filter_attributes", "predicate"]

def ofDocument? (d : Document) : Option Request := do
  let fields ← d.fields? fieldNames
  let field := Document.field? fields
  let index ← Document.optional? Document.signed? (field "index")
  let page ← Document.optional? Document.signed? (field "page")
  let limit ← Document.optional? Document.signed? (field "limit")
  let sort ← Document.optional? Document.text? (field "sort")
  let term ← Document.optional? Document.text? (field "filter")
  let filters ← Document.orDefault? (Document.dictionary? Document.text?) .empty
    (field "filter_attributes")
  let predicate ← Document.optional? Predicate.ofDocument? (field "predicate")
  return ⟨index, page, limit, sort, term, filters, predicate⟩

end RecordSearch.Request
