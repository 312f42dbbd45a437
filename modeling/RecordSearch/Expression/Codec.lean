import RecordSearch.Expression.Predicate
import RecordSearch.Document.Fields
import RecordSearch.Schema.Codec

/-!
# Expressions and predicates as documents

A node of an expression is tagged by its kind under `node`; all fields of the kind are required. All
fields of a predicate are optional.
-/

namespace RecordSearch

/-- The tag of a document and what is left without it: an entry of a table or the first item of a
sequence. -/
def Document.tagged? (tag : String) : Document → Option (Document × Document)
  | .table entries =>
    match entries.filter fun entry ↦ entry.1 == tag.toList with
    | [entry] => some (entry.2, .table (entries.filter fun entry ↦ entry.1 != tag.toList))
    | _ => none
  | .sequence (first :: rest) => some (first, .sequence rest)
  | _ => none

/-- One of several names, alone or as the only key of a table with nothing under it. -/
def Document.alternative? (names : List String) : Document → Option String
  | .text s => names.find? fun name ↦ name.toList == s
  | .table [(key, .null)] => names.find? fun name ↦ name.toList == key
  | _ => none

namespace Expression

def nodeNames : List String := ["leaf", "group"]

def kindNames : List String := ["match", "membership"]

def connectiveNames : List String := ["and", "or"]

/-- The expression of a document of at most `levels` levels. -/
def ofDocumentWithin? : (levels : Nat) → Document → Option Expression
  | 0, _ => none
  | levels + 1, d => do
    let (tag, rest) ← d.tagged? "node"
    match ← tag.choice? nodeNames with
    | "leaf" =>
      let fields ← rest.fields? ["attribute", "value", "kind"]
      let name ← (Document.field? fields "attribute").bind Document.text?
      let value ← (Document.field? fields "value").bind Document.text?
      let kind ← (Document.field? fields "kind").bind (Document.alternative? kindNames)
      return .leaf name value (if kind == "membership" then .membership else .comparison)
    | _ =>
      let fields ← rest.fields? ["mode", "negated", "children"]
      let mode ← (Document.field? fields "mode").bind (Document.alternative? connectiveNames)
      let negated ← (Document.field? fields "negated").bind Document.boolean?
      let children ← (Document.field? fields "children").bind
        (Document.items? (ofDocumentWithin? levels))
      return .group (.ofDisjunctive (mode == "or")) negated children

def ofDocument? (d : Document) : Option Expression :=
  ofDocumentWithin? d.height d

end Expression

namespace Predicate

def fieldNames : List String :=
  ["attribute", "filter", "disjunctive", "negation", "membership", "predicates"]

/-- The predicate of a document of at most `levels` levels. -/
def ofDocumentWithin? : (levels : Nat) → Document → Option Predicate
  | 0, _ => none
  | levels + 1, d => do
    let fields ← d.fields? fieldNames
    let field := Document.field? fields
    let name ← Document.optional? Document.text? (field "attribute")
    let filter ← Document.optional? Document.text? (field "filter")
    let disjunctive ← Document.orDefault? Document.boolean? false (field "disjunctive")
    let negated ← Document.orDefault? Document.boolean? false (field "negation")
    let membership ← Document.orDefault? Document.boolean? false (field "membership")
    let parts ← Document.orDefault? (Document.items? (ofDocumentWithin? levels)) []
      (field "predicates")
    return ⟨name, filter, disjunctive, negated, membership, parts⟩

def ofDocument? (d : Document) : Option Predicate :=
  ofDocumentWithin? d.height d

mutual

/-- The three flags are always written, the other fields only if there is something in them. -/
def toDocument : Predicate → Document
  | ⟨name, filter, disjunctive, negated, membership, parts⟩ =>
    .record (textField "attribute" name ++ textField "filter" filter ++
      [("disjunctive", .boolean disjunctive), ("negation", .boolean negated),
        ("membership", .boolean membership)] ++ partsField (toDocuments parts))
where
  textField (key : String) : Option Text → List (String × Document)
    | some s => [(key, .text s)]
    | none => []
  partsField (parts : List Document) : List (String × Document) :=
    if parts.isEmpty then [] else [("predicates", .sequence parts)]

def toDocuments : List Predicate → List Document
  | [] => []
  | part :: parts => toDocument part :: toDocuments parts

end

end Predicate

end RecordSearch
