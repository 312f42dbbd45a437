import RecordSearch.Command.Fault
import RecordSearch.Command.Invocation
import RecordSearch.Document.Json.Reader
import RecordSearch.Document.Toml.Reader
import RecordSearch.Files.Path
import RecordSearch.Literal.Engine
import RecordSearch.Request.Codec
import RecordSearch.Request.Form

/-!
# The input of a search

The files that a search is read from, and the request that its options state: a query string first,
which the other options override or add to.
-/

namespace RecordSearch

namespace InputFile

variable {m : Type → Type} [Monad m]

def readText (files : Files m) (path : Text) : ExceptT CommandFault m Text := do
  match ← files.read path with
  | .ok content => return content
  | .error fault => throw (.input path (.unreadable fault))

/-- What a file holds, or the fault of a malformed one. -/
def expect {α : Type} (path : Text) : Option α → Except CommandFault α
  | some a => .ok a
  | none => .error (.input path .malformed)

/-- A schema is read as TOML if the name of its file says so, and as JSON otherwise. -/
def schemaDocument? (path content : Text) : Option Document :=
  if (Path.extension? path).any (Text.equalsIgnoringAsciiCase "toml".toList) then
    Toml.read? content
  else Json.read? Json.depthLimit content

def schemaOf (path content : Text) : Except CommandFault Schema := do
  let schema ← expect path ((schemaDocument? path content).bind Schema.ofDocument?)
  if schema.isEmpty then .error (.input path .noAttributes) else .ok schema

def isRecord : Document → Bool
  | .table _ => true
  | _ => false

/-- The records of an array of objects. -/
def recordsOf (path content : Text) : Except CommandFault (List Document) := do
  match ← expect path (Json.read? Json.depthLimit content) with
  | .sequence records =>
    match records.findIdx? fun record ↦ !isRecord record with
    | some position => .error (.input path (.notRecord position))
    | none => .ok records
  | _ => .error (.input path .notRecords)

def predicateOf (path content : Text) : Except CommandFault Predicate :=
  expect path ((Json.read? Json.depthLimit content).bind Predicate.ofDocument?)

def readSchema (files : Files m) (path : Text) : ExceptT CommandFault m Schema := do
  let content ← readText files path
  schemaOf path content

def readRecords (files : Files m) (path : Text) : ExceptT CommandFault m (List Document) := do
  let content ← readText files path
  recordsOf path content

def readPredicate (files : Files m) (path : Text) : ExceptT CommandFault m Predicate := do
  let content ← readText files path
  predicateOf path content

end InputFile

namespace ListingOptions

def queryRequest (options : ListingOptions) : Except CommandFault Request :=
  match options.query with
  | some query => (Request.ofQuery query).mapError CommandFault.request
  | none => .ok .empty

/-- Adds a filter that is written with an equals sign. -/
def addPair (request : Request) (pair : Text) : Except CommandFault Request :=
  match Text.splitOnce '=' pair with
  | some (name, value) => .ok (request.addFilter name value)
  | none => .error (.argument (.notPair pair))

def addTerm (options : ListingOptions) (request : Request) : Request :=
  match options.term with
  | some term => request.withTerm term
  | none => request

/-- The filter that joins all others by OR. -/
def addSwitch (options : ListingOptions) (settings : Settings) (request : Request) : Request :=
  if options.disjunctive then request.addFilter settings.disjunctionKey "true".toList else request

def addSort (options : ListingOptions) (request : Request) : Request :=
  match options.sort with
  | some sort => request.withSort sort
  | none => request

def addWindow (options : ListingOptions) (request : Request) : Request :=
  { request with
    index := options.index <|> request.index
    page := options.page <|> request.page
    limit := options.limit <|> request.limit }

/-- The request without the predicate of a file. -/
def filterRequest (options : ListingOptions) (settings : Settings) :
    Except CommandFault Request := do
  let request ← options.queryRequest
  let request ← options.filters.foldlM addPair (options.addTerm request)
  return options.addSwitch settings request

variable {m : Type → Type} [Monad m]

def addPredicate (files : Files m) (options : ListingOptions) (request : Request) :
    ExceptT CommandFault m Request := do
  match options.predicate with
  | some path =>
    let predicate ← InputFile.readPredicate files path
    return { request with predicate := some predicate }
  | none => return request

def request (files : Files m) (options : ListingOptions) (settings : Settings) :
    ExceptT CommandFault m Request := do
  let request ← options.filterRequest settings
  let request ← options.addPredicate files request
  return options.addWindow (options.addSort request)

/-- The schema and the search that options ask for. -/
def search (files : Files m) (options : ListingOptions) (settings : Settings) :
    ExceptT CommandFault m (Schema × Search) := do
  let schema ← InputFile.readSchema files options.schema
  let request ← options.request files settings
  let search ← ((Search.ofRequest schema settings request).mapError CommandFault.request :
    Except _ _)
  return (schema, search)

end ListingOptions

end RecordSearch
