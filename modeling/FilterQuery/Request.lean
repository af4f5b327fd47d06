import FilterQuery.Filter.Basic
import FilterQuery.Order.Basic
import FilterQuery.Pagination

/-!
# Requests

A request has a filter, an order and a pagination, each of which may be missing.  Requests from
outside are limited in size, in depth and in the range of the pagination; the limits are checked in
this order, and the document is read in between.
-/

namespace FilterQuery

structure Request where
  filter : Option Filter
  order : Option Order
  pagination : Option Pagination

inductive RequestError
  | tooLarge
  | unreadable (problem : ReadError)
  | tooDeep (part : String)
  | outOfRange (fields : List String)

namespace Request

structure Slots where
  filter : Option (Option Filter)
  order : Option (Option Order)
  pagination : Option (Option Pagination)

def shape : RecordShape Slots Request where
  name := "QueryRequest"
  unknown := .refused
  hasArrayForm := true
  initial := ⟨none, none, none⟩
  fields := [
    { name := "where", hasDefault := true, isSet := (·.filter.isSome)
      read := fun depth slots chars => do
        let (value, rest) ← Reader.optional (Filter.read depth) chars
        return ({ slots with filter := some value }, rest) },
    { name := "order", hasDefault := true, isSet := (·.order.isSome)
      read := fun depth slots chars => do
        let (value, rest) ← Reader.optional (Order.read depth) chars
        return ({ slots with order := some value }, rest) },
    { name := "pagination", hasDefault := true, isSet := (·.pagination.isSome)
      read := fun depth slots chars => do
        let (value, rest) ← Reader.optional (Pagination.shape.read depth) chars
        return ({ slots with pagination := some value }, rest) }]
  finish := fun slots => .ok {
    filter := slots.filter.join
    order := slots.order.join
    pagination := slots.pagination.join }

/-- Reads a request without regard to its limits. -/
def read (text : String) : Except ReadError Request :=
  shape.parse text

def maxBytes : Nat := 64 * 1024

def maxNesting : Nat := 32

def checkFilter (request : Request) : Except RequestError Unit :=
  match request.filter with
  | some filter => if maxNesting < filter.depth then .error (.tooDeep "where") else .ok ()
  | none => .ok ()

def checkOrder (request : Request) : Except RequestError Unit :=
  match request.order with
  | some order => if maxNesting < order.depth then .error (.tooDeep "order") else .ok ()
  | none => .ok ()

end Request

def Pagination.check (pagination : Pagination) : Except RequestError Unit :=
  match pagination.outOfRange with
  | [] => .ok ()
  | fields => .error (.outOfRange fields)

namespace Request

def checkPagination (request : Request) : Except RequestError Unit :=
  match request.pagination with
  | some pagination => pagination.check
  | none => .ok ()

def check (request : Request) : Except RequestError Unit := do
  request.checkFilter
  request.checkOrder
  request.checkPagination

def parse (text : String) : Except RequestError Request := do
  if maxBytes < text.utf8ByteSize then .error .tooLarge
  else
    match read text with
    | .error problem => .error (.unreadable problem)
    | .ok request =>
        request.check
        return request

end Request

namespace RequestError

def code : RequestError → String
  | .tooLarge => "REQUEST_JSON_TOO_LARGE"
  | .unreadable _ => "INVALID_REQUEST_JSON"
  | .tooDeep _ => "REQUEST_TOO_DEEP"
  | .outOfRange _ => "INVALID_PAGINATION"

def message : RequestError → String
  | .tooLarge => "Request JSON exceeds maximum size of " ++ toString Request.maxBytes ++ " bytes"
  | .unreadable problem => "Invalid request JSON: " ++ problem.message
  | .tooDeep part =>
      part ++ " nesting exceeds maximum depth of " ++ toString Request.maxNesting
  | .outOfRange fields => "Invalid pagination: " ++ Text.joined ", " fields

end RequestError

end FilterQuery
