import FilterQuery.Json.Record

/-!
# Pagination

Pages are numbered from one.  A page and a count of rows per page give a window of rows.
-/

namespace FilterQuery

structure Pagination where
  page : UInt32
  count : UInt32
  deriving DecidableEq, Repr

structure Window where
  offset : UInt64
  limit : UInt64
  deriving DecidableEq, Repr

namespace Pagination

structure Slots where
  page : Option UInt32
  count : Option UInt32

def shape : RecordShape Slots Pagination where
  name := "Pagination"
  unknown := .refused
  hasArrayForm := true
  initial := ⟨none, none⟩
  fields := [
    { name := "page", hasDefault := false, isSet := (·.page.isSome)
      read := fun _ slots chars => do
        let (value, rest) ← Reader.word32 chars
        return ({ slots with page := some value }, rest) },
    { name := "count", hasDefault := false, isSet := (·.count.isSome)
      read := fun _ slots chars => do
        let (value, rest) ← Reader.word32 chars
        return ({ slots with count := some value }, rest) }]
  finish := fun slots => do
    return {
      page := ← required "page" slots.page
      count := ← required "count" slots.count }

def parse (text : String) : Except ReadError Pagination :=
  shape.parse text

/-- The rows of a page.  Page zero has the rows of page one. -/
def window (pagination : Pagination) : Window :=
  let before := if pagination.page = 0 then 0 else pagination.page - 1
  { offset := before.toUInt64 * pagination.count.toUInt64
    limit := pagination.count.toUInt64 }

def outOfRange (pagination : Pagination) : List String :=
  (if pagination.count = 0 then ["count"] else []) ++
    (if pagination.page = 0 then ["page"] else [])

end Pagination

end FilterQuery
