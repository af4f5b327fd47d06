import FilterQuery.Json.Record

/-!
# Resolver responses

A resolver answers with a status and a message for people.
-/

namespace FilterQuery

inductive ResponseStatus
  | success
  | error
  deriving DecidableEq, Repr

namespace ResponseStatus

def names : Named ResponseStatus :=
  [("success", .success), ("error", .error)]

def name : ResponseStatus → String
  | .success => "success"
  | .error => "error"

end ResponseStatus

structure Response where
  status : ResponseStatus
  message : String
  deriving DecidableEq, Repr

namespace Response

def failure (message : String) : Response := ⟨.error, message⟩

structure Slots where
  status : Option ResponseStatus
  message : Option String

def shape : RecordShape Slots Response where
  name := "ResolverResponse"
  unknown := .skipped
  hasArrayForm := true
  initial := ⟨none, none⟩
  fields := [
    { name := "status", hasDefault := false, isSet := (·.status.isSome)
      read := fun depth slots chars => do
        let (value, rest) ← Reader.variantOf ResponseStatus.names depth chars
        return ({ slots with status := some value }, rest) },
    { name := "message", hasDefault := false, isSet := (·.message.isSome)
      read := fun _ slots chars => do
        let (value, rest) ← Reader.text chars
        return ({ slots with message := some value }, rest) }]
  finish := fun slots => do
    return {
      status := ← required "status" slots.status
      message := ← required "message" slots.message }

def parse (text : String) : Except ReadError Response :=
  shape.parse text

def toJson (response : Response) : Json :=
  .object [("status", .string response.status.name), ("message", .string response.message)]

end Response

end FilterQuery
