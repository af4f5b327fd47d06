import FilterQuery.Json.Record
import FilterQuery.Sql.Backend
import FilterQuery.System.Path

/-!
# Configuration files

A configuration file sets some of the settings, in three sections.  A section or a field that is
missing or null sets nothing, and unknown names are passed over.
-/

namespace FilterQuery

structure FileSettings where
  schemaPath : Option String
  backend : Option Backend
  positional : Option Bool
  metrics : Option Bool
  deriving DecidableEq, Repr

namespace FileSettings

def nothing : FileSettings := ⟨none, none, none, none⟩

/-- The fields of the higher layer where it has them, else those of the lower one. -/
def layeredOver (higher lower : FileSettings) : FileSettings where
  schemaPath := higher.schemaPath.or lower.schemaPath
  backend := higher.backend.or lower.backend
  positional := higher.positional.or lower.positional
  metrics := higher.metrics.or lower.metrics

/-! ## Sections -/

def schemaShape : RecordShape (Option (Option String)) (Option String) where
  name := "SchemaFileConfig"
  unknown := .skipped
  hasArrayForm := true
  initial := none
  fields := [
    { name := "path", hasDefault := false, isSet := Option.isSome
      read := fun _ _ chars => do
        let (value, rest) ← Reader.optional Reader.text chars
        return (some value, rest) }]
  finish := fun path => .ok path.join

structure QuerySection where
  backend : Option Backend
  positional : Option Bool

structure QuerySlots where
  backend : Option (Option Backend)
  positional : Option (Option Bool)

def queryShape : RecordShape QuerySlots QuerySection where
  name := "QueryFileConfig"
  unknown := .skipped
  hasArrayForm := true
  initial := ⟨none, none⟩
  fields := [
    { name := "backend", hasDefault := false, isSet := (·.backend.isSome)
      read := fun depth slots chars => do
        let (value, rest) ← Reader.optional (Reader.variantOf Backend.names depth) chars
        return ({ slots with backend := some value }, rest) },
    { name := "positional", hasDefault := false, isSet := (·.positional.isSome)
      read := fun _ slots chars => do
        let (value, rest) ← Reader.optional Reader.flag chars
        return ({ slots with positional := some value }, rest) }]
  finish := fun slots => .ok ⟨slots.backend.join, slots.positional.join⟩

def metricsShape : RecordShape (Option (Option Bool)) (Option Bool) where
  name := "MetricsFileConfig"
  unknown := .skipped
  hasArrayForm := true
  initial := none
  fields := [
    { name := "enabled", hasDefault := false, isSet := Option.isSome
      read := fun _ _ chars => do
        let (value, rest) ← Reader.optional Reader.flag chars
        return (some value, rest) }]
  finish := fun enabled => .ok enabled.join

/-! ## The file -/

structure Slots where
  schemaPart : Option (Option (Option String))
  queryPart : Option (Option QuerySection)
  metricsPart : Option (Option (Option Bool))

def shape : RecordShape Slots FileSettings where
  name := "FileConfig"
  unknown := .forgotten
  hasArrayForm := false
  initial := ⟨none, none, none⟩
  fields := [
    { name := "schema", hasDefault := false, isSet := (·.schemaPart.isSome)
      read := fun depth slots chars => do
        let (value, rest) ← Reader.optional (schemaShape.read depth) chars
        return ({ slots with schemaPart := some value }, rest) },
    { name := "query", hasDefault := false, isSet := (·.queryPart.isSome)
      read := fun depth slots chars => do
        let (value, rest) ← Reader.optional (queryShape.read depth) chars
        return ({ slots with queryPart := some value }, rest) },
    { name := "metrics", hasDefault := false, isSet := (·.metricsPart.isSome)
      read := fun depth slots chars => do
        let (value, rest) ← Reader.optional (metricsShape.read depth) chars
        return ({ slots with metricsPart := some value }, rest) }]
  finish := fun slots => .ok {
    schemaPath := slots.schemaPart.join.join
    backend := slots.queryPart.join.bind (·.backend)
    positional := slots.queryPart.join.bind (·.positional)
    metrics := slots.metricsPart.join.join }

/-- A relative path in a file starts at the directory of the file, one with `~` stays. -/
def pathIn (file path : String) : String :=
  if path.toList.head? == some '~' || Path.isAbsolute path then path
  else Path.join (Path.parent file) path

def parse (file text : String) : Except ReadError FileSettings := do
  let settings ← shape.parse text
  return { settings with schemaPath := settings.schemaPath.map (pathIn file) }

end FileSettings

end FilterQuery
