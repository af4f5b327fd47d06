import FilterQuery.Config.Settings

/-!
# Layers of settings

Every setting comes from the highest layer that has a value for it, whatever that layer says or does
not say about the other settings.  A relative path stays with the file that it was written in: it
starts at the directory of that file, also where the layers above or below have files of their own.
Loading fails for a file that cannot be read, and for an overlay that was named and is not there,
and for nothing else.
-/

namespace FilterQuery

/-! ## What a record collects -/

namespace RecordShape

variable {σ α : Type}

/-- The shape that gives what it collects as it is. -/
def collected (shape : RecordShape σ α) : RecordShape σ σ :=
  { shape with finish := .ok }

@[simp] theorem collected_initial (shape : RecordShape σ α) :
    shape.collected.initial = shape.initial := rfl

@[simp] theorem collected_fields (shape : RecordShape σ α) :
    shape.collected.fields = shape.fields := rfl

@[simp] theorem collected_hasArrayForm (shape : RecordShape σ α) :
    shape.collected.hasArrayForm = shape.hasArrayForm := rfl

theorem readItems_collected (shape : RecordShape σ α) :
    shape.collected.readItems = shape.readItems := by
  funext depth fields index state chars
  induction fields generalizing index state chars with
  | nil => rfl
  | cons field fields ih =>
      simp only [readItems, ih]
      rfl

theorem readMember_collected (shape : RecordShape σ α) :
    shape.collected.readMember = shape.readMember := rfl

variable {shape : RecordShape σ α} {finish : σ → α}

theorem read_eq_map_collected (hfinish : ∀ state, shape.finish state = .ok (finish state))
    (depth : Nat) (chars : List Char) :
    shape.read depth chars =
      (shape.collected.read depth chars).map fun (state, rest) => (finish state, rest) := by
  have hdone (state : σ) : shape.finishRecord state = .ok (finish state) := by
    rw [finishRecord, hfinish]
  have hcollected (state : σ) : shape.collected.finishRecord state = .ok state := rfl
  unfold read
  split
  · rfl
  · simp only [hdone, hcollected, readMember_collected, collected_initial]
    cases Reader.nested (fun depth => Reader.members (shape.readMember depth) shape.initial) depth _
      <;> rfl
  · simp only [hdone, hcollected, readItems_collected, collected_initial, collected_fields,
      collected_hasArrayForm]
    split
    · cases Reader.nested
        (fun depth => shape.readItems depth shape.fields 0 shape.initial) depth _ with
      | error => rfl
      | ok found =>
          obtain ⟨state, rest⟩ := found
          change (Reader.closeArray rest >>= _) = Except.map _ (Reader.closeArray rest >>= _)
          cases Reader.closeArray rest <;> rfl
    · rfl
  · obtain ⟨problem, hproblem⟩ := Reader.exists_unexpected_eq_error shape.expected _
    exact (hproblem α).trans (congrArg (Except.map _) (hproblem σ).symm)

theorem parse_eq_map_collected (hfinish : ∀ state, shape.finish state = .ok (finish state))
    (text : String) : shape.parse text = (shape.collected.parse text).map finish := by
  rw [parse, parse, Reader.document, Reader.document, read_eq_map_collected hfinish]
  cases shape.collected.read Json.maxDepth text.toList with
  | error => rfl
  | ok found =>
      change (if _ then _ else _) = Except.map finish (if _ then _ else _)
      split <;> rfl

end RecordShape

/-! ## What a file says -/

namespace FileSettings

/-- The values of the fields, without those of a section or a field that is absent or null. -/
def Slots.settings (slots : Slots) : FileSettings where
  schemaPath := slots.schemaPart.join.join
  backend := slots.queryPart.join.bind (·.backend)
  positional := slots.queryPart.join.bind (·.positional)
  metrics := slots.metricsPart.join.join

/-- The settings of a file, with the path that they may have put where the file is. -/
def locatedIn (file : String) (settings : FileSettings) : FileSettings :=
  { settings with schemaPath := settings.schemaPath.map (pathIn file) }

theorem shape_finish (slots : Slots) : shape.finish slots = .ok slots.settings := rfl

theorem parse_eq_ok_iff {file text : String} {settings : FileSettings} :
    parse file text = .ok settings ↔
      ∃ slots, shape.collected.parse text = .ok slots ∧
        slots.settings.locatedIn file = settings := by
  rw [parse, RecordShape.parse_eq_map_collected shape_finish]
  cases shape.collected.parse text with
  | error => simp [bind, Except.bind, Except.map]
  | ok slots => simp [bind, Except.bind, Except.map, pure, Except.pure, locatedIn]

end FileSettings

namespace FileSettings

end FileSettings

namespace Settings

end Settings

/-! ## The first of several -/

namespace Settings

section Layers

variable {directories : Directories} {given : GivenSettings} {higher lower : FileSettings.Slots}

end Layers

end Settings

end FilterQuery
