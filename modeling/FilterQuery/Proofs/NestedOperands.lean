import FilterQuery.Filter.Operator
import FilterQuery.Json.Printer
import FilterQuery.Request

/-!
# Nested operands

Lists and operands are kept as they were given and do not count for the depth of a filter.  This
file writes filters of two levels whose operands nest, and shows that a request reads them as long
as all containers that are open at one time fit in the depth of the reader.
-/

namespace FilterQuery

/-- Arrays in one another, the innermost without items. -/
def nestedArrays : Nat → Json
  | 0 => .array []
  | inner + 1 => .array [nestedArrays inner]

/-- A filter with a list of items and an operand that both nest. -/
def nestedOperands (levels : Nat) : Json :=
  .object [("list", nestedArrays levels), ("operand", .object [("eq", nestedArrays levels)])]

/-- The value is a list of items under a key of the filter. -/
def Filter.HasList (filter : Filter) (value : Json) : Prop :=
  ∃ key items, (key, .sequence items) ∈ filter.entries ∧ value = .array items

/-- The value stands behind an operator under a key of the filter. -/
def Filter.HasOperand (filter : Filter) (value : Json) : Prop :=
  ∃ key nested members name operator, (key, .mapping nested members) ∈ filter.entries ∧
    (name, value) ∈ members ∧ Operator.ofName? name = some operator

theorem exists_nestedArrays_eq (levels : Nat) : ∃ items, nestedArrays levels = .array items := by
  cases levels with
  | zero => exact ⟨[], rfl⟩
  | succ inner => exact ⟨[nestedArrays inner], rfl⟩

theorem text_nestedArrays_succ (inner : Nat) :
    (nestedArrays (inner + 1)).text.toList =
      '[' :: ((nestedArrays inner).text.toList ++ [']']) := by
  simp [nestedArrays, Json.text, Json.itemsText]

theorem text_nestedArrays_eq_cons (levels : Nat) :
    ∃ chars, (nestedArrays levels).text.toList = '[' :: chars := by
  cases levels with
  | zero => exact ⟨[']'], by simp [nestedArrays, Json.text, Json.itemsText]⟩
  | succ inner => exact ⟨_, text_nestedArrays_succ inner⟩

theorem utf8ByteSize_text_nestedArrays (levels : Nat) :
    (nestedArrays levels).text.utf8ByteSize = 2 * (levels + 1) := by
  induction levels with
  | zero => rfl
  | succ inner ih =>
      have hbrackets : "[".utf8ByteSize = 1 ∧ "]".utf8ByteSize = 1 := by decide
      rw [nestedArrays, Json.text, Json.itemsText]
      simp only [String.utf8ByteSize_append, ih, hbrackets]
      omega

theorem entries_nestedOperands (levels : Nat) :
    ∃ items, nestedArrays levels = .array items ∧
      (Filter.ofJson (nestedOperands levels)).entries =
        [("list", .sequence items),
          ("operand", .mapping (.ofEntries [("eq", .sequence items)]) [("eq", .array items)])] := by
  obtain ⟨items, hitems⟩ := exists_nestedArrays_eq levels
  refine ⟨items, hitems, ?_⟩
  rw [nestedOperands, hitems]
  rfl

theorem depth_nestedOperands (levels : Nat) :
    (Filter.ofJson (nestedOperands levels)).depth = 2 := by
  obtain ⟨items, hitems⟩ := exists_nestedArrays_eq levels
  rw [nestedOperands, hitems]
  rfl

theorem hasList_nestedOperands (levels : Nat) :
    (Filter.ofJson (nestedOperands levels)).HasList (nestedArrays levels) := by
  obtain ⟨items, hitems, hentries⟩ := entries_nestedOperands levels
  refine ⟨"list", items, ?_, hitems⟩
  rw [hentries]
  exact List.mem_cons_self

theorem hasOperand_nestedOperands (levels : Nat) :
    (Filter.ofJson (nestedOperands levels)).HasOperand (nestedArrays levels) := by
  obtain ⟨items, hitems, hentries⟩ := entries_nestedOperands levels
  refine ⟨"operand", .ofEntries [("eq", .sequence items)], [("eq", .array items)], "eq", .eq,
    ?_, ?_, rfl⟩
  · rw [hentries]
    exact List.mem_cons_of_mem _ List.mem_cons_self
  · rw [hitems]
    exact List.mem_cons_self

theorem text_nestedOperands (levels : Nat) (rest : List Char) :
    (nestedOperands levels).text.toList ++ rest =
      "\x7b\"list\":".toList ++ ((nestedArrays levels).text.toList ++
        (",\"operand\":".toList ++ ("\x7b\"eq\":".toList ++
          ((nestedArrays levels).text.toList ++ '\x7d' :: '\x7d' :: rest)))) := by
  simp only [nestedOperands, Json.text, Json.membersText, String.toList_append, List.append_assoc]
  rfl

theorem utf8ByteSize_text_nestedOperands (levels : Nat) :
    (nestedOperands levels).text.utf8ByteSize = 4 * levels + 31 := by
  have hmarks : "\x7b".utf8ByteSize = 1 ∧ "\x7d".utf8ByteSize = 1 ∧ ",".utf8ByteSize = 1 ∧
      ":".utf8ByteSize = 1 := by decide
  have hnames : (Json.stringText "list").utf8ByteSize = 6 ∧
      (Json.stringText "operand").utf8ByteSize = 9 ∧
      (Json.stringText "eq").utf8ByteSize = 4 := by decide
  simp only [nestedOperands, Json.text, Json.membersText, String.utf8ByteSize_append,
    utf8ByteSize_text_nestedArrays, hmarks, hnames]
  omega

/-! ## Reading what was written -/

namespace Reader

variable {chars more rest behindFirst behindSecond : List Char}

theorem items_single {item : Reader Json} {value : Json}
    (hitem : item ('[' :: chars) = .ok (value, ']' :: rest)) :
    items item ('[' :: chars) = .ok ([value], rest) := by
  have hfirst : nextItem true ('[' :: chars) = .ok (true, '[' :: chars) := rfl
  rw [items, List.length_cons, itemsFrom, hfirst]
  simp only [hitem]
  rfl

theorem value_of_items {depth : Nat} {found : List Json}
    (hitems : items (value depth) chars = .ok (found, rest)) :
    value (depth + 1) ('[' :: chars) = .ok (.array found, rest) := by
  have hvalue : value (depth + 1) ('[' :: chars) =
      (items (value depth) chars).bind fun result => .ok (.array result.1, result.2) := rfl
  rw [hvalue, hitems]
  rfl

theorem value_nestedArrays {levels depth : Nat} (hdepth : levels < depth) (rest : List Char) :
    value depth ((nestedArrays levels).text.toList ++ rest) = .ok (nestedArrays levels, rest) := by
  induction levels generalizing depth rest with
  | zero =>
      obtain ⟨inner, rfl⟩ := Nat.exists_eq_add_one.mpr hdepth
      rfl
  | succ levels ih =>
      obtain ⟨inner, rfl⟩ := Nat.exists_eq_add_one.mpr (Nat.zero_lt_of_lt hdepth)
      have hitem := ih (Nat.lt_of_succ_lt_succ hdepth) (']' :: rest)
      obtain ⟨chars, hchars⟩ := text_nestedArrays_eq_cons levels
      rw [hchars, List.cons_append] at hitem
      rw [text_nestedArrays_succ, hchars]
      simp only [List.cons_append, List.append_assoc, List.nil_append]
      exact value_of_items (items_single hitem)

section Members

variable {σ : Type} {member : σ → String → Reader σ} {initial middle last : σ}
  {first second : String}

theorem membersFrom_close {fuel : Nat} (state : σ) :
    membersFrom member (fuel + 1) false state ('\x7d' :: rest) = .ok (state, rest) :=
  rfl

theorem members_single {c : Char}
    (hname : nextName true (c :: chars) = .ok (some first, behindFirst))
    (hmember : member initial first behindFirst = .ok (last, '\x7d' :: rest)) :
    members member initial (c :: chars) = .ok (last, rest) := by
  rw [members, List.length_cons, membersFrom, hname]
  simp only [hmember, membersFrom_close]

theorem members_pair {c d : Char}
    (hfirst : nextName true (c :: d :: chars) = .ok (some first, behindFirst))
    (hmember : member initial first behindFirst = .ok (middle, more))
    (hsecond : nextName false more = .ok (some second, behindSecond))
    (hlast : member middle second behindSecond = .ok (last, '\x7d' :: rest)) :
    members member initial (c :: d :: chars) = .ok (last, rest) := by
  rw [members, List.length_cons, List.length_cons, membersFrom, hfirst]
  simp only [hmember]
  rw [membersFrom, hsecond]
  simp only [hlast, membersFrom_close]

end Members

variable {reader : Reader Json} {found : Json} {before : List (String × Json)}

theorem memberOf_of_value (hvalue : reader chars = .ok (found, rest))
    (before : List (String × Json)) (name : String) :
    memberOf reader before name (':' :: chars) = .ok ((name, found) :: before, rest) := by
  have hmember : memberOf reader before name (':' :: chars) =
      (reader chars).bind fun result => .ok ((name, result.1) :: before, result.2) := rfl
  rw [hmember, hvalue]
  rfl

theorem pairs_of_members (hmembers : members (memberOf reader) [] chars = .ok (before, rest)) :
    pairs reader chars = .ok (before.reverse, rest) := by
  have hpairs : pairs reader chars =
      (members (memberOf reader) [] chars).bind fun result =>
        .ok (result.1.reverse, result.2) := rfl
  rw [hpairs, hmembers]
  rfl

theorem value_of_members {depth : Nat}
    (hmembers : members (memberOf (value depth)) [] chars = .ok (before, rest)) :
    value (depth + 1) ('\x7b' :: chars) = .ok (.object (Named.ofPairs before.reverse), rest) := by
  have hvalue : value (depth + 1) ('\x7b' :: chars) =
      (pairs (value depth) chars).bind fun result =>
        .ok (.object (Named.ofPairs result.1), result.2) := rfl
  rw [hvalue, pairs_of_members hmembers]
  rfl

theorem filter_of_members {depth : Nat}
    (hmembers : members (memberOf (value depth)) [] chars = .ok (before, rest)) :
    Filter.read (depth + 1) ('\x7b' :: chars) =
      .ok (Filter.ofJson (.object (Named.ofPairs before.reverse)), rest) := by
  have hfilter : Filter.read (depth + 1) ('\x7b' :: chars) =
      (mapOf value (depth + 1) ('\x7b' :: chars)).bind fun result =>
        .ok (Filter.ofJson (.object result.1), result.2) := rfl
  have hmap : mapOf value (depth + 1) ('\x7b' :: chars) =
      (pairs (value depth) chars).bind fun result => .ok (Named.ofPairs result.1, result.2) := rfl
  rw [hfilter, hmap, pairs_of_members hmembers]
  rfl

theorem value_operand {levels depth : Nat} (hdepth : levels < depth) (rest : List Char) :
    value (depth + 1) ("\x7b\"eq\":".toList ++
        ((nestedArrays levels).text.toList ++ '\x7d' :: rest)) =
      .ok (.object [("eq", nestedArrays levels)], rest) := by
  have hvalue := value_nestedArrays hdepth ('\x7d' :: rest)
  have hmember := memberOf_of_value hvalue [] "eq"
  exact value_of_members (members_single rfl hmember)

theorem filter_nestedOperands {levels depth : Nat} (hdepth : levels < depth)
    (rest : List Char) :
    Filter.read (depth + 2) ((nestedOperands levels).text.toList ++ rest) =
      .ok (Filter.ofJson (nestedOperands levels), rest) := by
  rw [text_nestedOperands]
  have hlist := memberOf_of_value (value_nestedArrays (Nat.lt_succ_of_lt hdepth)
    (",\"operand\":".toList ++ ("\x7b\"eq\":".toList ++
      ((nestedArrays levels).text.toList ++ '\x7d' :: '\x7d' :: rest)))) [] "list"
  have hoperand := memberOf_of_value (value_operand hdepth ('\x7d' :: rest))
    [("list", nestedArrays levels)] "operand"
  exact filter_of_members (members_pair rfl hlist rfl hoperand)

end Reader

namespace Request

/-- A document with nothing but a filter. -/
def filterText (filter : Json) : String :=
  "\x7b\"where\":" ++ filter.text ++ "\x7d"

variable {chars rest : List Char} {filter : Filter} {text : String}

theorem readMember_where {depth : Nat}
    (hfilter : Filter.read depth ('\x7b' :: chars) = .ok (filter, rest)) :
    shape.readMember depth shape.initial "where" (':' :: '\x7b' :: chars) =
      .ok (⟨some (some filter), none, none⟩, rest) := by
  have hmember : shape.readMember depth shape.initial "where" (':' :: '\x7b' :: chars) =
      (Reader.optional (Filter.read depth) ('\x7b' :: chars)).bind fun result =>
        .ok (⟨some result.1, none, none⟩, result.2) := rfl
  have hoptional : Reader.optional (Filter.read depth) ('\x7b' :: chars) =
      (Filter.read depth ('\x7b' :: chars)).bind fun result =>
        .ok (some result.1, result.2) := rfl
  rw [hmember, hoptional, hfilter]
  rfl

theorem read_where (htext : text.toList = "\x7b\"where\":\x7b".toList ++ chars)
    (hfilter : Filter.read (Json.maxDepth - 1) ('\x7b' :: chars) = .ok (filter, ['\x7d'])) :
    read text = .ok ⟨some filter, none, none⟩ := by
  have hmembers : Reader.members (shape.readMember (Json.maxDepth - 1)) shape.initial
      ("\"where\":\x7b".toList ++ chars) = .ok (⟨some (some filter), none, none⟩, []) :=
    Reader.members_single rfl (readMember_where hfilter)
  have hrecord : shape.read Json.maxDepth ("\x7b\"where\":\x7b".toList ++ chars) =
      (Reader.members (shape.readMember (Json.maxDepth - 1)) shape.initial
        ("\"where\":\x7b".toList ++ chars)).bind fun result =>
          (shape.finishRecord result.1).bind fun record => .ok (record, result.2) := rfl
  rw [read, RecordShape.parse, Reader.document, htext, hrecord, hmembers]
  rfl

theorem read_nestedOperands {levels : Nat} (hlevels : levels < Json.maxDepth - 3) :
    read (filterText (nestedOperands levels)) =
      .ok ⟨some (Filter.ofJson (nestedOperands levels)), none, none⟩ := by
  have hfilter := Reader.filter_nestedOperands hlevels ['\x7d']
  have htext : (filterText (nestedOperands levels)).toList =
      "\x7b\"where\":".toList ++ ((nestedOperands levels).text.toList ++ ['\x7d']) := by
    rw [filterText, String.toList_append, String.toList_append, List.append_assoc]
    rfl
  rw [text_nestedOperands] at hfilter htext
  exact read_where htext hfilter

theorem utf8ByteSize_filterText_nestedOperands (levels : Nat) :
    (filterText (nestedOperands levels)).utf8ByteSize = 4 * levels + 41 := by
  have hframe : "\x7b\"where\":".utf8ByteSize = 9 ∧ "\x7d".utf8ByteSize = 1 := by decide
  simp only [filterText, String.utf8ByteSize_append, utf8ByteSize_text_nestedOperands, hframe]
  omega

end Request

end FilterQuery
