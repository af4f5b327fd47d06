import FilterQuery.Order.Basic
import Mathlib.Logic.Basic

/-!
# Order documents

An order is written as an object with a text or a nested order under every key.  Reading accepts
exactly the written orders: one value below the document that is neither a text nor an object, at
any depth, spoils the whole, and what is accepted is kept, with its keys in their order.  So the
depth of an order is the number of objects that are open at one time in its document.
-/

namespace FilterQuery

/-! ## Documents -/

mutual

/-- An object of directions and nested orders. -/
inductive Json.IsOrder : Json → Prop
  | object {members : List (String × Json)}
      (hvalues : ∀ member ∈ members, Json.IsOrderValue member.2) : IsOrder (.object members)

inductive Json.IsOrderValue : Json → Prop
  | direction (text : String) : IsOrderValue (.string text)
  | nested {value : Json} (hvalue : value.IsOrder) : IsOrderValue value

end

/-- The value, the values of its members, those of their members, and so on. -/
inductive Json.Holds : Json → Json → Prop
  | self (value : Json) : Holds value value
  | member {members : List (String × Json)} {name : String} {value part : Json}
      (hmember : (name, value) ∈ members) (hpart : value.Holds part) :
      Holds (.object members) part

def Json.IsText (value : Json) : Prop :=
  ∃ text, value = .string text

def Json.IsObject (value : Json) : Prop :=
  ∃ members, value = .object members

mutual

/-- The number of objects that are open at one time. -/
def Json.objectDepth : Json → Nat
  | .array items => Json.itemsObjectDepth items
  | .object members => 1 + Json.membersObjectDepth members
  | _ => 0
termination_by structural value => value

def Json.itemsObjectDepth : List Json → Nat
  | [] => 0
  | item :: rest => max item.objectDepth (Json.itemsObjectDepth rest)
termination_by structural items => items

def Json.membersObjectDepth : List (String × Json) → Nat
  | [] => 0
  | (_, value) :: rest => max value.objectDepth (Json.membersObjectDepth rest)
termination_by structural members => members

end

mutual

/-- The document of an order. -/
def Order.toJson : Order → Json
  | .ofEntries entries => .object (Order.entriesJson entries)
termination_by structural order => order

def OrderValue.toJson : OrderValue → Json
  | .direction text => .string text
  | .nested order => order.toJson
termination_by structural value => value

def Order.entriesJson : List (String × OrderValue) → List (String × Json)
  | [] => []
  | (key, value) :: rest => (key, value.toJson) :: Order.entriesJson rest
termination_by structural entries => entries

end

/-- The order of a document, if it is one. -/
def Order.ofJson? : Json → Option Order
  | .object members => (Order.ofMembers? members).map .ofEntries
  | _ => none

/-! ## What is written is read back -/

mutual

theorem OrderValue.ofJson?_toJson :
    (value : OrderValue) → OrderValue.ofJson? value.toJson = some value
  | .direction text => by
      rw [OrderValue.toJson, OrderValue.ofJson?]
  | .nested (.ofEntries entries) => by
      rw [OrderValue.toJson, Order.toJson, OrderValue.ofJson?,
        Order.ofMembers?_entriesJson entries]
      rfl
termination_by structural value => value

theorem Order.ofMembers?_entriesJson :
    (entries : List (String × OrderValue)) →
      Order.ofMembers? (Order.entriesJson entries) = some entries
  | [] => rfl
  | (key, value) :: rest => by
      rw [Order.entriesJson, Order.ofMembers?, OrderValue.ofJson?_toJson value,
        Order.ofMembers?_entriesJson rest]
      rfl
termination_by structural entries => entries

end

mutual

theorem OrderValue.toJson_of_ofJson? :
    (value : Json) → {read : OrderValue} → OrderValue.ofJson? value = some read →
      read.toJson = value
  | .string text, read, hread => by
      rw [OrderValue.ofJson?, Option.some.injEq] at hread
      rw [← hread, OrderValue.toJson]
  | .object members, read, hread => by
      rw [OrderValue.ofJson?] at hread
      obtain ⟨entries, hentries, hnested⟩ := Option.bind_eq_some_iff.1 hread
      cases hnested
      rw [OrderValue.toJson, Order.toJson, Order.entriesJson_of_ofMembers? members hentries]
  | .null, _, hread | .bool _, _, hread | .number _, _, hread | .array _, _, hread => by
      cases hread
termination_by structural value => value

theorem Order.entriesJson_of_ofMembers? :
    (members : List (String × Json)) → {entries : List (String × OrderValue)} →
      Order.ofMembers? members = some entries → Order.entriesJson entries = members
  | [], entries, hread => by
      cases hread
      rfl
  | (key, value) :: rest, entries, hread => by
      rw [Order.ofMembers?] at hread
      obtain ⟨first, hfirst, hread⟩ := Option.bind_eq_some_iff.1 hread
      obtain ⟨others, hothers, hread⟩ := Option.bind_eq_some_iff.1 hread
      cases hread
      rw [Order.entriesJson, OrderValue.toJson_of_ofJson? value hfirst,
        Order.entriesJson_of_ofMembers? rest hothers]
termination_by structural members => members

end

theorem Order.ofJson?_eq_some_iff {document : Json} {order : Order} :
    Order.ofJson? document = some order ↔ order.toJson = document := by
  constructor
  · intro hread
    cases document with
    | object members =>
        obtain ⟨entries, hentries, rfl⟩ := Option.map_eq_some_iff.1 hread
        rw [Order.toJson, Order.entriesJson_of_ofMembers? members hentries]
    | _ => cases hread
  · rintro rfl
    cases order with
    | ofEntries entries =>
        rw [Order.toJson, Order.ofJson?, Order.ofMembers?_entriesJson, Option.map_some]

/-! ## Which documents are orders -/

mutual

theorem OrderValue.isOrderValue_toJson : (value : OrderValue) → value.toJson.IsOrderValue
  | .direction text => by
      rw [OrderValue.toJson]
      exact .direction text
  | .nested (.ofEntries entries) => by
      rw [OrderValue.toJson, Order.toJson]
      exact .nested (.object (Order.isOrderValue_of_mem_entriesJson entries))
termination_by structural value => value

theorem Order.isOrderValue_of_mem_entriesJson :
    (entries : List (String × OrderValue)) → ∀ member ∈ Order.entriesJson entries,
      Json.IsOrderValue member.2
  | [], member, hmember => by cases hmember
  | (key, value) :: rest, member, hmember => by
      rw [Order.entriesJson] at hmember
      rcases List.mem_cons.1 hmember with rfl | hrest
      · exact OrderValue.isOrderValue_toJson value
      · exact Order.isOrderValue_of_mem_entriesJson rest member hrest
termination_by structural entries => entries

end

theorem Order.isOrder_toJson (order : Order) : order.toJson.IsOrder := by
  cases order with
  | ofEntries entries =>
      rw [Order.toJson]
      exact .object (Order.isOrderValue_of_mem_entriesJson entries)

theorem Json.IsOrder.isObject {document : Json} (horder : document.IsOrder) :
    document.IsObject := by
  cases horder with
  | object hvalues => exact ⟨_, rfl⟩

theorem Json.IsOrder.textOrObject {document part : Json} (horder : document.IsOrder)
    (hpart : document.Holds part) : part.IsText ∨ part.IsObject := by
  induction hpart with
  | self value => exact .inr horder.isObject
  | @member members name value part hmember hpart ih =>
      cases horder with
      | object hvalues =>
          cases hvalues (name, value) hmember with
          | direction text =>
              cases hpart
              exact .inl ⟨text, rfl⟩
          | nested hvalue => exact ih hvalue

mutual

/-- A value is written for an order if nothing but texts and objects is in it. -/
theorem OrderValue.exists_toJson_eq :
    (value : Json) → (∀ part, value.Holds part → part.IsText ∨ part.IsObject) →
      ∃ written : OrderValue, written.toJson = value
  | .string text, _ => ⟨.direction text, by rw [OrderValue.toJson]⟩
  | .object members, hparts => by
      obtain ⟨entries, hentries⟩ := Order.exists_entriesJson_eq members
        fun member hmember part hpart => hparts part (.member hmember hpart)
      exact ⟨.nested (.ofEntries entries), by rw [OrderValue.toJson, Order.toJson, hentries]⟩
  | .null, hparts | .bool _, hparts | .number _, hparts | .array _, hparts => by
      rcases hparts _ (.self _) with ⟨_, htext⟩ | ⟨_, hobject⟩
      · cases htext
      · cases hobject
termination_by structural value => value

theorem Order.exists_entriesJson_eq :
    (members : List (String × Json)) →
      (∀ member ∈ members, ∀ part, Json.Holds member.2 part → part.IsText ∨ part.IsObject) →
      ∃ entries, Order.entriesJson entries = members
  | [], _ => ⟨[], rfl⟩
  | (key, value) :: rest, hparts => by
      obtain ⟨first, hfirst⟩ := OrderValue.exists_toJson_eq value
        (hparts (key, value) List.mem_cons_self)
      obtain ⟨others, hothers⟩ := Order.exists_entriesJson_eq rest
        fun member hmember => hparts member (List.mem_cons_of_mem _ hmember)
      exact ⟨(key, first) :: others, by rw [Order.entriesJson, hfirst, hothers]⟩
termination_by structural members => members

end

theorem Order.exists_toJson_eq_iff {document : Json} :
    (∃ order : Order, order.toJson = document) ↔ document.IsObject ∧
      ∀ part, document.Holds part → part.IsText ∨ part.IsObject := by
  constructor
  · rintro ⟨order, rfl⟩
    exact ⟨order.isOrder_toJson.isObject, fun part => order.isOrder_toJson.textOrObject⟩
  · rintro ⟨⟨members, rfl⟩, hparts⟩
    obtain ⟨entries, hentries⟩ := Order.exists_entriesJson_eq members
      fun member hmember part hpart => hparts part (.member hmember hpart)
    exact ⟨.ofEntries entries, by rw [Order.toJson, hentries]⟩

/-! ## Depth -/

mutual

theorem OrderValue.depth_eq_objectDepth :
    (value : OrderValue) → value.depth = value.toJson.objectDepth
  | .direction text => by
      rw [OrderValue.depth, OrderValue.toJson, Json.objectDepth]
      · exact fun _ h => by cases h
      · exact fun _ h => by cases h
  | .nested (.ofEntries entries) => by
      rw [OrderValue.depth, OrderValue.toJson, Order.depth, Order.toJson, Json.objectDepth,
        Order.depthOfEntries_eq_objectDepth entries]
termination_by structural value => value

theorem Order.depthOfEntries_eq_objectDepth :
    (entries : List (String × OrderValue)) →
      Order.depthOfEntries entries = Json.membersObjectDepth (Order.entriesJson entries)
  | [] => rfl
  | (key, value) :: rest => by
      rw [Order.depthOfEntries, Order.entriesJson, Json.membersObjectDepth,
        OrderValue.depth_eq_objectDepth value, Order.depthOfEntries_eq_objectDepth rest]
termination_by structural entries => entries

end

theorem Order.depth_eq_objectDepth (order : Order) : order.depth = order.toJson.objectDepth := by
  cases order with
  | ofEntries entries =>
      rw [Order.depth, Order.toJson, Json.objectDepth, Order.depthOfEntries_eq_objectDepth]

/-! ## Texts -/

namespace Reader

theorem scalar_ne_object (chars : List Char) (members : List (String × Json))
    (rest : List Char) : scalar chars ≠ .ok (.object members, rest) := by
  unfold scalar
  split
  · simp
  · cases hliteral : literal ['u', 'l', 'l'] _ <;> simp [bind, Except.bind, pure, Except.pure]
  · cases hliteral : literal ['r', 'u', 'e'] _ <;> simp [bind, Except.bind, pure, Except.pure]
  · cases hliteral : literal ['a', 'l', 's', 'e'] _ <;>
      simp [bind, Except.bind, pure, Except.pure]
  · cases hstring : string _ <;> simp [bind, Except.bind, pure, Except.pure]
  · cases hnumeral : numeral true _ <;> simp [bind, Except.bind, pure, Except.pure]
  · split
    · cases hnumeral : numeral false _ <;> simp [bind, Except.bind, pure, Except.pure]
    · simp

/-- What is read as a map of values is read as an object, and the other way round. -/
theorem mapOf_value_eq_ok_iff {depth : Nat} {chars rest : List Char}
    {members : List (String × Json)} :
    mapOf value depth chars = .ok (members, rest) ↔
      value depth chars = .ok (.object members, rest) := by
  unfold mapOf value
  split
  · next hskip =>
      rw [hskip]
      simp [scalar]
  · next behind hskip =>
      rw [hskip]
      cases depth with
      | zero => simp [nested, bind, Except.bind]
      | succ depth =>
          simp only [nested, bind_eq_ok_iff]
          simp [pure, Except.pure]
  · next hnil hbrace =>
      refine iff_of_false (unexpected_ne_ok _ _ _) ?_
      split
      · cases depth with
        | zero => simp
        | succ depth => simp [bind_eq_ok_iff, pure, Except.pure]
      · next heq => exact absurd heq (hbrace _)
      · exact scalar_ne_object _ members rest

end Reader

theorem Order.read_eq_ok_iff {depth : Nat} {chars rest : List Char} {order : Order} :
    Order.read depth chars = .ok (order, rest) ↔
      ∃ document, Reader.value depth chars = .ok (document, rest) ∧
        Order.ofJson? document = some order := by
  rw [Order.read, bind_eq_ok_iff]
  constructor
  · rintro ⟨⟨members, behind⟩, hmembers, hread⟩
    simp only at hread
    split at hread
    · next entries hentries =>
        cases hread
        exact ⟨.object members, Reader.mapOf_value_eq_ok_iff.1 hmembers,
          by rw [Order.ofJson?, hentries, Option.map_some]⟩
    · cases hread
  · rintro ⟨document, hdocument, hread⟩
    cases document with
    | object members =>
        obtain ⟨entries, hentries, rfl⟩ := Option.map_eq_some_iff.1 hread
        refine ⟨(members, rest), Reader.mapOf_value_eq_ok_iff.2 hdocument, ?_⟩
        simp only [hentries]
        rfl
    | _ => cases hread

theorem Reader.document_eq_ok_iff {α : Type} {reader : Reader α} {text : String} {result : α} :
    Reader.document reader text = .ok result ↔
      ∃ rest, reader text.toList = .ok (result, rest) ∧
        (Reader.skipSpace rest).isEmpty = true := by
  rw [Reader.document, bind_eq_ok_iff]
  constructor
  · rintro ⟨⟨found, rest⟩, hread, hdone⟩
    simp only at hdone
    split at hdone
    · next hempty =>
        cases hdone
        exact ⟨rest, hread, hempty⟩
    · cases hdone
  · rintro ⟨rest, hread, hempty⟩
    exact ⟨(result, rest), hread, by simp only [hempty, if_true]; rfl⟩

/-- A text is read as an order if and only if it is read as a document of one. -/
theorem Order.parse_eq_ok_iff_document {text : String} {order : Order} :
    Order.parse text = .ok order ↔
      ∃ document, Json.parse text = .ok document ∧ Order.ofJson? document = some order := by
  rw [Order.parse, Reader.document_eq_ok_iff]
  constructor
  · rintro ⟨rest, hread, hempty⟩
    obtain ⟨document, hdocument, horder⟩ := Order.read_eq_ok_iff.1 hread
    exact ⟨document, Reader.document_eq_ok_iff.2 ⟨rest, hdocument, hempty⟩, horder⟩
  · rintro ⟨document, hdocument, horder⟩
    obtain ⟨rest, hread, hempty⟩ := Reader.document_eq_ok_iff.1 hdocument
    exact ⟨rest, Order.read_eq_ok_iff.2 ⟨document, hread, horder⟩, hempty⟩

/-- A document is read as an order if and only if it is an object of directions and nested orders;
it is refused if and only if it is no object, or holds anything but texts and objects at any depth.
The order that is read is written back as the same document, key by key, and is as deep as the
objects of the document.  The text of a document is read like the document. -/
theorem order_documents_kept :
    (∀ document : Json,
      ((∃ order, Order.ofJson? document = some order) ↔ document.IsOrder) ∧
      (Order.ofJson? document = none ↔ ¬ document.IsObject ∨
        ∃ part, document.Holds part ∧ ¬ part.IsText ∧ ¬ part.IsObject) ∧
      ∀ order, Order.ofJson? document = some order ↔
        order.toJson = document ∧ order.depth = document.objectDepth) ∧
    ∀ text order, Order.parse text = .ok order ↔
      ∃ document, Json.parse text = .ok document ∧ Order.ofJson? document = some order := by
  refine ⟨fun document => ⟨?_, ?_, fun order => ?_⟩, fun _ _ => Order.parse_eq_ok_iff_document⟩
  · constructor
    · rintro ⟨order, hread⟩
      rw [← Order.ofJson?_eq_some_iff.1 hread]
      exact order.isOrder_toJson
    · intro horder
      obtain ⟨order, hwritten⟩ := Order.exists_toJson_eq_iff.2
        ⟨horder.isObject, fun part => horder.textOrObject⟩
      exact ⟨order, Order.ofJson?_eq_some_iff.2 hwritten⟩
  · have hread : Order.ofJson? document = none ↔ ¬ ∃ order : Order, order.toJson = document := by
      simp only [← Order.ofJson?_eq_some_iff, Option.eq_none_iff_forall_ne_some, not_exists, ne_eq]
    rw [hread, Order.exists_toJson_eq_iff]
    simp only [not_and_or, not_forall, not_or, exists_prop]
  · rw [Order.ofJson?_eq_some_iff, iff_self_and]
    rintro rfl
    exact order.depth_eq_objectDepth

example : Order.ofJson? (.object [("b", .string "ASC"),
    ("a", .object [("c", .object [("d", .ofNat 1)])])]) = none := rfl

end FilterQuery
