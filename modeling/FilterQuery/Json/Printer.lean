import FilterQuery.Binary64.Decimal
import FilterQuery.Json.Basic

/-!
# JSON text

The compact text of a value has no blanks.  The indented text puts every item and member on a line
of its own, two blanks further in than what surrounds it; empty containers stay closed.
-/

namespace FilterQuery

/-- Numbers always show a point or an exponent, and a number that is not finite is null. -/
def Json.realLayout : Binary64.Layout where
  tie := .even
  lowest := some (-5)
  highest := some 15
  wholeSuffix := ".0"
  infinite := "null"
  negativeInfinite := "null"
  notANumber := "null"

def Number.text : Number → String
  | .integer value => toString value
  | .real value => Json.realLayout.text value

namespace Json

def hexDigit (n : Nat) : Char :=
  (Nat.toDigits 16 n).headD '0'

/-- Only quotation marks, backslashes and control characters are escaped. -/
def escapedChar (c : Char) : List Char :=
  match c with
  | '"' => ['\\', '"']
  | '\\' => ['\\', '\\']
  | '\n' => ['\\', 'n']
  | '\r' => ['\\', 'r']
  | '\t' => ['\\', 't']
  | '\x08' => ['\\', 'b']
  | '\x0c' => ['\\', 'f']
  | c =>
      if c.toNat < 0x20 then
        ['\\', 'u', '0', '0', hexDigit (c.toNat / 16), hexDigit (c.toNat % 16)]
      else [c]

def stringText (text : String) : String :=
  "\"" ++ String.ofList (text.toList.flatMap escapedChar) ++ "\""

mutual

def text : Json → String
  | .null => "null"
  | .bool value => if value then "true" else "false"
  | .number value => value.text
  | .string value => stringText value
  | .array items => "[" ++ itemsText items ++ "]"
  | .object members => "\x7b" ++ membersText members ++ "\x7d"
termination_by structural value => value

def itemsText : List Json → String
  | [] => ""
  | [item] => item.text
  | item :: rest => item.text ++ "," ++ itemsText rest
termination_by structural items => items

def membersText : List (String × Json) → String
  | [] => ""
  | [(name, value)] => stringText name ++ ":" ++ value.text
  | (name, value) :: rest => stringText name ++ ":" ++ value.text ++ "," ++ membersText rest
termination_by structural members => members

end

def lineBreak (level : Nat) : String :=
  "\n" ++ String.ofList (List.replicate (2 * level) ' ')

mutual

/-- The indented text of a value that stands `level` levels deep. -/
def indented (level : Nat) : Json → String
  | .null => "null"
  | .bool value => if value then "true" else "false"
  | .number value => value.text
  | .string value => stringText value
  | .array [] => "[]"
  | .array items => "[" ++ indentedItems (level + 1) items ++ lineBreak level ++ "]"
  | .object [] => "\x7b\x7d"
  | .object members =>
      "\x7b" ++ indentedMembers (level + 1) members ++ lineBreak level ++ "\x7d"
termination_by structural value => value

def indentedItems (level : Nat) : List Json → String
  | [] => ""
  | [item] => lineBreak level ++ item.indented level
  | item :: rest => lineBreak level ++ item.indented level ++ "," ++ indentedItems level rest
termination_by structural items => items

def indentedMembers (level : Nat) : List (String × Json) → String
  | [] => ""
  | [(name, value)] => lineBreak level ++ stringText name ++ ": " ++ value.indented level
  | (name, value) :: rest =>
      lineBreak level ++ stringText name ++ ": " ++ value.indented level ++ "," ++
        indentedMembers level rest
termination_by structural members => members

end

end Json

end FilterQuery
