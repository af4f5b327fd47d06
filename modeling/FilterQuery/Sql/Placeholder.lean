import FilterQuery.Filter.Where
import FilterQuery.Sql.Backend

/-!
# Placeholders

A named placeholder is a colon with an identifier behind it, or with three points and an
identifier.  Rendering for a backend replaces every placeholder that has a parameter by positional
ones and lists the values they stand for.
-/

namespace FilterQuery

def isIdentifierStart (c : Char) : Bool :=
  c.isAlpha || c == '_'

def isIdentifierChar (c : Char) : Bool :=
  c.isAlphanum || c == '_'

inductive SqlPiece
  | char (c : Char)
  | placeholder (isSpread : Bool) (name : List Char)
  deriving DecidableEq, Repr

namespace SqlPiece

def identifier? : List Char → Option (List Char × List Char)
  | [] => none
  | c :: rest =>
      if isIdentifierStart c then
        some (c :: rest.takeWhile isIdentifierChar, rest.dropWhile isIdentifierChar)
      else none

def placeholder? : List Char → Option (SqlPiece × List Char)
  | '.' :: '.' :: '.' :: rest =>
      (identifier? rest).map fun (name, after) => (.placeholder true name, after)
  | rest => (identifier? rest).map fun (name, after) => (.placeholder false name, after)

theorem length_of_identifier? {chars name after : List Char}
    (hname : identifier? chars = some (name, after)) : after.length < chars.length := by
  cases chars with
  | nil => simp [identifier?] at hname
  | cons c rest =>
    simp only [identifier?] at hname
    split at hname
    · simp only [Option.some.injEq, Prod.mk.injEq] at hname
      obtain ⟨-, rfl⟩ := hname
      have hle := (List.dropWhile_sublist isIdentifierChar (l := rest)).length_le
      simp only [List.length_cons]
      omega
    · simp at hname

theorem length_of_placeholder? {chars after : List Char} {piece : SqlPiece}
    (hpiece : placeholder? chars = some (piece, after)) : after.length < chars.length := by
  unfold placeholder? at hpiece
  split at hpiece
  · simp only [Option.map_eq_some_iff, Prod.exists, Prod.mk.injEq] at hpiece
    obtain ⟨name, rest, hname, -, rfl⟩ := hpiece
    have hlt := length_of_identifier? hname
    simp only [List.length_cons]
    omega
  · simp only [Option.map_eq_some_iff, Prod.exists, Prod.mk.injEq] at hpiece
    obtain ⟨name, rest, hname, -, rfl⟩ := hpiece
    exact length_of_identifier? hname

/-- A text cut into its placeholders and the characters between them. -/
def scan : List Char → List SqlPiece
  | [] => []
  | ':' :: rest =>
      match _ : placeholder? rest with
      | some (piece, after) => piece :: scan after
      | none => .char ':' :: scan rest
  | c :: rest => .char c :: scan rest
termination_by chars => chars.length
decreasing_by
  · have := length_of_placeholder? ‹_›
    simp only [List.length_cons]
    omega
  · simp
  · simp

def chars : SqlPiece → List Char
  | .char c => [c]
  | .placeholder isSpread name => ':' :: ((if isSpread then ['.', '.', '.'] else []) ++ name)

end SqlPiece

/-- SQL text with positional placeholders and the values they stand for. -/
structure PositionalSql where
  sql : String
  binds : List Json

namespace PositionalSql

/-- What a list without items is compared with: a query without rows. -/
def emptyList : String := "SELECT NULL WHERE 1=0"

def boundBy (isSpread : Bool) : Json → List Json
  | .array items => if isSpread then items else [.array items]
  | value => [value]

/-- The placeholders of `count` values, the first of which has this number. -/
def placeholders (backend : Backend) (first count : Nat) : String :=
  if count = 0 then emptyList
  else Text.joined ", " ((List.range' first count).map backend.placeholder)

/-- The text of the pieces, and the values bound in it, when `bound` values are bound already.  A
placeholder without a parameter stays as it is. -/
def ofPieces (backend : Backend) (parameters : Parameters) :
    List SqlPiece → Nat → List Char × List Json
  | [], _ => ([], [])
  | .char c :: rest, bound =>
      let (text, binds) := ofPieces backend parameters rest bound
      (c :: text, binds)
  | .placeholder isSpread name :: rest, bound =>
      match Named.get? (String.ofList name) parameters with
      | none =>
          let (text, binds) := ofPieces backend parameters rest bound
          ((SqlPiece.placeholder isSpread name).chars ++ text, binds)
      | some value =>
          let values := boundBy isSpread value
          let (text, binds) := ofPieces backend parameters rest (bound + values.length)
          ((placeholders backend (bound + 1) values.length).toList ++ text, values ++ binds)

def ofNamed (backend : Backend) (parameters : Parameters) (sql : String) : PositionalSql :=
  let (text, binds) := ofPieces backend parameters (SqlPiece.scan sql.toList) 0
  ⟨String.ofList text, binds⟩

end PositionalSql

end FilterQuery
