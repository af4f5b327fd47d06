import FilterQuery.Text.Blank
import FilterQuery.Text.LetterCase

/-!
# Snake case

The names of tables and key columns follow from the names of entities: `BlogPost` becomes
`blog_post`.  A run of capitals counts as one word, so `HTTPLog` becomes `http_log`, and the
underscores of the name are kept.
-/

namespace FilterQuery.Text

/-- Whether a word starts at a capital that stands between these neighbours: after a small letter
or a digit, and at the last capital of a run when a small letter follows it. -/
def startsWord (previous next : Option Char) : Bool :=
  match previous with
  | none => false
  | some p => isLower p || p.isDigit || (isUpper p && next.any isLower)

/-- The snake case of the rest of a text, where `previous` is the character in front of the rest and
`written` the last one of the result so far.  No underscore is put behind another one. -/
def snakeChars (previous written : Option Char) : List Char → List Char
  | [] => []
  | c :: rest =>
      if isUpper c then
        (if startsWord previous rest.head? && written != some '_' then ['_'] else []) ++
          lower c ++ snakeChars (some c) (lower c).getLast? rest
      else
        c :: snakeChars (some c) (some c) rest

def snakeCase (name : String) : String :=
  String.ofList (snakeChars none none (trimChars name.toList))

end FilterQuery.Text
