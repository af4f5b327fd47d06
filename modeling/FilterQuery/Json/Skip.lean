import FilterQuery.Json.Reader

/-!
# Skipping values

A value that nobody asks for is only checked against the grammar.  It may nest to any depth, its
numbers may be of any size, and its escapes need not pair their surrogates.
-/

namespace FilterQuery.Reader

def skipStringFrom : Nat → Reader Unit
  | 0, _ => .error .unfinished
  | fuel + 1, chars =>
      match chars with
      | [] | ['\\'] => .error .unfinished
      | '"' :: rest => .ok ((), rest)
      | '\\' :: 'u' :: rest =>
          match hexQuad rest with
          | .error e => .error e
          | .ok (_, rest) => skipStringFrom fuel rest
      | '\\' :: letter :: rest =>
          if (escapeLetter? letter).isSome then skipStringFrom fuel rest else .error .malformed
      | c :: rest => if c.toNat < 0x20 then .error .malformed else skipStringFrom fuel rest

def skipString : Reader Unit := fun chars =>
  skipStringFrom (chars.length + 1) chars

def skipDigits : Reader Unit := fun chars =>
  match chars with
  | c :: rest => if c.isDigit then .ok ((), rest.dropWhile Char.isDigit) else .error .malformed
  | [] => .error .malformed

def skipExponent : Reader Unit
  | 'e' :: '+' :: rest | 'E' :: '+' :: rest | 'e' :: '-' :: rest | 'E' :: '-' :: rest =>
      skipDigits rest
  | 'e' :: rest | 'E' :: rest => skipDigits rest
  | rest => .ok ((), rest)

def skipFraction : Reader Unit
  | '.' :: rest => do
      let ((), rest) ← skipDigits rest
      skipExponent rest
  | rest => skipExponent rest

def skipNumeral : Reader Unit
  | '0' :: c :: rest => if c.isDigit then .error .malformed else skipFraction (c :: rest)
  | chars => do
      let ((), rest) ← skipDigits chars
      skipFraction rest

def skipScalar : Reader Unit
  | [] => .error .unfinished
  | 'n' :: rest => literal ['u', 'l', 'l'] rest
  | 't' :: rest => literal ['r', 'u', 'e'] rest
  | 'f' :: rest => literal ['a', 'l', 's', 'e'] rest
  | '"' :: rest => skipString rest
  | '-' :: rest => skipNumeral rest
  | c :: rest => if c.isDigit then skipNumeral (c :: rest) else .error .malformed

inductive Frame
  | array
  | object

def Frame.close : Frame → Char
  | .array => ']'
  | .object => '\x7d'

/-- What comes before a value in a container: the name and the colon of a member. -/
def Frame.skipName : Frame → Reader Unit
  | .array, chars => .ok ((), chars)
  | .object, chars =>
      match skipSpace chars with
      | [] => .error .unfinished
      | '"' :: rest => do
          let ((), rest) ← skipString rest
          colon rest
      | _ => .error .malformed

inductive Stage
  | value
  | opened
  | after

/-- Goes on with the innermost of the open containers first. -/
def skipFrom : Nat → Stage → List Frame → Reader Unit
  | 0, _, _, _ => .error .unfinished
  | _ + 1, .after, [], chars => .ok ((), chars)
  | fuel + 1, .after, frame :: frames, chars =>
      match skipSpace chars with
      | [] => .error .unfinished
      | c :: rest =>
          if c = frame.close then skipFrom fuel .after frames rest
          else if c = ',' then
            match frame.skipName rest with
            | .error e => .error e
            | .ok ((), rest) => skipFrom fuel .value (frame :: frames) rest
          else .error .malformed
  | _ + 1, .opened, [], chars => .ok ((), chars)
  | fuel + 1, .opened, frame :: frames, chars =>
      match skipSpace chars with
      | [] => .error .unfinished
      | c :: rest =>
          if c = frame.close then skipFrom fuel .after frames rest
          else
            match frame.skipName (c :: rest) with
            | .error e => .error e
            | .ok ((), rest) => skipFrom fuel .value (frame :: frames) rest
  | fuel + 1, .value, frames, chars =>
      match skipSpace chars with
      | '[' :: rest => skipFrom fuel .opened (.array :: frames) rest
      | '\x7b' :: rest => skipFrom fuel .opened (.object :: frames) rest
      | chars =>
          match skipScalar chars with
          | .error e => .error e
          | .ok ((), rest) => skipFrom fuel .after frames rest

/-- Every second step at least takes some of the text. -/
def skip : Reader Unit := fun chars =>
  skipFrom (2 * chars.length + 2) .value [] chars

end FilterQuery.Reader
