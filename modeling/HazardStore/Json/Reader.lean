/-!
Reading JSON from left to right. A reader takes characters from the front of a text; the first
problem decides what is wrong with the whole: the text ended too early, it is malformed, or it is
well formed and of the wrong shape.
-/

namespace HazardStore.Json

inductive ReadError where
  | ended
  | malformed
  /-- Well formed, but not what is asked for. -/
  | unsuitable
deriving DecidableEq

abbrev Reader (α : Type) := StateT (List Char) (Except ReadError) α

namespace Reader

def isSpace (c : Char) : Bool :=
  c == ' ' || c == '\n' || c == '\t' || c == '\r'

def skipSpace : Reader Unit :=
  modify (fun text => text.dropWhile isSpace)

def peek? : Reader (Option Char) := do
  return (← get).head?

def drop : Reader Unit :=
  modify List.tail

def peekToken : Reader Char := do
  skipSpace
  match ← peek? with
  | some c => return c
  | none => throw .ended

def next : Reader Char := do
  match ← peek? with
  | some c => drop; return c
  | none => throw .ended

def digits : Reader (List Char) := do
  let text ← get
  set (text.dropWhile Char.isDigit)
  return text.takeWhile Char.isDigit

def word : List Char → Reader Unit
  | [] => return ()
  | expected :: others => do
      if (← next) = expected then word others else throw .malformed

def hexValue? (c : Char) : Option Nat :=
  if c.isDigit then some (c.toNat - '0'.toNat)
  else if 'a' ≤ c ∧ c ≤ 'f' then some (c.toNat - 'a'.toNat + 10)
  else if 'A' ≤ c ∧ c ≤ 'F' then some (c.toNat - 'A'.toNat + 10)
  else none

def hexNumber? (text : List Char) : Option Nat :=
  text.foldl (fun value? c => do return (← value?) * 16 + (← hexValue? c)) (some 0)

/-- Four hexadecimal digits. A text with less than four bytes left has ended, whatever it holds. -/
def hexEscape : Reader Nat := do
  let text ← get
  if (text.take 4).foldl (fun size c => size + c.utf8Size) 0 < 4 then throw .ended
  match hexNumber? (text.take 4) with
  | some value =>
      set (text.drop 4)
      return value
  | none => throw .malformed

def isLeadingSurrogate (unit : Nat) : Bool :=
  decide (0xD800 ≤ unit) && decide (unit < 0xDC00)

def isTrailingSurrogate (unit : Nat) : Bool :=
  decide (0xDC00 ≤ unit) && decide (unit < 0xE000)

/-- The character of a numeric escape. A leading surrogate needs a trailing one behind it. -/
def numericEscape : Reader Char := do
  let unit ← hexEscape
  if isTrailingSurrogate unit then throw .malformed
  if isLeadingSurrogate unit then
    word ['\\', 'u']
    let second ← hexEscape
    if isTrailingSurrogate second then
      return Char.ofNat ((unit - 0xD800) * 0x400 + (second - 0xDC00) + 0x10000)
    else throw .malformed
  else return Char.ofNat unit

def letterEscape? : Char → Option Char
  | '"' => some '"'
  | '\\' => some '\\'
  | '/' => some '/'
  | 'b' => some (Char.ofNat 8)
  | 'f' => some (Char.ofNat 12)
  | 'n' => some '\n'
  | 'r' => some '\r'
  | 't' => some '\t'
  | _ => none

/-- What follows a backslash, with the numeric escape left to the given reader. -/
def escape {α : Type} (letter : Char → α) (numeric : Reader α) : Reader α := do
  let c ← next
  if c = 'u' then numeric
  else match letterEscape? c with
    | some meant => return letter meant
    | none => throw .malformed

/-- Text up to the closing quote, character by character; the fuel is the length of the text. -/
def quotedFrom {α : Type} (plain : Char → α) (numeric : Reader α) : Nat → Reader (List α)
  | 0 => throw .ended
  | fuel + 1 => do
      let c ← next
      if c = '"' then return []
      else if c.toNat < 32 then throw .malformed
      else
        let first ← if c = '\\' then escape plain numeric else pure (plain c)
        let others ← quotedFrom plain numeric fuel
        return first :: others

def quoted : Reader (List Char) := do
  quotedFrom id numericEscape ((← get).length + 1)

/-- The same without its content: a numeric escape needs four digits and nothing more. -/
def skipQuoted : Reader Unit := do
  let _ ← quotedFrom (fun _ => ()) (do let _ ← hexEscape) ((← get).length + 1)

def colon : Reader Unit := do
  if (← peekToken) = ':' then drop else throw .malformed

def whole {α : Type} (reader : Reader α) (text : String) : Except ReadError α :=
  match reader.run text.toList with
  | .error error => .error error
  | .ok (value, rest) => if (rest.dropWhile isSpace).isEmpty then .ok value else .error .malformed

end Reader

end HazardStore.Json
