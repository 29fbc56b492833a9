import HazardStore.Json.Reader
/-!
Passing over a JSON value that nobody asked for. Its numbers may have any size and its texts may
hold surrogates that stand alone, but it has to be well formed.
-/

namespace HazardStore.Json.Reader

def skipDigits : Reader Unit := do
  let text ← digits
  if text.isEmpty then throw .malformed

def skipExponent : Reader Unit := do
  let mark? ← peek?
  if mark? = some 'e' ∨ mark? = some 'E' then
    drop
    let sign? ← peek?
    if sign? = some '+' ∨ sign? = some '-' then drop
    skipDigits

/-- A number whose sign is taken. A number that breaks off is malformed even at the end of the
text. -/
def skipNumber : Reader Unit := do
  match ← digits with
  | [] => throw .malformed
  | '0' :: _ :: _ => throw .malformed
  | _ =>
      if (← peek?) = some '.' then
        drop
        skipDigits
      skipExponent

/-- What may stand behind an element: a comma, or the closing bracket, which ends the list. -/
def closes (closing : Char) : Reader Bool := do
  let c ← peekToken
  if c = closing then drop; return true
  else if c = ',' then drop; return false
  else throw .malformed

def skipKey : Reader Unit := do
  if (← peekToken) = '"' then
    drop
    skipQuoted
    colon
  else throw .malformed

mutual

def skipValueFrom : Nat → Reader Unit
  | 0 => throw .ended
  | fuel + 1 => do
      let c ← peekToken
      if c = 'n' then word "null".toList
      else if c = 't' then word "true".toList
      else if c = 'f' then word "false".toList
      else if c = '-' then drop; skipNumber
      else if c.isDigit then skipNumber
      else if c = '"' then drop; skipQuoted
      else if c = '[' then
        drop
        if (← peekToken) = ']' then drop else skipElementsFrom fuel
      else if c = '\x7b' then
        drop
        if (← peekToken) = '\x7d' then drop else skipFieldsFrom fuel
      else throw .malformed

def skipElementsFrom : Nat → Reader Unit
  | 0 => throw .ended
  | fuel + 1 => do
      skipValueFrom fuel
      if !(← closes ']') then skipElementsFrom fuel

def skipFieldsFrom : Nat → Reader Unit
  | 0 => throw .ended
  | fuel + 1 => do
      skipKey
      skipValueFrom fuel
      if !(← closes '\x7d') then skipFieldsFrom fuel

end

/-- Passes over one value. Between two calls with less fuel at least one character is taken, so
twice the length of the text is enough. -/
def skipValue : Reader Unit := do
  skipValueFrom (2 * (← get).length + 2)

end HazardStore.Json.Reader
