/-!
JSON documents as they are written: two blanks for each level, one line for each element, and a pair
of brackets for what is empty.
-/

namespace HazardStore.Json

inductive Document where
  | null
  | boolean (value : Bool)
  | number (value : Int)
  | text (value : String)
  | list (elements : List Document)
  | record (fields : List (String × Document))

def hexDigit (value : Nat) : Char :=
  Nat.digitChar (value % 16)

/-- How a character stands inside quotes: controls, quotes and backslashes are escaped. -/
def escaped (c : Char) : List Char :=
  if c = '"' then ['\\', '"']
  else if c = '\\' then ['\\', '\\']
  else if c = '\n' then ['\\', 'n']
  else if c = '\r' then ['\\', 'r']
  else if c = '\t' then ['\\', 't']
  else if c.toNat = 8 then ['\\', 'b']
  else if c.toNat = 12 then ['\\', 'f']
  else if c.toNat < 32 then ['\\', 'u', '0', '0', hexDigit (c.toNat / 16), hexDigit c.toNat]
  else [c]

def quoted (text : String) : String :=
  String.ofList ('"' :: text.toList.flatMap escaped ++ ['"'])

def indentation (level : Nat) : String :=
  String.ofList (List.replicate (2 * level) ' ')

/-- Elements on lines of their own between two brackets. -/
def bracketed (level : Nat) (opening closing : String) (elements : List String) : String :=
  if elements = [] then opening ++ closing
  else
    let line := "\n" ++ indentation (level + 1)
    opening ++ line ++ String.intercalate ("," ++ line) elements ++
      "\n" ++ indentation level ++ closing

mutual

def Document.pretty (level : Nat) : Document → String
  | .null => "null"
  | .boolean value => if value then "true" else "false"
  | .number value => toString value
  | .text value => quoted value
  | .list elements => bracketed level "[" "]" (prettyElements (level + 1) elements)
  | .record fields => bracketed level "\x7b" "\x7d" (prettyFields (level + 1) fields)

def prettyElements (level : Nat) : List Document → List String
  | [] => []
  | element :: others => element.pretty level :: prettyElements level others

def prettyFields (level : Nat) : List (String × Document) → List String
  | [] => []
  | (key, value) :: others =>
      (quoted key ++ ": " ++ value.pretty level) :: prettyFields level others

end

end HazardStore.Json
