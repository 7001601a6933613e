/-!
JSON documents and their two texts: one without any blanks, and one with a line for
each member and an indent of two blanks for each level.
-/

namespace RouteCache

/-- A JSON document. Numbers are held as their text. -/
inductive Json where
  | null
  | number (text : String)
  | string (text : String)
  | array (items : List Json)
  | object (members : List (String × Json))

namespace Json

def ofNat (n : Nat) : Json := .number (toString n)

def ofInt (n : Int) : Json := .number (toString n)

/-- How one character is written in a string. -/
def escaped (c : Char) : List Char :=
  if c = '"' then ['\\', '"']
  else if c = '\\' then ['\\', '\\']
  else if c = '\n' then ['\\', 'n']
  else if c = '\r' then ['\\', 'r']
  else if c = '\t' then ['\\', 't']
  else if c = '\x08' then ['\\', 'b']
  else if c = '\x0c' then ['\\', 'f']
  else if c.toNat < 0x20 then
    let digits := Nat.toDigits 16 c.toNat
    ['\\', 'u'] ++ List.replicate (4 - digits.length) '0' ++ digits
  else [c]

def quote (text : String) : String :=
  String.ofList ('"' :: text.toList.flatMap escaped ++ ['"'])

mutual

def compact : Json → String
  | .null => "null"
  | .number text => text
  | .string text => quote text
  | .array items => "[" ++ ",".intercalate (compactItems items) ++ "]"
  | .object members => "\x7b" ++ ",".intercalate (compactMembers members) ++ "\x7d"

def compactItems : List Json → List String
  | [] => []
  | item :: items => item.compact :: compactItems items

def compactMembers : List (String × Json) → List String
  | [] => []
  | (name, value) :: members => (quote name ++ ":" ++ value.compact) :: compactMembers members

end

/-- Encloses parts, each on a line of its own, or nothing at all. -/
def enclose (opening closing margin : String) (parts : List String) : String :=
  match parts with
  | [] => opening ++ closing
  | _ =>
    let lines := parts.map fun part => "\n" ++ margin ++ "  " ++ part
    opening ++ ",".intercalate lines ++ "\n" ++ margin ++ closing

mutual

/-- The text with lines and indents, below a margin. -/
def indented (margin : String) : Json → String
  | .null => "null"
  | .number text => text
  | .string text => quote text
  | .array items => enclose "[" "]" margin (indentedItems (margin ++ "  ") items)
  | .object members =>
    enclose "\x7b" "\x7d" margin (indentedMembers (margin ++ "  ") members)

def indentedItems (margin : String) : List Json → List String
  | [] => []
  | item :: items => item.indented margin :: indentedItems margin items

def indentedMembers (margin : String) : List (String × Json) → List String
  | [] => []
  | (name, value) :: members =>
    (quote name ++ ": " ++ value.indented margin) :: indentedMembers margin members

end

def pretty (document : Json) : String := document.indented ""

/-- An object with its members in the order of their names. -/
def sortedObject (members : List (String × Json)) : Json :=
  .object (members.mergeSort fun a b => decide (a.1 ≤ b.1))

end Json

end RouteCache
