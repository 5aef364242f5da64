import FlowNet.Json.Basic
import FlowNet.Decimal.Shortest

/-!
# Writing JSON

Compact text has no white space. Indented text puts each item and field on a line of its own, two spaces
deeper than its container; an empty container stays on one line.
-/

namespace FlowNet.Json

/-- A double always shows a point or an exponent, so it reads back as a double. -/
def floatLayout : Decimal.Layout := ⟨-5, 16⟩

def Number.text : Number → String
  | .int i => toString i
  | .float f => floatLayout.float f

def hexDigit (n : Nat) : Char := (Nat.digitChar n)

/-- Quotes, backslashes and control characters are escaped, and nothing else. -/
def escapeChar (c : Char) : List Char :=
  if c = '"' then ['\\', '"']
  else if c = '\\' then ['\\', '\\']
  else if c = '\n' then ['\\', 'n']
  else if c = '\r' then ['\\', 'r']
  else if c = '\t' then ['\\', 't']
  else if c.toNat = 8 then ['\\', 'b']
  else if c.toNat = 12 then ['\\', 'f']
  else if c.toNat < 32 then ['\\', 'u', '0', '0', hexDigit (c.toNat / 16), hexDigit (c.toNat % 16)]
  else [c]

def quote (s : String) : String := String.ofList ('"' :: s.toList.flatMap escapeChar ++ ['"'])

mutual

def compact : Json → String
  | null => "null"
  | bool true => "true"
  | bool false => "false"
  | num n => n.text
  | str s => quote s
  | arr items => "[" ++ ",".intercalate (compactItems items) ++ "]"
  | obj fields => "\x7b" ++ ",".intercalate (compactFields fields) ++ "\x7d"

def compactItems : List Json → List String
  | [] => []
  | v :: r => compact v :: compactItems r

def compactFields : List (String × Json) → List String
  | [] => []
  | (k, v) :: r => (quote k ++ ":" ++ compact v) :: compactFields r

end

def newline (depth : Nat) : String := "\n" ++ String.ofList (List.replicate (2 * depth) ' ')

def block (opening closing : String) (depth : Nat) (lines : List String) : String :=
  if lines.isEmpty then opening ++ closing
  else opening ++ newline (depth + 1) ++ ("," ++ newline (depth + 1)).intercalate lines ++ newline depth ++ closing

mutual

def indentedAt (depth : Nat) : Json → String
  | arr items => block "[" "]" depth (indentedItems depth items)
  | obj fields => block "\x7b" "\x7d" depth (indentedFields depth fields)
  | v => compact v

def indentedItems (depth : Nat) : List Json → List String
  | [] => []
  | v :: r => indentedAt (depth + 1) v :: indentedItems depth r

def indentedFields (depth : Nat) : List (String × Json) → List String
  | [] => []
  | (k, v) :: r => (quote k ++ ": " ++ indentedAt (depth + 1) v) :: indentedFields depth r

end

def indented (v : Json) : String := indentedAt 0 v

end FlowNet.Json
