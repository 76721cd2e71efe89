import Trendline.Text.Quoted

/-!
# JSON documents

The tree of a document and its two written forms: `compact` on one line, and
`pretty` with two blanks of indentation, one item or member a line, and nothing
between the brackets of an empty list or object.

A number is kept as the text it is written with, so a document never loses a
digit on its way in or out.
-/

namespace Trendline

/-- A JSON document.  Members keep their order. -/
inductive Json where
  | null
  | bool (value : Bool)
  | number (numeral : String)
  | string (text : String)
  | array (items : List Json)
  | object (members : List (String × Json))
  deriving Inhabited

namespace Json

/-- A code of less than sixteen bits, as four digits in base sixteen. -/
def fourHexDigits (n : Nat) : List Char :=
  let ds := Text.hexDigits n
  List.replicate (4 - ds.length) '0' ++ ds

/-- One character between the quotes of a string. -/
def escape (c : Char) : List Char :=
  if c = '"' then ['\\', '"']
  else if c = '\\' then ['\\', '\\']
  else if c = '\n' then ['\\', 'n']
  else if c = '\r' then ['\\', 'r']
  else if c = '\t' then ['\\', 't']
  else if c = '\x08' then ['\\', 'b']
  else if c = '\x0c' then ['\\', 'f']
  else if c.toNat < 0x20 then ['\\', 'u'] ++ fourHexDigits c.toNat
  else [c]

/-- A string in its quotes. -/
def stringChars (s : String) : List Char :=
  '"' :: s.toList.flatMap escape ++ ['"']

/-- A line break followed by the blanks of a depth. -/
def newline (depth : Nat) : List Char :=
  '\n' :: List.replicate (2 * depth) ' '

/-- The characters of a document without indentation. -/
def compactChars : Json → List Char
  | null => ['n', 'u', 'l', 'l']
  | bool true => ['t', 'r', 'u', 'e']
  | bool false => ['f', 'a', 'l', 's', 'e']
  | number numeral => numeral.toList
  | string text => stringChars text
  | array items => '[' :: itemsCompact items ++ [']']
  | object members => '\x7b' :: membersCompact members ++ ['\x7d']
where
  itemsCompact : List Json → List Char
    | [] => []
    | [item] => compactChars item
    | item :: rest => compactChars item ++ ',' :: itemsCompact rest
  membersCompact : List (String × Json) → List Char
    | [] => []
    | [(name, value)] => stringChars name ++ ':' :: compactChars value
    | (name, value) :: rest =>
      stringChars name ++ ':' :: compactChars value ++ ',' :: membersCompact rest

/-- The characters of a document at a depth of indentation. -/
def prettyChars (depth : Nat) : Json → List Char
  | null => ['n', 'u', 'l', 'l']
  | bool true => ['t', 'r', 'u', 'e']
  | bool false => ['f', 'a', 'l', 's', 'e']
  | number numeral => numeral.toList
  | string text => stringChars text
  | array [] => ['[', ']']
  | array (item :: rest) =>
    '[' :: newline (depth + 1) ++ prettyChars (depth + 1) item ++ itemsPretty (depth + 1) rest ++
      newline depth ++ [']']
  | object [] => ['\x7b', '\x7d']
  | object ((name, value) :: rest) =>
    '\x7b' :: newline (depth + 1) ++ stringChars name ++ ':' :: ' ' :: prettyChars (depth + 1) value ++
      membersPretty (depth + 1) rest ++ newline depth ++ ['\x7d']
where
  itemsPretty (depth : Nat) : List Json → List Char
    | [] => []
    | item :: rest => ',' :: newline depth ++ prettyChars depth item ++ itemsPretty depth rest
  membersPretty (depth : Nat) : List (String × Json) → List Char
    | [] => []
    | (name, value) :: rest =>
      ',' :: newline depth ++ stringChars name ++ ':' :: ' ' :: prettyChars depth value ++
        membersPretty depth rest

/-- The document on one line. -/
def compact (doc : Json) : String :=
  String.ofList doc.compactChars

/-- The document with indentation. -/
def pretty (doc : Json) : String :=
  String.ofList (doc.prettyChars 0)

/-- A count as a number. -/
def ofNat (n : Nat) : Json :=
  .number (String.ofList (Nat.toDigits 10 n))

/-- The first member of that name. -/
def member? (name : String) : Json → Option Json
  | object members => members.lookup name
  | _ => none

end Json

end Trendline
