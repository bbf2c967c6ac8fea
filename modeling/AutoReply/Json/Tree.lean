import AutoReply.Number.Text
import AutoReply.Text.Quoted

/-!
JSON values, and writing them on one line or indented.
-/

namespace AutoReply

open AutoReply.Number AutoReply.Text

inductive Json
  | null
  | bool (value : Bool)
  | integer (value : Int)
  | real (value : Binary64)
  | text (value : String)
  | list (items : List Json)
  /-- The members in order; a name may come more than once. -/
  | object (members : List (String × Json))

namespace Json

def shortEscape? : Char → Option Char
  | '"' => some '"'
  | '\\' => some '\\'
  | '\x08' => some 'b'
  | '\x0c' => some 'f'
  | '\n' => some 'n'
  | '\r' => some 'r'
  | '\t' => some 't'
  | _ => none

def escape (character : Char) : List Char :=
  match shortEscape? character with
  | some letter => ['\\', letter]
  | none =>
      if character.toNat < 0x20 then
        ['\\', 'u', '0', '0', (lowerDigit (character.toNat / 16)),
          (lowerDigit (character.toNat % 16))]
      else [character]
where
  lowerDigit (value : Nat) : Char := Nat.digitChar value

def textChars (text : String) : List Char :=
  '"' :: text.toList.flatMap escape ++ ['"']

def indentation (depth : Nat) : List Char :=
  '\n' :: List.replicate (2 * depth) ' '

/-- The separators of the members and items of a value: where each begins, and where the whole
ends. -/
structure Layout where
  /-- Written before each item of a list or member of an object that is `depth` levels deep. -/
  lead : Nat → List Char
  afterColon : List Char

def Layout.oneLine : Layout := ⟨fun _ => [], []⟩

def Layout.indented : Layout := ⟨indentation, [' ']⟩

mutual

def chars (layout : Layout) (depth : Nat) : Json → List Char
  | null => "null".toList
  | bool value => (if value then "true" else "false").toList
  | integer value => integerText value
  | real value => value.compact
  | text value => textChars value
  | list [] => ['[', ']']
  | list (item :: items) =>
      '[' :: layout.lead (depth + 1) ++ chars layout (depth + 1) item ++
        itemChars layout (depth + 1) items ++ layout.lead depth ++ [']']
  | object [] => ['\x7b', '\x7d']
  | object ((name, value) :: members) =>
      '\x7b' :: layout.lead (depth + 1) ++ textChars name ++ ':' :: layout.afterColon ++
        chars layout (depth + 1) value ++ memberChars layout (depth + 1) members ++
        layout.lead depth ++ ['\x7d']

def itemChars (layout : Layout) (depth : Nat) : List Json → List Char
  | [] => []
  | item :: items =>
      ',' :: layout.lead depth ++ chars layout depth item ++ itemChars layout depth items

def memberChars (layout : Layout) (depth : Nat) : List (String × Json) → List Char
  | [] => []
  | (name, value) :: members =>
      ',' :: layout.lead depth ++ textChars name ++ ':' :: layout.afterColon ++
        chars layout depth value ++ memberChars layout depth members

end

def compact (json : Json) : String :=
  String.ofList (chars .oneLine 0 json)

def pretty (json : Json) : String :=
  String.ofList (chars .indented 0 json)

def number (value : Nat) : Json :=
  integer value

def option {α : Type} (write : α → Json) : Option α → Json
  | some value => write value
  | none => null

end Json

end AutoReply
