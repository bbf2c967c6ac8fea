import AutoReply.Toml.Scalar
import AutoReply.Toml.Table
import AutoReply.Toml.Text

/-!
TOML documents: values, and the lines that give keys their values and name tables.
-/

namespace AutoReply.Toml

open AutoReply.Settings Scan

/-- Dates have no use as settings: each reads as a table with a single nameless member. -/
def dateValue : Value := .table [("", .text "")]

def scalar : Scan Value := do
  match ← peek with
  | some '"' | some '\'' => return .text (← anyText)
  | some 't' | some 'f' => return .flag (← flag)
  | some 'i' | some 'n' => return .real (← specialNumber)
  | _ =>
      (do dateOrTime; return dateValue) <|> Value.real <$> decimal <|>
        Value.real <$> specialNumber <|> Value.integer <$> integer

mutual

/-- A value; lists and tables may be nested `levels` deep. -/
def value : Nat → Nat → Scan Value
  | 0, _ => failure
  | fuel + 1, levels => do
      if ← accept ['['] then
        guard (0 < levels)
        return .list (← items fuel (levels - 1))
      else if ← accept ['\x7b'] then
        guard (0 < levels)
        blanks
        if ← accept ['\x7d'] then return .emptyTable
        else return .table (memberValues (← pairs fuel (levels - 1) []))
      else scalar

/-- The items of a list behind its opening bracket; a comma may follow the last one. -/
def items : Nat → Nat → Scan (List Value)
  | 0, _ => failure
  | fuel + 1, levels => do
      gap fuel
      if ← accept [']'] then return []
      else
        let item ← value fuel levels
        gap fuel
        if ← accept [','] then return item :: (← items fuel levels)
        else
          expect [']']
          return [item]

def pairs : Nat → Nat → Members → Scan Members
  | 0, _, _ => failure
  | fuel + 1, levels, members => do
      let name ← key
      expect ['=']
      blanks
      let given ← value fuel levels
      blanks
      match setKey name given members with
      | none => failure
      | some members =>
          if ← accept [','] then pairs fuel levels members
          else
            expect ['\x7d']
            return members

end

/-- The lines of a document; `path` leads to the table that the keys belong to. -/
def lines : Nat → List String → Members → Scan Members
  | 0, _, _ => failure
  | fuel + 1, path, members => do
      gap fuel
      match ← peek with
      | none => return members
      | some '[' => do
          let isItem ← accept ['[', '[']
          if !isItem then dropCount 1
          let path ← key
          expect (if isItem then [']', ']'] else [']'])
          lineRest
          match if isItem then openItem path members else openTable path members with
          | some members => lines fuel path members
          | none => failure
      | some _ => do
          let name ← key
          expect ['=']
          blanks
          let given ← value fuel (maxDepth - 1)
          lineRest
          match setKeyAt path name given members with
          | some members => lines fuel path members
          | none => failure

/-- Reads a document; a mark of the byte order may come first. -/
def document? (text : List Char) : Option Value :=
  let text := match text with
    | '\ufeff' :: rest => rest
    | _ => text
  match lines (2 * text.length + 2) [] [] text with
  | some (members, []) => some (.table (memberValues members))
  | _ => none

end AutoReply.Toml
