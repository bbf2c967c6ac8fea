import AutoReply.Chat.Message
import AutoReply.Registry
import AutoReply.Text.Blank

/-!
The rules as a table of text. A column is as wide as its longest cell, and two spaces lie between
columns.
-/

namespace AutoReply.Control

open AutoReply.Chat AutoReply.Text

structure Row where
  cells : List (List Char)

def headerRow : Row :=
  ⟨["Response".toList, "Enabled".toList, "Status".toList]⟩

def flagText (flag : Bool) : String :=
  if flag then "true" else "false"

def rowOf (summary : Summary) : Row :=
  ⟨[summary.name.toList, (flagText summary.enabled).toList, summary.state.toList]⟩

def columnWidth (rows : List Row) (column : Nat) : Nat :=
  (rows.map fun row => (row.cells[column]?.getD []).length).foldl max 0

def columnWidths (rows : List Row) : List Nat :=
  [columnWidth rows 0, columnWidth rows 1, columnWidth rows 2]

def paddedLine (widths : List Nat) (row : Row) : List Char :=
  trimEnd (join [' ', ' '] (List.zipWith padEnd widths row.cells))

/-- The greatest width that a text can be padded to. -/
def greatestWidth : Nat := 65535

/-- There is no line, and so no table, with a column of a greater width. -/
def line? (widths : List Nat) (row : Row) : Option (List Char) :=
  if widths.all (· ≤ greatestWidth) then some (paddedLine widths row) else none

def ruleRow (widths : List Nat) : Row :=
  ⟨widths.map fun width => List.replicate width '-'⟩

def tableLines? (summaries : List Summary) : Option (List (List Char)) :=
  let rows := summaries.map rowOf
  let widths := columnWidths (headerRow :: rows)
  (headerRow :: ruleRow widths :: rows).mapM (line? widths)

def table? (registry : Registry) : Option String :=
  (tableLines? registry.summaries).map fun lines => String.ofList (join ['\n'] lines)

def listing? (registry : Registry) : Option RichMessage :=
  (table? registry).map fun table => .titled "Responses" ("```\n" ++ table ++ "\n```")

end AutoReply.Control
