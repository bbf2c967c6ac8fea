import AutoReply.Json.Value

/-!
Readers for records with named fields, written as objects or, in the order of the fields, as lists.
Members with other names are passed over.
-/

namespace AutoReply.Json

open AutoReply.Text Reader

variable {δ α : Type}

/-- A field of a record; `δ` holds the fields read so far. -/
structure Field (δ : Type) where
  name : String
  isRead : δ → Bool
  read : δ → Reader δ
  /-- A list may end before the field. -/
  hasDefault : Bool := false

def Field.of {α : Type} (name : String) (get : δ → Option α) (put : δ → α → δ)
    (reader : Reader α) (hasDefault : Bool := false) : Field δ where
  name := name
  isRead draft := (get draft).isSome
  read draft := do return put draft (← reader)
  hasDefault := hasDefault

/-- How a record is read: its name, its fields, and the finished value. -/
structure Record (δ α : Type) where
  name : String
  fields : List (Field δ)
  start : δ
  finish : δ → Except Cause α

namespace Record

def expected (record : Record δ α) : String :=
  "struct " ++ record.name ++ " with " ++ toString record.fields.length ++
    (if record.fields.length = 1 then " element" else " elements")

def membersFrom (fields : List (Field δ)) : Nat → Bool → δ → Reader δ
  | 0, _, draft => return draft
  | fuel + 1, first, draft => do
      if ← hasMember first then
        let name ← key
        match fields.find? fun field => field.name == name with
        | none =>
            colon
            ignored
            membersFrom fields fuel false draft
        | some field =>
            if field.isRead draft then failUnplaced (.duplicateField name)
            else
              colon
              membersFrom fields fuel false (← field.read draft)
      else return draft

/-- Reads the fields from a list; `index` counts those already read. -/
def itemsFrom (expected : String) : List (Field δ) → Nat → δ → Reader δ
  | [], _, draft => return draft
  | field :: fields, index, draft => do
      if ← hasItem (index == 0) then
        itemsFrom expected fields (index + 1) (← field.read draft)
      else if field.hasDefault then itemsFrom expected fields (index + 1) draft
      else failUnplaced (.wrongLength index expected)

def reader (record : Record δ α) : Reader α := placed do
  match ← valueStart with
  | some '[' =>
      drop
      let items := itemsFrom record.expected record.fields 0 record.start
      enclosed (do liftExcept (record.finish (← items))) endList
  | some '\x7b' =>
      drop
      let behind ← rest
      enclosed
        (do liftExcept (record.finish
              (← membersFrom record.fields (behind.length + 1) true record.start)))
        endObject
  | _ => wrongKind ("struct " ++ record.name)

end Record

def required {α : Type} (name : String) : Option α → Except Cause α
  | some value => .ok value
  | none => .error (.missingField name)

end AutoReply.Json
