import AutoReply.Number.Binary64

/-!
Settings as they stand in a source, before it is known which of them mean something, and laying one
source over another.
-/

namespace AutoReply.Settings

open AutoReply.Number

inductive Value
  | nothing
  | flag (value : Bool)
  | integer (value : Int)
  | real (value : Binary64)
  | text (value : String)
  | list (items : List Value)
  /-- Members with different names, in order. -/
  | table (members : List (String × Value))

namespace Value

def emptyTable : Value := table []

/-- Gives a member a value, in the place of its old one or behind the others. -/
def put {α : Type} (name : String) (value : α) : List (String × α) → List (String × α)
  | [] => [(name, value)]
  | member :: rest =>
      if member.1 = name then (name, value) :: rest else member :: put name value rest

mutual

/-- One value over another. Tables are joined member by member; anything else hides what is below
it. -/
def overlay (below : Value) : Value → Value
  | table members =>
      match below with
      | table old => table (overlayMembers old members)
      | _ => table members
  | above => above

def overlayMembers (old : List (String × Value)) : List (String × Value) → List (String × Value)
  | [] => old
  | (name, value) :: rest =>
      let joined := match old.lookup name with
        | some before => overlay before value
        | none => value
      overlayMembers (put name joined old) rest

end

def layered (layers : List Value) : Value :=
  layers.foldl overlay emptyTable

def nested (path : List String) (value : Value) : Value :=
  path.foldr (fun name inner => table [(name, inner)]) value

def get? : List String → Value → Option Value
  | [], value => some value
  | name :: path, table members => (members.lookup name).bind (get? path)
  | _ :: _, _ => none

end Value

end AutoReply.Settings
