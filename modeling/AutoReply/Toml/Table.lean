import AutoReply.Settings.Value

/-!
Putting tables together from headers and keys. A table may be named by a header once; a table that
only stands on the way to another one may still be named later, but not extended by dotted keys.
-/

namespace AutoReply.Toml

open AutoReply.Settings

/-- How a table has come into being. -/
inductive Origin
  /-- Named by a header. -/
  | header
  /-- On the way to a table that a header names. -/
  | onTheWay
  /-- On the way to a value that a dotted key names. -/
  | dotted
  deriving DecidableEq

inductive Item
  | value (value : Value)
  | table (origin : Origin) (members : List (String × Item))
  /-- Tables that share a name, the last one first. -/
  | tables (latest : List (String × Item)) (earlier : List (List (String × Item)))

abbrev Members := List (String × Item)

/-- Changes the table at the end of a path of table names, and makes those that are missing. The
change also learns whether dotted keys made the table. -/
def changeAt (origin : Origin) (change : Origin → Members → Option Members) :
    List String → Origin → Members → Option Members
  | [], reached, members => change reached members
  | name :: path, _, members =>
      match members.lookup name with
      | none =>
          (changeAt origin change path origin []).map fun inner =>
            Value.put name (.table origin inner) members
      | some (.value _) => none
      | some (.table found inner) =>
          if origin = .dotted && found = .header then none
          else
            (changeAt origin change path found inner).map fun inner =>
              Value.put name (.table found inner) members
      | some (.tables latest earlier) =>
          (changeAt origin change path .header latest).map fun latest =>
            Value.put name (.tables latest earlier) members

def addValue (name : String) (value : Value) (members : Members) : Option Members :=
  match members.lookup name with
  | some _ => none
  | none => some (Value.put name (.value value) members)

def setKey (key : List String) (value : Value) (members : Members) : Option Members :=
  match key.getLast? with
  | none => none
  | some name =>
      if key.length = 1 then addValue name value members
      else
        changeAt .dotted
          (fun reached inner => if reached = .dotted then addValue name value inner else none)
          key.dropLast .header members

def openTable (path : List String) (members : Members) : Option Members :=
  match path.getLast? with
  | none => none
  | some name =>
      changeAt .onTheWay
        (fun _ inner =>
          match inner.lookup name with
          | none => some (Value.put name (.table .header []) inner)
          | some (.table .onTheWay found) => some (Value.put name (.table .header found) inner)
          | some _ => none)
        path.dropLast .header members

def openItem (path : List String) (members : Members) : Option Members :=
  match path.getLast? with
  | none => none
  | some name =>
      changeAt .onTheWay
        (fun _ inner =>
          match inner.lookup name with
          | none => some (Value.put name (.tables [] []) inner)
          | some (.tables latest earlier) =>
              some (Value.put name (.tables [] (latest :: earlier)) inner)
          | some _ => none)
        path.dropLast .header members

def setKeyAt (path key : List String) (value : Value) (members : Members) : Option Members :=
  changeAt .onTheWay (fun _ inner => setKey key value inner) path .header members

mutual

def Item.toValue : Item → Value
  | .value value => value
  | .table _ members => .table (memberValues members)
  | .tables latest earlier =>
      .list ((.table (memberValues latest) :: tableValues earlier).reverse)

def memberValues : List (String × Item) → List (String × Value)
  | [] => []
  | (name, item) :: rest => (name, item.toValue) :: memberValues rest

def tableValues : List (List (String × Item)) → List Value
  | [] => []
  | members :: rest => .table (memberValues members) :: tableValues rest

end

end AutoReply.Toml
