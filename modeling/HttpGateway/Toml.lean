/-!
# TOML values

A TOML value, and tables under construction. A table remembers what brought it into being, because
that decides who may add to it: a header may open a table once, also one that longer headers only
implied; dotted keys may add to the tables that dotted keys made; and what stands in braces or in
written brackets is finished. Rows of an array of tables are opened by double brackets, and headers
below it go on in the last row. Numbers with a fraction and dates are checked and kept as written.
-/

namespace HttpGateway

/-- What brought a table into being. -/
inductive TableOrigin
  /-- Its own header, or double brackets. -/
  | header
  /-- A longer header. -/
  | implied
  /-- Dotted keys. -/
  | dotted
  /-- Braces. -/
  | braces
  deriving DecidableEq, Repr

/-- A TOML value. -/
inductive Toml
  | string (s : String)
  | integer (n : Int)
  | float (written : String)
  | boolean (b : Bool)
  | dateTime (written : String)
  | array (items : List Toml)
  /-- An array of tables, made by double brackets. -/
  | rows (items : List Toml)
  | table (origin : TableOrigin) (members : List (String × Toml))
  deriving Inhabited, Repr

namespace Toml

/-- Members with one of a name set: in its place if there is one, else at the end. -/
def setMember (members : List (String × Toml)) (name : String) (value : Toml) :
    List (String × Toml) :=
  if members.any fun m ↦ m.1 = name then
    members.map fun m ↦ if m.1 = name then (name, value) else m
  else members ++ [(name, value)]

/-- Dotted keys may lead through a table of this origin. -/
def TableOrigin.isImplicit : TableOrigin → Bool
  | .implied | .dotted => true
  | .header | .braces => false

/-- Changes the table that a path of headers leads to; missing tables on the way are implied. -/
def atPath (f : List (String × Toml) → Option (List (String × Toml))) :
    List String → List (String × Toml) → Option (List (String × Toml))
  | [], members => f members
  | key :: path, members =>
    match members.lookup key with
    | none => (atPath f path []).map fun below ↦ setMember members key (.table .implied below)
    | some (.table .braces _) => none
    | some (.table origin below) =>
      (atPath f path below).map fun below ↦ setMember members key (.table origin below)
    | some (.rows items) =>
      match items.getLast? with
      | some (.table origin below) =>
        (atPath f path below).map fun below ↦
          setMember members key (.rows (items.dropLast ++ [.table origin below]))
      | _ => none
    | some _ => none

/-- Opens the table of a header in the table above it. -/
def openTable (name : String) (members : List (String × Toml)) : Option (List (String × Toml)) :=
  match members.lookup name with
  | none => some (setMember members name (.table .header []))
  | some (.table .implied below) => some (setMember members name (.table .header below))
  | some _ => none

/-- Opens a further row of an array of tables in the table above it. -/
def openRow (name : String) (members : List (String × Toml)) : Option (List (String × Toml)) :=
  let row : Toml := .table .header []
  match members.lookup name with
  | none => some (setMember members name (.rows [row]))
  | some (.rows items) => some (setMember members name (.rows (items ++ [row])))
  | some _ => none

/-- Sets a member that is not there yet. -/
def addMember (name : String) (value : Toml) (members : List (String × Toml)) :
    Option (List (String × Toml)) :=
  match members.lookup name with
  | none => some (members ++ [(name, value)])
  | some _ => none

/-- Sets the member that a dotted key names, below a table of the given origin. The tables on the
way may be such as dotted keys or longer headers made; the last one has to be of dotted keys. -/
def assign (origin : TableOrigin) (value : Toml) :
    List String → String → List (String × Toml) → Option (List (String × Toml))
  | [], name, members => if origin = .dotted then addMember name value members else none
  | key :: path, name, members =>
    match members.lookup key with
    | none =>
      (assign .dotted value path name []).map fun below ↦
        setMember members key (.table .dotted below)
    | some (.table between below) =>
      if TableOrigin.isImplicit between then
        (assign between value path name below).map fun below ↦
          setMember members key (.table between below)
      else none
    | some (.rows items) =>
      match items.getLast? with
      | some (.table between below) =>
        (assign between value path name below).map fun below ↦
          setMember members key (.rows (items.dropLast ++ [.table between below]))
      | _ => none
    | some _ => none

/-- Sets the member that a key names in an open table. -/
def assignKey (path : List String) (name : String) (value : Toml) (members : List (String × Toml)) :
    Option (List (String × Toml)) :=
  match path with
  | [] => addMember name value members
  | _ => assign .header value path name members

end Toml
end HttpGateway
