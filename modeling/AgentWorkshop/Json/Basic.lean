import AgentWorkshop.Number.Display
import AgentWorkshop.Text.Quoted

/-!
# JSON values

Integers are exact and apart from reals, strings may hold surrogates, and an
object keeps its members in the order of their first appearance.
-/

namespace AgentWorkshop

/-- A JSON value. -/
inductive Json where
  | null
  | boolean (b : Bool)
  | integer (n : Int)
  | real (x : Binary64)
  | string (t : Text)
  | array (elements : List Json)
  | object (members : List (Text × Json))
  deriving Inhabited

namespace Json

/-- The value of a key among the members. -/
def member? (key : Text) : Json → Option Json
  | object members => members.lookup key
  | _ => none

/-- The value of a key, `null` if there is none. -/
def member (key : Text) (v : Json) : Json :=
  (v.member? key).getD null

/-- The members, none for what is no object. -/
def members : Json → List (Text × Json)
  | object members => members
  | _ => []

/-- The text, if the value is a string. -/
def text? : Json → Option Text
  | string t => some t
  | _ => none

/-- Gives a key its value: in its place if it has one already, else at the end. -/
def put (key : Text) (value : Json) : List (Text × Json) → List (Text × Json)
  | [] => [(key, value)]
  | (k, v) :: rest => if k = key then (key, value) :: rest else (k, v) :: put key value rest

/-- The object of a list of members. Of members with one key the last gives
the value and the first the place. -/
def ofMembers (members : List (Text × Json)) : Json :=
  object (members.foldl (fun ms m => put m.1 m.2 ms) [])

/-- The name of the kind of a value in an error message. -/
def kindName : Json → Text
  | null => text "NoneType"
  | boolean _ => text "bool"
  | integer _ => text "int"
  | real _ => text "float"
  | string _ => text "str"
  | array _ => text "list"
  | object _ => text "dict"

/-! ## Details in messages -/

mutual

/-- How a value is shown inside a message, its strings quoted. -/
def shown : Json → Text
  | null => AgentWorkshop.text "None"
  | boolean b => AgentWorkshop.text (if b then "True" else "False")
  | integer n => Text.ofInt n
  | real x => x.display (AgentWorkshop.text "nan") (AgentWorkshop.text "inf")
  | string t => t.quoted
  | array vs => AgentWorkshop.text "[" ++ shownElements vs ++ AgentWorkshop.text "]"
  | object ms => AgentWorkshop.text "\x7b" ++ shownMembers ms ++ AgentWorkshop.text "\x7d"

/-- The shown elements, commas between them. -/
def shownElements : List Json → Text
  | [] => []
  | [v] => shown v
  | v :: w :: rest => shown v ++ AgentWorkshop.text ", " ++ shownElements (w :: rest)

/-- The shown members, commas between them. -/
def shownMembers : List (Text × Json) → Text
  | [] => []
  | [(k, v)] => k.quoted ++ AgentWorkshop.text ": " ++ shown v
  | (k, v) :: m :: rest =>
    k.quoted ++ AgentWorkshop.text ": " ++ shown v ++ AgentWorkshop.text ", " ++
      shownMembers (m :: rest)

end

end Json

end AgentWorkshop
