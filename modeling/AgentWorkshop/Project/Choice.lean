import AgentWorkshop.Project.Name
import AgentWorkshop.Project.Template
import AgentWorkshop.Settings.Field

/-!
# What the user wants made

The name and the template of a new project. `ProjectChoice.ofFields` reads both
from an object and reports every field that it refuses.
-/

namespace AgentWorkshop

/-- What the user chose for a new project. -/
structure ProjectChoice where
  name : Text
  template : Template

namespace ProjectChoice

/-- A name, given as a text. -/
def readName : Json → Except FieldFault Text
  | .string t => if ProjectName.accepts t then .ok t else .error .badValue
  | _ => .error .notText

/-- A template, given by its label. -/
def readTemplate : Json → Except FieldFault Template
  | .string t =>
    match Template.ofLabel? t with
    | some template => .ok template
    | none => .error .unknownTemplate
  | _ => .error .unknownTemplate

/-- The choice of an object, usual where it makes none. -/
def ofFields (v : Json) : Except Failure ProjectChoice :=
  let name := Field.read v (text "project_name") ProjectName.usual readName
  let template := Field.read v (text "template") Template.llmChat readTemplate
  match name, template with
  | .ok name, .ok template => .ok { name, template }
  | _, _ => .error (.badFields (Field.fault? name ++ Field.fault? template))

end ProjectChoice

end AgentWorkshop
