import SchemaConcord.Form.Control

/-!
# Forms in markup

Every outermost form element is a form: named by its `id` or `name`, else by a default, with one field for each
name that its controls have, the first control of a name being the one that counts. Markup that has controls but no
form element is one form with the default name.
-/

namespace SchemaConcord

open Text Markup

def submitAttributes : List String :=
  ["@submit", "v-on:submit", "on:submit", "onsubmit", "(ngsubmit)", "hx-post", "x-on:submit"]

inductive FormFault where
  | markup (fault : MarkupFault)
  | length (fault : WholeFault)
  deriving DecidableEq, Repr

def FormFault.message : FormFault → String
  | .markup .unknownSection => "markup rejected"
  | .length fault => fault.message

namespace Form

def isForm (e : Element) : Bool := e.name = "form" || hasTail e.name "-form"

def actionOf (e : Element) : String :=
  match e.attribute? "action" with
  | some action => if action.isEmpty then handler else action
  | none => handler
where
  handler : String :=
    (e.attributes.findSome? fun (name, value) =>
      if submitAttributes.contains (Element.plainAttribute name) && !value.isEmpty then some value else none).getD
      "submit"

/-- The controls that stand for a field, with its name and kind, one for each name. -/
def fieldControls (seen : List String) : List Element → List (Element × String × FieldKind)
  | [] => []
  | e :: rest =>
    match e.fieldName?, e.fieldKind? with
    | some name, some kind =>
      if seen.contains name then fieldControls seen rest
      else (e, name, kind) :: fieldControls (name :: seen) rest
    | _, _ => fieldControls seen rest

def fieldsOf (elements : List Element) : Except WholeFault (List FormField) :=
  (fieldControls [] (elements.filter Element.isControl)).mapM fun (e, name, kind) => do
    return ⟨name, kind, e.isRequired, ← e.fieldRules⟩

def writtenName? (e : Element) : Option String :=
  let named (key : String) := (e.attribute? key).filter (!·.isEmpty)
  named "id" <|> named "name"

/-- The form of an element; `position` counts the form elements from 1. -/
def ofElement (source default : String) (e : Element) : Except WholeFault Form := do
  return ⟨(writtenName? e).getD default, source, ← fieldsOf (Element.walkAll e.children), actionOf e⟩

/-- The forms of a tree. A form without a name of its own gets the default, with its position when there are several
forms. -/
def ofTree (source default : String) (tree : List Element) : Except WholeFault (List Form) := do
  let forms := Element.outermostIn isForm tree
  if forms.isEmpty then
    let fields ← fieldsOf (Element.walkAll tree)
    return if fields.isEmpty then [] else [⟨default, source, fields, "submit"⟩]
  else
    (forms.zipIdx 1).mapM fun (e, position) =>
      ofElement source (if forms.length = 1 then default else default ++ "-" ++ toString position) e

def extract (markup source default : String) : Except FormFault (List Form) :=
  match Element.read markup with
  | .error fault => .error (.markup fault)
  | .ok tree => (ofTree source default tree).mapError .length

end Form

end SchemaConcord
