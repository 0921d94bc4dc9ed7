/-!
The boundary with a template engine, which is no part of the exchange.
-/

namespace HttpExchange

/-- The values that a template sees, by name and in order. -/
abbrev Binding := List (String × String)

inductive RenderError
  | notFound (path : String)
  | failed (reason : String)
deriving DecidableEq, Repr

namespace RenderError

def message : RenderError → String
  | .notFound path => "template not found: " ++ path
  | .failed reason => "template rendering failed: " ++ reason

def cause : RenderError → Option String
  | .notFound _ => none
  | .failed reason => some reason

end RenderError

/-- An engine that renders the template of a path. It may keep a state of its own. -/
structure TemplateLoader (State : Type) where
  render : String → Binding → State → Except RenderError String × State

namespace TemplateLoader

def noTemplates {State : Type} : TemplateLoader State where
  render path _ state := (.error (.notFound path), state)

end TemplateLoader

end HttpExchange
