import QueryTemplate.Assembly
import QueryTemplate.Render.Dynamic
import QueryTemplate.Render.Static

/-!
# Templates

A template is built from its source once and rendered from any number of parameters. If no block stands at its top
level it is compiled, and what does not compile is refused when it is built; otherwise it is walked for each parameter,
and refusals show when it is rendered.
-/

namespace QueryTemplate

/-- The form in which a template is kept. -/
inductive Compiled where
  | static (template : StaticTemplate)
  | dynamic (nodes : List Node)
deriving DecidableEq

/-- A template with its options. -/
structure Template where
  compiled : Compiled
  options : Options
deriving DecidableEq

/-- The end of a program by an error that it does not handle. -/
structure Abort where
  message : String
deriving DecidableEq

namespace Node

/-- Whether a node is a block. -/
def isBlock : Node → Bool
  | .block _ _ _ _ => true
  | _ => false

end Node

namespace Compiled

/-- Renders a value that has been converted. -/
def render (c : Compiled) (options : Options) (v : Value) : Except Error Rendered :=
  match c with
  | .static template => template.render options v
  | .dynamic nodes => DynamicTemplate.render nodes options v

/-- Converts a parameter as far as rendering needs it. -/
def convert (c : Compiled) (p : Parameter) : Except Error Value :=
  match c with
  | .static template => template.convert p
  | .dynamic _ => p.toValue

/-- The form in which a tree is kept: a list without blocks is compiled. -/
def ofNodes (nodes : List Node) : Except Error Compiled :=
  if nodes.any Node.isBlock then .ok (.dynamic nodes)
  else do return .static (← StaticTemplate.compile nodes)

end Compiled

namespace Template

/-- Builds a template from its source. -/
def build (source : String) (options : Options) : Except Error Template := do
  let nodes ← Node.parse source
  return ⟨← Compiled.ofNodes nodes, options⟩

/-- Builds a template from the lines of its source, of which there has to be one. -/
def buildLines (lines : List String) (options : Options) : Except Error Template :=
  if lines.isEmpty then .error .emptyTemplate else build ("\n".intercalate lines) options

/-- Whether the template was compiled. -/
def isStatic (t : Template) : Bool :=
  match t.compiled with
  | .static _ => true
  | .dynamic _ => false

/-- Renders the template from a parameter. -/
def render (t : Template) (p : Parameter) : Except Error Rendered := do
  let v ← t.compiled.convert p
  t.compiled.render t.options v

/-- A template that has to be there: an error while building it ends the program. -/
def required : Except Error Template → Except Abort Template
  | .ok t => .ok t
  | .error e => .error ⟨"Parse SQL template failed!\nError: " ++ e.message⟩

/-- Builds a template with the default options, or ends the program. -/
def mustBuild (source : String) : Except Abort Template :=
  required (build source .default)

/-- Builds a template from lines with the default options, or ends the program. -/
def mustBuildLines (lines : List String) : Except Abort Template :=
  required (buildLines lines .default)

/-- Renders the template, or ends the program. -/
def mustRender (t : Template) (p : Parameter) : Except Abort Rendered :=
  (t.render p).mapError fun e => ⟨e.message⟩

end Template

end QueryTemplate
