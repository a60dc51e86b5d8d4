/-!
# Options

How a template is rendered.
-/

namespace QueryTemplate

/-- What is bound for a reference that resolves to nothing. -/
inductive MissingValue where
  /-- NULL is bound. -/
  | null
  /-- Rendering fails. -/
  | error
deriving DecidableEq

namespace MissingValue

/-- The word for a policy in an options document. -/
def word : MissingValue → String
  | .null => "null"
  | .error => "error"

/-- The policy of a word. -/
def ofWord? (s : String) : Option MissingValue :=
  if s = "null" then some .null else if s = "error" then some .error else none

/-- A policy is read back from its word. -/
theorem ofWord?_word (policy : MissingValue) : ofWord? policy.word = some policy := by
  cases policy <;> rfl

end MissingValue

/-- The options of a template. -/
structure Options where
  missingValue : MissingValue
deriving DecidableEq

namespace Options

/-- NULL is bound for what is missing. -/
def default : Options :=
  ⟨.null⟩

/-- The options with another policy. -/
def withMissingValue (_ : Options) (policy : MissingValue) : Options :=
  ⟨policy⟩

end Options

end QueryTemplate
