import QueryTemplate.Error
import QueryTemplate.Options
import QueryTemplate.Toml.Document

/-!
# Options from a document

Options are read from a TOML document. Keys that are no options are ignored, and options that are absent have their
defaults.
-/

namespace QueryTemplate

namespace MissingValue

/-- The policy that a value names: by its word, or by a table with its word as the only key and an empty value. -/
def ofToml? : Toml → Option MissingValue
  | .string word => ofWord? word
  | .table _ [(word, .table _ [])] => ofWord? word
  | .table _ [(word, .array [])] => ofWord? word
  | _ => none

end MissingValue

namespace Options

/-- The options of a document. -/
def ofDocument (document : String) : Except Error Options :=
  match Toml.read? document with
  | none => .error .config
  | some entries =>
    match Toml.entry? "missing_value" entries with
    | none => .ok .default
    | some value =>
      match MissingValue.ofToml? value with
      | some policy => .ok ⟨policy⟩
      | none => .error .config

end Options

end QueryTemplate
