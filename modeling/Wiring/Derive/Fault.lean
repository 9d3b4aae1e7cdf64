/-!
# Faults of a declaration

The derivation refuses a declaration at the first fault it comes upon.  Some
faults concern what the declaration means, the others how an option is
written.
-/

namespace Wiring.Derive

/-- What is wrong with the text of a method name. -/
inductive MethodNameFault where
  /-- The text cannot be cut into tokens. -/
  | unreadable
  | missing
  | noIdentifier
  | keyword (word : String)
  /-- Something follows the identifier. -/
  | trailing
  deriving DecidableEq, Repr

/-- Why a declaration is refused. -/
inductive Fault where
  /-- The type has generic parameters. -/
  | generic
  /-- The declaration is no structure whose fields have names. -/
  | unsupportedShape
  /-- A field has a second attribute. -/
  | duplicateAttribute
  /-- A second field is marked as the parent. -/
  | secondParent
  /-- The parent cannot be bound to a value as well. -/
  | markedParent
  | emptyMarker
  /-- A marker has no option of this name. -/
  | unsupportedOption
  /-- An attribute on the declaration says something else than a setter. -/
  | expectedSetter
  | missingMethod
  | missingType
  /-- The method name is no identifier. -/
  | methodName (fault : MethodNameFault)
  /-- An option that needs a value has none, or a list instead. -/
  | expectedEquals
  | expectedString
  | expectedType
  /-- An option that takes no value has one. -/
  | expectedComma
  /-- An attribute has a value instead of a list. -/
  | attributeWithValue
  /-- An attribute on the declaration has no list. -/
  | attributeWithoutList
  /-- A setter has no list. -/
  | expectedParentheses
  /-- A setter has no list, and nothing follows it. -/
  | missingParentheses
  /-- The list of a setter is empty. -/
  | missingOption
  deriving DecidableEq, Repr

/-- The wording of a fault in a method name. -/
def MethodNameFault.message : MethodNameFault → String
  | unreadable => "cannot parse string into token stream"
  | missing => "unexpected end of input, expected identifier"
  | noIdentifier => "expected identifier"
  | keyword word => "expected identifier, found keyword `" ++ word ++ "`"
  | trailing => "unexpected token"

/-- The wording of a fault. -/
def Fault.message : Fault → String
  | generic => "`Injectable` cannot be derived for generic types"
  | unsupportedShape => "`Injectable` can only be derived for structs with named fields"
  | duplicateAttribute => "duplicate `#[inject]` attribute"
  | secondParent => "only one field may be marked `#[inject(parent)]`"
  | markedParent => "`parent` cannot be combined with `marker` or `name`"
  | emptyMarker => "marker kind must not be empty"
  | unsupportedOption => "unsupported `inject` option; expected `marker`, `name`, or `parent`"
  | expectedSetter => "expected `setter(...)`"
  | missingMethod => "setter is missing `method = \"...\"`"
  | missingType => "setter is missing `ty = ...`"
  | methodName fault => fault.message
  | expectedEquals => "expected `=`"
  | expectedString => "expected string literal"
  | expectedType =>
      "expected one of: `for`, parentheses, `fn`, `unsafe`, `extern`, identifier, `::`, `<`, " ++
        "`dyn`, square brackets, `*`, `&`, `!`, `impl`, `_`, lifetime"
  | expectedComma => "expected `,`"
  | attributeWithValue => "expected parentheses: #[inject(...)]"
  | attributeWithoutList => "expected attribute arguments in parentheses: #[inject(...)]"
  | expectedParentheses => "expected parentheses"
  | missingParentheses => "unexpected end of input, expected parentheses"
  | missingOption => "unexpected end of input, expected nested attribute"

end Wiring.Derive
