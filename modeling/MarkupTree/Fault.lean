import MarkupTree.Selector
import MarkupTree.Value

/-!
# Fault: why there is no answer

A fault is a cause. The first group are faults in what is rendered or addressed and carry a
wording, a code and a context; the others come from calls.

- `Fault.message` is the wording of a fault.
- `Fault.code` is its code, for faults of the first group.
- `Fault.context` names the values that led to it.
-/

namespace MarkupTree

/-- A cause of failure. -/
inductive Fault (C : Type)
  /-- a missing value in the place of an element -/
  | nullElement
  | undefinedElement
  /-- a missing value under a key of a tag -/
  | nullAttribute (key : Value C)
  | undefinedAttribute (key : Value C)
  /-- elements are nested deeper than allowed -/
  | tooDeep (limit : Nat)
  /-- a selector cannot be read -/
  | selector (fault : SelectorFault)
  /-- no container goes by this reference -/
  | containerNotFound (reference : Value C)
  /-- children were given to a component that takes none -/
  | childrenRefused (component : String)
  /-- the arguments of a call do not fit the parameters -/
  | badArguments
  /-- the code of a callable refused its arguments with these words -/
  | raised (text : String)
  /-- the code of a callable refers to a name that is not bound -/
  | unbound (name : String)
  /-- the detail of a value that is no payload was asked for -/
  | noDetail
  /-- something other than a number was to be added -/
  | notANumber
  /-- a whole number is too large to be added to a floating-point number -/
  | tooLarge
  /-- a whole number has too many digits to be written -/
  | tooManyDigits
  /-- a number that is not finite cannot be written here -/
  | notFinite
  /-- a text holds half a character, so it cannot be written -/
  | cutCharacter
  /-- the store of selectors can hold nothing -/
  | noRoom

namespace Fault

variable {C : Type}

/-- The wording of a fault. -/
def message : Fault C → String
  | .nullElement => "None values are not allowed. Use False instead."
  | .undefinedElement => "Undefined values are not allowed. Use False instead."
  | .nullAttribute key =>
    "Attribute \"" ++ key.text ++ "\" has a None value. Use False instead."
  | .undefinedAttribute key =>
    "Attribute \"" ++ key.text ++ "\" has an undefined value. Use False instead."
  | .tooDeep limit => "Maximum nesting depth " ++ toString limit ++ " exceeded"
  | .selector fault => fault.message
  | .containerNotFound reference => "Container \"" ++ reference.text ++ "\" not found"
  | .childrenRefused component =>
    component ++ "() was given children but takes no 'children' parameter"
  | .raised text => text
  | .badArguments => "the arguments do not fit"
  | .unbound name => "'" ++ name ++ "' is not bound"
  | .noDetail => "there is no detail"
  | .notANumber => "not a number"
  | .tooLarge => "the number is too large"
  | .tooManyDigits => "the number has too many digits"
  | .notFinite => "the number is not finite"
  | .cutCharacter => "a character is cut in two"
  | .noRoom => "the store is empty"

/-- The code of a fault in what is rendered or addressed. -/
def code : Fault C → Option String
  | .nullElement | .nullAttribute _ => some "NULL_VALUE"
  | .undefinedElement | .undefinedAttribute _ => some "UNDEFINED_VALUE"
  | .tooDeep _ => some "MAX_DEPTH_EXCEEDED"
  | .selector (.badName _) => some "INVALID_TAG_NAME"
  | .selector (.blank _) | .selector (.emptySegment _) => some "INVALID_TAG_FORMAT"
  | .selector (.secondId _) => some "MULTIPLE_IDS"
  | .containerNotFound _ => some "CONTAINER_NOT_FOUND"
  | _ => none

/-- The values that led to a fault, by name. -/
def context : Fault C → Table (Value C)
  | .nullElement => [("element", .null)]
  | .undefinedElement => [("element", .undefined)]
  | .nullAttribute key => [("key", key), ("value", .null)]
  | .undefinedAttribute key => [("key", key), ("value", .undefined)]
  | .tooDeep limit => [("depth", .int (limit + 1)), ("max_depth", .int limit)]
  | .selector (.badName name) => [("tag_name", .str name)]
  | .selector (.blank s) | .selector (.emptySegment s) | .selector (.secondId s) =>
    [("tag", .str s)]
  | .containerNotFound reference => [("selector", reference)]
  | _ => []

end Fault
end MarkupTree
