import HeaderSynth.Reflection.Instance

/-!
# Failures of a dump

Each of these ends the whole dump.  Problems that leave output behind are
recorded as diagnostics instead.
-/

namespace HeaderSynth

/-- Why declarations cannot be generated. -/
inductive GenerateError where
  /-- A member of `owner` has a type that cannot be written. -/
  | unsupportedFieldKind (owner member kind : String)
  | missingDelegateFlag (object : String)
  | nullStructType (owner member : String)
  | nullEnumType (owner member : String)
  | tooManyParameters (object : String) (count : Nat)
  /-- The key of the nested bucket was used for a parameter. -/
  | reservedKey (key : String)
  | unsupportedObject (object kind : String)
  /-- Only classes, interfaces and aggregates can be declared by name. -/
  | unsupportedForward (object : String)
  | unknownObject (id : ObjectId)
  | outOfBounds (failure : OutOfBounds)
deriving DecidableEq, Repr

def GenerateError.message : GenerateError → String
  | .unsupportedFieldKind owner member kind =>
    s!"Unsupported field kind '{kind}' for member '{member}' of '{owner}'"
  | .missingDelegateFlag object => s!"Delegate signature '{object}' is missing the delegate flag"
  | .nullStructType owner member => s!"Member '{member}' of '{owner}' references a null struct type"
  | .nullEnumType owner member => s!"Member '{member}' of '{owner}' references a null enum type"
  | .tooManyParameters object count =>
    s!"Delegate '{object}' has {count} parameters, at most 9 are supported"
  | .reservedKey key => s!"Annotation key '{key}' is reserved for the meta bucket"
  | .unsupportedObject object kind => s!"Object '{object}' of kind '{kind}' cannot be declared"
  | .unsupportedForward object => s!"Cannot forward declare '{object}'"
  | .unknownObject id => s!"Unknown object id {id.render}"
  | .outOfBounds failure => failure.message

end HeaderSynth
