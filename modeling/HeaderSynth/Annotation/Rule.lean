import HeaderSynth.Annotation.Arguments
import HeaderSynth.Reflection.Flags

/-!
# Flag rules

A rule turns a pattern of bits into one annotation argument.  It looks at the
own mask, which lacks the bits that the ancestor guarantees, at the mask of the
ancestor and at the full mask.  A table is a list of groups; of each group only
the first rule that matches has an effect.
-/

namespace HeaderSynth

/-- The masks that rules are matched against. -/
structure FlagInput where
  current : BitVec 64
  parent : BitVec 64
  own : BitVec 64
deriving DecidableEq, Repr

/-- The masks of a descriptor and its nearest ancestor. -/
def FlagInput.of {kind : FlagKind} (current : Flags kind) (parent : Option (Flags kind)) :
    FlagInput where
  current := current.raw
  parent := (parent.getD .none).raw
  own := (current.own parent).raw

/-- One pattern of bits and the argument it stands for. -/
structure Rule where
  /-- Bits that the own mask must have. -/
  ownAll : BitVec 64 := 0
  /-- Bits that the own mask must lack. -/
  ownNone : BitVec 64 := 0
  /-- Bits that the ancestor must have. -/
  parentAll : BitVec 64 := 0
  /-- Bits that the full mask must lack. -/
  currentNone : BitVec 64 := 0
  argument : Argument
deriving DecidableEq, Repr

def Rule.applies (rule : Rule) (input : FlagInput) : Bool :=
  input.own &&& rule.ownAll == rule.ownAll && input.own &&& rule.ownNone == 0 &&
    input.parent &&& rule.parentAll == rule.parentAll &&
    input.current &&& rule.currentNone == 0

/-- Alternatives in order of priority. -/
abbrev RuleGroup := List Rule

/-- The arguments that a table yields, in table order. -/
def firedArguments (table : List RuleGroup) (input : FlagInput) : List Argument :=
  table.filterMap fun group => (group.find? (·.applies input)).map (·.argument)

end HeaderSynth
