import HeaderSynth.Declaration.Emission

/-!
# Access levels

The members of a declaration stand under markers such as `public:`.  A marker is
written only where the level changes.
-/

namespace HeaderSynth

inductive AccessLevel where
  | publicLevel
  | protectedLevel
  | privateLevel
deriving DecidableEq, Repr

/-- The marker of a level. -/
def AccessLevel.label : AccessLevel → String
  | .publicLevel => "public:"
  | .protectedLevel => "protected:"
  | .privateLevel => "private:"

/-- The level of a field, if a bit says so.  The more open one wins. -/
def PropertyFlags.access? (flags : PropertyFlags) : Option AccessLevel :=
  if flags.contains nativeAccessPublic then some .publicLevel
  else if flags.contains nativeAccessProtected then some .protectedLevel
  else if flags.contains nativeAccessPrivate then some .privateLevel
  else none

/-- The level of a method, if a bit says so.  The more closed one wins. -/
def FunctionFlags.access? (flags : FunctionFlags) : Option AccessLevel :=
  if flags.contains accessPrivate then some .privateLevel
  else if flags.contains accessProtected then some .protectedLevel
  else if flags.contains accessPublic then some .publicLevel
  else none

/-- The marker that is needed to get from the level in effect to another one. -/
def AccessLevel.marker? (current : Option AccessLevel) (needed : AccessLevel) : Option String :=
  if current = some needed then none else some needed.label

/-- Writes the marker of a level where one is needed. -/
def enterLevel (current : Option AccessLevel) (needed : AccessLevel) : Emit Unit :=
  match needed.marker? current with
  | some label => Emit.flush label
  | none => pure ()

/-- A stretch of the lines of a declaration. -/
structure Section where
  /-- The level of a member.  Other lines stand at whatever level is in effect. -/
  level : Option AccessLevel
  body : Emit Unit

/-- Writes sections one after the other, each under the marker of its level. -/
def writeSections (current : Option AccessLevel) : List Section → Emit Unit
  | [] => pure ()
  | ⟨none, body⟩ :: rest => do
    body
    writeSections current rest
  | ⟨some level, body⟩ :: rest => do
    enterLevel current level
    body
    writeSections (some level) rest

/-- The section of a member whose flags ask for `level`.  Without such a flag the
member is public, with a diagnostic. -/
def memberSection (owner member : String) (level : Option AccessLevel) (body : Emit Unit) :
    Section :=
  match level with
  | some level => ⟨some level, body⟩
  | none =>
    ⟨some .publicLevel, do
      Emit.diagnose owner member "no access specifier, assuming public"
      body⟩

/-- A section of public lines. -/
def publicSection (body : Emit Unit) : Section :=
  ⟨some .publicLevel, body⟩

end HeaderSynth
