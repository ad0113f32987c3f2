import HeaderSynth.Error
import HeaderSynth.Sorted.Map

/-!
# Annotation arguments

An annotation such as `UCLASS(...)` takes switches and parameters, and a nested
bucket `meta=(...)` of the same shape.  The buckets form a chain, each nested in
the one before it.  Switches come first, then parameters, each in ascending
order, then the nested bucket if anything is in it.
-/

namespace HeaderSynth

/-- The switches and parameters of one bucket. -/
structure Bucket where
  switches : SortedSet String
  parameters : SortedMap String (SortedSet String)
deriving DecidableEq

/-- One argument for the bucket at a nesting of `depth`. -/
inductive Argument where
  | switch (depth : Nat) (name : String)
  | parameter (depth : Nat) (key value : String)
deriving DecidableEq, Repr

/-- The key of the nested bucket. -/
def metaKey : String := "meta"

/-- Whether a key is the one of the nested bucket, in any letter case. -/
def isMetaKey (key : String) : Bool :=
  key.toList.map Char.toLower == metaKey.toList

namespace Bucket

def empty : Bucket := ⟨.empty, .empty⟩

def isEmpty (bucket : Bucket) : Bool :=
  bucket.switches.isEmpty && bucket.parameters.isEmpty

def addSwitch (name : String) (bucket : Bucket) : Bucket :=
  { bucket with switches := bucket.switches.insert name }

/-- Adds a value to those of a key. -/
def addParameter (key value : String) (bucket : Bucket) : Bucket :=
  { bucket with
    parameters := bucket.parameters.alter key fun values => (values.getD .empty).insert value }

/-- A parameter as it is written: several values stand in brackets. -/
def renderParameter (key : String) (values : SortedSet String) : String :=
  match values.toList with
  | [value] => key ++ "=" ++ value
  | values => key ++ "=(" ++ String.intercalate ", " values ++ ")"

def parts (bucket : Bucket) : List String :=
  bucket.switches.toList ++
    bucket.parameters.toList.map fun (key, values) => renderParameter key values

end Bucket

/-- The arguments of one annotation: the outermost bucket, then each bucket that
is nested in the one before it. -/
structure Arguments where
  buckets : List Bucket
deriving DecidableEq

namespace Arguments

def empty : Arguments := ⟨[]⟩

/-- Changes the bucket at a nesting of `depth`; buckets on the way to it are
created. -/
def updateBucket (change : Bucket → Bucket) : Nat → List Bucket → List Bucket
  | 0, [] => [change .empty]
  | 0, bucket :: rest => change bucket :: rest
  | depth + 1, [] => .empty :: updateBucket change depth []
  | depth + 1, bucket :: rest => bucket :: updateBucket change depth rest

/-- Makes sure that there is a bucket at a nesting of `depth`. -/
def touch (depth : Nat) (arguments : Arguments) : Arguments :=
  ⟨updateBucket id depth arguments.buckets⟩

/-- Adds an argument.  A parameter cannot have the key of the nested bucket. -/
def add (argument : Argument) (arguments : Arguments) : Except GenerateError Arguments :=
  match argument with
  | .switch depth name => .ok ⟨updateBucket (·.addSwitch name) depth arguments.buckets⟩
  | .parameter depth key value =>
    if isMetaKey key then .error (.reservedKey key)
    else .ok ⟨updateBucket (·.addParameter key value) depth arguments.buckets⟩

/-- Adds arguments up to the first that is refused. -/
def collect : List Argument → Arguments → Arguments × Except GenerateError Unit
  | [], arguments => (arguments, .ok ())
  | argument :: rest, arguments =>
    match arguments.add argument with
    | .ok arguments => collect rest arguments
    | .error error => (arguments, .error error)

def isEmpty (arguments : Arguments) : Bool :=
  arguments.buckets.all Bucket.isEmpty

/-- The text of a chain of buckets. -/
def renderBuckets : List Bucket → String
  | [] => ""
  | bucket :: rest =>
    let inner := if rest.all Bucket.isEmpty then [] else [metaKey ++ "=(" ++ renderBuckets rest ++ ")"]
    String.intercalate ", " (bucket.parts ++ inner)

def render (arguments : Arguments) : String :=
  renderBuckets arguments.buckets

/-- The text of an annotation with the given arguments, in any order. -/
def textOf (arguments : List Argument) : Except GenerateError String :=
  match collect arguments empty with
  | (arguments, .ok ()) => .ok arguments.render
  | (_, .error error) => .error error

end Arguments

end HeaderSynth
