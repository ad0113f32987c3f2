/-!
# Styled text

Text for a terminal is a list of spans.  A span with a style is preceded by a reset
and by the codes of the style, and followed by another reset.
-/

namespace HeaderSynth.Cli

inductive Color where
  | red
  | green
  | yellow
  | cyan
deriving DecidableEq, Repr

def Color.code : Color → Nat
  | .red => 31
  | .green => 32
  | .yellow => 33
  | .cyan => 36

structure Style where
  color : Option Color := none
  isBold : Bool := false
deriving DecidableEq, Repr

structure Span where
  style : Option Style
  text : String
deriving DecidableEq, Repr

namespace Span

def plain (text : String) : Span := ⟨none, text⟩

def bold (text : String) : Span := ⟨some { isBold := true }, text⟩

def colored (color : Color) (text : String) : Span := ⟨some { color }, text⟩

/-- Bold text in a color. -/
def strong (color : Color) (text : String) : Span := ⟨some { color, isBold := true }, text⟩

/-- A code that changes how the terminal shows text. -/
def escape (code : Nat) : String :=
  "\x1b[" ++ toString code ++ "m"

def render (withColors : Bool) (span : Span) : String :=
  match withColors, span.style with
  | true, some style =>
    escape 0 ++ (if style.isBold then escape 1 else "") ++
      ((style.color.map fun color => escape color.code).getD "") ++ span.text ++ escape 0
  | _, _ => span.text

end Span

def renderSpans (withColors : Bool) (spans : List Span) : String :=
  String.join (spans.map (·.render withColors))

end HeaderSynth.Cli
