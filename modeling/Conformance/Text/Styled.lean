/-
# Styled texts

Messages about the command line are made of spans with styles.  With colours each span that has a
style stands between the code of the style and the code that ends it.  Without colours a message is
what a terminal would show of that, so that codes in the text of a span disappear as well.
-/
import Conformance.Environment
import Conformance.Text.Terminal

namespace Conformance.Text

/-- The styles of spans. -/
inductive Style where
  /-- The title of a section. -/
  | title
  /-- Something to be typed as it is. -/
  | literal
  /-- The word that announces an error. -/
  | error
  /-- What is wrong. -/
  | invalid
  deriving DecidableEq

/-- The code that begins a style. -/
def Style.code : Style → String
  | title => "\x1b[1m\x1b[4m"
  | literal => "\x1b[1m"
  | error => "\x1b[1m\x1b[31m"
  | invalid => "\x1b[33m"

/-- The code that ends any style. -/
def endOfStyle : String := "\x1b[0m"

/-- A piece of a text in one style, or in none. -/
structure Span where
  /-- The style. -/
  style? : Option Style
  /-- The text. -/
  text : String
  deriving DecidableEq

/-- A span without a style. -/
def bare (text : String) : Span := ⟨none, text⟩

/-- A span with its codes. -/
def Span.coloured (span : Span) : String :=
  match span.style? with
  | none => span.text
  | some style => style.code ++ span.text ++ endOfStyle

/-- A text made of spans. -/
abbrev Styled := List Span

/-- A styled text with its codes. -/
def Styled.coloured (text : Styled) : String := String.join (text.map Span.coloured)

/-- A styled text as it reads without colours. -/
def Styled.plain (text : Styled) : String := visible true text.coloured

/-- Whether colours are asked for: one variable forces them and the other forbids them, each if it
is set to anything that is not empty. -/
def coloursForced (env : Environment) : Bool :=
  let isGiven (name : String) : Bool := (env.get? name).any (· != "")
  !isGiven "NO_COLOR" && isGiven "CLICOLOR_FORCE"

/-- A styled text as it is written to a stream. -/
def Styled.written (env : Environment) (text : Styled) : String :=
  if coloursForced env then text.coloured else visible false text.coloured

end Conformance.Text
