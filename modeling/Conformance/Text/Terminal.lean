/-
# What a terminal shows

A terminal takes some of the bytes it is sent as orders and shows the others.  An order begins with
the escape byte; the next bytes say of which kind it is and how long it goes on: a short escape, a
control sequence, a device control string, an operating system command, or a string that nobody
reads.  The machine here follows the orders, and `Text.visible` keeps what is left for the eye:
printable characters, and of the controls only tabs, line feeds, form feeds and carriage returns.
-/
import Conformance.Text.Bytes

namespace Conformance.Text

namespace Terminal

/-- Where a terminal stands in its input. -/
inductive State where
  /-- Not in an order. -/
  | ground
  /-- After the escape byte. -/
  | escape
  /-- In a short escape that has begun with an intermediate byte. -/
  | escapeIntermediate
  /-- At the start of a control sequence. -/
  | controlEntry
  /-- In the parameters of a control sequence. -/
  | controlParameter
  /-- After an intermediate byte of a control sequence. -/
  | controlIntermediate
  /-- In a control sequence that is not well-formed. -/
  | controlIgnored
  /-- At the start of a device control string. -/
  | deviceEntry
  /-- In the parameters of a device control string. -/
  | deviceParameter
  /-- After an intermediate byte of a device control string. -/
  | deviceIntermediate
  /-- In a device control string that is not well-formed. -/
  | deviceIgnored
  /-- In the body of a device control string. -/
  | deviceBody
  /-- In an operating system command. -/
  | systemCommand
  /-- In a string that nobody reads. -/
  | unreadString
  deriving DecidableEq

/-- Whether a byte lies between two others, both included. -/
def between (first last byte : UInt8) : Bool := first ≤ byte && byte ≤ last

/-- Where `byte` leads after an escape byte. -/
def afterEscape (byte : UInt8) : State :=
  if between 0x20 0x2f byte then .escapeIntermediate
  else if byte = 0x5b then .controlEntry
  else if byte = 0x5d then .systemCommand
  else if byte = 0x50 then .deviceEntry
  else if byte = 0x58 || byte = 0x5e || byte = 0x5f then .unreadString
  else if between 0x30 0x7e byte then .ground
  else .escape

/-- Where a control sequence goes on with `byte`: to an intermediate byte, to a parameter, or to
its end; `digit` and `mark` say where parameters of two kinds lead. -/
def inControl (here digit mark : State) (byte : UInt8) : State :=
  if between 0x20 0x2f byte then .controlIntermediate
  else if between 0x30 0x3b byte then digit
  else if between 0x3c 0x3f byte then mark
  else if between 0x40 0x7e byte then .ground
  else here

/-- The same for the head of a device control string, which leads to its body. -/
def inDevice (here digit mark : State) (byte : UInt8) : State :=
  if between 0x20 0x2f byte then .deviceIntermediate
  else if between 0x30 0x3b byte then digit
  else if between 0x3c 0x3f byte then mark
  else if between 0x40 0x7e byte then .deviceBody
  else here

/-- Where a byte leads that neither begins nor cancels an order. -/
def State.next (state : State) (byte : UInt8) : State :=
  match state with
  | .ground => .ground
  | .escape => afterEscape byte
  | .escapeIntermediate => if between 0x30 0x7e byte then .ground else .escapeIntermediate
  | .controlEntry => inControl .controlEntry .controlParameter .controlParameter byte
  | .controlParameter => inControl .controlParameter .controlParameter .controlIgnored byte
  | .controlIntermediate => inControl .controlIntermediate .controlIgnored .controlIgnored byte
  | .controlIgnored => if between 0x40 0x7e byte then .ground else .controlIgnored
  | .deviceEntry => inDevice .deviceEntry .deviceParameter .deviceParameter byte
  | .deviceParameter => inDevice .deviceParameter .deviceParameter .deviceIgnored byte
  | .deviceIntermediate => inDevice .deviceIntermediate .deviceIgnored .deviceIgnored byte
  | .deviceIgnored => if byte = 0x9c then .ground else .deviceIgnored
  | .deviceBody => if byte = 0x9c then .ground else .deviceBody
  | .systemCommand => if byte = 0x07 then .ground else .systemCommand
  | .unreadString => if byte = 0x9c then .ground else .unreadString

/-- Where a byte leads: an escape byte begins an order anywhere, and a cancel or substitute byte
ends one. -/
def State.step (state : State) (byte : UInt8) : State :=
  if byte = 0x1b then .escape
  else if byte = 0x18 || byte = 0x1a then .ground
  else state.next byte

/-- Controls that lay out a text: tab, line feed, form feed and carriage return. -/
def isLayout (byte : UInt8) : Bool :=
  byte = 0x09 || byte = 0x0a || byte = 0x0c || byte = 0x0d

/-- Whether a state carries out controls at once, in the middle of an order. -/
def State.obeysControls : State → Bool
  | .ground | .escape | .escapeIntermediate
  | .controlEntry | .controlParameter | .controlIntermediate | .controlIgnored => true
  | _ => false

/-- Whether a byte begins a character of several bytes. -/
def isLeading (byte : UInt8) : Bool := between 0xc2 0xf4 byte

/-- Whether a byte goes on with a character of several bytes. -/
def isContinuation (byte : UInt8) : Bool := between 0x80 0xbf byte

/-- Whether a byte is shown in a state. -/
def State.shows (state : State) (byte : UInt8) : Bool :=
  (state = .ground && (between 0x20 0x7e byte || isLeading byte))
    || (state.obeysControls && isLayout byte)

/-- The bytes that are shown.  `shown?` tells whether the byte before was shown, and then where the
terminal stands when it meets one that is not: with `resumes` in the order that a layout byte broke
into, and otherwise in none. -/
def keep (resumes : Bool) (shown? : Bool) (state : State) : List UInt8 → List UInt8
  | [] => []
  | byte :: rest =>
    if shown? && (State.ground.shows byte || isContinuation byte) then
      byte :: keep resumes true (if isLeading byte then .ground else state) rest
    else if state.shows byte then
      byte :: keep resumes true (if resumes then state else .ground) rest
    else keep resumes false (state.step byte) rest

end Terminal

/-- What a terminal shows of a text, as a text.  A text that is sent `whole` does not go back to an
order that a layout byte broke into. -/
def visible (whole : Bool) (text : String) : String :=
  ofLeadingBytes (Terminal.keep (!whole) false .ground (bytes text))

end Conformance.Text
