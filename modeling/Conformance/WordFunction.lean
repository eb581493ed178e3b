/-
# Functions of several words

`WordFunction n` is the type of functions that take `n` words one after the other and answer a
word.  Such a function is applied to a list in two ways: `apply` needs a list of length `n`, and
`applyLeading` reads as many arguments as it needs from the front of any list and reports the
first one that is not there.
-/

namespace Conformance

/-- Functions of `n` words. -/
def WordFunction : Nat → Type
  | 0 => Int32
  | n + 1 => Int32 → WordFunction n

/-- An argument was read at `index` from a list of `count` arguments, which ends before it. -/
structure MissingArgument where
  /-- The number of arguments that were given. -/
  count : Nat
  /-- The index that was read. -/
  index : Nat
  deriving DecidableEq

/-- The text shown for a missing argument. -/
def MissingArgument.message (m : MissingArgument) : String :=
  "index out of bounds: the len is " ++ m.count.repr ++ " but the index is " ++ m.index.repr

namespace WordFunction

/-- Applies a function to a list that has as many words as the function takes. -/
def apply : {n : Nat} → WordFunction n → (args : List Int32) → args.length = n → Int32
  | 0, value, [], _ => value
  | _ + 1, f, a :: rest, h => apply (f a) rest (Nat.succ.inj h)

/-- Reads the arguments at `index`, `index + 1`, … for a function that takes `n` more. -/
def applyFrom (args : List Int32) : {n : Nat} → WordFunction n → Nat → Except MissingArgument Int32
  | 0, value, _ => .ok value
  | _ + 1, f, index =>
    match args[index]? with
    | some a => applyFrom args (f a) (index + 1)
    | none => .error ⟨args.length, index⟩

/-- Applies a function to the words at the front of a list; words that are left over are
ignored. -/
def applyLeading {n : Nat} (f : WordFunction n) (args : List Int32) :
    Except MissingArgument Int32 :=
  applyFrom args f 0

end WordFunction

end Conformance
