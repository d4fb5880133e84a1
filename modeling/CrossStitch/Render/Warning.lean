import Std.Data.ExtTreeMap

/-! Warnings. They never keep a chart from being drawn; each distinct message is
reported once, with the number of times it was raised. -/

namespace CrossStitch

/-- The messages raised, in order. -/
structure Warnings where
  messages : List String
  deriving DecidableEq, Repr

namespace Warnings

def none : Warnings := ⟨[]⟩

def push (warnings : Warnings) (message : String) : Warnings :=
  ⟨warnings.messages ++ [message]⟩

def isEmpty (warnings : Warnings) : Bool :=
  warnings.messages.isEmpty

def length (warnings : Warnings) : Nat :=
  warnings.messages.length

/-- How often each message occurs. -/
def counts (messages : List String) : Std.ExtTreeMap String Nat :=
  messages.foldl (fun seen message => seen.insert message (seen.getD message 0 + 1)) ∅

/-- The distinct messages in order, each with its count. -/
def summary (warnings : Warnings) : List (String × Nat) :=
  (counts warnings.messages).toList

end Warnings

end CrossStitch
