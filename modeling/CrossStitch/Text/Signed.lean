/-! Decimal text of signed 32-bit integers: an optional sign and one or more
ASCII digits. The text is read from the left, and the first thing wrong decides
what is reported: a character that is no digit, or the digit at which the value
leaves the range. -/

namespace CrossStitch.Text

/-- Why a text is not a signed 32-bit integer. -/
inductive IntegerFault
  | empty
  | invalidDigit
  | tooLarge
  | tooSmall
  deriving DecidableEq, Repr

def IntegerFault.message : IntegerFault → String
  | .empty => "cannot parse integer from empty string"
  | .invalidDigit => "invalid digit found in string"
  | .tooLarge => "number too large to fit in target type"
  | .tooSmall => "number too small to fit in target type"

/-- The value of an ASCII digit. -/
def digit? (c : Char) : Option Nat :=
  if '0' ≤ c ∧ c ≤ '9' then some (c.toNat - '0'.toNat) else none

/-- The value of the digits, continuing from `value`; passing `limit` is the
fault `beyond`. -/
def readDigits (limit : Nat) (beyond : IntegerFault) (value : Nat) :
    List Char → Except IntegerFault Nat
  | [] => .ok value
  | c :: rest =>
    match digit? c with
    | none => .error .invalidDigit
    | some d =>
      let next := value * 10 + d
      if limit < next then .error beyond else readDigits limit beyond next rest

/-- The digits of a magnitude, of which there must be at least one. -/
def readMagnitude (limit : Nat) (beyond : IntegerFault) (digits : List Char) :
    Except IntegerFault Nat :=
  if digits.isEmpty then .error .invalidDigit else readDigits limit beyond 0 digits

/-- The largest magnitude of a positive and of a negative value. -/
def largestInt32 : Nat := 2147483647
def largestNegative : Nat := 2147483648

/-- The integer a text denotes. A sign without digits is an invalid digit. -/
def readInt32 : List Char → Except IntegerFault Int32
  | [] => .error .empty
  | '+' :: digits =>
    (readMagnitude largestInt32 .tooLarge digits).map fun n : Nat => Int32.ofInt n
  | '-' :: digits =>
    (readMagnitude largestNegative .tooSmall digits).map fun n : Nat => Int32.ofInt (-n)
  | digits =>
    (readMagnitude largestInt32 .tooLarge digits).map fun n : Nat => Int32.ofInt n

end CrossStitch.Text
