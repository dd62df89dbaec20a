/-! Lengths of time, counted in nanoseconds. -/

set_option autoImplicit false

namespace VectorLink

structure Span where
  nanos : Nat
  deriving DecidableEq, Repr, Inhabited

namespace Span

def ofParts (seconds nanos : Nat) : Span := ⟨seconds * 1000000000 + nanos⟩

def ofSeconds (seconds : Nat) : Span := ofParts seconds 0

def seconds (span : Span) : Nat := span.nanos / 1000000000

def subsecond (span : Span) : Nat := span.nanos % 1000000000

def millis (span : Span) : Nat := span.nanos / 1000000

/-- How long a timer set to this span runs, in milliseconds. The timer ticks once per millisecond
and never fires early. -/
def ticks (span : Span) : Nat := (span.nanos + 999999) / 1000000

/-- The digits behind the point, as many as are needed, of a part of a unit that has this many. -/
def places (count part : Nat) : List Char :=
  let digits := Nat.toDigits 10 part
  let digits := List.replicate (count - digits.length) '0' ++ digits
  match (digits.reverse.dropWhile (· == '0')).reverse with
  | [] => []
  | digits => '.' :: digits

def shownIn (span : Span) (count : Nat) (unit : String) : String :=
  toString (span.nanos / Nat.pow 10 count) ++
    .ofList (places count (span.nanos % Nat.pow 10 count)) ++ unit

def shown (span : Span) : String :=
  if 1000000000 ≤ span.nanos then span.shownIn 9 "s"
  else if 1000000 ≤ span.nanos then span.shownIn 6 "ms"
  else if 1000 ≤ span.nanos then span.shownIn 3 "µs"
  else span.shownIn 0 "ns"

end Span

end VectorLink
