/-
Limits of file sizes. A limit counts units of 2^20 bytes and may be a fraction of one.
-/
import TypeShape.Json.Display

namespace TypeShape

/-- A limit of file sizes. -/
inductive SizeLimit
  | whole (units : Int)
  | fractional (units : Binary64)
deriving DecidableEq, Inhabited

namespace SizeLimit

/-- The bytes of one unit. -/
def unitBytes : Nat := 1024 * 1024

/-- A number as a limit. -/
def ofJson? : Json → Option SizeLimit
  | .int n => some (.whole n)
  | .float x => some (.fractional x)
  | _ => none

/-- The limit as a number. -/
def toJson : SizeLimit → Json
  | .whole n => .int n
  | .fractional x => .float x

/-- Not zero and not below it; what is no number counts as positive. -/
def isPositive : SizeLimit → Bool
  | .whole n => 0 < n
  | .fractional (.finite negative mantissa _) => !negative && mantissa != 0
  | .fractional (.infinite negative) => !negative
  | .fractional .notANumber => true

/-- Whether a file of so many bytes is too large. -/
def isExceededBy (bytes : Nat) : SizeLimit → Bool
  | .whole n => n * unitBytes < bytes
  | .fractional (.finite negative mantissa exponent) =>
    -- a unit is a power of two, so the limit in bytes is exact
    Binary64.lt (.finite negative mantissa (exponent + 20)) (.ofInt bytes)
  | .fractional x => x.lt (.ofInt bytes)

end SizeLimit

end TypeShape
