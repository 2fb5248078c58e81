/-!
# Fixed-width integer ranges

The integer types of record fields and of the engine are ranges of `Int`. `IntWidth` names them,
`IntWidth.lo`/`IntWidth.hi` give the bounds and `IntWidth.admits` tests membership; the
64-bit range is that of engine integers and of values held by records.
-/

namespace RecordMap.Numeral

/-- The integer widths a field or the engine can hold. -/
inductive IntWidth where
  | i8 | i16 | i32 | i64 | u8 | u16 | u32 | u64 | i128
  deriving Repr, DecidableEq, Inhabited

/-- The least value of a width. -/
def IntWidth.lo : IntWidth → Int
  | .i8 => -128
  | .i16 => -32768
  | .i32 => -2147483648
  | .i64 => -9223372036854775808
  | .u8 | .u16 | .u32 | .u64 => 0
  | .i128 => -170141183460469231731687303715884105728

/-- The greatest value of a width. -/
def IntWidth.hi : IntWidth → Int
  | .i8 => 127
  | .i16 => 32767
  | .i32 => 2147483647
  | .i64 => 9223372036854775807
  | .u8 => 255
  | .u16 => 65535
  | .u32 => 4294967295
  | .u64 => 18446744073709551615
  | .i128 => 170141183460469231731687303715884105727

/-- Whether a width holds the integer. -/
def IntWidth.admits (w : IntWidth) (i : Int) : Bool := decide (w.lo ≤ i ∧ i ≤ w.hi)

/-- The least 64-bit signed integer. -/
abbrev minI64 : Int := -9223372036854775808

/-- The greatest 64-bit signed integer. -/
abbrev maxI64 : Int := 9223372036854775807

/-- Whether an integer fits 64 signed bits. -/
def fitsI64 (i : Int) : Bool := IntWidth.i64.admits i

/-- An integer pushed into 64 signed bits by clamping at the ends. -/
def clampI64 (i : Int) : Int := max minI64 (min maxI64 i)

end RecordMap.Numeral
