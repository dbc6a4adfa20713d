/-!
# Widths

How many numbers there are of some widths, written out.
-/

namespace Attendant

/-- How many numbers have 31 bits. -/
def width31 : Nat := 2147483648

/-- How many numbers have 52 bits: as many fractions does a double tell apart. -/
def width52 : Nat := 4503599627370496

/-- How many numbers have 63 bits. -/
def width63 : Nat := 9223372036854775808

/-- How many numbers have 64 bits. -/
def width64 : Nat := 18446744073709551616

/-- How many numbers have 127 bits. -/
def width127 : Nat := 170141183460469231731687303715884105728

end Attendant
