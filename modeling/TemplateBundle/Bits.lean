/-! Integers of a limited number of bits. -/
namespace TemplateBundle.Bits

/-- How many values a number of bits can tell apart. -/
def count (width : Nat) : Nat := Nat.pow 2 width

/-- Whether an integer with a sign fits in so many bits. -/
def fitsSigned (width : Nat) (i : Int) : Bool :=
  -(count (width - 1) : Int) ≤ i && i < (count (width - 1) : Int)

def fitsUnsigned (width : Nat) (i : Int) : Bool := 0 ≤ i && i < (count width : Int)

/-- Whether an integer fits in so many bits, with a sign or without. -/
def fits (width : Nat) (i : Int) : Bool := fitsSigned width i || fitsUnsigned width i

end TemplateBundle.Bits
