/-
This file holds the powers that binary and decimal numbers are scaled by.
-/

namespace SchemaTypes

def powerOfTwo (exponent : Nat) : Nat := Nat.pow 2 exponent

def powerOfTen (exponent : Nat) : Nat := Nat.pow 10 exponent

end SchemaTypes
