/-!
# Words

How many numbers 32 and 64 bits can tell apart, and which numbers 64 bits hold with a sign.
-/

namespace FlowNet.Word

def size32 : Nat := 4294967296

def size64 : Nat := 18446744073709551616

def leastSigned : Int := -9223372036854775808

def greatestSigned : Int := 9223372036854775807

def isSigned (i : Int) : Bool := leastSigned ≤ i && i ≤ greatestSigned

end FlowNet.Word
