/-!
# Bytes

Byte strings are compared as the arrays that they are.
-/

namespace ObliviousRelay.Text

/-- Whether two byte strings are the same. -/
instance decidableEqBytes : DecidableEq ByteArray := ByteArray.instDecidableEq

end ObliviousRelay.Text
