/-!
# Powers

Widths and places are powers of two, ten and sixteen all through the library. A power of natural
numbers is always the one of core here, also in a file where another library brings a power of its
own. So a power in one module is the same term as that power in every other.
-/

namespace SensorLink

/-- The power of natural numbers, before any other. -/
@[default_instance 20000]
instance (priority := 20000) powNat : Pow Nat Nat := instPowNat

end SensorLink
