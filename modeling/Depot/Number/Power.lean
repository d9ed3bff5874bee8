/-!
Powers of two, which count what so many bits can tell apart.
-/

namespace Depot

/-- How many numbers so many bits can hold. -/
def twoTo (bits : Nat) : Nat := 1 <<< bits

end Depot
