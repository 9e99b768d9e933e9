namespace TwoHop

structure Gate where
  fired : Bool := false
  deriving DecidableEq, Repr

namespace Gate

def tryFire (g : Gate) : Bool × Gate := (!g.fired, ⟨true⟩)

end Gate

end TwoHop
