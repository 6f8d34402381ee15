/-!
# Mode — whether a cast watches for overflow
-/

namespace Recast

inductive Mode where
  | unchecked
  | checked
  deriving DecidableEq, Repr

namespace Mode

def other : Mode → Mode
  | .unchecked => .checked
  | .checked => .unchecked

end Mode
end Recast
