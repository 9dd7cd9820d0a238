import DocFilter.Number.Double

/-!
The distances between which a nearby search looks. A bound of zero stands for no bound.
-/

namespace DocFilter

inductive Distance where
  | unbounded
  | max (greatest : Double)
  | range (least greatest : Option Double)
  deriving DecidableEq

namespace Distance

def ofDouble (greatest : Double) : Distance := max greatest

def ofOption : Option Double → Distance
  | none => unbounded
  | some x => max x

/-- Of the two forms of a range, this one always has both bounds. -/
def ofPair (least greatest : Double) : Distance := range (some least) (some greatest)

def ofBounds (bounds : Option Double × Option Double) : Distance := range bounds.1 bounds.2

def nonZero (bound : Option Double) : Option Double := bound.filter (!·.isZero)

def bounds : Distance → Option Double × Option Double
  | unbounded => (none, none)
  | max x => (none, nonZero (some x))
  | range least greatest => (nonZero least, nonZero greatest)

def equalBound : Option Double → Option Double → Bool
  | none, none => true
  | some x, some y => x.equal y
  | _, _ => false

/-- Distances given in different forms differ, even when they bound alike. -/
def equal : Distance → Distance → Bool
  | unbounded, unbounded => true
  | max x, max y => x.equal y
  | range a b, range c d => equalBound a c && equalBound b d
  | _, _ => false

end Distance
end DocFilter
