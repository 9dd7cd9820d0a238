import DocFilter.Bson.Value

/-!
Points, line strings and polygons, and the geometry documents that stand for them. A polygon is
its rings, the outer one first; a polygon without any ring is allowed, and so are empty rings.
-/

namespace DocFilter

structure Point where
  longitude : Double
  latitude : Double
  deriving DecidableEq

namespace Point

def position (p : Point) : Value := .array [.double p.longitude, .double p.latitude]

def equal (p q : Point) : Bool := p.longitude.equal q.longitude && p.latitude.equal q.latitude

end Point

inductive Shape where
  | point (p : Point)
  | line (points : List Point)
  | polygon (rings : List (List Point))
  deriving DecidableEq

def pairwiseEqual {α : Type} (same : α → α → Bool) : List α → List α → Bool
  | [], [] => true
  | x :: xs, y :: ys => same x y && pairwiseEqual same xs ys
  | _, _ => false

def positions (points : List Point) : Value := .array (points.map Point.position)

namespace Shape

/-- Shapes of different kinds are never equal; coordinates are compared as numbers. -/
def equal : Shape → Shape → Bool
  | .point p, .point q => p.equal q
  | .line ps, .line qs => pairwiseEqual Point.equal ps qs
  | .polygon rs, .polygon ss => pairwiseEqual (pairwiseEqual Point.equal) rs ss
  | _, _ => false

def typeName : Shape → String
  | .point _ => "Point"
  | .line _ => "LineString"
  | .polygon _ => "Polygon"

def coordinates : Shape → Value
  | .point p => p.position
  | .line ps => positions ps
  | .polygon rings => .array (rings.map positions)

/-- The geometry object: the name of the kind, then the coordinates. -/
def toDocument (s : Shape) : Document :=
  [("type", .string s.typeName), ("coordinates", s.coordinates)]

end Shape
end DocFilter
