/-!
The operator words of filter documents. Each starts with `$`, which is what tells an operator from
the name of a field.
-/

namespace DocFilter

inductive Keyword where
  | eq | ne | gt | gte | lt | lte | isIn | notIn
  | present | type | script | regex | options
  | all | size | elemMatch
  | not | or | and | nor
  | near | nearSphere | geometry | minDistance | maxDistance | geoIntersects | geoWithin
  | center | centerSphere | box | polygon
  deriving DecidableEq

namespace Keyword

def text : Keyword → String
  | eq => "$eq" | ne => "$ne" | gt => "$gt" | gte => "$gte" | lt => "$lt" | lte => "$lte"
  | isIn => "$in" | notIn => "$nin"
  | present => "$exists" | type => "$type" | script => "$where" | regex => "$regex"
  | options => "$options"
  | all => "$all" | size => "$size" | elemMatch => "$elemMatch"
  | not => "$not" | or => "$or" | and => "$and" | nor => "$nor"
  | near => "$near" | nearSphere => "$nearSphere" | geometry => "$geometry"
  | minDistance => "$minDistance" | maxDistance => "$maxDistance"
  | geoIntersects => "$geoIntersects" | geoWithin => "$geoWithin"
  | center => "$center" | centerSphere => "$centerSphere" | box => "$box" | polygon => "$polygon"

/-- The order is that of the families: comparison, presence and text, arrays, logic, geometry. -/
def listed : List Keyword :=
  [eq, ne, gt, gte, lt, lte, isIn, notIn, present, type, script, regex, options, all, size,
    elemMatch, not, or, and, nor, near, nearSphere, geometry, minDistance, maxDistance,
    geoIntersects, geoWithin, center, centerSphere, box, polygon]

def labelChar (c : Char) : List Char :=
  if c = '$' then [] else if c.isUpper then ['_', c] else [c.toUpper]

/-- The word in capitals, with an underscore where a capital begins a new part of it. -/
def label (k : Keyword) : String := String.ofList (k.text.toList.flatMap labelChar)

theorem mem_listed (k : Keyword) : k ∈ listed := by cases k <;> decide

end Keyword

/-- Says whether a key names an operator rather than a field. -/
def isOperator (key : String) : Bool := key.toList.head? == some '$'

end DocFilter
