import DocFilter.Proofs.Calls.Keys
import DocFilter.Proofs.Merge.Override

/-! Shapes on a field that has one. A call about a shape stores it by merging, as every call does, so
the coordinates of a second shape are appended to those of the first, and a distance that the second
call does not give stays. What is stored is the shape of the last call only where this overrides what
was stored before, which it does not after another shape with any coordinates. -/

namespace DocFilter

namespace Region

def keyword : Region → Keyword
  | .shape _ => .geometry
  | .circle .. => .center
  | .sphericalCircle .. => .centerSphere
  | .box .. => .box
  | .polygon _ => .polygon

def content : Region → Value
  | .shape s => .document s.toDocument
  | .circle center radius | .sphericalCircle center radius =>
    .array [center.position, .double radius]
  | .box bottomLeft upperRight => .array [bottomLeft.position, upperRight.position]
  | .polygon vertices => positions vertices

def coordinates : Region → Value
  | .shape s => s.coordinates
  | region => region.content

theorem fragment_eq (region : Region) :
    region.fragment = DocFilter.fragment region.keyword region.content := by
  cases region <;> rfl

end Region

def nearKeyword (spherical : Bool) : Keyword := if spherical then .nearSphere else .near

def boundEntry (k : Keyword) (bound : Option Double) : Document :=
  bound.toList.map fun x => (k.text, .double x)

def nearContent (p : Point) (distance : Distance) : Document :=
  (Keyword.geometry.text, .document (Shape.point p).toDocument) ::
    (boundEntry .minDistance distance.bounds.1 ++ boundEntry .maxDistance distance.bounds.2)

theorem nearFragment_eq (spherical : Bool) (p : Point) (distance : Distance) :
    nearFragment spherical p distance =
      fragment (nearKeyword spherical) (.document (nearContent p distance)) := by
  rcases hb : distance.bounds with ⟨least, greatest⟩
  cases least <;> cases greatest <;>
    simp [nearFragment, nearContent, nearKeyword, boundEntry, hb]

/-- A shape with its field and the operators that lead to it from there. -/
structure Placement where
  field : String
  operators : List Keyword
  shape : Value

namespace Placement

def path (pl : Placement) : List String := pl.field :: pl.operators.map Keyword.text

def value (pl : Placement) : Value := pl.operators.foldr fragment pl.shape

theorem value_eq_under (pl : Placement) :
    pl.value = pl.shape.under (pl.operators.map Keyword.text) := by
  rw [value, Value.under, List.foldr_map]
  rfl

theorem distinct_value {pl : Placement} (h : pl.shape.Distinct) : pl.value.Distinct := by
  rw [value]
  induction pl.operators with
  | nil => exact h
  | cons k rest ih => exact (Value.distinct_fragment k _).2 ih

end Placement

namespace Call

def placement? : Call → Option Placement
  | .near spherical field p distance =>
    some ⟨field, [nearKeyword spherical], .document (nearContent p distance)⟩
  | .intersects field s => some ⟨field, [.geoIntersects, .geometry], .document s.toDocument⟩
  | .within field region => some ⟨field, [.geoWithin, region.keyword], region.content⟩
  | _ => none

def coordinates : Call → Value
  | .near _ _ p _ => p.position
  | .intersects _ s => s.coordinates
  | .within _ region => region.coordinates
  | _ => .array []

theorem constraints_of_placement {c : Call} {pl : Placement} (h : c.placement? = some pl) :
    c.constraints = .ok [⟨pl.field, pl.value, none⟩] := by
  cases c with
  | near spherical field p distance =>
    obtain rfl := Option.some.inj h
    rw [constraints, nearFragment_eq]
    rfl
  | intersects field s =>
    obtain rfl := Option.some.inj h
    rfl
  | within field region =>
    obtain rfl := Option.some.inj h
    rw [constraints, Region.fragment_eq]
    rfl
  | _ => cases h

theorem distinct_of_placement {c : Call} {pl : Placement} (h : c.placement? = some pl) :
    pl.shape.Distinct := by
  cases c with
  | near spherical field p distance =>
    obtain rfl := Option.some.inj h
    have hd := distinct_nearFragment spherical p distance
    rwa [nearFragment_eq, Value.distinct_fragment] at hd
  | intersects field s =>
    obtain rfl := Option.some.inj h
    exact s.distinct_toDocument
  | within field region =>
    obtain rfl := Option.some.inj h
    have hd := region.distinct_fragment
    rwa [Region.fragment_eq, Value.distinct_fragment] at hd
  | _ => cases h

end Call

namespace Filter

section Placing

variable {c : Call} {pl : Placement}

theorem toValue_perform_of_placement (x : Filter) (h : c.placement? = some pl) :
    (x.perform c).filter.toValue = (Value.document [(pl.field, pl.value)]).mergeInto x.toValue := by
  rw [(perform_of_ok (Call.constraints_of_placement h) x).1]
  exact toValue_perform_put x (pl.field, pl.value)

theorem at?_perform_of_placement (x : Filter) (h : c.placement? = some pl) :
    (x.perform c).filter.toValue.at? pl.path = some (pl.shape.arrive (x.toValue.at? pl.path)) := by
  rw [toValue_perform_of_placement x h, pl.value_eq_under]
  exact Value.at?_mergeInto_under pl.shape x.toValue pl.path

theorem at?_perform_empty_of_placement (h : c.placement? = some pl) :
    (empty.perform c).filter.toValue.at? pl.path = some pl.shape :=
  at?_perform_of_placement empty h

theorem at?_perform_eq_shape_iff (x : Filter) (h : c.placement? = some pl) :
    (x.perform c).filter.toValue.at? pl.path = some pl.shape ↔
      ∀ old, x.toValue.at? pl.path = some old → pl.shape.Overrides old := by
  rw [at?_perform_of_placement x h, Option.some.injEq]
  cases x.toValue.at? pl.path with
  | none => simp [Value.arrive]
  | some old => simp [Value.arrive, Value.mergeInto_eq_self_iff (Call.distinct_of_placement h)]

end Placing

end Filter

theorem Shape.exists_coordinates (s : Shape) : ∃ items, s.coordinates = .array items := by
  cases s <;> exact ⟨_, rfl⟩

/-- One geometry object overrides another only if that has no coordinates. -/
theorem Shape.overrides_iff (s t : Shape) :
    (Value.document s.toDocument).Overrides (.document t.toDocument) ↔
      t.coordinates = .array [] := by
  obtain ⟨xs, hs⟩ := s.exists_coordinates
  obtain ⟨ys, ht⟩ := t.exists_coordinates
  have htype : (Value.string s.typeName).Overrides (.string t.typeName) :=
    .replaced _ _ (by simp [SameContainer, Value.kind])
  rw [Value.overrides_document_iff, toDocument, toDocument, hs, ht, Value.array.injEq,
    ← Value.overrides_array_iff xs ys]
  constructor
  · rintro ⟨-, h⟩
    exact h "coordinates" _ _ rfl rfl
  · intro h
    refine ⟨List.prefix_rfl, fun k v w hv hw => ?_⟩
    simp only [Document.get?] at hv hw
    split_ifs at hv hw
    · obtain rfl := Option.some.inj hv
      obtain rfl := Option.some.inj hw
      exact htype
    · obtain rfl := Option.some.inj hv
      obtain rfl := Option.some.inj hw
      exact h

/-- A search for what is near overrides no other one, as every point has coordinates. -/
theorem not_overrides_near (p q : Point) (distance distance' : Distance) :
    ¬ (Value.document (nearContent p distance)).Overrides
      (.document (nearContent q distance')) := by
  rw [Value.overrides_document_iff]
  rintro ⟨-, h⟩
  have hshape := h Keyword.geometry.text _ _ rfl rfl
  rw [Shape.overrides_iff] at hshape
  cases hshape

theorem Region.overrides_iff {r r' : Region} (h : r.keyword = r'.keyword) :
    r.content.Overrides r'.content ↔ r'.coordinates = .array [] := by
  cases r <;> cases r' <;> cases h
  case shape.shape.refl s t => exact Shape.overrides_iff s t
  all_goals
    simp only [coordinates, content, positions, Value.overrides_array_iff, Value.array.injEq]

/-- Of two calls that store a shape in one place, the second overrides what the first has stored only
if the first was given no coordinates. -/
theorem Call.overrides_iff {c d : Call} {pc pd : Placement} (hc : c.placement? = some pc)
    (hd : d.placement? = some pd) (hp : pc.path = pd.path) :
    pc.shape.Overrides pd.shape ↔ d.coordinates = .array [] := by
  have hops : pc.operators = pd.operators :=
    List.map_injective_iff.2 Keyword.text_injective (List.cons.inj hp).2
  cases c with
  | near spherical field p distance =>
    obtain rfl := Option.some.inj hc
    cases d with
    | near spherical' field' q distance' =>
      obtain rfl := Option.some.inj hd
      refine iff_of_false (not_overrides_near p q distance distance') ?_
      simp [coordinates, Point.position]
    | intersects field' t | within field' region' =>
      obtain rfl := Option.some.inj hd
      simp at hops
    | _ => cases hd
  | intersects field s =>
    obtain rfl := Option.some.inj hc
    cases d with
    | intersects field' t =>
      obtain rfl := Option.some.inj hd
      exact Shape.overrides_iff s t
    | near spherical' field' q distance' =>
      obtain rfl := Option.some.inj hd
      simp at hops
    | within field' region' =>
      obtain rfl := Option.some.inj hd
      cases hops
    | _ => cases hd
  | within field region =>
    obtain rfl := Option.some.inj hc
    cases d with
    | within field' region' =>
      obtain rfl := Option.some.inj hd
      exact Region.overrides_iff (by simpa using hops)
    | near spherical' field' q distance' =>
      obtain rfl := Option.some.inj hd
      simp at hops
    | intersects field' t =>
      obtain rfl := Option.some.inj hd
      cases hops
    | _ => cases hd
  | _ => cases hc

theorem get?_nearContent_bounds (p : Point) (distance : Distance) :
    Document.get? (nearContent p distance) Keyword.minDistance.text =
        distance.bounds.1.map Value.double ∧
      Document.get? (nearContent p distance) Keyword.maxDistance.text =
        distance.bounds.2.map Value.double := by
  rcases hb : distance.bounds with ⟨least, greatest⟩
  cases least <;> cases greatest <;>
    simp [nearContent, boundEntry, hb, Document.get?, Keyword.text]

namespace Filter

/-- A distance that a search gives replaces the stored one, and one that it does not give stays as it
was. -/
theorem at?_bound_perform_near (x : Filter) (spherical : Bool) (field : String) (p : Point)
    (distance : Distance) (k : Keyword) {bound : Option Double}
    (hk : Document.get? (nearContent p distance) k.text = bound.map Value.double) :
    let path := [field, (nearKeyword spherical).text, k.text]
    (x.perform (.near spherical field p distance)).filter.toValue.at? path =
      (bound.map Value.double).or (x.toValue.at? path) := by
  intro path
  let pl : Placement := ⟨field, [nearKeyword spherical], .document (nearContent p distance)⟩
  have hplaced : (Call.near spherical field p distance).placement? = some pl := rfl
  have hv : (Value.document [(pl.field, pl.value)]).Distinct :=
    (distinct_singleton_iff _).2 (Placement.distinct_value (Call.distinct_of_placement hplaced))
  have hcontent : (Value.document (nearContent p distance)).at? [k.text] =
      bound.map Value.double := by
    have hchild : (Value.document (nearContent p distance)).child? k.text =
        bound.map Value.double := hk
    rw [Value.at?, hchild]
    cases bound <;> rfl
  have hat : (Value.document [(pl.field, pl.value)]).at? path = bound.map Value.double := by
    have hvalue : pl.value = .document [((nearKeyword spherical).text,
        .document (nearContent p distance))] := rfl
    rw [Value.at?_singleton, if_pos rfl, hvalue, Value.at?_singleton, if_pos rfl, hcontent]
  rw [toValue_perform_of_placement x hplaced]
  cases bound with
  | some b =>
    rw [Value.at?_mergeInto_of_some hv x.toValue hat]
    cases x.toValue.at? path <;> simp [Value.arrive, Value.mergeInto]
  | none =>
    rw [Value.at?_mergeInto_of_free hv x.toValue hat]
    · rfl
    · simp [path, pl, Placement.value, fragment, Value.blocks_cons, Value.not_blocks_nil,
        Value.child?, Document.get?]

/-- A call about a shape on a filter of any history. The shape meets what is stored in its place, and
it is what the call alone would store exactly if it overrides that. Right after another call that has
stored a shape in this place, which was free before, it does so only if that call was given no
coordinates; otherwise the coordinates of both are stored. Of the distances of an earlier search
those stay that the later one does not give. -/
theorem repeated_shape_replaces_iff (x : Filter) (c : Call) (pl : Placement)
    (hc : c.placement? = some pl) :
    let y := (x.perform c).filter.toValue
    (empty.perform c).filter.toValue.at? pl.path = some pl.shape ∧
      y.at? pl.path = some (pl.shape.arrive (x.toValue.at? pl.path)) ∧
      (y.at? pl.path = some pl.shape ↔
        ∀ old, x.toValue.at? pl.path = some old → pl.shape.Overrides old) ∧
      (∀ (w : Filter) (d : Call) (pd : Placement), x = (w.perform d).filter →
        d.placement? = some pd → pd.path = pl.path → w.toValue.at? pl.path = none →
        (y.at? pl.path = some pl.shape ↔ d.coordinates = .array [])) ∧
      ∀ spherical field p distance, c = .near spherical field p distance →
        y.at? (pl.path ++ ["$minDistance"]) =
            (distance.bounds.1.map Value.double).or (x.toValue.at? (pl.path ++ ["$minDistance"])) ∧
          y.at? (pl.path ++ ["$maxDistance"]) =
            (distance.bounds.2.map Value.double).or
              (x.toValue.at? (pl.path ++ ["$maxDistance"])) := by
  intro y
  refine ⟨at?_perform_empty_of_placement hc, at?_perform_of_placement x hc,
    at?_perform_eq_shape_iff x hc, ?_, ?_⟩
  · rintro w d pd rfl hd hpath hfree
    have hold : (w.perform d).filter.toValue.at? pl.path = some pd.shape := by
      rw [← hpath] at hfree ⊢
      rw [at?_perform_of_placement w hd, hfree]
      rfl
    rw [at?_perform_eq_shape_iff _ hc, hold]
    simp [Call.overrides_iff hc hd hpath.symm]
  · rintro spherical field p distance rfl
    obtain rfl := Option.some.inj hc
    obtain ⟨hmin, hmax⟩ := get?_nearContent_bounds p distance
    exact ⟨at?_bound_perform_near x spherical field p distance .minDistance hmin,
      at?_bound_perform_near x spherical field p distance .maxDistance hmax⟩

/-- A line without points gives way to a point, and a point does not give way to a second one. -/
theorem repeated_shape_replaces_iff_points :
    let p : Point := ⟨⟨0x3ff0000000000000⟩, ⟨0x4000000000000000⟩⟩
    let pl : Placement := ⟨"loc", [.geoIntersects, .geometry], .document (Shape.point p).toDocument⟩
    let c : Call := .intersects "loc" (.point p)
    let x : Filter := (empty.perform (.intersects "loc" (.line []))).filter
    c.placement? = some pl ∧
      (x.perform c).filter.toValue.at? pl.path = some pl.shape ∧
      ((x.perform c).filter.perform c).filter.toValue.at? pl.path ≠ some pl.shape := by
  intro p pl c x
  have hline := (repeated_shape_replaces_iff x c pl rfl).2.2.2.1 empty _ _ rfl rfl rfl rfl
  refine ⟨rfl, hline.2 rfl, ?_⟩
  have hsecond := (repeated_shape_replaces_iff (x.perform c).filter c pl rfl).2.2.1
  rw [Ne, hsecond, hline.2 rfl]
  intro h
  have hover := (Shape.overrides_iff (.point p) (.point p)).1 (h _ rfl)
  cases hover

/-- Two searches for what is near a point: the point that is stored has four coordinates, and the
distance of the first search stays. -/
theorem second_point_has_four_coordinates :
    let p : Point := ⟨⟨0x3ff0000000000000⟩, ⟨0x4000000000000000⟩⟩
    let q : Point := ⟨⟨0x4008000000000000⟩, ⟨0x4010000000000000⟩⟩
    let first : Call := .near false "loc" p (.max ⟨0x4014000000000000⟩)
    let second : Call := .near false "loc" q .unbounded
    let y := ((empty.perform first).filter.perform second).filter.toValue
    let alone := (empty.perform second).filter.toValue
    y.at? ["loc", "$near"] ≠ alone.at? ["loc", "$near"] ∧
      y.at? ["loc", "$near", "$geometry", "coordinates"] =
        some (.array [.double p.longitude, .double p.latitude, .double q.longitude,
          .double q.latitude]) ∧
      y.at? ["loc", "$near", "$maxDistance"] = some (.double ⟨0x4014000000000000⟩) ∧
      alone.at? ["loc", "$near", "$maxDistance"] = none := by
  intro p q first second y alone
  refine ⟨fun h => ?_, rfl, rfl, rfl⟩
  have hbound : some (Value.double ⟨0x4014000000000000⟩) = none :=
    congrArg (fun v => v.bind (Value.at? · ["$maxDistance"])) h
  cases hbound

end Filter

end DocFilter
