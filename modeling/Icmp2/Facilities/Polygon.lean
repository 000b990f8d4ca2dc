import Icmp2.Facilities.Workers
import Icmp2.Library.ClosedWalk
import Icmp2.Library.ConvexRing

/-
  What the ray casting of the geofence check decides.

  Main definitions include:
    * `Icmp2.Facilities.isInsidePolygonRaising`
    * `Icmp2.Facilities.StrictlyConvex`
    * `Icmp2.Facilities.OnBoundary`

  Main theorems include:
    * `Icmp2.Facilities.isInsidePolygon_eq_loopParity`
    * `Icmp2.Facilities.isInsidePolygon_laws`
    * `Icmp2.Facilities.isInsidePolygon_iff_of_convex`

  The loop keeps the vertex before and toggles a flag, so
  its result is the parity of the crossings on the way
  around the list of vertices.
-/

------------------------------------------------------------
-- Raising Division
------------------------------------------------------------

namespace Icmp2

namespace Facilities

open Library

/- `none` is a `ZeroDivisionError`. -/
def divide
    (numerator denominator : ℚ) :
    Option ℚ :=
  if denominator = 0 then
    none
  else
    some (numerator / denominator)

/- `and` leaves the division out if its left side fails. -/
def crossesRayRaising
    (x y : ℚ)
    (vertex previous : ℚ × ℚ) :
    Option Bool :=
  if decide (vertex.2 > y) != decide (previous.2 > y) then
    (divide ((previous.1 - vertex.1) * (y - vertex.2))
      (previous.2 - vertex.2)).map
        fun quotient => decide (x < quotient + vertex.1)
  else
    some false

/- The loop, which an exception ends. -/
def castRayRaising
    (x y : ℚ) :
    ℚ × ℚ → List (ℚ × ℚ) → Bool → Option Bool
  | _, [], inside => some inside
  | previous, vertex :: rest, inside => do
      let crosses ← crossesRayRaising x y vertex previous
      castRayRaising x y vertex rest
        (if crosses then !inside else inside)

/- `is_inside_polygon` with the exceptions of its division. -/
def isInsidePolygonRaising
    (x y : ℚ)
    (geofence : Geofence) :
    Option Bool :=
  match geofence.polygonData with
  | none => some false
  | some polygon =>
      if polygon.length < 3 then
        some false
      else
        castRayRaising x y (polygon.getLastD (0, 0)) polygon
          false

theorem crossesRayRaising_eq
    (x y : ℚ)
    (vertex previous : ℚ × ℚ) :
    crossesRayRaising x y vertex previous =
      some (crossesRay x y vertex previous) := by
  unfold crossesRayRaising crossesRay
  by_cases hSides :
      (decide (vertex.2 > y) != decide (previous.2 > y)) =
        true
  · have hNe : previous.2 - vertex.2 ≠ 0 := by
      intro hZero
      rw [sub_eq_zero.mp hZero] at hSides
      simp at hSides
    rw [if_pos hSides, hSides, divide, if_neg hNe]
    rfl
  · rw [if_neg hSides, Bool.not_eq_true _ |>.mp hSides]
    rfl

theorem castRayRaising_eq
    (x y : ℚ)
    (previous : ℚ × ℚ)
    (vertices : List (ℚ × ℚ))
    (inside : Bool) :
    castRayRaising x y previous vertices inside =
      some (castRay x y previous vertices inside) := by
  induction vertices generalizing previous inside with
  | nil => rfl
  | cons vertex rest ih =>
      rw [castRayRaising, crossesRayRaising_eq, castRay]
      exact ih vertex _

/- Edges that are level with the point are not divided. -/
theorem isInsidePolygonRaising_eq
    (x y : ℚ)
    (geofence : Geofence) :
    isInsidePolygonRaising x y geofence =
      some (isInsidePolygon x y geofence) := by
  unfold isInsidePolygonRaising isInsidePolygon
  cases geofence.polygonData with
  | none => rfl
  | some polygon =>
      by_cases hShort : polygon.length < 3
      · simp only [hShort, if_true]
      · simp only [hShort, if_false, castRayRaising_eq]

end Facilities

end Icmp2

------------------------------------------------------------
-- Parity
------------------------------------------------------------

namespace Icmp2

namespace Facilities

open Library

/- The step of the loop from a vertex to the one after. -/
def stepCrosses
    (x y : ℚ)
    (previous vertex : ℚ × ℚ) :
    Bool :=
  crossesRay x y vertex previous

theorem crossesRay_iff
    (x y : ℚ)
    (vertex previous : ℚ × ℚ) :
    crossesRay x y vertex previous = true ↔
      RayCrosses (x, y) vertex previous := by
  simp [crossesRay, RayCrosses]

theorem stepCrosses_iff
    (x y : ℚ)
    (previous vertex : ℚ × ℚ) :
    stepCrosses x y previous vertex = true ↔
      RayCrosses (x, y) previous vertex := by
  rw [stepCrosses, crossesRay_iff, rayCrosses_swap]

theorem stepCrosses_symm
    (x y : ℚ)
    (one two : ℚ × ℚ) :
    stepCrosses x y one two = stepCrosses x y two one := by
  rw [Bool.eq_iff_iff, stepCrosses_iff, stepCrosses_iff,
    rayCrosses_swap]

theorem castRay_eq
    (x y : ℚ)
    (previous : ℚ × ℚ)
    (vertices : List (ℚ × ℚ))
    (inside : Bool) :
    castRay x y previous vertices inside =
      (inside ^^
        walkParity (stepCrosses x y) previous vertices) := by
  induction vertices generalizing previous inside with
  | nil => simp [castRay, walkParity]
  | cons vertex rest ih =>
      rw [castRay, ih, walkParity, stepCrosses]
      cases crossesRay x y vertex previous <;>
        cases inside <;> simp

/- The last vertex is the one before the first. -/
theorem isInsidePolygon_eq_loopParity
    {polygon : List (ℚ × ℚ)}
    (hLength : 3 ≤ polygon.length)
    (x y : ℚ)
    (geofence : Geofence) :
    isInsidePolygon x y
        { geofence with polygonData := some polygon } =
      loopParity (stepCrosses x y) polygon := by
  cases polygon with
  | nil => simp at hLength
  | cons first rest =>
      have hLong : ¬(first :: rest).length < 3 := by omega
      simp only [isInsidePolygon, hLong, if_false,
        castRay_eq, Bool.false_xor, loopParity]
      cases rest <;> rfl

end Facilities

end Icmp2

------------------------------------------------------------
-- Laws Of The Vertex List
------------------------------------------------------------

namespace Icmp2

namespace Facilities

open Library

/- A geofence with the given vertices. -/
def withPolygon
    (geofence : Geofence)
    (polygon : List (ℚ × ℚ)) :
    Geofence :=
  { geofence with polygonData := some polygon }

/- The vertices from position `i` up to position `j`. -/
def nearPart
    (polygon : List (ℚ × ℚ))
    (i j : Nat) :
    List (ℚ × ℚ) :=
  (polygon.drop i).take (j - i + 1)

/- The vertices from position `j` on around up to `i`. -/
def farPart
    (polygon : List (ℚ × ℚ))
    (i j : Nat) :
    List (ℚ × ℚ) :=
  polygon.drop j ++ polygon.take (i + 1)

theorem isInsidePolygon_of_short
    {polygon : List (ℚ × ℚ)}
    (hShort : polygon.length < 3)
    (x y : ℚ)
    (geofence : Geofence) :
    isInsidePolygon x y (withPolygon geofence polygon) =
      false := by
  simp [isInsidePolygon, withPolygon, hShort]

/- Lists of one length with one parity get one answer. -/
theorem isInsidePolygon_congr
    {x y : ℚ}
    {one two : List (ℚ × ℚ)}
    (hLength : one.length = two.length)
    (hParity :
      loopParity (stepCrosses x y) one =
        loopParity (stepCrosses x y) two)
    (geofence : Geofence) :
    isInsidePolygon x y (withPolygon geofence one) =
      isInsidePolygon x y (withPolygon geofence two) := by
  rcases Nat.lt_or_ge one.length 3 with hShort | hLong
  · rw [isInsidePolygon_of_short hShort,
      isInsidePolygon_of_short (hLength ▸ hShort)]
  · rw [withPolygon, withPolygon,
      isInsidePolygon_eq_loopParity hLong,
      isInsidePolygon_eq_loopParity (hLength ▸ hLong),
      hParity]

/- Two positions with a vertex between them. -/
theorem exists_parts
    {polygon : List (ℚ × ℚ)}
    {i j : Nat}
    (hApart : i + 1 < j)
    (hInside : j < polygon.length) :
    ∃ before one between two after,
      polygon =
          before ++ one :: (between ++ two :: after) ∧
        nearPart polygon i j = one :: (between ++ [two]) ∧
        farPart polygon i j =
          two :: (after ++ (before ++ [one])) ∧
        before.length = i ∧
        between.length = j - i - 1 := by
  have hFirst : i < polygon.length := by omega
  let between := (polygon.drop (i + 1)).take (j - i - 1)
  have hBetween : between.length = j - i - 1 := by
    simp only [between, List.length_take, List.length_drop]
    omega
  have hFromI :
      polygon.drop i = polygon[i] :: polygon.drop (i + 1) :=
    List.drop_eq_getElem_cons hFirst
  have hFromJ :
      polygon.drop j = polygon[j] :: polygon.drop (j + 1) :=
    List.drop_eq_getElem_cons hInside
  have hRest :
      polygon.drop (i + 1) =
        between ++ polygon[j] :: polygon.drop (j + 1) := by
    have hJump :
        (polygon.drop (i + 1)).drop (j - i - 1) =
          polygon.drop j := by
      rw [List.drop_drop]
      congr 1
      omega
    rw [← hFromJ, ← hJump, List.take_append_drop]
  refine
    ⟨polygon.take i, polygon[i], between, polygon[j],
      polygon.drop (j + 1), ?_, ?_, ?_, ?_, hBetween⟩
  · rw [← hRest, ← hFromI, List.take_append_drop]
  · have hSteps : j - i = between.length + 1 := by omega
    rw [nearPart, hFromI, List.take_succ_cons, hRest,
      hSteps, List.append_cons, List.take_left']
    simp
  · rw [farPart, hFromJ, List.take_succ_eq_append_getElem
      hFirst]
    rfl
  · simp only [List.length_take]
    omega

theorem isInsidePolygon_split
    {polygon : List (ℚ × ℚ)}
    {i j : Nat}
    (hApart : i + 1 < j)
    (hInside : j < polygon.length)
    (hAround : ¬(i = 0 ∧ j + 1 = polygon.length))
    (x y : ℚ)
    (geofence : Geofence) :
    isInsidePolygon x y (withPolygon geofence polygon) =
      (isInsidePolygon x y
          (withPolygon geofence (nearPart polygon i j)) ^^
        isInsidePolygon x y
          (withPolygon geofence
            (farPart polygon i j))) := by
  rcases exists_parts hApart hInside with
    ⟨before, one, between, two, after, hWhole, hNear, hFar,
      hBefore, hBetween⟩
  have hCount := congrArg List.length hWhole
  simp only [List.length_append, List.length_cons] at hCount
  have hWholeLong : 3 ≤ polygon.length := by omega
  have hNearLong :
      3 ≤ (one :: (between ++ [two])).length := by
    simp only [List.length_append, List.length_cons,
      List.length_nil]
    omega
  have hFarLong :
      3 ≤ (two :: (after ++ (before ++ [one]))).length := by
    simp only [List.length_append, List.length_cons,
      List.length_nil]
    omega
  rw [hNear, hFar, withPolygon, withPolygon, withPolygon,
    isInsidePolygon_eq_loopParity hWholeLong,
    isInsidePolygon_eq_loopParity hNearLong,
    isInsidePolygon_eq_loopParity hFarLong, hWhole]
  exact loopParity_split (stepCrosses_symm x y) before
    between after one two

/-
  The answer belongs to the closed polygon: it does not
  depend on the first vertex or on the direction, no
  division is by zero, and a chord cuts it in two.
-/
theorem isInsidePolygon_laws
    (x y : ℚ)
    (geofence : Geofence)
    (polygon : List (ℚ × ℚ)) :
    (∀ count,
        isInsidePolygon x y
            (withPolygon geofence (polygon.rotate count)) =
          isInsidePolygon x y
            (withPolygon geofence polygon)) ∧
      isInsidePolygon x y
          (withPolygon geofence polygon.reverse) =
        isInsidePolygon x y
          (withPolygon geofence polygon) ∧
      isInsidePolygonRaising x y
          (withPolygon geofence polygon) =
        some
          (isInsidePolygon x y
            (withPolygon geofence polygon)) ∧
      ∀ i j,
        i + 1 < j →
        j < polygon.length →
        ¬(i = 0 ∧ j + 1 = polygon.length) →
        isInsidePolygon x y (withPolygon geofence polygon) =
          (isInsidePolygon x y
              (withPolygon geofence
                (nearPart polygon i j)) ^^
            isInsidePolygon x y
              (withPolygon geofence
                (farPart polygon i j))) := by
  refine ⟨?_, ?_, ?_, ?_⟩
  · intro count
    exact isInsidePolygon_congr (by simp)
      (loopParity_rotate polygon count) geofence
  · exact isInsidePolygon_congr (by simp)
      (loopParity_reverse (stepCrosses_symm x y) polygon)
      geofence
  · exact isInsidePolygonRaising_eq x y _
  · intro i j hApart hInside hAround
    exact isInsidePolygon_split hApart hInside hAround x y
      geofence

/- A polygon that crosses itself in a vertex it repeats. -/
def bowTie : List (ℚ × ℚ) :=
  [(0, 0), (2, 1), (2, -1), (0, 0), (-2, 1), (-2, -1)]

/- The chord between the two visits parts the two halves. -/
theorem isInsidePolygon_laws_bowTie :
    isInsidePolygon 1 0 (withPolygon furnaceZone bowTie) =
      (isInsidePolygon 1 0
          (withPolygon furnaceZone (nearPart bowTie 0 3)) ^^
        isInsidePolygon 1 0
          (withPolygon furnaceZone
            (farPart bowTie 0 3))) :=
  (isInsidePolygon_laws 1 0 furnaceZone bowTie).2.2.2 0 3
    (by decide) (by decide) (by decide)

end Facilities

end Icmp2

------------------------------------------------------------
-- Convex Polygons
------------------------------------------------------------

namespace Icmp2

namespace Facilities

open Library

/- The position after `i`, the first after the last. -/
def nextVertex
    (polygon : List (ℚ × ℚ)) :
    Equiv.Perm (Fin polygon.length) :=
  finRotate polygon.length

/- The way around a polygon. -/
inductive Turn where
  | counterclockwise
  | clockwise
  deriving DecidableEq, Repr

/- Strictly on the interior side of the edge. -/
def Turn.OnInterior :
    Turn → ℚ × ℚ → ℚ × ℚ → ℚ × ℚ → Prop
  | counterclockwise, a, b, p => 0 < orient a b p
  | clockwise, a, b, p => orient a b p < 0

instance
    (turn : Turn)
    (a b p : ℚ × ℚ) :
    Decidable (turn.OnInterior a b p) := by
  cases turn <;> unfold Turn.OnInterior <;> infer_instance

/-
  Every edge has all other vertices strictly on its
  interior side.
-/
structure StrictlyConvex
    (turn : Turn)
    (polygon : List (ℚ × ℚ)) :
    Prop where
  vertices : 3 ≤ polygon.length
  corners :
    ∀ i k : Fin polygon.length,
      k ≠ i → k ≠ nextVertex polygon i →
        turn.OnInterior (polygon.get i)
          (polygon.get (nextVertex polygon i))
          (polygon.get k)

/- A point of an edge, its ends included. -/
def OnBoundary
    (polygon : List (ℚ × ℚ))
    (p : ℚ × ℚ) :
    Prop :=
  ∃ i, p ∈ segment ℚ (polygon.get i)
    (polygon.get (nextVertex polygon i))

/- With three vertices no two steps lead back. -/
theorem nextVertex_twice_ne
    {polygon : List (ℚ × ℚ)}
    (hLength : 3 ≤ polygon.length)
    (i : Fin polygon.length) :
    nextVertex polygon (nextVertex polygon i) ≠ i := by
  unfold nextVertex
  generalize polygon.length = n at hLength i
  obtain ⟨m, rfl⟩ : ∃ m, n = m + 1 := ⟨n - 1, by omega⟩
  intro hBack
  have hValue := congrArg Fin.val hBack
  rw [coe_finRotate] at hValue
  have hOnce := coe_finRotate i
  simp only [Fin.ext_iff, Fin.val_last] at hValue hOnce
  generalize (finRotate (m + 1) i).val = once at hValue hOnce
  have hBound := i.isLt
  split at hOnce <;> split at hValue <;> omega

/- The crossings, counted over the positions. -/
theorem isInsidePolygon_iff_odd
    {polygon : List (ℚ × ℚ)}
    (hLength : 3 ≤ polygon.length)
    (x y : ℚ)
    (geofence : Geofence) :
    isInsidePolygon x y (withPolygon geofence polygon) =
        true ↔
      Odd (Finset.univ.filter
        (fun i : Fin polygon.length =>
          RayCrosses (x, y) (polygon.get i)
            (polygon.get (nextVertex polygon i)))).card := by
  rw [withPolygon, isInsidePolygon_eq_loopParity hLength,
    loopParity_iff_odd]
  refine iff_of_eq
    (congrArg
      (fun s : Finset (Fin polygon.length) => Odd s.card)
      (Finset.filter_congr ?_))
  intro i _
  exact stepCrosses_iff x y _ _

/-
  In a strictly convex polygon the answer is the one of the
  half planes, for every point that is not on an edge.
-/
theorem isInsidePolygon_iff_of_convex
    {turn : Turn}
    {polygon : List (ℚ × ℚ)}
    (hConvex : StrictlyConvex turn polygon)
    {x y : ℚ}
    (hOff : ¬OnBoundary polygon (x, y))
    (geofence : Geofence) :
    isInsidePolygon x y (withPolygon geofence polygon) =
        true ↔
      ∀ i : Fin polygon.length,
        turn.OnInterior (polygon.get i)
          (polygon.get (nextVertex polygon i)) (x, y) := by
  have hReturn := nextVertex_twice_ne hConvex.vertices
  have hStart : Nonempty (Fin polygon.length) :=
    ⟨⟨0, by have := hConvex.vertices; omega⟩⟩
  rw [isInsidePolygon_iff_odd hConvex.vertices]
  cases turn with
  | counterclockwise =>
      have hRing :
          ConvexRing polygon.get (nextVertex polygon) :=
        ⟨hReturn, hConvex.corners⟩
      exact hRing.odd_crossings_iff
        (fun i hOn => hOff ⟨i, hOn⟩)
  | clockwise =>
      exact ConvexRing.odd_crossings_iff_of_right hReturn
        hConvex.corners (fun i hOn => hOff ⟨i, hOn⟩)

/- A point on the line of no edge is off the boundary. -/
theorem not_onBoundary_of_orient_ne_zero
    {polygon : List (ℚ × ℚ)}
    {p : ℚ × ℚ}
    (hLines :
      ∀ i : Fin polygon.length,
        orient (polygon.get i)
          (polygon.get (nextVertex polygon i)) p ≠ 0) :
    ¬OnBoundary polygon p := by
  rintro ⟨i, hOn⟩
  exact hLines i (orient_eq_zero_of_mem_segment hOn)

/- A square on its corner, walked clockwise. -/
def diamond : List (ℚ × ℚ) :=
  [(0, 1), (1, 0), (0, -1), (-1, 0)]

/- The ray from the centre goes through a vertex. -/
theorem isInsidePolygon_diamond :
    isInsidePolygon 0 0 (withPolygon furnaceZone diamond) =
        true ↔
      ∀ i : Fin diamond.length,
        Turn.clockwise.OnInterior (diamond.get i)
          (diamond.get (nextVertex diamond i)) (0, 0) := by
  have hConvex : StrictlyConvex .clockwise diamond :=
    ⟨by decide, by decide +kernel⟩
  exact isInsidePolygon_iff_of_convex hConvex
    (not_onBoundary_of_orient_ne_zero (by decide +kernel))
    furnaceZone

end Facilities

end Icmp2
