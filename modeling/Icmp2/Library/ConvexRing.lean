import Mathlib.Algebra.BigOperators.Ring.Finset
import Mathlib.Algebra.Ring.Parity
import Mathlib.Analysis.Convex.Segment
import Mathlib.Data.Fintype.Card
import Mathlib.Data.Fintype.Perm
import Mathlib.Tactic.FieldSimp
import Mathlib.Tactic.LinearCombination
import Mathlib.Tactic.Linarith
import Mathlib.Tactic.Positivity

/-
  Crossing parity for rings of points in convex position.

  Main definitions include:
    * `Library.orient`
    * `Library.RayCrosses`
    * `Library.ConvexRing`

  Main theorems include:
    * `Library.rayCrosses_swap`
    * `Library.ConvexRing.eq_of_rises`
    * `Library.ConvexRing.odd_crossings_iff`
    * `Library.ConvexRing.odd_crossings_iff_of_right`

  A ring is a finite family of points with a permutation
  that names the next point.  In convex position an edge
  has every other point on its left.  At the height of a
  point at most one edge rises and at most one falls, so
  that the parity of the crossings can be read off the two.
-/

------------------------------------------------------------
-- Sides
------------------------------------------------------------

namespace Library

variable {K : Type}
variable [Field K] [LinearOrder K] [IsStrictOrderedRing K]

/- Positive on the left of the line from `a` to `b`. -/
def orient
    (a b p : K × K) :
    K :=
  (b.1 - a.1) * (p.2 - a.2) - (b.2 - a.2) * (p.1 - a.1)

/-
  The edge from `a` to `b` meets the ray that leaves `p`
  to the right.  An end at the height of `p` counts as
  below it.
-/
def RayCrosses
    (p a b : K × K) :
    Prop :=
  ¬(p.2 < a.2 ↔ p.2 < b.2) ∧
    p.1 < (b.1 - a.1) * (p.2 - a.2) / (b.2 - a.2) + a.1

/- The edge passes the height of `p` on its way up. -/
def Rises
    (p a b : K × K) :
    Prop :=
  a.2 ≤ p.2 ∧ p.2 < b.2

instance
    (p a b : K × K) :
    Decidable (RayCrosses p a b) := by
  unfold RayCrosses
  infer_instance

instance
    (p a b : K × K) :
    Decidable (Rises p a b) := by
  unfold Rises
  infer_instance

omit [LinearOrder K] [IsStrictOrderedRing K] in
theorem orient_swap
    (a b p : K × K) :
    orient b a p = - orient a b p := by
  unfold orient
  ring

omit [LinearOrder K] [IsStrictOrderedRing K] in
theorem orient_left
    (a b : K × K) :
    orient a b a = 0 := by
  unfold orient
  ring

omit [LinearOrder K] [IsStrictOrderedRing K] in
theorem orient_right
    (a b : K × K) :
    orient a b b = 0 := by
  unfold orient
  ring

/- A rising edge is crossed from its left. -/
theorem rayCrosses_of_rises
    {p a b : K × K}
    (hRises : Rises p a b) :
    RayCrosses p a b ↔ 0 < orient a b p := by
  rcases hRises with ⟨hLow, hHigh⟩
  have hHeight : 0 < b.2 - a.2 := by linarith
  have hSides : ¬(p.2 < a.2 ↔ p.2 < b.2) := by
    simp [hHigh, not_lt.mpr hLow]
  have hBefore :
      p.1 < (b.1 - a.1) * (p.2 - a.2) / (b.2 - a.2) + a.1 ↔
        (p.1 - a.1) * (b.2 - a.2) <
          (b.1 - a.1) * (p.2 - a.2) := by
    rw [← sub_lt_iff_lt_add, lt_div_iff₀ hHeight]
  rw [RayCrosses, and_iff_right hSides, hBefore, orient,
    ← sub_pos]
  ring_nf

/- Both directions of an edge meet the ray alike. -/
omit [IsStrictOrderedRing K] in
theorem rayCrosses_swap
    (p a b : K × K) :
    RayCrosses p a b ↔ RayCrosses p b a := by
  unfold RayCrosses
  by_cases hLevel : a.2 = b.2
  · simp [hLevel]
  · have hForward : b.2 - a.2 ≠ 0 :=
      sub_ne_zero.mpr (Ne.symm hLevel)
    have hBack : a.2 - b.2 ≠ 0 := sub_ne_zero.mpr hLevel
    have hMeet :
        (b.1 - a.1) * (p.2 - a.2) / (b.2 - a.2) + a.1 =
          (a.1 - b.1) * (p.2 - b.2) / (a.2 - b.2) +
            b.1 := by
      field_simp
      ring
    rw [hMeet, iff_comm (a := p.2 < a.2)]

/- A falling edge is crossed from its right. -/
theorem rayCrosses_of_falls
    {p a b : K × K}
    (hFalls : Rises p b a) :
    RayCrosses p a b ↔ orient a b p < 0 := by
  rw [rayCrosses_swap, rayCrosses_of_rises hFalls,
    orient_swap, Left.neg_pos_iff]

/- An edge that neither rises nor falls is not crossed. -/
omit [IsStrictOrderedRing K] in
theorem rises_or_falls_of_rayCrosses
    {p a b : K × K}
    (hCrosses : RayCrosses p a b) :
    Rises p a b ∨ Rises p b a := by
  rcases hCrosses with ⟨hSides, -⟩
  unfold Rises
  rcases lt_or_ge p.2 a.2 with hA | hA <;>
    rcases lt_or_ge p.2 b.2 with hB | hB
  · exact absurd (iff_of_true hA hB) hSides
  · exact Or.inr ⟨hB, hA⟩
  · exact Or.inl ⟨hA, hB⟩
  · exact absurd
      (iff_of_false (not_lt.mpr hA) (not_lt.mpr hB)) hSides

end Library

------------------------------------------------------------
-- Identities
------------------------------------------------------------

namespace Library

variable {K : Type}
variable [Field K] [LinearOrder K] [IsStrictOrderedRing K]

/-
  Where two lines pass a height: each point is on the left
  of the other line by as much as it fails the other way.
-/
omit [LinearOrder K] [IsStrictOrderedRing K] in
theorem orient_exchange
    (a b c d : K × K)
    (y : K) :
    ((d.2 - y) * orient a b c + (y - c.2) * orient a b d) +
      ((b.2 - y) * orient c d a + (y - a.2) * orient c d b) =
      0 := by
  unfold orient
  ring

/- A line at the height of `p`, seen from another line. -/
omit [LinearOrder K] [IsStrictOrderedRing K] in
theorem orient_level
    (a b c d p : K × K) :
    (b.2 - a.2) * orient c d p + (c.2 - d.2) * orient a b p =
      (b.2 - p.2) * orient c d a +
        (p.2 - a.2) * orient c d b := by
  unfold orient
  ring

/- The side of `p` from what two edges have around it. -/
omit [LinearOrder K] [IsStrictOrderedRing K] in
theorem orient_between
    (a b c d f g p : K × K) :
    ((c.2 - d.2) * orient a b p +
        (b.2 - a.2) * orient c d p) * orient f g p =
      orient a b p *
          ((p.2 - d.2) * orient f g c +
            (c.2 - p.2) * orient f g d) +
        orient c d p *
          ((b.2 - p.2) * orient f g a +
            (p.2 - a.2) * orient f g b) := by
  unfold orient
  ring

/- The height of `p` over the corner `b`. -/
omit [LinearOrder K] [IsStrictOrderedRing K] in
theorem orient_corner
    (a b c p : K × K) :
    orient a b c * (p.2 - b.2) =
      orient a b p * (c.2 - b.2) -
        orient b c p * (b.2 - a.2) := by
  unfold orient
  ring

/- The side of a point at the height of the start. -/
omit [LinearOrder K] [IsStrictOrderedRing K] in
theorem orient_of_level
    {a b p : K × K}
    (hLevel : a.2 = p.2) :
    orient a b p = (b.2 - p.2) * (a.1 - p.1) := by
  unfold orient
  rw [hLevel]
  ring

/- A point of an edge is on its line. -/
omit [IsStrictOrderedRing K] in
theorem orient_eq_zero_of_mem_segment
    {p a b : K × K}
    (hOn : p ∈ segment K a b) :
    orient a b p = 0 := by
  rcases hOn with ⟨s, t, -, -, hSum, rfl⟩
  have hShare : s = 1 - t := by linear_combination hSum
  subst hShare
  unfold orient
  simp only [Prod.fst_add, Prod.snd_add, Prod.smul_fst,
    Prod.smul_snd, smul_eq_mul]
  ring

/- A point of the line at a height that the edge passes. -/
theorem mem_segment_of_rises
    {p a b : K × K}
    (hRises : Rises p a b)
    (hLine : orient a b p = 0) :
    p ∈ segment K a b := by
  rcases hRises with ⟨hLow, hHigh⟩
  have hHeight : 0 < b.2 - a.2 := by linarith
  have hNe : b.2 - a.2 ≠ 0 := hHeight.ne'
  refine
    ⟨(b.2 - p.2) / (b.2 - a.2), (p.2 - a.2) / (b.2 - a.2),
      by apply div_nonneg <;> linarith,
      by apply div_nonneg <;> linarith, ?_, ?_⟩
  · field_simp
    ring
  · unfold orient at hLine
    ext
    · simp only [Prod.fst_add, Prod.smul_fst, smul_eq_mul]
      field_simp
      linear_combination hLine
    · simp only [Prod.snd_add, Prod.smul_snd, smul_eq_mul]
      field_simp
      ring

/- A point between the ends of a level edge. -/
theorem mem_segment_of_level
    {p a b : K × K}
    (hLeft : a.2 = p.2)
    (hRight : b.2 = p.2)
    (hFrom : a.1 < p.1)
    (hTo : p.1 < b.1) :
    p ∈ segment K a b := by
  have hWidth : 0 < b.1 - a.1 := by linarith
  have hNe : b.1 - a.1 ≠ 0 := hWidth.ne'
  refine
    ⟨(b.1 - p.1) / (b.1 - a.1), (p.1 - a.1) / (b.1 - a.1),
      by apply div_nonneg <;> linarith,
      by apply div_nonneg <;> linarith, ?_, ?_⟩
  · field_simp
    ring
  · ext
    · simp only [Prod.fst_add, Prod.smul_fst, smul_eq_mul]
      field_simp
      ring
    · simp only [Prod.snd_add, Prod.smul_snd, smul_eq_mul,
        hLeft, hRight]
      field_simp
      ring

end Library

------------------------------------------------------------
-- Rings
------------------------------------------------------------

namespace Library

variable {K ι : Type}
variable [Field K] [LinearOrder K]

/-
  Points in convex position, counterclockwise: an edge has
  all other points strictly on its left.
-/
structure ConvexRing
    (v : ι → K × K)
    (next : Equiv.Perm ι) :
    Prop where
  noReturn : ∀ i, next (next i) ≠ i
  onLeft :
    ∀ i k, k ≠ i → k ≠ next i →
      0 < orient (v i) (v (next i)) (v k)

namespace ConvexRing

variable {v : ι → K × K}
variable {next : Equiv.Perm ι}
variable {p : K × K}

theorem next_ne
    (hRing : ConvexRing v next)
    (i : ι) :
    next i ≠ i := by
  intro hSame
  have hTwice : next (next i) = i := by rw [hSame, hSame]
  exact hRing.noReturn i hTwice

theorem orient_nonneg
    (hRing : ConvexRing v next)
    (i k : ι) :
    0 ≤ orient (v i) (v (next i)) (v k) := by
  by_cases hStart : k = i
  · rw [hStart, orient_left]
  · by_cases hEnd : k = next i
    · rw [hEnd, orient_right]
    · exact (hRing.onLeft i k hStart hEnd).le

theorem eq_or_eq_of_orient_eq_zero
    (hRing : ConvexRing v next)
    {i k : ι}
    (hZero : orient (v i) (v (next i)) (v k) = 0) :
    k = i ∨ k = next i := by
  by_contra hNeither
  rw [not_or] at hNeither
  exact (hRing.onLeft i k hNeither.1 hNeither.2).ne' hZero

variable [IsStrictOrderedRing K]

/- The ring walked backwards turns the other way. -/
theorem of_symm
    (hReturn : ∀ i, next (next i) ≠ i)
    (hRight :
      ∀ i k, k ≠ i → k ≠ next i →
        orient (v i) (v (next i)) (v k) < 0) :
    ConvexRing v next.symm where
  noReturn := by
    intro i hTwice
    have hForward : next (next i) = i := by
      conv_lhs => rw [← hTwice]
      simp
    exact hReturn i hForward
  onLeft := by
    intro i k hStart hEnd
    have hEdge := hRight (next.symm i) k hEnd
      (by simpa using hStart)
    rw [Equiv.apply_symm_apply] at hEdge
    rw [orient_swap]
    linarith

omit [Field K] [IsStrictOrderedRing K] in
theorem ne_of_height
    {k l : ι}
    (hLow : (v k).2 ≤ p.2)
    (hHigh : p.2 < (v l).2) :
    k ≠ l := by
  rintro rfl
  exact absurd hHigh (not_lt.mpr hLow)

/- A weighted pair of points is on the left of an edge. -/
theorem weighted_left
    (hRing : ConvexRing v next)
    {i k : ι}
    (l : ι)
    {s t : K}
    (hStart : k ≠ i)
    (hEnd : k ≠ next i)
    (hs : 0 < s)
    (ht : 0 ≤ t) :
    0 < s * orient (v i) (v (next i)) (v k) +
      t * orient (v i) (v (next i)) (v l) :=
  add_pos_of_pos_of_nonneg
    (mul_pos hs (hRing.onLeft i k hStart hEnd))
    (mul_nonneg ht (hRing.orient_nonneg i l))

/- At the height of a point only one edge rises. -/
theorem eq_of_rises
    (hRing : ConvexRing v next)
    {i j : ι}
    (hOne : Rises p (v i) (v (next i)))
    (hTwo : Rises p (v j) (v (next j))) :
    i = j := by
  rcases hOne with ⟨hLow, hHigh⟩
  rcases hTwo with ⟨hLow', hHigh'⟩
  by_contra hNe
  -- each low end is left of the other edge
  have hFirst :=
    hRing.weighted_left (next j) (Ne.symm hNe)
      (ne_of_height hLow' hHigh) (sub_pos.mpr hHigh')
      (sub_nonneg.mpr hLow')
  have hSecond :=
    hRing.weighted_left (next i) hNe
      (ne_of_height hLow hHigh') (sub_pos.mpr hHigh)
      (sub_nonneg.mpr hLow)
  have hSum := orient_exchange (v i) (v (next i)) (v j)
    (v (next j)) p.2
  linarith

/- At the height of a point only one edge falls. -/
theorem eq_of_falls
    (hRing : ConvexRing v next)
    {i j : ι}
    (hOne : Rises p (v (next i)) (v i))
    (hTwo : Rises p (v (next j)) (v j)) :
    i = j := by
  rcases hOne with ⟨hLow, hHigh⟩
  rcases hTwo with ⟨hLow', hHigh'⟩
  by_contra hNe
  have hNeNext : next j ≠ next i := fun hSame =>
    hNe (next.injective hSame).symm
  have hFirst :=
    hRing.weighted_left j (ne_of_height hLow' hHigh)
      hNeNext (sub_pos.mpr hHigh') (sub_nonneg.mpr hLow')
  have hSecond :=
    hRing.weighted_left i (ne_of_height hLow hHigh')
      hNeNext.symm (sub_pos.mpr hHigh)
      (sub_nonneg.mpr hLow)
  have hSum := orient_exchange (v i) (v (next i)) (v j)
    (v (next j)) p.2
  linarith

end ConvexRing

end Library

------------------------------------------------------------
-- Passing A Height
------------------------------------------------------------

namespace Library

variable {K ι : Type}
variable [LinearOrder K]
variable {v : ι → K × K}
variable {next : Equiv.Perm ι}
variable {p : K × K}

/- A ring comes down as often as it goes up. -/
theorem card_rises_eq_card_falls
    [Fintype ι]
    (v : ι → K × K)
    (next : Equiv.Perm ι)
    (p : K × K) :
    (Finset.univ.filter
        (fun i => Rises p (v i) (v (next i)))).card =
      (Finset.univ.filter
        (fun i => Rises p (v (next i)) (v i))).card := by
  have hStep : ∀ i,
      (if Rises p (v i) (v (next i)) then 1 else 0) +
          (if p.2 < (v i).2 then 1 else 0) =
        (if Rises p (v (next i)) (v i) then 1 else 0) +
          (if p.2 < (v (next i)).2 then 1 else 0) := by
    intro i
    unfold Rises
    rcases lt_or_ge p.2 (v i).2 with hOne | hOne <;>
      rcases lt_or_ge p.2 (v (next i)).2 with hTwo | hTwo <;>
      simp [hOne, hTwo, not_lt.mpr, not_le.mpr]
  have hSum :=
    Finset.sum_congr (rfl : Finset.univ = Finset.univ)
      (fun i _ => hStep i)
  rw [Finset.sum_add_distrib, Finset.sum_add_distrib,
    Equiv.sum_comp next
      (fun i => if p.2 < (v i).2 then 1 else 0)] at hSum
  simpa only [Finset.card_filter] using
    Nat.add_right_cancel hSum

/- A ring that passes a height rises and falls there. -/
theorem exists_rises_and_falls
    [Fintype ι]
    (hPasses :
      ∃ i, Rises p (v i) (v (next i)) ∨
        Rises p (v (next i)) (v i)) :
    (∃ up, Rises p (v up) (v (next up))) ∧
      ∃ down, Rises p (v (next down)) (v down) := by
  have hCard := card_rises_eq_card_falls v next p
  rcases hPasses with ⟨i, hRises | hFalls⟩
  · refine ⟨⟨i, hRises⟩, ?_⟩
    have hSome : 0 < (Finset.univ.filter
        (fun i => Rises p (v i) (v (next i)))).card :=
      Finset.card_pos.mpr ⟨i, by simpa using hRises⟩
    rw [hCard] at hSome
    rcases Finset.card_pos.mp hSome with ⟨down, hDown⟩
    exact ⟨down, by simpa using hDown⟩
  · refine ⟨?_, ⟨i, hFalls⟩⟩
    have hSome : 0 < (Finset.univ.filter
        (fun i => Rises p (v (next i)) (v i))).card :=
      Finset.card_pos.mpr ⟨i, by simpa using hFalls⟩
    rw [← hCard] at hSome
    rcases Finset.card_pos.mp hSome with ⟨up, hUp⟩
    exact ⟨up, by simpa using hUp⟩

/- Without passing the height a point keeps its side. -/
theorem above_next_iff
    (hUp : ∀ i, ¬Rises p (v i) (v (next i)))
    (hDown : ∀ i, ¬Rises p (v (next i)) (v i))
    (i : ι) :
    p.2 < (v (next i)).2 ↔ p.2 < (v i).2 := by
  constructor
  · intro hNext
    by_contra hHere
    exact hUp i ⟨not_lt.mp hHere, hNext⟩
  · intro hHere
    by_contra hNext
    exact hDown i ⟨not_lt.mp hNext, hHere⟩

end Library

------------------------------------------------------------
-- Parity Of The Crossings
------------------------------------------------------------

namespace Library

/- Of two places that may count, an odd number does. -/
theorem odd_card_filter_pair
    {ι : Type}
    [Fintype ι]
    {C : ι → Prop}
    [DecidablePred C]
    {one two : ι}
    (hNe : one ≠ two)
    (hOnly : ∀ i, C i → i = one ∨ i = two) :
    Odd (Finset.univ.filter C).card ↔ (C one ↔ ¬C two) := by
  classical
  have hPair :
      Finset.univ.filter C =
        ({one, two} : Finset ι).filter C := by
    ext i
    simp only [Finset.mem_filter, Finset.mem_univ,
      true_and, Finset.mem_insert, Finset.mem_singleton]
    exact ⟨fun hC => ⟨hOnly i hC, hC⟩, And.right⟩
  rw [hPair, Finset.filter_insert, Finset.filter_singleton]
  by_cases hOne : C one <;> by_cases hTwo : C two <;>
    simp [hOne, hTwo, hNe]

namespace ConvexRing

variable {K ι : Type}
variable [Field K] [LinearOrder K] [IsStrictOrderedRing K]
variable {v : ι → K × K}
variable {next : Equiv.Perm ι}
variable {p : K × K}

/- The corner at `next i`, as seen from `p`. -/
theorem corner
    (hRing : ConvexRing v next)
    (hInside : ∀ i, 0 < orient (v i) (v (next i)) p)
    (i : ι) :
    ¬((v (next i)).2 ≤ p.2 ∧ (v i).2 ≤ (v (next i)).2 ∧
        (v (next (next i))).2 ≤ (v (next i)).2) ∧
      ¬(p.2 < (v (next i)).2 ∧ (v (next i)).2 ≤ (v i).2 ∧
        (v (next i)).2 ≤ (v (next (next i))).2) := by
  have hTurn := hRing.onLeft i (next (next i))
    (hRing.noReturn i) (hRing.next_ne (next i))
  have hBefore := hInside i
  have hAfter := hInside (next i)
  have hCorner := orient_corner (v i) (v (next i))
    (v (next (next i))) p
  constructor
  · rintro ⟨hOver, hFrom, hTo⟩
    have hRise := mul_nonneg hTurn.le (sub_nonneg.mpr hOver)
    have hBack := mul_nonneg hAfter.le (sub_nonneg.mpr hFrom)
    have hForth := mul_nonneg hBefore.le (sub_nonneg.mpr hTo)
    -- all three terms vanish, so the corner is level
    have hLevelFrom : (v (next i)).2 - (v i).2 = 0 := by
      rcases mul_eq_zero.mp
        (show orient (v (next i)) (v (next (next i))) p *
          ((v (next i)).2 - (v i).2) = 0 by linarith)
        with hZero | hZero
      · exact absurd hZero hAfter.ne'
      · exact hZero
    have hLevelTo :
        (v (next i)).2 - (v (next (next i))).2 = 0 := by
      rcases mul_eq_zero.mp
        (show orient (v i) (v (next i)) p *
          ((v (next i)).2 - (v (next (next i))).2) = 0 by
            linarith)
        with hZero | hZero
      · exact absurd hZero hBefore.ne'
      · exact hZero
    have hFlat :
        orient (v i) (v (next i)) (v (next (next i))) = 0 := by
      unfold orient
      linear_combination
        (-(v (next (next i))).1 + (v (next i)).1) *
            hLevelFrom - ((v (next i)).1 - (v i).1) * hLevelTo
    exact hTurn.ne' hFlat
  · rintro ⟨hUnder, hFrom, hTo⟩
    have hDrop := mul_pos hTurn (sub_pos.mpr hUnder)
    have hBack := mul_nonneg hAfter.le (sub_nonneg.mpr hFrom)
    have hForth := mul_nonneg hBefore.le (sub_nonneg.mpr hTo)
    linarith

variable [Fintype ι] [Nonempty ι]

/-
  A height that the ring never passes is over its highest
  corner or under its lowest one.
-/
theorem passes_of_inside
    (hRing : ConvexRing v next)
    (hInside : ∀ i, 0 < orient (v i) (v (next i)) p) :
    ∃ i, Rises p (v i) (v (next i)) ∨
      Rises p (v (next i)) (v i) := by
  by_contra hNever
  push Not at hNever
  have hKeeps := above_next_iff
    (fun i => (hNever i).1) (fun i => (hNever i).2)
  let start : ι := Classical.arbitrary ι
  by_cases hAbove : p.2 < (v start).2
  · rcases Finset.exists_min_image
      (Finset.univ.filter fun i => p.2 < (v i).2)
      (fun i => (v i).2) ⟨start, by simp [hAbove]⟩ with
      ⟨low, hLow, hLeast⟩
    rcases next.surjective low with ⟨before, rfl⟩
    simp only [Finset.mem_filter, Finset.mem_univ,
      true_and] at hLow hLeast
    exact (hRing.corner hInside before).2
      ⟨hLow, hLeast before ((hKeeps before).mp hLow),
        hLeast _ ((hKeeps (next before)).mpr hLow)⟩
  · rcases Finset.exists_max_image
      (Finset.univ.filter fun i => ¬p.2 < (v i).2)
      (fun i => (v i).2) ⟨start, by simpa using hAbove⟩ with
      ⟨high, hHigh, hMost⟩
    rcases next.surjective high with ⟨before, rfl⟩
    simp only [Finset.mem_filter, Finset.mem_univ,
      true_and] at hHigh hMost
    exact (hRing.corner hInside before).1
      ⟨not_lt.mp hHigh,
        hMost before (mt (hKeeps before).mpr hHigh),
        hMost _ (mt (hKeeps (next before)).mp hHigh)⟩

omit [Fintype ι] [Nonempty ι]

/- Right of the rising edge and left of the falling one. -/
theorem not_outside_both
    (hRing : ConvexRing v next)
    (hOff : ∀ i, p ∉ segment K (v i) (v (next i)))
    {up down : ι}
    (hUp : Rises p (v up) (v (next up)))
    (hDown : Rises p (v (next down)) (v down))
    (hRight : orient (v up) (v (next up)) p ≤ 0)
    (hLeft : orient (v down) (v (next down)) p ≤ 0) :
    False := by
  have hLevel := orient_level (v up) (v (next up)) (v down)
    (v (next down)) p
  have hFirst := mul_nonneg (sub_pos.mpr hUp.2).le
    (hRing.orient_nonneg down up)
  have hSecond := mul_nonneg (sub_nonneg.mpr hUp.1)
    (hRing.orient_nonneg down (next up))
  have hUpHeight : 0 < (v (next up)).2 - (v up).2 := by
    have hBelow := hUp.1
    have hAbove := hUp.2
    linarith
  have hDownHeight : 0 < (v down).2 - (v (next down)).2 := by
    have hBelow := hDown.1
    have hAbove := hDown.2
    linarith
  have hThird := mul_nonpos_of_nonneg_of_nonpos
    hUpHeight.le hLeft
  have hFourth := mul_nonpos_of_nonneg_of_nonpos
    hDownHeight.le hRight
  have hLine : orient (v up) (v (next up)) p = 0 := by
    rcases mul_eq_zero.mp
      (show ((v down).2 - (v (next down)).2) *
        orient (v up) (v (next up)) p = 0 by linarith)
      with hZero | hZero
    · exact absurd hZero hDownHeight.ne'
    · exact hZero
  exact hOff up (mem_segment_of_rises hUp hLine)

/- An edge with two low ends on its line joins them. -/
omit [IsStrictOrderedRing K] in
theorem joins_of_zero
    (hRing : ConvexRing v next)
    {i up down : ι}
    (hIsUp : up ≠ i)
    (hIsDown : down ≠ i)
    (hUpZero : orient (v i) (v (next i)) (v up) = 0)
    (hDownZero :
      orient (v i) (v (next i)) (v (next down)) = 0) :
    up = next i ∧ next down = i := by
  constructor
  · rcases hRing.eq_or_eq_of_orient_eq_zero hUpZero
      with hSame | hSame
    · exact absurd hSame hIsUp
    · exact hSame
  · rcases hRing.eq_or_eq_of_orient_eq_zero hDownZero
      with hSame | hSame
    · exact hSame
    · exact absurd (next.injective hSame) hIsDown

/- At the height of both low ends a point is between them. -/
theorem mem_segment_of_low_ends
    {up down : ι}
    (hUp : Rises p (v up) (v (next up)))
    (hDown : Rises p (v (next down)) (v down))
    (hLeft : 0 < orient (v up) (v (next up)) p)
    (hRight : 0 < orient (v down) (v (next down)) p)
    (hUpAt : (v up).2 = p.2)
    (hDownAt : (v (next down)).2 = p.2) :
    p ∈ segment K (v (next down)) (v up) := by
  have hTo : p.1 < (v up).1 := by
    rw [orient_of_level hUpAt] at hLeft
    exact sub_pos.mp
      ((mul_pos_iff_of_pos_left (sub_pos.mpr hUp.2)).mp
        hLeft)
  have hFrom : (v (next down)).1 < p.1 := by
    rw [orient_swap, orient_of_level hDownAt, ← mul_neg,
      neg_sub] at hRight
    exact sub_pos.mp
      ((mul_pos_iff_of_pos_left (sub_pos.mpr hDown.2)).mp
        hRight)
  exact mem_segment_of_level hDownAt hUpAt hFrom hTo

/-
  Between the rising and the falling edge a point is left
  of every other edge: it lies between a point of each.
-/
theorem inside_of_between
    (hRing : ConvexRing v next)
    (hOff : ∀ i, p ∉ segment K (v i) (v (next i)))
    {up down : ι}
    (hUp : Rises p (v up) (v (next up)))
    (hDown : Rises p (v (next down)) (v down))
    (hLeft : 0 < orient (v up) (v (next up)) p)
    (hRight : 0 < orient (v down) (v (next down)) p)
    (i : ι) :
    0 < orient (v i) (v (next i)) p := by
  by_cases hIsUp : up = i
  · exact hIsUp ▸ hLeft
  by_cases hIsDown : down = i
  · exact hIsDown ▸ hRight
  have hBetween := orient_between (v up) (v (next up))
    (v down) (v (next down)) (v i) (v (next i)) p
  have hUpHeight : 0 < (v (next up)).2 - p.2 :=
    sub_pos.mpr hUp.2
  have hUpDepth : 0 ≤ p.2 - (v up).2 := sub_nonneg.mpr hUp.1
  have hDownHeight : 0 < (v down).2 - p.2 :=
    sub_pos.mpr hDown.2
  have hDownDepth : 0 ≤ p.2 - (v (next down)).2 :=
    sub_nonneg.mpr hDown.1
  have hWeight :
      0 < ((v down).2 - (v (next down)).2) *
            orient (v up) (v (next up)) p +
          ((v (next up)).2 - (v up).2) *
            orient (v down) (v (next down)) p := by
    have hFall : 0 < (v down).2 - (v (next down)).2 := by
      linarith
    have hRise : 0 < (v (next up)).2 - (v up).2 := by
      linarith
    positivity
  have hUpNear := hRing.orient_nonneg i up
  have hUpFar := hRing.orient_nonneg i (next up)
  have hDownNear := hRing.orient_nonneg i (next down)
  have hDownFar := hRing.orient_nonneg i down
  rw [← mul_pos_iff_of_pos_left hWeight, hBetween]
  rcases hUpNear.lt_or_eq with hPos | hUpZero
  · positivity
  rcases hDownNear.lt_or_eq with hPos | hDownZero
  · positivity
  rcases hRing.joins_of_zero hIsUp hIsDown hUpZero.symm
    hDownZero.symm with ⟨hUpIs, hDownIs⟩
  have hUpFarPos :
      0 < orient (v i) (v (next i)) (v (next up)) := by
    apply hRing.onLeft
    · rw [hUpIs]
      exact hRing.noReturn i
    · rw [hUpIs]
      exact hRing.next_ne (next i)
  have hDownFarPos :
      0 < orient (v i) (v (next i)) (v down) := by
    apply hRing.onLeft i down hIsDown
    rw [← hDownIs]
    exact (hRing.noReturn down).symm
  rcases hUpDepth.lt_or_eq with hPos | hUpLevel
  · positivity
  rcases hDownDepth.lt_or_eq with hPos | hDownLevel
  · positivity
  -- the joining edge is level and would hold the point
  refine absurd ?_ (hOff i)
  rw [← hUpIs]
  nth_rewrite 1 [← hDownIs]
  exact mem_segment_of_low_ends hUp hDown hLeft hRight
    (by linarith) (by linarith)

/-
  A point off the edges is crossed on its right an odd
  number of times if and only if it is on the left of every
  edge.
-/
theorem odd_crossings_iff
    [Fintype ι]
    [Nonempty ι]
    (hRing : ConvexRing v next)
    (hOff : ∀ i, p ∉ segment K (v i) (v (next i))) :
    Odd (Finset.univ.filter
        (fun i => RayCrosses p (v i) (v (next i)))).card ↔
      ∀ i, 0 < orient (v i) (v (next i)) p := by
  by_cases hPasses : ∃ i, Rises p (v i) (v (next i)) ∨
      Rises p (v (next i)) (v i)
  · rcases exists_rises_and_falls hPasses with
      ⟨⟨up, hUp⟩, down, hDown⟩
    have hNe : up ≠ down := by
      rintro rfl
      exact absurd hUp.2 (not_lt.mpr hDown.1)
    have hOnly : ∀ i, RayCrosses p (v i) (v (next i)) →
        i = up ∨ i = down := by
      intro i hCrosses
      rcases rises_or_falls_of_rayCrosses hCrosses with
        hRises | hFalls
      · exact Or.inl (hRing.eq_of_rises hRises hUp)
      · exact Or.inr (hRing.eq_of_falls hFalls hDown)
    rw [odd_card_filter_pair hNe hOnly,
      rayCrosses_of_rises hUp, rayCrosses_of_falls hDown]
    constructor
    · intro hParity
      by_cases hLeft : 0 < orient (v up) (v (next up)) p
      · have hAhead := not_lt.mp (hParity.mp hLeft)
        rcases hAhead.lt_or_eq with hRight | hLine
        · exact hRing.inside_of_between hOff hUp hDown
            hLeft hRight
        · have hBack :
              orient (v (next down)) (v down) p = 0 := by
            rw [orient_swap, ← hLine, neg_zero]
          have hHeld := mem_segment_of_rises hDown hBack
          rw [segment_symm] at hHeld
          exact absurd hHeld (hOff down)
      · have hBehind := not_not.mp (mt hParity.mpr hLeft)
        exact (hRing.not_outside_both hOff hUp hDown
          (not_lt.mp hLeft) hBehind.le).elim
    · intro hInside
      exact iff_of_true (hInside up)
        (not_lt.mpr (hInside down).le)
  · have hNone : Finset.univ.filter
        (fun i => RayCrosses p (v i) (v (next i))) = ∅ := by
      refine Finset.filter_eq_empty_iff.mpr ?_
      intro i _ hCrosses
      exact hPasses
        ⟨i, rises_or_falls_of_rayCrosses hCrosses⟩
    rw [hNone]
    refine iff_of_false (by simp) ?_
    intro hInside
    exact hPasses (hRing.passes_of_inside hInside)

/- A ring has the same crossings in both directions. -/
omit [IsStrictOrderedRing K] in
theorem card_crossings_symm
    [Fintype ι]
    (v : ι → K × K)
    (next : Equiv.Perm ι)
    (p : K × K) :
    (Finset.univ.filter
        (fun i => RayCrosses p (v i) (v (next i)))).card =
      (Finset.univ.filter
        (fun i =>
          RayCrosses p (v i) (v (next.symm i)))).card := by
  refine Finset.card_equiv next ?_
  intro i
  simp only [Finset.mem_filter, Finset.mem_univ, true_and,
    Equiv.symm_apply_apply]
  exact rayCrosses_swap p (v i) (v (next i))

/- The same for a ring that has all points on its right. -/
theorem odd_crossings_iff_of_right
    [Fintype ι]
    [Nonempty ι]
    (hReturn : ∀ i, next (next i) ≠ i)
    (hRight :
      ∀ i k, k ≠ i → k ≠ next i →
        orient (v i) (v (next i)) (v k) < 0)
    (hOff : ∀ i, p ∉ segment K (v i) (v (next i))) :
    Odd (Finset.univ.filter
        (fun i => RayCrosses p (v i) (v (next i)))).card ↔
      ∀ i, orient (v i) (v (next i)) p < 0 := by
  have hRing := of_symm hReturn hRight
  have hOffBack :
      ∀ i, p ∉ segment K (v i) (v (next.symm i)) := by
    intro i
    have hEdge := hOff (next.symm i)
    rwa [Equiv.apply_symm_apply, segment_symm] at hEdge
  rw [card_crossings_symm,
    hRing.odd_crossings_iff hOffBack]
  constructor
  · intro hLeft i
    have hBack := hLeft (next i)
    rw [Equiv.symm_apply_apply, orient_swap] at hBack
    exact Left.neg_pos_iff.mp hBack
  · intro hRightOf i
    have hForth := hRightOf (next.symm i)
    rw [Equiv.apply_symm_apply] at hForth
    rw [orient_swap]
    exact Left.neg_pos_iff.mpr hForth

end ConvexRing

end Library
