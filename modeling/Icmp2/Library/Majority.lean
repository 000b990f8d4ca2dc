import Mathlib.Data.List.Sort

/-
  Lists that agree in most places.

  Main definitions include:
    * `Library.mismatches`
    * `Library.links`

  Main theorems include:
    * `Library.countP_links_le`
    * `Library.le_getElem_of_countP_le`
    * `Library.getElem_le_of_countP_lt`

  A wrong item spoils the two links that it is part of, and
  few wrong items do not reach the middle of a sorted list.
-/

------------------------------------------------------------
-- Links
------------------------------------------------------------

namespace Library

variable {A : Type}

/- The pairs of neighbours of a list. -/
def links : List A → List (A × A)
  | x :: y :: rest => (x, y) :: links (y :: rest)
  | _ => []

variable [DecidableEq A]

/- In how many places two lists differ. -/
def mismatches : List A → List A → Nat
  | x :: xs, y :: ys =>
      (if x = y then 0 else 1) + mismatches xs ys
  | _, _ => 0

variable {Good : A × A → Prop}
variable [DecidablePred Good]

/- A wrong first item has one link only. -/
theorem countP_links_add_le
    {clean measured : List A}
    (hLength : measured.length = clean.length)
    (hGood : ∀ link ∈ links clean, Good link) :
    (links measured).countP (fun link => ¬ Good link) +
        (if clean.head? = measured.head? then 0 else 1) ≤
      2 * mismatches clean measured := by
  induction clean generalizing measured with
  | nil =>
      rw [List.length_eq_zero_iff.mp hLength]
      simp [links]
  | cons x clean ih =>
      cases measured with
      | nil => cases hLength
      | cons y measured =>
          have hLength := Nat.succ.inj hLength
          cases clean with
          | nil =>
              rw [List.length_eq_zero_iff.mp hLength]
              by_cases hSame : x = y
              · simp [links, hSame]
              · simp [links, mismatches, hSame]
          | cons x' clean =>
              cases measured with
              | nil => cases hLength
              | cons y' measured =>
                  have hRest :=
                    ih hLength fun link hLink =>
                      hGood link
                        (List.mem_cons_of_mem _ hLink)
                  have hFirst : Good (x, x') :=
                    hGood _ List.mem_cons_self
                  rw [links, List.countP_cons, mismatches]
                  simp only [List.head?_cons,
                    Option.some.injEq] at hRest ⊢
                  by_cases hSame : x = y
                  · by_cases hNext : x' = y'
                    · subst hSame hNext
                      simp only [if_true, hFirst,
                        not_true_eq_false, decide_false,
                        Bool.false_eq_true, if_false]
                        at hRest ⊢
                      omega
                    · rw [if_neg hNext] at hRest
                      rw [if_pos hSame]
                      split <;> omega
                  · rw [if_neg hSame]
                    split <;> omega

/- Few wrong items spoil few links. -/
theorem countP_links_le
    {clean measured : List A}
    (hLength : measured.length = clean.length)
    (hGood : ∀ link ∈ links clean, Good link) :
    (links measured).countP (fun link => ¬ Good link) ≤
      2 * mismatches clean measured :=
  (Nat.le_add_right _ _).trans
    (countP_links_add_le hLength hGood)

end Library

------------------------------------------------------------
-- Places in a Sorted List
------------------------------------------------------------

namespace Library

variable {T : Type}
variable [LinearOrder T]
variable {xs : List T}

/- An item is not below a bound that few items are below. -/
theorem le_getElem_of_countP_le
    (hSorted : xs.SortedLE)
    {lo : T}
    {i : Nat}
    (hLt : i < xs.length)
    (hFew : xs.countP (fun x => x < lo) ≤ i) :
    lo ≤ xs[i] := by
  by_contra hBelow
  have hAll :
      ∀ x ∈ xs.take (i + 1), x < lo := by
    intro x hMem
    rcases List.mem_take_iff_getElem.mp hMem with
      ⟨j, hj, rfl⟩
    have hji : j ≤ i :=
      Nat.lt_succ_iff.mp
        (hj.trans_le (Nat.min_le_left _ _))
    exact
      (hSorted.getElem_le_getElem_of_le hji).trans_lt
        (not_le.mp hBelow)
  have hTaken :
      (xs.take (i + 1)).countP (fun x => x < lo) =
        i + 1 := by
    rw [List.countP_eq_length.mpr (by simpa using hAll),
      List.length_take, min_eq_left hLt]
  have hSub :
      (xs.take (i + 1)).countP (fun x => x < lo) ≤
        xs.countP (fun x => x < lo) :=
    (List.take_sublist (i + 1) xs).countP_le
  omega

/- An item is not above a bound that few items are above. -/
theorem getElem_le_of_countP_lt
    (hSorted : xs.SortedLE)
    {hi : T}
    {i : Nat}
    (hLt : i < xs.length)
    (hFew :
      xs.countP (fun x => hi < x) < xs.length - i) :
    xs[i] ≤ hi := by
  by_contra hAbove
  have hAll : ∀ x ∈ xs.drop i, hi < x := by
    intro x hMem
    rcases List.mem_drop_iff_getElem.mp hMem with
      ⟨j, hj, rfl⟩
    exact
      (not_le.mp hAbove).trans_le
        (hSorted.getElem_le_getElem_of_le
          (Nat.le_add_right i j))
  have hDropped :
      (xs.drop i).countP (fun x => hi < x) =
        xs.length - i := by
    rw [List.countP_eq_length.mpr (by simpa using hAll),
      List.length_drop]
  have hSub :
      (xs.drop i).countP (fun x => hi < x) ≤
        xs.countP (fun x => hi < x) :=
    (List.drop_sublist i xs).countP_le
  omega

end Library
