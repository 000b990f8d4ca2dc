import Mathlib.Algebra.BigOperators.Fin
import Mathlib.Algebra.Ring.Parity
import Mathlib.Data.List.Rotate
import Mathlib.Logic.Equiv.Fin.Rotate

/-
  The parity of the marked steps of a walk.

  Main definitions include:
    * `Library.walkParity`
    * `Library.loopParity`

  Main theorems include:
    * `Library.loopParity_rotate`
    * `Library.loopParity_reverse`
    * `Library.loopParity_split`
    * `Library.loopParity_iff_odd`

  A walk visits the members of a list from a start; a loop
  goes from the last member of its list back to the first.
  Members may repeat.
-/

------------------------------------------------------------
-- Walks
------------------------------------------------------------

namespace Library

variable {α : Type}
variable (mark : α → α → Bool)

/- The parity of the marked steps on the way. -/
def walkParity : α → List α → Bool
  | _, [] => false
  | start, next :: rest =>
      mark start next ^^ walkParity next rest

/- The parity around a loop, its closing step included. -/
def loopParity : List α → Bool
  | [] => false
  | first :: rest =>
      walkParity mark (rest.getLastD first) (first :: rest)

theorem walkParity_append
    (start : α)
    (first second : List α) :
    walkParity mark start (first ++ second) =
      (walkParity mark start first ^^
        walkParity mark (first.getLastD start) second) := by
  induction first generalizing start with
  | nil => simp [walkParity]
  | cons next first ih =>
      simp only [List.cons_append, walkParity, ih,
        Bool.xor_assoc]
      cases first <;> rfl

/- A walk is cut at any member it passes. -/
theorem walkParity_through
    (start middle : α)
    (first second : List α) :
    walkParity mark start (first ++ middle :: second) =
      (walkParity mark start (first ++ [middle]) ^^
        walkParity mark middle second) := by
  rw [List.append_cons, walkParity_append]
  simp

/- The closing step may be taken last. -/
theorem loopParity_cons
    (first : α)
    (rest : List α) :
    loopParity mark (first :: rest) =
      walkParity mark first (rest ++ [first]) := by
  rw [walkParity_append, loopParity]
  simp [walkParity, Bool.xor_comm]

end Library

------------------------------------------------------------
-- Loops
------------------------------------------------------------

namespace Library

variable {α : Type}
variable {mark : α → α → Bool}

theorem loopParity_append_comm
    (first second : List α) :
    loopParity mark (first ++ second) =
      loopParity mark (second ++ first) := by
  cases first with
  | nil => simp
  | cons one first =>
      cases second with
      | nil => simp
      | cons two second =>
          simp only [List.cons_append, loopParity_cons,
            List.append_assoc]
          rw [walkParity_through mark one two first,
            walkParity_through mark two one second
              (first ++ [two]),
            Bool.xor_comm]

theorem loopParity_rotate
    (members : List α)
    (count : Nat) :
    loopParity mark (members.rotate count) =
      loopParity mark members := by
  rw [List.rotate_eq_drop_append_take_mod,
    loopParity_append_comm, List.take_append_drop]

variable (hSymm : ∀ one two, mark one two = mark two one)

include hSymm

theorem walkParity_reverse
    (start finish : α)
    (members : List α) :
    walkParity mark start (members ++ [finish]) =
      walkParity mark finish
        (members.reverse ++ [start]) := by
  induction members generalizing start with
  | nil => simp [walkParity, hSymm start finish]
  | cons next members ih =>
      rw [List.cons_append, walkParity, ih,
        List.reverse_cons, List.append_assoc,
        List.singleton_append,
        walkParity_through mark finish next
          members.reverse [start]]
      simp [walkParity, hSymm next start, Bool.xor_comm]

theorem loopParity_reverse
    (members : List α) :
    loopParity mark members.reverse =
      loopParity mark members := by
  cases members with
  | nil => rfl
  | cons first rest =>
      rw [List.reverse_cons, loopParity_append_comm,
        List.singleton_append, loopParity_cons,
        loopParity_cons,
        ← walkParity_reverse hSymm first first rest]

/-
  A chord between two members cuts a loop in two.  The
  chord is walked once each way, so it cancels.
-/
theorem loopParity_split
    (before between after : List α)
    (one two : α) :
    loopParity mark
        (before ++ one :: (between ++ two :: after)) =
      (loopParity mark (one :: (between ++ [two])) ^^
        loopParity mark
          (two :: (after ++ (before ++ [one])))) := by
  have hWhole :
      loopParity mark
          (before ++ one :: (between ++ two :: after)) =
        (walkParity mark one (between ++ [two]) ^^
          walkParity mark two
            (after ++ (before ++ [one]))) := by
    rw [loopParity_append_comm, List.cons_append,
      loopParity_cons, List.append_assoc,
      List.append_assoc, List.cons_append,
      walkParity_through]
  have hNear :
      loopParity mark (one :: (between ++ [two])) =
        (walkParity mark one (between ++ [two]) ^^
          mark two one) := by
    rw [loopParity_cons, List.append_assoc,
      List.singleton_append, walkParity_through]
    simp [walkParity]
  have hFar :
      loopParity mark
          (two :: (after ++ (before ++ [one]))) =
        (walkParity mark two
            (after ++ (before ++ [one])) ^^
          mark one two) := by
    rw [loopParity_cons, ← List.append_assoc after,
      List.append_assoc (after ++ before),
      List.singleton_append, walkParity_through]
    simp [walkParity]
  rw [hWhole, hNear, hFar, hSymm two one]
  generalize walkParity mark one (between ++ [two]) = near
  generalize
    walkParity mark two (after ++ (before ++ [one])) = far
  cases near <;> cases far <;> cases mark one two <;> rfl

end Library

------------------------------------------------------------
-- Counting
------------------------------------------------------------

namespace Library

variable {α : Type}
variable (mark : α → α → Bool)

/- The walk as a sum over the positions of its steps. -/
theorem walkParity_iff_odd
    (start : α)
    (members : List α) :
    walkParity mark start members = true ↔
      Odd (∑ i : Fin members.length,
        (mark ((start :: members).get i.castSucc)
          (members.get i)).toNat) := by
  induction members generalizing start with
  | nil => simp [walkParity]
  | cons next members ih =>
      have hSum := Fin.sum_univ_succ
        (fun i : Fin (members.length + 1) =>
          (mark ((start :: next :: members).get i.castSucc)
            ((next :: members).get i)).toNat)
      have hTail := ih next
      rw [walkParity]
      refine Iff.trans ?_ (iff_of_eq (congrArg Odd hSum.symm))
      rw [add_comm, Nat.odd_add]
      cases hMark : mark start next with
      | false => simpa [hMark] using hTail
      | true =>
          have hOdd := not_congr hTail
          simpa [hMark, Nat.not_even_iff_odd] using hOdd

/- The steps of a loop, one from every position. -/
theorem loopParity_iff_odd
    (members : List α) :
    loopParity mark members = true ↔
      Odd (Finset.univ.filter
        (fun i : Fin members.length =>
          mark (members.get i)
            (members.get
              (finRotate members.length i)) = true)).card := by
  cases members with
  | nil => simp [loopParity]
  | cons first rest =>
      have hLength :
          (rest ++ [first]).length =
            (first :: rest).length := by
        simp
      rw [loopParity_cons, walkParity_iff_odd,
        Finset.card_filter]
      refine iff_of_eq (congrArg Odd ?_)
      refine Fintype.sum_equiv (finCongr hLength) _ _ ?_
      intro i
      have hBound : i.val < rest.length + 1 := by
        simpa using i.isLt
      have hStart :
          (first :: (rest ++ [first])).get i.castSucc =
            (first :: rest).get (finCongr hLength i) := by
        simp only [List.get_eq_getElem, Fin.val_castSucc,
          finCongr_apply_coe, ← List.cons_append]
        exact List.getElem_append_left _
      have hTurn :
          (finRotate (rest.length + 1)
              (finCongr hLength i)).val =
            if i.val = rest.length then 0
            else i.val + 1 := by
        rw [coe_finRotate]
        simp [Fin.ext_iff]
      have hNext :
          (rest ++ [first]).get i =
            (first :: rest).get
              (finRotate (rest.length + 1)
                (finCongr hLength i)) := by
        simp only [List.get_eq_getElem, hTurn]
        by_cases hLast : i.val = rest.length
        · simp [hLast]
        · have hInside : i.val < rest.length := by omega
          simp [hLast, hInside]
      rw [hStart, hNext]
      cases mark _ _ <;> rfl

end Library
