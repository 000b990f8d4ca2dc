import Mathlib.Data.List.Destutter

/-
  What a latch reports of the values it takes over.

  Main definitions include:
    * `Library.edge`
    * `Library.edges`

  Main theorems include:
    * `Library.edges_append`
    * `Library.cons_edges`
    * `Library.edges_alternate`

  A latch holds the last value that it saw and reports a
  value that differs from the one it holds.
-/

------------------------------------------------------------
-- Edges
------------------------------------------------------------

namespace Library

variable {A : Type}
variable [DecidableEq A]

/- The report on one value. -/
def edge
    (held value : A) :
    Option A :=
  if held = value then none else some value

/- The reports on a list of values, first value first. -/
def edges : A → List A → List A
  | _, [] => []
  | held, value :: values =>
      (edge held value).toList ++ edges value values

/- The value held behind a list, half by half. -/
theorem getLastD_append
    {B : Type}
    (held : B)
    (first second : List B) :
    (first ++ second).getLastD held =
      second.getLastD (first.getLastD held) := by
  induction first generalizing held with
  | nil => rfl
  | cons value first ih =>
      rw [List.cons_append, List.getLastD_cons,
        List.getLastD_cons]
      exact ih value

theorem edges_append
    (held : A)
    (first second : List A) :
    edges held (first ++ second) =
      edges held first ++
        edges (first.getLastD held) second := by
  induction first generalizing held with
  | nil => rfl
  | cons value first ih =>
      rw [List.cons_append, edges, edges, ih,
        List.append_assoc]
      cases first <;> rfl

/- Repeated values are left out, and nothing else. -/
theorem cons_edges
    (held : A)
    (values : List A) :
    held :: edges held values =
      values.destutter' (· ≠ ·) held := by
  induction values generalizing held with
  | nil => rfl
  | cons value values ih =>
      rw [edges, edge]
      by_cases hSame : held = value
      · subst hSame
        rw [if_pos rfl,
          List.destutter'_cons_neg _ (not_not.mpr rfl)]
        exact ih held
      · rw [if_neg hSame, List.destutter'_cons_pos _ hSame,
          ← ih value]
        rfl

/- No value is reported twice in a row. -/
theorem edges_alternate
    (held : A)
    (values : List A) :
    (held :: edges held values).IsChain (· ≠ ·) := by
  rw [cons_edges]
  exact List.isChain_destutter' _ _ _

end Library
