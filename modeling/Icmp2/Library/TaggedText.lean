import Mathlib.Data.List.Infix

/-
  Substring search in texts that open with a tag.

  Main definitions include:
    * `Library.Contains`
    * `Library.tagged?`

  Main theorems include:
    * `Library.marked_infix_iff`
    * `Library.delimited_prefix_iff`
    * `Library.delimited_eq`
    * `Library.tagged?_append`
    * `Library.prefix_of_tagged?`

  A text starts with a mark that occurs nowhere else in it.
  A pattern that starts with the same mark can then only
  occur at the start of the text, so substring search is a
  comparison of prefixes.
-/

------------------------------------------------------------
-- Substrings
------------------------------------------------------------

namespace Library

/- `part` occurs somewhere in `whole`. -/
def Contains
    (whole part : String) :
    Prop :=
  part.toList <:+: whole.toList

instance
    (whole part : String) :
    Decidable (Contains whole part) := by
  unfold Contains
  infer_instance

end Library

------------------------------------------------------------
-- Marks and Delimiters
------------------------------------------------------------

namespace Library

variable {A : Type}

/-
  A pattern that opens with a mark the body does not have
  occurs in the marked body only at its start.
-/
theorem marked_infix_iff
    {mark : A}
    {part body : List A}
    (hMark : mark ∉ body) :
    mark :: part <:+: mark :: body ↔ part <+: body := by
  constructor
  · rintro ⟨before, after, hEq⟩
    cases before with
    | nil =>
        refine ⟨after, ?_⟩
        simpa using hEq
    | cons head before =>
        simp only [List.cons_append,
          List.cons.injEq] at hEq
        have hMem : mark ∈ body := by
          rw [← hEq.2]
          simp
        exact absurd hMem hMark
  · rintro ⟨after, hEq⟩
    refine ⟨[], after, ?_⟩
    simp [hEq]

/-
  Two texts cut at the first delimiter: the left parts
  agree and the right parts are compared.
-/
theorem delimited_prefix_iff
    {delimiter : A}
    {left right : List A}
    (hLeft : delimiter ∉ left)
    (hRight : delimiter ∉ right)
    (part body : List A) :
    left ++ delimiter :: part <+:
        right ++ delimiter :: body ↔
      left = right ∧ part <+: body := by
  induction left generalizing right with
  | nil =>
      cases right with
      | nil => simp
      | cons head right =>
          have hNe : delimiter ≠ head := by
            intro hEq
            exact hRight (hEq ▸ List.mem_cons_self)
          simp [hNe]
  | cons head left ih =>
      cases right with
      | nil =>
          have hNe : head ≠ delimiter := by
            intro hEq
            exact hLeft (hEq ▸ List.mem_cons_self)
          simp [hNe]
      | cons other right =>
          have hLeftTail : delimiter ∉ left := by
            intro hMem
            exact
              hLeft (List.mem_cons_of_mem head hMem)
          have hRightTail : delimiter ∉ right := by
            intro hMem
            exact
              hRight (List.mem_cons_of_mem other hMem)
          simp only [List.cons_append,
            List.cons_prefix_cons, List.cons.injEq,
            ih hLeftTail hRightTail, and_assoc]

/- Equal texts are cut at the first delimiter alike. -/
theorem delimited_eq
    {delimiter : A}
    {left right part body : List A}
    (hLeft : delimiter ∉ left)
    (hRight : delimiter ∉ right)
    (hEq :
      left ++ delimiter :: part =
        right ++ delimiter :: body) :
    left = right ∧ part = body := by
  have hPrefix :
      left ++ delimiter :: part <+:
        right ++ delimiter :: body := by
    rw [hEq]
  have hSame :=
    (delimited_prefix_iff
      hLeft hRight part body).mp hPrefix
  rw [hSame.1] at hEq
  have hTail := List.append_cancel_left hEq
  exact ⟨hSame.1, (List.cons.inj hTail).2⟩

end Library

------------------------------------------------------------
-- Tagged Lines
------------------------------------------------------------

namespace Library

variable {A : Type} [DecidableEq A]

/- The text up to the first delimiter. -/
def firstLine
    (delimiter : A)
    (text : List A) :
    List A :=
  text.takeWhile fun c => c ≠ delimiter

/- What follows a tag on the first line of a text. -/
def tagged?
    (tag : List A)
    (delimiter : A)
    (text : List A) :
    Option (List A) :=
  if tag <+: text then
    some (firstLine delimiter (text.drop tag.length))
  else
    none

variable {tag body text : List A}
variable {delimiter : A}

theorem firstLine_of_not_mem
    (hMem : delimiter ∉ text) :
    firstLine delimiter text = text := by
  unfold firstLine
  induction text with
  | nil => rfl
  | cons c text ih =>
      rw [List.mem_cons, not_or] at hMem
      rw [List.takeWhile_cons, if_pos, ih hMem.2]
      exact decide_eq_true (Ne.symm hMem.1)

/- What is behind a delimiter does not count. -/
theorem firstLine_append
    (text rest : List A) :
    firstLine delimiter (text ++ delimiter :: rest) =
      firstLine delimiter text := by
  unfold firstLine
  induction text with
  | nil => simp
  | cons c text ih =>
      rw [List.cons_append, List.takeWhile_cons,
        List.takeWhile_cons, ih]

/- A tag and a line are read back. -/
theorem tagged?_append
    (tag body rest : List A) :
    tagged? tag delimiter
        (tag ++ (body ++ delimiter :: rest)) =
      some (firstLine delimiter body) := by
  rw [tagged?, if_pos (List.prefix_append tag _),
    List.drop_left, firstLine_append]

/- A text begins with the tag and what is read behind it. -/
theorem prefix_of_tagged?
    (hTagged : tagged? tag delimiter text = some body) :
    tag ++ body <+: text := by
  unfold tagged? at hTagged
  split at hTagged
  · rename_i hTag
    cases hTagged
    rcases hTag with ⟨rest, rfl⟩
    rw [List.drop_left]
    exact
      (List.prefix_append_right_inj tag).mpr
        (List.takeWhile_prefix _)
  · cases hTagged

end Library
