import Mathlib.Order.Bounds.Basic
import Mathlib.Data.Nat.Init
import Mathlib.Data.List.Basic

/-
  Codes made of a marker and a number.

  Main definitions include:
    * `Library.Decimals`
    * `Library.firstNumber`
    * `Library.numberedCode`
    * `Library.nextNumber`

  Main theorems include:
    * `Library.firstNumber_numberedCode`
    * `Library.isLeast_nextNumber`
    * `Library.numberedCode_nextNumber_not_mem`

  A text may hold a code anywhere; the first marker that is
  followed by a digit counts.  The number of a new code is
  the least one above all numbers that are found.
-/

------------------------------------------------------------
-- Reading Numbers
------------------------------------------------------------

namespace Library

/- The digits that a number may be written with. -/
structure Decimals where
  value? : Char → Option Nat
  ascii :
    ∀ c : Char, c.isDigit = true →
      value? c = some (c.toNat - '0'.toNat)

/- The ten digits of ASCII, and no others. -/
def asciiDecimals : Decimals where
  value? := fun c =>
    if c.isDigit then some (c.toNat - '0'.toNat) else none
  ascii := fun _ hDigit => if_pos hDigit

variable (decimals : Decimals)

/- The values of the digits in front. -/
def leadingDigits : List Char → List Nat
  | [] => []
  | c :: rest =>
      match decimals.value? c with
      | none => []
      | some digit => digit :: leadingDigits rest

def readDigits
    (digits : List Nat) :
    Nat :=
  digits.foldl (fun number digit => 10 * number + digit) 0

/- The number behind a marker that the text begins with. -/
def numberAt
    (marker text : List Char) :
    Option Nat :=
  let digits :=
    leadingDigits decimals (text.drop marker.length)
  if marker.isPrefixOf text ∧ digits ≠ [] then
    some (readDigits digits)
  else
    none

/- The number behind the first marker that has one. -/
def firstNumber
    (marker : List Char) :
    List Char →
    Option Nat
  | [] => none
  | c :: rest =>
      match numberAt decimals marker (c :: rest) with
      | some number => some number
      | none => firstNumber marker rest

end Library

------------------------------------------------------------
-- Writing Numbers
------------------------------------------------------------

namespace Library

/- A number with zeros in front, up to the width. -/
def padded
    (width number : Nat) :
    List Char :=
  List.leftpad width '0' (Nat.toDigits 10 number)

def numberedCode
    (marker : List Char)
    (width number : Nat) :
    List Char :=
  marker ++ padded width number

/- One above the greatest number, or one. -/
def nextNumber
    (numbers : List Nat) :
    Nat :=
  match numbers.max? with
  | some greatest => greatest + 1
  | none => 1

variable (decimals : Decimals)

theorem isDigit_of_mem_padded
    {width number : Nat}
    {c : Char}
    (hMem : c ∈ padded width number) :
    c.isDigit = true := by
  rcases List.mem_append.mp hMem with hZero | hDigit
  · rw [List.eq_of_mem_replicate hZero]
    decide
  · exact
      Nat.isDigit_of_mem_toDigits (by decide) (by decide)
        hDigit

theorem padded_ne_nil
    (width number : Nat) :
    padded width number ≠ [] := by
  intro hNil
  have hDigits : Nat.toDigits 10 number = [] :=
    (List.append_eq_nil_iff.mp hNil).2
  exact Nat.toDigits_ne_nil hDigits

/- Digits of ASCII are read as what they are. -/
theorem leadingDigits_of_ascii
    {text : List Char}
    (hAscii : ∀ c ∈ text, c.isDigit = true) :
    leadingDigits decimals text =
      text.map fun c => c.toNat - '0'.toNat := by
  induction text with
  | nil => rfl
  | cons c rest ih =>
      rw [leadingDigits,
        decimals.ascii c (hAscii c List.mem_cons_self)]
      exact congrArg (_ :: ·)
        (ih fun d hMem =>
          hAscii d (List.mem_cons_of_mem c hMem))

theorem readDigits_map
    (text : List Char) :
    readDigits (text.map fun c => c.toNat - '0'.toNat) =
      Nat.ofDigitChars 10 text 0 := by
  rw [readDigits, List.foldl_map,
    Nat.ofDigitChars_eq_foldl]

/- The zeros in front of a number do not count. -/
theorem readDigits_padded
    (width number : Nat) :
    readDigits
        ((padded width number).map
          fun c => c.toNat - '0'.toNat) =
      number := by
  rw [readDigits_map, padded, List.leftpad,
    Nat.ofDigitChars_append,
    Nat.ofDigitChars_replicate_zero, Nat.mul_zero,
    Nat.ofDigitChars_ten_toDigits]

/- The number of a code is read back from it. -/
theorem firstNumber_numberedCode
    (marker : List Char)
    (width number : Nat) :
    firstNumber decimals marker
        (numberedCode marker width number) =
      some number := by
  have hDigits :
      leadingDigits decimals (padded width number) =
        (padded width number).map
          fun c => c.toNat - '0'.toNat :=
    leadingDigits_of_ascii decimals fun _ hMem =>
      isDigit_of_mem_padded hMem
  have hFound :
      numberAt decimals marker
          (numberedCode marker width number) =
        some number := by
    have hPrefix :
        marker.isPrefixOf
            (numberedCode marker width number) =
          true :=
      List.isPrefixOf_iff_prefix.mpr
        (List.prefix_append marker _)
    have hDrop :
        (numberedCode marker width number).drop
            marker.length =
          padded width number :=
      List.drop_left
    have hSome :
        (padded width number).map
            (fun c => c.toNat - '0'.toNat) ≠
          [] :=
      fun hMap =>
        padded_ne_nil width number
          (List.map_eq_nil_iff.mp hMap)
    simp only [numberAt, hDrop, hDigits]
    rw [if_pos ⟨hPrefix, hSome⟩, readDigits_padded]
  cases hText : numberedCode marker width number with
  | nil =>
      exact absurd (List.append_eq_nil_iff.mp hText).2
        (padded_ne_nil width number)
  | cons c rest =>
      rw [hText] at hFound
      rw [firstNumber, hFound]

theorem lt_nextNumber
    {numbers : List Nat}
    {number : Nat}
    (hMem : number ∈ numbers) :
    number < nextNumber numbers := by
  unfold nextNumber
  cases hMax : numbers.max? with
  | none =>
      rw [List.max?_eq_none_iff.mp hMax] at hMem
      exact absurd hMem List.not_mem_nil
  | some greatest =>
      exact Nat.lt_succ_of_le
        ((List.max?_eq_some_iff.mp hMax).2 number hMem)

/- The next number is the least one above all others. -/
theorem isLeast_nextNumber
    (numbers : List Nat) :
    IsLeast
      {number | 0 < number ∧ ∀ other ∈ numbers,
        other < number}
      (nextNumber numbers) := by
  constructor
  · refine ⟨?_, fun other hMem => lt_nextNumber hMem⟩
    unfold nextNumber
    split <;> omega
  · rintro number ⟨hPos, hAbove⟩
    unfold nextNumber
    cases hMax : numbers.max? with
    | none => exact hPos
    | some greatest =>
        exact hAbove greatest
          (List.max?_eq_some_iff.mp hMax).1

/- No text of which numbers are read is the next code. -/
theorem numberedCode_nextNumber_not_mem
    (marker : List Char)
    (width : Nat)
    (texts : List (List Char)) :
    numberedCode marker width
        (nextNumber
          (texts.filterMap (firstNumber decimals marker))) ∉
      texts := by
  intro hMem
  have hNumber :=
    List.mem_filterMap.mpr
      ⟨_, hMem,
        firstNumber_numberedCode decimals marker width _⟩
  exact absurd (lt_nextNumber hNumber) (Nat.lt_irrefl _)

end Library
