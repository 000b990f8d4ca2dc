import Mathlib.Data.Rat.Defs
import Icmp2.Library.TaggedText

/-
  Text operations of the server's language.

  Main definitions include:
    * `Icmp2.upper`
    * `Icmp2.lower`
    * `Icmp2.Letters`
    * `Icmp2.strip`
    * `Icmp2.commaJoin`
    * `Icmp2.decimalDigit?`
    * `Icmp2.FloatText`
    * `Icmp2.wholeText`
-/

------------------------------------------------------------
-- Strings
------------------------------------------------------------

namespace Icmp2

/- `str.upper` of names that are written in ASCII. -/
def upper
    (text : String) :
    String :=
  String.ofList (text.toList.map Char.toUpper)

/- `str.lower` of names that are written in ASCII. -/
def lower
    (text : String) :
    String :=
  String.ofList (text.toList.map Char.toLower)

/- A capital letter is not a small one. -/
theorem toUpper_toUpper
    (c : Char) :
    c.toUpper.toUpper = c.toUpper := by
  unfold Char.toUpper
  split_ifs with hLower hTwice
  · exfalso
    simp only [UInt32.le_iff_toNat_le, UInt32.toNat_add,
      Char.reduceVal, UInt32.reduceToNat, Char.toNat_val,
      UInt32.reduceSub] at hLower hTwice
    omega
  · rfl
  · rfl

theorem upper_upper
    (text : String) :
    upper (upper text) = upper text := by
  unfold upper
  rw [String.toList_ofList, List.map_map]
  congr 1
  apply List.map_congr_left
  intro c _
  exact toUpper_toUpper c

/- `str.isascii`. -/
def isAscii
    (text : String) :
    Bool :=
  text.toList.all fun c => c.toNat < 128

/-
  What is known of the letters of all scripts: `str.upper`
  and `str.lower`, and the `UPPER` with which the database
  compares texts whatever the case of their letters.
-/
class Letters where
  upper : String → String
  lower : String → String
  sqlUpper : String → String
  upper_ascii :
    ∀ text : String,
      isAscii text = true → upper text = Icmp2.upper text
  lower_ascii :
    ∀ text : String,
      isAscii text = true → lower text = Icmp2.lower text
  upper_upper :
    ∀ text, upper (upper text) = upper text
  sqlUpper_upper :
    ∀ text, sqlUpper (upper text) = upper text

/- The letters of ASCII, where no others occur. -/
@[reducible] def asciiLetters : Letters where
  upper := upper
  lower := lower
  sqlUpper := upper
  upper_ascii := fun _ _ => rfl
  lower_ascii := fun _ _ => rfl
  upper_upper := upper_upper
  sqlUpper_upper := upper_upper

/- The characters for which `str.isspace` holds. -/
def isSpace
    (c : Char) :
    Bool :=
  let n := c.toNat
  (9 ≤ n && n ≤ 13) || (28 ≤ n && n ≤ 32) ||
    n == 133 || n == 160 || n == 5760 ||
    (8192 ≤ n && n ≤ 8202) || n == 8232 || n == 8233 ||
    n == 8239 || n == 8287 || n == 12288

/- `str.strip` without arguments. -/
def strip
    (text : String) :
    String :=
  String.ofList
    ((text.toList.dropWhile isSpace).reverse.dropWhile
      isSpace).reverse

/- `', '.join(parts)`. -/
def commaJoin
    (parts : List String) :
    String :=
  ", ".intercalate parts

/- The characters of a joined text come from its parts. -/
theorem mem_commaJoin
    {c : Char}
    {parts : List String}
    (hMem : c ∈ (commaJoin parts).toList) :
    c = ',' ∨ c = ' ' ∨
      ∃ part ∈ parts, c ∈ part.toList := by
  unfold commaJoin at hMem
  induction parts with
  | nil =>
      simp at hMem
  | cons part parts ih =>
      cases parts with
      | nil =>
          rw [String.intercalate_singleton] at hMem
          exact
            Or.inr (Or.inr ⟨part, List.mem_cons_self, hMem⟩)
      | cons next parts =>
          rw [String.intercalate_cons_cons] at hMem
          simp only [String.toList_append,
            List.mem_append] at hMem
          rcases hMem with (hPart | hComma) | hRest
          · exact
              Or.inr
                (Or.inr ⟨part, List.mem_cons_self, hPart⟩)
          · have hPair : c ∈ [',', ' '] := hComma
            simp only [List.mem_cons, List.not_mem_nil,
              or_false] at hPair
            rcases hPair with hEq | hEq
            · exact Or.inl hEq
            · exact Or.inr (Or.inl hEq)
          · rcases ih hRest with hEq | hEq | hFound
            · exact Or.inl hEq
            · exact Or.inr (Or.inl hEq)
            · rcases hFound with ⟨found, hIn, hChar⟩
              exact
                Or.inr
                  (Or.inr
                    ⟨found,
                      List.mem_cons_of_mem part hIn,
                      hChar⟩)

end Icmp2

------------------------------------------------------------
-- Numbers as Text
------------------------------------------------------------

namespace Icmp2

/-
  How the server's language prints and reads numbers:
  `str(x)`, `f"{x:.2f}"` and `float(text)`, where reading
  fails with the text of the exception.
-/
structure FloatText where
  str : ℚ → String
  fixed2 : ℚ → String
  parse : String → Except String ℚ

/- The zeros of the scripts that have decimal digits. -/
def decimalZeros : List Nat :=
  [48, 1632, 1776, 1984, 2406, 2534, 2662, 2790, 2918, 3046,
    3174, 3302, 3430, 3558, 3664, 3792, 3872, 4160, 4240,
    6112, 6160, 6470, 6608, 6784, 6800, 6992, 7088, 7232,
    7248, 42528, 43216, 43264, 43472, 43504, 43600, 44016,
    65296, 66720, 68912, 69734, 69872, 69942, 70096, 70384,
    70736, 70864, 71248, 71360, 71472, 71904, 72016, 72784,
    73040, 73120, 73552, 92768, 92864, 93008, 120782, 120792,
    120802, 120812, 120822, 123200, 123632, 124144, 125264,
    130032]

/- The value of a decimal digit of any script. -/
def decimalDigit?
    (c : Char) :
    Option Nat :=
  (decimalZeros.find? fun start =>
      start ≤ c.toNat ∧ c.toNat < start + 10).map
    fun start => c.toNat - start

/- The number that a list of ASCII digits denotes. -/
def digitsValue
    (value : Nat) :
    List Char → Option Nat
  | [] => some value
  | c :: rest =>
      if c.isDigit then
        digitsValue
          (10 * value + (c.toNat - '0'.toNat)) rest
      else
        none

/- Printing and reading restricted to whole numbers. -/
def wholeText : FloatText where
  str := fun value =>
    String.ofList (Nat.toDigits 10 value.num.natAbs) ++ ".0"
  fixed2 := fun value =>
    String.ofList (Nat.toDigits 10 value.num.natAbs) ++ ".00"
  parse := fun text =>
    match digitsValue 0 text.toList with
    | some value => .ok value
    | none =>
        .error ("could not convert string to float: '" ++
          text ++ "'")

end Icmp2
