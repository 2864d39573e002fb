/-!
# White space

Replies, addresses and arguments are trimmed at both ends before they are read. White space is the
Unicode property `White_Space`: tabs, line ends, the no-break spaces and the typographic spaces, but
not the zero-width space and not the information separators.

- `isBlank`: the characters of the property.
- `trim`: a text without the blanks at its two ends.
- `trimChars_of_ends`: a text whose ends are not blank is left as it is.
-/

namespace SheetScript.Text

/-- White space: the characters with the Unicode property `White_Space`. -/
def isBlank (c : Char) : Bool :=
  let n := c.toNat
  (9 ≤ n && n ≤ 13) || n == 0x20 || n == 0x85 || n == 0xA0 || n == 0x1680 ||
    (0x2000 ≤ n && n ≤ 0x200A) || n == 0x2028 || n == 0x2029 || n == 0x202F || n == 0x205F ||
    n == 0x3000

/-- A text without the blanks it starts with. -/
def trimStart (cs : List Char) : List Char :=
  cs.dropWhile isBlank

/-- A text without the blanks it ends with. -/
def trimEnd (cs : List Char) : List Char :=
  (cs.reverse.dropWhile isBlank).reverse

/-- A text without the blanks at either end. -/
def trimChars (cs : List Char) : List Char :=
  trimEnd (trimStart cs)

/-- A text without the blanks at either end. -/
def trim (s : String) : String :=
  String.ofList (trimChars s.toList)

@[simp] theorem toList_trim (s : String) : (trim s).toList = trimChars s.toList :=
  String.toList_ofList

@[simp] theorem trimChars_nil : trimChars [] = [] := rfl

theorem trimStart_of_head {c : Char} {cs : List Char} (h : isBlank c = false) :
    trimStart (c :: cs) = c :: cs := by
  simp [trimStart, h]

theorem trimEnd_of_last {c : Char} {cs : List Char} (h : isBlank c = false) :
    trimEnd (cs ++ [c]) = cs ++ [c] := by
  simp [trimEnd, h]

/-- A text whose two ends are not blank is left as it is. -/
theorem trimChars_of_ends {cs : List Char} (hhead : ∀ c, cs.head? = some c → isBlank c = false)
    (hlast : ∀ c, cs.getLast? = some c → isBlank c = false) : trimChars cs = cs := by
  cases cs with
  | nil => rfl
  | cons c cs =>
    have hstart : trimStart (c :: cs) = c :: cs := trimStart_of_head (hhead c rfl)
    rw [trimChars, hstart]
    obtain ⟨init, last, hsplit⟩ : ∃ init last, c :: cs = init ++ [last] :=
      ⟨(c :: cs).dropLast, (c :: cs).getLast (by simp), (List.dropLast_concat_getLast _).symm⟩
    rw [hsplit] at hlast ⊢
    exact trimEnd_of_last (hlast last (by simp))

end SheetScript.Text
