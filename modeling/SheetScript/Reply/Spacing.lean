import SheetScript.Text.Blank

/-!
# Spacing in replies

Blanks around the bars of a command line mean nothing, and neither do blank lines between the lines of
the prose. Both are taken out before anything else is read or shown.

- `tightenBars`: a line without the blanks around its bars.
- `dropBlankLines`: a text without the blank lines in it. A blank line it starts or ends with stays.
-/

namespace SheetScript.Reply

/-! ## Bars -/

/-- A line without the blanks around its bars. -/
def tightenBars (line : List Char) : List Char :=
  match hbar : line.dropWhile Text.isBlank with
  | '|' :: after =>
    have : (after.dropWhile Text.isBlank).length < line.length := by
      have h1 := (List.dropWhile_suffix (l := line) Text.isBlank).length_le
      have h2 := (List.dropWhile_suffix (l := after) Text.isBlank).length_le
      rw [hbar, List.length_cons] at h1
      omega
    '|' :: tightenBars (after.dropWhile Text.isBlank)
  | _ =>
    match line with
    | [] => []
    | c :: rest => c :: tightenBars rest
termination_by line.length

/-! ## Blank lines -/

/-- What stands behind the last line end among the blanks a text starts with; the whole text if there
is no line end among them. -/
def skipBlankLines (cs : List Char) : List Char :=
  ((cs.takeWhile Text.isBlank).reverse.takeWhile (· != '\n')).reverse ++ cs.dropWhile Text.isBlank

theorem length_skipBlankLines_le (cs : List Char) : (skipBlankLines cs).length ≤ cs.length := by
  have hindent : ((cs.takeWhile Text.isBlank).reverse.takeWhile (· != '\n')).length ≤
      (cs.takeWhile Text.isBlank).length := by
    simpa using (List.takeWhile_prefix (l := (cs.takeWhile Text.isBlank).reverse) (· != '\n')).length_le
  have hsplit := congrArg List.length (List.takeWhile_append_dropWhile (p := Text.isBlank) (l := cs))
  rw [List.length_append] at hsplit
  rw [skipBlankLines, List.length_append, List.length_reverse]
  omega

/-- A text without the blank lines in it: a line end, blanks and another line end become one line
end. -/
def dropBlankLines : List Char → List Char
  | [] => []
  | c :: cs =>
    have := length_skipBlankLines_le cs
    if c = '\n' then c :: dropBlankLines (skipBlankLines cs) else c :: dropBlankLines cs
termination_by cs => cs.length

end SheetScript.Reply
