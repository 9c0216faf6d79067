/-!
# Blank characters

The characters with the Unicode property `White_Space`, and texts trimmed of them at both ends.
Main statements: a trimmed text begins and ends with no blank, and trimming takes nothing but
blanks off.
-/

namespace ServiceBinding.Text

/-- Whether a character has the property `White_Space`. -/
def isBlank (c : Char) : Bool :=
  let n := c.toNat
  (9 ≤ n && n ≤ 13) || n = 0x20 || n = 0x85 || n = 0xA0 || n = 0x1680 ||
    (0x2000 ≤ n && n ≤ 0x200A) || n = 0x2028 || n = 0x2029 || n = 0x202F || n = 0x205F || n = 0x3000

/-- The text without the blanks at its end. -/
def trimEnd (cs : List Char) : List Char := (cs.reverse.dropWhile isBlank).reverse

/-- The text without the blanks at both ends. -/
def trimChars (cs : List Char) : List Char := trimEnd (cs.dropWhile isBlank)

def trim (s : String) : String := String.ofList (trimChars s.toList)

@[simp] theorem trim_toList (s : String) : (trim s).toList = trimChars s.toList := by
  simp [trim]

private theorem isBlank_of_mem_takeWhile {cs : List Char} {c : Char}
    (h : c ∈ cs.takeWhile isBlank) : isBlank c = true :=
  List.all_eq_true.1 List.all_takeWhile c h

private theorem not_isBlank_of_head?_dropWhile {cs : List Char} {c : Char}
    (h : (cs.dropWhile isBlank).head? = some c) : isBlank c = false := by
  have := List.head?_dropWhile_not isBlank cs
  rwa [h] at this

private theorem trimEnd_append (cs : List Char) :
    cs = trimEnd cs ++ (cs.reverse.takeWhile isBlank).reverse := by
  have h := congrArg List.reverse (List.takeWhile_append_dropWhile (p := isBlank) (l := cs.reverse))
  simp only [List.reverse_append, List.reverse_reverse] at h
  exact h.symm

/-- Trimming takes nothing but blanks off. -/
theorem exists_blanks_append_trimChars (cs : List Char) :
    ∃ before after, (∀ c ∈ before ++ after, isBlank c = true) ∧
      cs = before ++ trimChars cs ++ after := by
  refine ⟨cs.takeWhile isBlank, ((cs.dropWhile isBlank).reverse.takeWhile isBlank).reverse, ?_, ?_⟩
  · intro c hc
    rcases List.mem_append.1 hc with hc | hc
    · exact isBlank_of_mem_takeWhile hc
    · exact isBlank_of_mem_takeWhile (List.mem_reverse.1 hc)
  · rw [List.append_assoc, trimChars, ← trimEnd_append, List.takeWhile_append_dropWhile]

/-- A trimmed text begins with no blank. -/
theorem not_isBlank_of_head?_trimChars {cs : List Char} {c : Char}
    (h : (trimChars cs).head? = some c) : isBlank c = false := by
  refine @not_isBlank_of_head?_dropWhile cs c ?_
  rw [trimEnd_append (cs.dropWhile isBlank)]
  -- the head of a part in front is the head of the whole
  simp only [List.head?_append]
  rw [show trimEnd (cs.dropWhile isBlank) = trimChars cs from rfl, h]
  rfl

/-- A trimmed text ends with no blank. -/
theorem not_isBlank_of_getLast?_trimChars {cs : List Char} {c : Char}
    (h : (trimChars cs).getLast? = some c) : isBlank c = false := by
  rw [trimChars, trimEnd, List.getLast?_reverse] at h
  exact not_isBlank_of_head?_dropWhile h

end ServiceBinding.Text
