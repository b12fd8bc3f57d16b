/-!
# White space and blank text

A character is white space when it has the Unicode property `White_Space`. Text is blank when it
holds nothing else, and trimming removes the white space at both ends and nothing inside.
-/

namespace ConnectionConfig.Text

/-- The twenty-five characters with the Unicode property `White_Space`. -/
def isSpace (c : Char) : Bool :=
  let n := c.toNat
  (0x09 ≤ n && n ≤ 0x0D) || n == 0x20 || n == 0x85 || n == 0xA0 || n == 0x1680 ||
    (0x2000 ≤ n && n ≤ 0x200A) || n == 0x2028 || n == 0x2029 || n == 0x202F || n == 0x205F ||
    n == 0x3000

/-- The characters without the longest final run that satisfies `p`. -/
def dropEnd (p : Char → Bool) (cs : List Char) : List Char :=
  (cs.reverse.dropWhile p).reverse

/-- The characters without white space at both ends. -/
def trimChars (cs : List Char) : List Char := dropEnd isSpace (cs.dropWhile isSpace)

/-- The text without white space at both ends. -/
def trim (text : String) : String := String.ofList (trimChars text.toList)

/-- Text is blank when every character is white space. -/
def isBlank (text : String) : Bool := text.toList.all isSpace

private theorem dropWhile_eq_nil (p : Char → Bool) (cs : List Char) :
    cs.dropWhile p = [] ↔ cs.all p = true := by
  induction cs with
  | nil => simp
  | cons c r ih => by_cases h : p c = true <;> simp_all

private theorem dropWhile_idem (p : Char → Bool) (cs : List Char) :
    (cs.dropWhile p).all p = true → cs.dropWhile p = [] := by
  induction cs with
  | nil => simp
  | cons c r ih => by_cases h : p c = true <;> simp_all

/-- Trimming leaves nothing exactly when there is nothing but white space. -/
theorem trimChars_eq_nil_iff {cs : List Char} : trimChars cs = [] ↔ cs.all isSpace = true := by
  rw [trimChars, dropEnd, List.reverse_eq_nil_iff, dropWhile_eq_nil, List.all_reverse,
    ← dropWhile_eq_nil isSpace cs]
  exact ⟨dropWhile_idem isSpace cs, fun h ↦ by simp [h]⟩

/-- Text is blank exactly when trimming leaves nothing. -/
theorem isBlank_iff_trim_eq_empty {text : String} : isBlank text = true ↔ trim text = "" := by
  rw [isBlank, ← trimChars_eq_nil_iff, trim, ← String.toList_inj, String.toList_ofList]
  simp

end ConnectionConfig.Text
