/-!
# Comparison without regard to ASCII letter case

Keywords are compared with the twenty-six ASCII letters folded and every other character taken as
it is, so that no locale and no Unicode case table has a part in it.
-/

namespace ConnectionConfig.Text

/-- Whether two texts are the same once the ASCII capitals are read as small letters. -/
def sameLetters (a b : String) : Bool :=
  a.toList.map Char.toLower == b.toList.map Char.toLower

/-- Comparison without regard to case does not depend on the order of the texts. -/
theorem sameLetters_comm (a b : String) : sameLetters a b = sameLetters b a := by
  rw [sameLetters, sameLetters, Bool.eq_iff_iff, beq_iff_eq, beq_iff_eq]
  exact eq_comm

end ConnectionConfig.Text
