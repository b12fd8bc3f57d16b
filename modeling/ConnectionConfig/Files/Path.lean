/-!
# Paths

A path is text with slashes between names. It is absolute when it starts with a slash. Joining never
looks at what exists and never simplifies: dots and repeated slashes stay.
-/

namespace ConnectionConfig

/-- A path in text form. -/
structure Path where
  text : String
  deriving DecidableEq, Repr

namespace Path

/-- Whether a path starts at the root. -/
def isAbsolute (p : Path) : Bool := p.text.toList.head? == some '/'

/-- The path `q` as seen from `p`. An absolute `q` replaces `p`; otherwise one slash is put between
them unless `p` is empty or has one at its end. -/
def join (p q : Path) : Path :=
  if q.isAbsolute then q
  else if p.text.isEmpty || p.text.toList.getLast? == some '/' then ⟨p.text ++ q.text⟩
  else ⟨p.text ++ "/" ++ q.text⟩

/-- The parts between the slashes. Empty parts at the start, at the end and between two slashes
are kept. -/
def parts (p : Path) : List (List Char) := p.text.toList.splitOn '/'

/-- The names on the way, without empty parts. -/
def names (p : Path) : List (List Char) := p.parts.filter fun part ↦ !part.isEmpty

/-- An absolute path does not depend on where it is seen from. -/
theorem join_of_isAbsolute {p q : Path} (h : q.isAbsolute = true) : p.join q = q := by
  simp [join, h]

end Path

end ConnectionConfig
