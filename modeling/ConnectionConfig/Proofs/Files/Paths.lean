import Mathlib.Data.List.Basic
import ConnectionConfig.Files.FileSystem

/-!
# Joined paths

A path is told by its components, which do not show how many slashes stand between two names nor
the dots that stay in place. A relative path that is seen from another one goes on where that one
ends: nothing of the first path is lost, not even above a slash at its end. Seen from an absolute
working directory, every path is absolute.
-/

namespace ConnectionConfig

namespace Path

/-- A component of a path: the root at the start of an absolute path, a dot at the start of a
relative one, and names. Two dots are a name as well, and are not resolved. -/
inductive Component where
  | root
  | current
  | name (text : List Char)
  deriving DecidableEq, Repr

/-- The names on the way, without the dots that stay in place. -/
def steps (p : Path) : List Component :=
  (p.names.filter fun name ↦ name != ['.']).map Component.name

/-- The components of a path. -/
def components (p : Path) : List Component :=
  if p.isAbsolute then .root :: p.steps
  else if p.parts.head? = some ['.'] then .current :: p.steps
  else p.steps

/-- A path starts with all components of another one. -/
def IsBelow (p home : Path) : Prop := home.components <+: p.components

instance (p home : Path) : Decidable (IsBelow p home) :=
  inferInstanceAs (Decidable (home.components <+: p.components))

private def namesOf (cs : List Char) : List (List Char) :=
  (cs.splitOn '/').filter fun part ↦ !part.isEmpty

private theorem namesOf_append_slash (before after : List Char) :
    namesOf (before ++ '/' :: after) = namesOf before ++ namesOf after := by
  rw [namesOf, List.splitOn_append_cons_self, List.filter_append]
  rfl

variable {p q : Path}

/-- A relative path that is seen from `p` has the text of `p` before it: nothing if that is empty,
all of it if there is a slash at its end, and one more slash otherwise. -/
theorem join_cases (p : Path) (h : q.isAbsolute = false) :
    (p.text.toList = [] ∧ (p.join q).text.toList = q.text.toList) ∨
    (∃ before, p.text.toList = before ++ ['/'] ∧
      (p.join q).text.toList = before ++ '/' :: q.text.toList) ∨
    p.text.toList ≠ [] ∧ (p.join q).text.toList = p.text.toList ++ '/' :: q.text.toList := by
  rw [join, if_neg (by simp [h])]
  by_cases hempty : p.text.toList = []
  · have htext : p.text = "" := String.toList_eq_nil_iff.mp hempty
    exact .inl ⟨hempty, by simp [htext]⟩
  · have hne : p.text.isEmpty = false := by
      simpa [String.toList_eq_nil_iff] using hempty
    by_cases hlast : p.text.toList.getLast? = some '/'
    · obtain ⟨before, hbefore⟩ := List.getLast?_eq_some_iff.mp hlast
      exact .inr (.inl ⟨before, hbefore, by simp [hbefore]⟩)
    · exact .inr (.inr ⟨hempty, by simp [hlast, hne]⟩)

/-- The names on the way are those of both paths. -/
theorem names_join (p : Path) (h : q.isAbsolute = false) :
    (p.join q).names = p.names ++ q.names := by
  have hnil : namesOf [] = [] := rfl
  change namesOf _ = namesOf _ ++ namesOf _
  rcases join_cases p h with ⟨hp, hjoin⟩ | ⟨before, hp, hjoin⟩ | ⟨-, hjoin⟩
  · rw [hjoin, hp, hnil, List.nil_append]
  · rw [hjoin, hp, namesOf_append_slash, namesOf_append_slash, hnil, List.append_nil]
  · rw [hjoin, namesOf_append_slash]

/-- A joined path is absolute just when one of the two paths is. -/
theorem isAbsolute_join (p q : Path) :
    (p.join q).isAbsolute = (p.isAbsolute || q.isAbsolute) := by
  cases hq : q.isAbsolute with
  | true => rw [join_of_isAbsolute hq, hq, Bool.or_true]
  | false =>
    rw [Bool.or_false, isAbsolute, isAbsolute]
    rcases join_cases p hq with ⟨hp, hjoin⟩ | ⟨before, hp, hjoin⟩ | ⟨hp, hjoin⟩
    · rw [hjoin, hp]
      exact hq
    · rw [hjoin, hp, List.head?_append, List.head?_append]
      rfl
    · rw [hjoin, List.head?_append_of_ne_nil _ hp]

/-- A relative path that is seen from an absolute one adds its steps. -/
theorem components_join (hp : p.isAbsolute = true) (hq : q.isAbsolute = false) :
    (p.join q).components = p.components ++ q.steps := by
  have hjoin : (p.join q).isAbsolute = true := by rw [isAbsolute_join, hp, Bool.true_or]
  rw [components, components, if_pos hjoin, if_pos hp, steps, names_join p hq, List.filter_append,
    List.map_append]
  rfl

/-- A relative path that is seen from an absolute one stays below it. -/
theorem isBelow_join (hp : p.isAbsolute = true) (hq : q.isAbsolute = false) :
    (p.join q).IsBelow p :=
  ⟨q.steps, (components_join hp hq).symm⟩

end Path

namespace FileSystem

/-- An absolute path is the same from everywhere. -/
theorem absolute_of_isAbsolute {path : Path} (h : path.isAbsolute = true) (files : FileSystem) :
    files.absolute path = path :=
  if_pos h

/-- A relative path is seen from the working directory. -/
theorem absolute_of_isRelative {path : Path} (h : path.isAbsolute = false) (files : FileSystem) :
    files.absolute path = files.workingDirectory.join path :=
  if_neg (by simp [h])

/-- A path as seen from the root is absolute if the working directory is. -/
theorem isAbsolute_absolute {files : FileSystem}
    (hdirectory : files.workingDirectory.isAbsolute = true) (path : Path) :
    (files.absolute path).isAbsolute = true := by
  cases h : path.isAbsolute with
  | true => rw [absolute_of_isAbsolute h, h]
  | false => rw [absolute_of_isRelative h, Path.isAbsolute_join, hdirectory, Bool.true_or]

end FileSystem

end ConnectionConfig
