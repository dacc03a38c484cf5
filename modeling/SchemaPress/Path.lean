/-
Paths as texts. A path is taken apart and put together here without a
look at the disk, so `..` is a name like any other.

# Components

Slashes separate the components of a path. An empty component and a lone
dot are void: they lead nowhere, except that a slash in front makes a
path absolute and a dot in front makes it start in place. So a path is a
head (a slash, a dot, or nothing) and components behind it, of which the
void ones at the end do not count.

# Parents

The parent of a path is the text in front of its last component, without
the void components at its end. It is always a front part of the path, so
what a user wrote is kept letter by letter as far as it goes.
-/

namespace SchemaPress.Path

-- ========================================================= components

/-- Cuts a text at its slashes. -/
def segments : List Char → List (List Char)
  | [] => [[]]
  | c :: rest =>
      if c = '/' then [] :: segments rest
      else
        match segments rest with
        | [] => [[c]]
        | segment :: more => (c :: segment) :: more

/-- Puts segments together again. -/
def unsegment : List (List Char) → List Char
  | [] => []
  | [segment] => segment
  | segment :: more => segment ++ '/' :: unsegment more

/-- Whether a component leads nowhere. -/
def isVoid (segment : List Char) : Bool :=
  segment.isEmpty || segment == ['.']

/-- Splits a path into its head and the rest. -/
def splitHead : List Char → List Char × List Char
  | '/' :: rest => (['/'], rest)
  | ['.'] => (['.'], [])
  | '.' :: '/' :: rest => (['.'], '/' :: rest)
  | path => ([], path)

/-- Segments without the void ones at the end. -/
def trimVoid (segments : List (List Char)) : List (List Char) :=
  (segments.reverse.dropWhile isVoid).reverse

/-- The last component behind the head. -/
def last? (path : List Char) : Option (List Char) :=
  (trimVoid (segments (splitHead path).2)).getLast?

/-- The name of the file that a path leads to; nothing if it ends in its
head or in a step upward. -/
def fileName? (path : String) : Option String :=
  match last? path.toList with
  | some name => if name = ['.', '.'] then none else some (String.ofList name)
  | none => none

/-- The parent of a path; nothing for the empty path and the root. -/
def parent? (path : String) : Option String :=
  let (head, rest) := splitHead path.toList
  match trimVoid (segments rest) with
  | [] => if head = ['.'] then some "" else none
  | names =>
      some (String.ofList (head ++ unsegment (trimVoid names.dropLast)))

/-- A cut leaves at least one segment. -/
theorem segments_ne_nil (path : List Char) : segments path ≠ [] := by
  cases path with
  | nil => simp [segments]
  | cons c rest =>
      rw [segments]
      split
      · simp
      · split <;> simp

/-- Cutting at the slashes loses nothing. -/
theorem unsegment_segments (path : List Char) :
    unsegment (segments path) = path := by
  induction path with
  | nil => rfl
  | cons c rest ih =>
      cases hrest : segments rest with
      | nil => exact absurd hrest (segments_ne_nil rest)
      | cons segment more =>
          rw [hrest] at ih
          by_cases hc : c = '/'
          · simp [segments, unsegment, hc, hrest, ih]
          · cases more with
            | nil => simp_all [segments, unsegment]
            | cons next later => simp_all [segments, unsegment]

/-- No segment holds a slash. -/
theorem slash_notMem_of_mem_segments {path segment : List Char}
    (h : segment ∈ segments path) : '/' ∉ segment := by
  induction path generalizing segment with
  | nil =>
      rw [segments, List.mem_singleton] at h
      simp [h]
  | cons c rest ih =>
      rw [segments] at h
      split at h
      · rcases List.mem_cons.1 h with h | h
        · simp [h]
        · exact ih h
      · next hc =>
          split at h
          · rw [List.mem_singleton] at h
            simp [h, Ne.symm hc]
          · next first more hrest =>
              rw [hrest] at ih
              rcases List.mem_cons.1 h with h | h
              · have hfirst := ih (List.mem_cons_self ..)
                simp [h, Ne.symm hc, hfirst]
              · exact ih (List.mem_cons_of_mem _ h)

-- ============================================================ joining

/-- Whether a path starts at the root. -/
def isAbsolute (path : List Char) : Bool := path.head? == some '/'

/-- Puts a path behind a directory. An absolute path stands for
itself. -/
def join (directory path : String) : String :=
  let front := directory.toList
  if isAbsolute path.toList || front.isEmpty then path
  else if front.getLast? = some '/' then directory ++ path
  else directory ++ "/" ++ path

end SchemaPress.Path
