/-
Paths, taken apart and put together.

What counts of a path is its head and its components up to the last that
is not void (`parts`). Put together, they are the path without the void
components at its end (`trimmed`), and that has the same parts again; so
has every front part of it that does not end in void (`parts_front`).

A file name that is joined to a directory is one more part behind those
of the directory, whichever way the directory ends (`parts_join`). Hence
the name is the file name of what has been joined (`fileName?_join`), and
its parent is the directory, but for the void at the end
(`parent?_join`). A directory that is itself the parent of a path has no
void at its end (`trimmed_of_parent?`), so it comes back letter by
letter.
-/
import Mathlib.Data.List.DropRight
import SchemaPress.Proofs.Path

namespace SchemaPress.Path

variable {path : List Char}

-- ================================================================== parts

/-- The head of a path, and its components as far as they count. -/
def parts (path : List Char) : List Char × List (List Char) :=
  ((splitHead path).1, trimVoid (segments (splitHead path).2))

/-- A path without the void components at its end. -/
def trimmed (path : String) : String :=
  String.ofList ((parts path.toList).1 ++ unsegment (parts path.toList).2)

/-- What a path goes through: its head, if it has one, and the components
that are not void. Paths with the same components are the same path. -/
def components (path : String) : List (List Char) :=
  [(splitHead path.toList).1].filter (!·.isEmpty)
    ++ (segments (splitHead path.toList).2).filter (!isVoid ·)

-- ================================================================ segments

theorem unsegment_cons (segment : List Char) {more : List (List Char)}
    (h : more ≠ []) :
    unsegment (segment :: more) = segment ++ '/' :: unsegment more := by
  cases more with
  | nil => exact absurd rfl h
  | cons next more => rfl

theorem unsegment_append {front more : List (List Char)}
    (hfront : front ≠ []) (hmore : more ≠ []) :
    unsegment (front ++ more)
      = unsegment front ++ '/' :: unsegment more := by
  induction front with
  | nil => exact absurd rfl hfront
  | cons segment front ih =>
      by_cases hlast : front = []
      · subst hlast
        exact unsegment_cons segment hmore
      · have happend : front ++ more ≠ [] :=
          fun h => hlast (List.append_eq_nil_iff.1 h).1
        rw [List.cons_append, unsegment_cons segment happend, ih hlast,
          unsegment_cons segment hlast, List.append_assoc,
          List.cons_append]

/-- Segments without slash are found again in what they are put together
to. -/
theorem segments_unsegment {front : List (List Char)}
    (hfront : front ≠ []) (hslash : ∀ segment ∈ front, '/' ∉ segment) :
    segments (unsegment front) = front := by
  induction front with
  | nil => exact absurd rfl hfront
  | cons segment front ih =>
      rw [List.forall_mem_cons] at hslash
      by_cases hlast : front = []
      · subst hlast
        exact segments_of_not_mem hslash.1
      · rw [unsegment_cons segment hlast, segments_append,
          segments_of_not_mem hslash.1, ih hlast hslash.2,
          List.singleton_append]

/-- A front part of the segments of a text is put together to a front
part of the text, behind which there is nothing or a slash. -/
theorem exists_eq_unsegment_append {front : List (List Char)}
    {text : List Char} (hfront : front ≠ [])
    (h : front <+: segments text) :
    ∃ more, text = unsegment front ++ more
      ∧ (more = [] ∨ more.head? = some '/') := by
  obtain ⟨later, hlater⟩ := h
  rw [← unsegment_segments text, ← hlater]
  cases later with
  | nil => exact ⟨[], by simp, .inl rfl⟩
  | cons next later =>
      exact ⟨_, unsegment_append hfront (List.cons_ne_nil next later),
        .inr rfl⟩

-- =================================================================== heads

/-- A head is a front part of its path. -/
theorem splitHead_append_eq (path : List Char) :
    (splitHead path).1 ++ (splitHead path).2 = path := by
  unfold splitHead
  split <;> rfl

/-- A path without a head: it starts with something other than a slash
or with nothing, and a dot in front is not all of its first component. -/
def Headless : List Char → Prop
  | [] => True
  | c :: rest => c ≠ '/' ∧ (c = '.' → ∃ b later, rest = b :: later ∧ b ≠ '/')

theorem splitHead_of_headless (h : Headless path) :
    splitHead path = ([], path) := by
  cases path with
  | nil => rfl
  | cons c rest =>
      obtain ⟨hslash, hdot⟩ := h
      rw [splitHead]
      · rintro _ ⟨⟩
        exact hslash rfl
      · rintro ⟨⟩
        obtain ⟨b, later, hrest, -⟩ := hdot rfl
        cases hrest
      · rintro _ ⟨⟩
        obtain ⟨b, later, hrest, hb⟩ := hdot rfl
        cases hrest
        exact hb rfl

theorem splitHead_slash (rest : List Char) :
    splitHead ('/' :: rest) = (['/'], rest) := rfl

theorem splitHead_dot {rest : List Char}
    (h : rest = [] ∨ rest.head? = some '/') :
    splitHead ('.' :: rest) = (['.'], rest) := by
  cases rest with
  | nil => rfl
  | cons c rest =>
      have hc : c = '/' := by simpa using h
      subst hc
      rfl

/-- A path is absolute, or it starts in place, or it has no head. -/
theorem splitHead_cases (path : List Char) :
    (∃ rest, path = '/' :: rest)
      ∨ (∃ rest, path = '.' :: rest
          ∧ (rest = [] ∨ rest.head? = some '/'))
      ∨ Headless path := by
  cases path with
  | nil => exact .inr (.inr trivial)
  | cons c rest =>
      by_cases hslash : c = '/'
      · exact .inl ⟨rest, by rw [hslash]⟩
      · by_cases hdot : c = '.'
        · cases rest with
          | nil => exact .inr (.inl ⟨[], by rw [hdot], .inl rfl⟩)
          | cons b later =>
              by_cases hb : b = '/'
              · refine .inr (.inl ⟨b :: later, by rw [hdot], .inr ?_⟩)
                rw [hb, List.head?_cons]
              · exact .inr (.inr ⟨hslash, fun _ => ⟨b, later, rfl, hb⟩⟩)
        · exact .inr (.inr ⟨hslash, fun heq => absurd heq hdot⟩)

/-- More text behind a path without a head does not give it one, unless
there was no text before. -/
theorem Headless.append (h : Headless path) (hpath : path ≠ [])
    (more : List Char) : Headless (path ++ more) := by
  cases path with
  | nil => exact absurd rfl hpath
  | cons c rest =>
      refine ⟨h.1, fun hdot => ?_⟩
      obtain ⟨b, later, hrest, hb⟩ := h.2 hdot
      subst hrest
      exact ⟨b, later ++ more, rfl, hb⟩

/-- More text behind a path does not change its head, unless the path is
empty, or a dot that gets longer. -/
theorem splitHead_append (hpath : path ≠ []) (more : List Char)
    (hdot : path = ['.'] → more = [] ∨ more.head? = some '/') :
    splitHead (path ++ more)
      = ((splitHead path).1, (splitHead path).2 ++ more) := by
  rcases splitHead_cases path with ⟨rest, rfl⟩ | ⟨rest, rfl, hrest⟩ | hnone
  · rfl
  · have hmore : rest ++ more = [] ∨ (rest ++ more).head? = some '/' := by
      cases rest with
      | nil => exact hdot rfl
      | cons c rest => exact .inr (by simpa using hrest)
    rw [List.cons_append, splitHead_dot hmore, splitHead_dot hrest]
  · rw [splitHead_of_headless hnone,
      splitHead_of_headless (hnone.append hpath more)]

-- ============================================================ front parts

/-- Without components there is nothing behind the head. -/
theorem splitHead_head (path : List Char) :
    splitHead (splitHead path).1 = ((splitHead path).1, []) := by
  rcases splitHead_cases path with ⟨rest, rfl⟩ | ⟨rest, rfl, hrest⟩ | hnone
  · rfl
  · rw [splitHead_dot hrest]
    rfl
  · rw [splitHead_of_headless hnone]
    rfl

/-- Taking components away at the end of a path does not change its
head. -/
theorem splitHead_front {front : List (List Char)}
    (h : front <+: segments (splitHead path).2) :
    splitHead ((splitHead path).1 ++ unsegment front)
      = ((splitHead path).1, unsegment front) := by
  by_cases hfront : front = []
  · subst hfront
    rw [unsegment, List.append_nil, splitHead_head]
  · obtain ⟨more, hrest, hmore⟩ := exists_eq_unsegment_append hfront h
    -- what is behind the empty path could give it a head
    by_cases hempty : (splitHead path).1 ++ unsegment front = []
    · obtain ⟨hhead, hnone⟩ := List.append_eq_nil_iff.1 hempty
      rw [hhead, hnone]
      rfl
    · have hpath : (splitHead path).1 ++ unsegment front ++ more = path := by
        rw [List.append_assoc, ← hrest, splitHead_append_eq]
      have hlonger := splitHead_append hempty more fun _ => hmore
      rw [hpath] at hlonger
      have hhead := congrArg Prod.fst hlonger
      have hbehind := congrArg Prod.snd hlonger
      dsimp only at hhead hbehind
      rw [hrest] at hbehind
      exact Prod.ext hhead.symm (List.append_cancel_right hbehind).symm

/-- A front part of the components that does not end in void is found
again in what it is put together to. -/
theorem parts_front {front : List (List Char)}
    (hfront : front <+: (parts path).2)
    (htrimmed : trimVoid front = front) :
    parts ((parts path).1 ++ unsegment front) = ((parts path).1, front) := by
  have hbegins : front <+: segments (splitHead path).2 :=
    hfront.trans (List.rdropWhile_prefix isVoid _)
  have hkept : trimVoid (segments (unsegment front)) = front := by
    by_cases hempty : front = []
    · subst hempty
      rfl
    · have hslash : ∀ segment ∈ front, '/' ∉ segment :=
        fun _ hsegment =>
          slash_notMem_of_mem_segments (hbegins.subset hsegment)
      rw [segments_unsegment hempty hslash, htrimmed]
  have hsplit := splitHead_front hbegins
  rw [parts, parts, hsplit, hkept]

/-- A path without the void at its end has the parts of the path. -/
theorem parts_trimmed (path : String) :
    parts (trimmed path).toList = parts path.toList := by
  have htrimmed : trimVoid (parts path.toList).2 = (parts path.toList).2 :=
    List.rdropWhile_idempotent isVoid _
  rw [trimmed, String.toList_ofList,
    parts_front (List.prefix_refl _) htrimmed]

/-- The void components do not count as steps. -/
theorem components_eq (path : String) :
    components path
      = [(parts path.toList).1].filter (!·.isEmpty)
        ++ (parts path.toList).2.filter (!isVoid ·) := by
  have hvoid : ∀ l : List (List Char),
      (trimVoid l).filter (!isVoid ·) = l.filter (!isVoid ·) := by
    intro l
    induction l using List.reverseRecOn with
    | nil => rfl
    | append_singleton l segment ih =>
        by_cases hsegment : isVoid segment
        · have hdrop : trimVoid (l ++ [segment]) = trimVoid l :=
            List.rdropWhile_concat_pos isVoid l segment hsegment
          rw [hdrop, ih, List.filter_append]
          simp [hsegment]
        · have hkeep : trimVoid (l ++ [segment]) = l ++ [segment] :=
            List.rdropWhile_concat_neg isVoid l segment hsegment
          rw [hkeep]
  rw [components, parts, hvoid]

/-- Without the void at its end a path is the same path. -/
theorem components_trimmed (path : String) :
    components (trimmed path) = components path := by
  rw [components_eq, components_eq, parts_trimmed]

-- ================================================================= parents

theorem parent?_eq (path : String) :
    parent? path
      = if (parts path.toList).2 = [] then
          if (parts path.toList).1 = ['.'] then some "" else none
        else some (String.ofList ((parts path.toList).1
          ++ unsegment (trimVoid (parts path.toList).2.dropLast))) := by
  rw [parent?, parts]
  dsimp only
  split
  · next hnone => rw [if_pos hnone]
  · next hsome => rw [if_neg hsome]

theorem last?_eq (path : List Char) :
    last? path = (parts path).2.getLast? := rfl

/-- The parent of a path has no void at its end. -/
theorem trimmed_of_parent? {path directory : String}
    (h : parent? path = some directory) : trimmed directory = directory := by
  rw [parent?_eq] at h
  split at h
  · split at h
    · cases h
      rfl
    · cases h
  · cases h
    have hfront : trimVoid (parts path.toList).2.dropLast
        <+: (parts path.toList).2 :=
      (List.rdropWhile_prefix isVoid _).trans (List.dropLast_prefix _)
    have htrimmed : trimVoid (trimVoid (parts path.toList).2.dropLast)
        = trimVoid (parts path.toList).2.dropLast :=
      List.rdropWhile_idempotent isVoid _
    rw [trimmed, String.toList_ofList, parts_front hfront htrimmed]

-- ================================================================= joining

variable {name : List Char}

/-- A name behind a slash is one more component. -/
theorem parts_append_slash (hpath : path ≠ []) (hslash : '/' ∉ name)
    (hvoid : ¬ isVoid name) :
    parts (path ++ '/' :: name)
      = ((splitHead path).1, segments (splitHead path).2 ++ [name]) := by
  have hsplit := splitHead_append hpath ('/' :: name)
    fun _ => .inr rfl
  have hkeep : trimVoid (segments (splitHead path).2 ++ [name])
      = segments (splitHead path).2 ++ [name] :=
    List.rdropWhile_concat_neg isVoid _ _ hvoid
  rw [parts, hsplit, segments_append, segments_of_not_mem hslash, hkeep]

/-- A slash at the end does not count. -/
theorem parts_slash (hpath : path ≠ []) :
    parts (path ++ ['/']) = parts path := by
  have hsplit := splitHead_append hpath ['/'] fun _ => .inr rfl
  have hdrop : trimVoid (segments (splitHead path).2 ++ [[]])
      = trimVoid (segments (splitHead path).2) :=
    List.rdropWhile_concat_pos isVoid _ _ rfl
  rw [parts, hsplit, segments_append, segments, hdrop, parts]

/-- A name by itself is one component, behind the root or without any
head. -/
theorem parts_name (hslash : '/' ∉ name) (hvoid : ¬ isVoid name) :
    parts name = ([], [name]) ∧ parts ('/' :: name) = (['/'], [name]) := by
  have hkeep : trimVoid (segments name) = [name] := by
    rw [segments_of_not_mem hslash]
    exact List.rdropWhile_concat_neg isVoid [] name hvoid
  have hheadless : Headless name := by
    rcases splitHead_cases name with ⟨rest, rfl⟩ | ⟨rest, rfl, hrest⟩ | h
    · exact absurd (List.mem_cons_self ..) hslash
    · rcases hrest with rfl | hrest
      · exact absurd rfl hvoid
      · have hmem := List.mem_of_head? hrest
        exact absurd (List.mem_cons_of_mem _ hmem) hslash
    · exact h
  constructor
  · rw [parts, splitHead_of_headless hheadless, hkeep]
  · rw [parts, splitHead_slash, hkeep]

/-- A file name is joined to the parts of a directory. -/
theorem parts_join {name : String} (hslash : '/' ∉ name.toList)
    (hvoid : ¬ isVoid name.toList) (directory : String) :
    ∃ front, trimVoid front = (parts directory.toList).2
      ∧ parts (join directory name).toList
        = ((parts directory.toList).1, front ++ [name.toList]) := by
  obtain ⟨hname, hroot⟩ := parts_name hslash hvoid
  have hbehind : ∀ path : List Char, path ≠ [] →
      ∃ front, trimVoid front = (parts path).2
        ∧ parts (path ++ '/' :: name.toList)
          = ((parts path).1, front ++ [name.toList]) :=
    fun path hpath =>
      ⟨_, rfl, parts_append_slash hpath hslash hvoid⟩
  rcases join_cases (isAbsolute_of_not_mem hslash) directory with
    ⟨hempty, hjoin⟩ | ⟨front, hfront, hjoin⟩ | ⟨hne, hjoin⟩
  · rw [hempty, hjoin, hname]
    exact ⟨[], rfl, rfl⟩
  · rw [hfront, hjoin]
    cases front with
    | nil =>
        -- the slash is not only at the end, it is the root
        exact ⟨[], rfl, hroot⟩
    | cons c front =>
        have hne := List.cons_ne_nil c front
        rw [parts_slash hne]
        exact hbehind _ hne
  · rw [hjoin]
    exact hbehind _ hne

/-- The parent of what has been joined is the directory, without the void
at its end. -/
theorem parent?_join {name : String} (hslash : '/' ∉ name.toList)
    (hvoid : ¬ isVoid name.toList) (directory : String) :
    parent? (join directory name) = some (trimmed directory) := by
  obtain ⟨front, hfront, hparts⟩ := parts_join hslash hvoid directory
  rw [parent?_eq, hparts, if_neg (by simp), List.dropLast_concat, hfront,
    trimmed]

/-- The file name of what has been joined is the name. -/
theorem fileName?_join {name : String} (hslash : '/' ∉ name.toList)
    (hvoid : ¬ isVoid name.toList) (hup : name.toList ≠ ['.', '.'])
    (directory : String) :
    fileName? (join directory name) = some name := by
  obtain ⟨front, -, hparts⟩ := parts_join hslash hvoid directory
  rw [fileName?, last?_eq, hparts, List.getLast?_concat]
  dsimp only
  rw [if_neg hup, String.ofList_toList]

end SchemaPress.Path
