import Concord.Files.Path
import Mathlib.Data.List.Basic

namespace Concord.Files

/-! The components of joined paths.

A path is taken apart at its separators, so joining a name to a path puts one component behind those
of the path.  The components of a path can be written as a path again, and so its directory has all
of them but the last.
-/

variable {path base name : String}

/-- A name that can stand in a directory. -/
structure IsEntryName (name : String) : Prop where
  nonempty : name ≠ ""
  notHere : name ≠ "."
  notUp : name ≠ ".."
  single : ∀ c ∈ name.toList, isSeparator c = false

theorem stretches_ne_nil (letters : List Char) : stretches letters ≠ [] := by
  cases letters with
  | nil => simp [stretches]
  | cons c rest =>
      rw [stretches]
      split
      · simp
      · split <;> simp

theorem stretches_of_single {letters : List Char}
    (single : ∀ c ∈ letters, isSeparator c = false) : stretches letters = [letters] := by
  induction letters with
  | nil => rfl
  | cons c rest ih =>
      have plain := single c List.mem_cons_self
      have later := ih fun d member => single d (List.mem_cons_of_mem _ member)
      simp [stretches, plain, later]

theorem stretches_append_separator (before after : List Char) :
    stretches (before ++ '/' :: after) = stretches before ++ stretches after := by
  induction before with
  | nil => rfl
  | cons c rest ih =>
      rw [List.cons_append, stretches, stretches, ih]
      split
      · rfl
      · have some := stretches_ne_nil rest
        cases divided : stretches rest with
        | nil => exact absurd divided some
        | cons stretch later => rfl

theorem single_of_mem_stretches {letters stretch : List Char}
    (member : stretch ∈ stretches letters) : ∀ c ∈ stretch, isSeparator c = false := by
  induction letters generalizing stretch with
  | nil => simp_all [stretches]
  | cons c rest ih =>
      rw [stretches] at member
      split at member
      · rcases List.mem_cons.mp member with rfl | later
        · simp
        · exact ih later
      · rename_i plain
        have some := stretches_ne_nil rest
        cases divided : stretches rest with
        | nil => exact absurd divided some
        | cons first later =>
            rw [divided] at member ih
            rcases List.mem_cons.mp member with rfl | member
            · have free := ih List.mem_cons_self
              exact List.forall_mem_cons.mpr ⟨Bool.not_eq_true _ ▸ plain, free⟩
            · exact ih (List.mem_cons_of_mem _ member)

theorem step?_of_entryName (entry : IsEntryName name) : step? name.toList = some (.name name) := by
  unfold step?
  rw [String.ofList_toList]
  split
  · exact absurd rfl entry.nonempty
  · exact absurd rfl entry.notHere
  · exact absurd rfl entry.notUp
  · rfl

/-- A stretch takes a step up, or down to a name. -/
theorem step?_cases {stretch : List Char} {part : Component}
    (single : ∀ c ∈ stretch, isSeparator c = false) (taken : step? stretch = some part) :
    part = .up ∨ ∃ name, IsEntryName name ∧ part = .name name := by
  unfold step? at taken
  split at taken
  · cases taken
  · cases taken
  · cases taken
    exact .inl rfl
  · rename_i nonempty notHere notUp
    cases taken
    refine .inr ⟨String.ofList stretch, ⟨?_, ?_, ?_, ?_⟩, rfl⟩
    · exact nonempty
    · exact notHere
    · exact notUp
    · rwa [String.toList_ofList]

theorem stretches_trailing (base : String) :
    stretches (base ++ "/").toList = stretches base.toList ++ [[]] := by
  rw [String.toList_append]
  exact stretches_append_separator base.toList []

theorem stretches_below (base rest : String) :
    stretches (base ++ "/" ++ rest).toList = stretches base.toList ++ stretches rest.toList := by
  rw [String.toList_append, String.toList_append, List.append_assoc]
  exact stretches_append_separator base.toList rest.toList

theorem head?_stretches_append (base : String) (later : List (List Char)) :
    (stretches base.toList ++ later).head? = (stretches base.toList).head? :=
  List.head?_append_of_ne_nil _ (stretches_ne_nil _)

theorem components_append_separator (some : base ≠ "") :
    components (base ++ "/") = components base := by
  obtain ⟨c, rest, letters⟩ : ∃ c rest, base.toList = c :: rest :=
    List.exists_cons_of_ne_nil (by simpa using some)
  have absolute : isAbsolute (base ++ "/") = isAbsolute base := by
    simp [isAbsolute, letters]
  have steps : (stretches base.toList ++ [[]]).filterMap step? =
      (stretches base.toList).filterMap step? := by
    simp [List.filterMap_append, step?]
  simp only [components, absolute, stretches_trailing, head?_stretches_append, steps]

theorem components_below (base rest : String) :
    components (base ++ "/" ++ rest) =
      components (base ++ "/") ++ (stretches rest.toList).filterMap step? := by
  have absolute : isAbsolute (base ++ "/" ++ rest) = isAbsolute (base ++ "/") := by
    cases letters : base.toList <;> simp [isAbsolute, letters]
  have empty : step? [] = none := rfl
  simp only [components, absolute, stretches_below, stretches_trailing, head?_stretches_append,
    List.filterMap_append, List.filterMap_cons_none empty, List.filterMap_nil, List.append_nil,
    List.append_assoc]

theorem components_join {part : Component} (single : ∀ c ∈ name.toList, isSeparator c = false)
    (taken : step? name.toList = some part) :
    components (join base name) = components base ++ [part] := by
  have relative : isAbsolute name = false := by
    rw [isAbsolute]
    cases letters : name.toList with
    | nil => rfl
    | cons c rest =>
        rw [letters] at single
        exact single c List.mem_cons_self
  have steps : (stretches name.toList).filterMap step? = [part] := by
    rw [stretches_of_single single, List.filterMap_cons_some taken, List.filterMap_nil]
  unfold join
  rw [if_neg (by simp [relative])]
  split
  · rename_i joined
    rw [Bool.or_eq_true, decide_eq_true_eq] at joined
    rcases joined with rfl | ends
    · have notHere : (stretches name.toList).head? ≠ some ['.'] := by
        rw [stretches_of_single single]
        intro dot
        rw [Option.some.inj dot] at taken
        cases taken
      have alone : components name = [part] := by
        simp [components, relative, notHere, steps]
      rw [String.empty_append, alone]
      rfl
    · obtain ⟨above, rfl⟩ : ∃ above : String, base = above ++ "/" := by
        obtain ⟨c, last, separator⟩ := (Option.any_eq_true _ _).mp ends
        obtain ⟨front, letters⟩ := List.getLast?_eq_some_iff.mp last
        obtain rfl : c = '/' := by simpa [isSeparator] using separator
        refine ⟨String.ofList front, String.toList_injective ?_⟩
        simp [letters]
      rw [components_below, steps]
  · rename_i apart
    rw [Bool.or_eq_true, decide_eq_true_eq, not_or] at apart
    rw [components_below, components_append_separator apart.1, steps]

theorem components_join_name (entry : IsEntryName name) :
    components (join base name) = components base ++ [.name name] :=
  components_join entry.single (step?_of_entryName entry)

theorem components_of_entryName (entry : IsEntryName name) : components name = [.name name] := by
  have alone : join "" name = name := by
    unfold join
    split <;> simp
  have joined : components (join "" name) = components "" ++ [.name name] :=
    components_join_name entry
  rwa [alone] at joined

/-- Steps as a path can take them: it begins at the root or here only once. -/
inductive IsRoute : List Component → Prop where
  | empty : IsRoute []
  | root : IsRoute [.root]
  | here : IsRoute [.here]
  | up {parts : List Component} (above : IsRoute parts) : IsRoute (parts ++ [.up])
  | name {parts : List Component} {text : String} (above : IsRoute parts)
      (entry : IsEntryName text) : IsRoute (parts ++ [.name text])

theorem IsRoute.append {start steps : List Component} (route : IsRoute start)
    (each : ∀ part ∈ steps, part = .up ∨ ∃ name, IsEntryName name ∧ part = .name name) :
    IsRoute (start ++ steps) := by
  induction steps generalizing start with
  | nil => rwa [List.append_nil]
  | cons part rest ih =>
      obtain ⟨first, later⟩ := List.forall_mem_cons.mp each
      rw [List.append_cons]
      rcases first with rfl | ⟨name, entry, rfl⟩
      · exact ih route.up later
      · exact ih (route.name entry) later

theorem isRoute_components (path : String) : IsRoute (components path) := by
  refine IsRoute.append ?_ fun part member => ?_
  · split
    · exact .root
    · split
      · exact .here
      · exact .empty
  · obtain ⟨stretch, stands, taken⟩ := List.mem_filterMap.mp member
    exact step?_cases (single_of_mem_stretches stands) taken

theorem IsRoute.dropLast {parts : List Component} (route : IsRoute parts) :
    IsRoute parts.dropLast := by
  cases route with
  | empty | root | here => exact .empty
  | up above | name above _ => rwa [List.dropLast_concat]

/-- Parts are joined from the front, so it is the last one that is taken off first. -/
theorem components_ofComponents {parts : List Component} (route : IsRoute parts) :
    components (ofComponents parts) = parts := by
  induction route with
  | empty => rfl
  | root => decide
  | here => decide
  | @up above _ ih =>
      have written : ofComponents (above ++ [.up]) = join (ofComponents above) ".." :=
        List.foldl_concat ..
      have taken : step? "..".toList = some .up := rfl
      rw [written, components_join (by simp [isSeparator]) taken, ih]
  | @name above text _ entry ih =>
      have written : ofComponents (above ++ [.name text]) = join (ofComponents above) text :=
        List.foldl_concat ..
      rw [written, components_join_name entry, ih]

theorem fileName?_eq_some_iff : fileName? path = some name ↔
    ∃ above, components path = above ++ [.name name] := by
  unfold fileName?
  rw [← List.getLast?_eq_some_iff]
  split <;> simp_all

theorem fileName?_join (entry : IsEntryName name) : fileName? (join base name) = some name :=
  fileName?_eq_some_iff.mpr ⟨components base, components_join_name entry⟩

theorem fileName?_of_entryName (entry : IsEntryName name) : fileName? name = some name :=
  fileName?_eq_some_iff.mpr ⟨[], components_of_entryName entry⟩

theorem extension?_join (entry : IsEntryName name) :
    extension? (join base name) = extension? name := by
  rw [extension?, extension?, fileName?_join entry, fileName?_of_entryName entry]

/-- The directory of a named file is written from the other components. -/
theorem parent?_of_components {above : List Component}
    (parts : components path = above ++ [.name name]) :
    parent? path = some (ofComponents above) ∧ components (ofComponents above) = above := by
  constructor
  · simp [parent?, parts]
  · apply components_ofComponents
    have route := (isRoute_components path).dropLast
    rwa [parts, List.dropLast_concat] at route

end Concord.Files
