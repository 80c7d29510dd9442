import FileRoutes.Proofs.RouteKey

/-!
# Identifiers by their components

The canonical form of an identifier is its components, joined with slashes, also
where the text is left as it is.  An identifier is canonical exactly if its
pieces between slashes are components, although the test never cuts the text at
backslashes.  Stripping a root compares texts and looks at the character behind
the root; on canonical forms that is a comparison of components.
-/

namespace FileRoutes
namespace Text

/-! ## Cutting texts -/

/-- A separator cuts a text in two. -/
theorem splitAt_append_mark {isSeparator : Char -> Bool} {mark : Char}
    (separates : isSeparator mark = true) (front rest : List Char) :
    splitAt isSeparator (front ++ mark :: rest) =
      splitAt isSeparator front ++ splitAt isSeparator rest := by
  induction front with
  | nil => simp [splitAt, separates]
  | cons character more step =>
    rw [List.cons_append, splitAt, splitAt, step]
    cases pieces : splitAt isSeparator more with
    | nil => exact absurd pieces (splitAt_ne_nil isSeparator more)
    | cons piece later =>
      split <;> rfl

/-- A backslash separates like the slash that is put in its place. -/
theorem splitAt_withSlashes (characters : List Char) :
    splitAt isSlash (characters.map fun character =>
        if character = '\\' then '/' else character) =
      splitAt isSeparator characters := by
  induction characters with
  | nil => rfl
  | cons character rest step =>
    rw [List.map_cons, splitAt, splitAt, step]
    by_cases isBackslash : character = '\\'
    · subst isBackslash
      rfl
    · rw [if_neg isBackslash]
      simp [isSlash, isSeparator, isBackslash]

/-- The pieces of a text, joined again. -/
theorem joinSlash_pieces (text : String) :
    joinSlash (pieces isSlash text) = text := by
  have joined (characters : List Char) :
      (joinSlash ((splitAt isSlash characters).map String.ofList)).toList =
        characters := by
    induction characters with
    | nil => rfl
    | cons character rest step =>
      rw [splitAt]
      cases isPieces : splitAt isSlash rest with
      | nil => exact absurd isPieces (splitAt_ne_nil isSlash rest)
      | cons piece later =>
        rw [isPieces] at step
        split
        · rename_i separates
          obtain rfl : character = '/' := by simpa [isSlash] using separates
          rw [List.map_cons, joinSlash,
            String.intercalate_cons_of_ne_nil (by simp), String.toList_append,
            ← joinSlash, step]
          rfl
        · have isFirst : String.ofList (character :: piece) =
              String.ofList [character] ++ String.ofList piece := by
            rw [← String.ofList_append]
            rfl
          rw [List.map_cons, joinSlash, isFirst, String.intercalate_cons_append,
            String.toList_append, ← joinSlash, ← List.map_cons, step]
          simp
  rw [pieces, ← String.toList_inj, joined]

/-- Cutting a text drops the separators and nothing else. -/
theorem flatten_splitAt (isSeparator : Char -> Bool) (characters : List Char) :
    (splitAt isSeparator characters).flatten =
      characters.filter fun character => !isSeparator character := by
  induction characters with
  | nil => rfl
  | cons character rest step =>
    rw [splitAt, List.filter_cons]
    cases isPieces : splitAt isSeparator rest with
    | nil => exact absurd isPieces (splitAt_ne_nil isSeparator rest)
    | cons piece later =>
      rw [isPieces] at step
      split <;> simp_all

/-- The first piece is empty if nothing or a slash is at the beginning. -/
theorem head_splitAt_eq_nil_iff {characters first : List Char}
    {later : List (List Char)}
    (isPieces : splitAt isSlash characters = first :: later) :
    first = [] ↔ characters = [] ∨ characters.head?.any isSlash = true := by
  cases characters with
  | nil => cases isPieces; simp
  | cons character rest =>
    rw [splitAt] at isPieces
    split at isPieces
    · rename_i separates
      cases isPieces
      simp [separates]
    · rename_i plain
      split at isPieces <;> cases isPieces <;> simp [plain]

/-- An empty piece behind the first one stands between two slashes or at the
end. -/
theorem nil_mem_later_iff {characters first : List Char}
    {later : List (List Char)}
    (isPieces : splitAt isSlash characters = first :: later) :
    [] ∈ later ↔ hasDoubledSlash characters = true ∨
      characters.getLast?.any isSlash = true := by
  induction characters generalizing first later with
  | nil => cases isPieces; simp [hasDoubledSlash]
  | cons character rest step =>
    rw [splitAt] at isPieces
    cases inner : splitAt isSlash rest with
    | nil => exact absurd inner (splitAt_ne_nil isSlash rest)
    | cons piece others =>
      rw [inner] at isPieces
      cases rest with
      | nil =>
        cases inner
        split at isPieces <;> cases isPieces <;> simp_all [hasDoubledSlash]
      | cons next more =>
        have isFirst := head_splitAt_eq_nil_iff inner
        rw [hasDoubledSlash, List.getLast?_cons_cons]
        split at isPieces
        · rename_i separates
          cases isPieces
          simp [step inner, eq_comm (a := []), isFirst, separates, or_assoc]
        · rename_i plain
          cases isPieces
          simp [step inner, plain]

theorem empty_not_mem_pieces_iff {text : String} (nonempty : text ≠ "") :
    "" ∉ pieces isSlash text ↔ text.toList.head?.any isSlash = false ∧
      hasDoubledSlash text.toList = false ∧
      text.toList.getLast?.any isSlash = false := by
  cases isPieces : splitAt isSlash text.toList with
  | nil => exact absurd isPieces (splitAt_ne_nil isSlash text.toList)
  | cons first later =>
    have isEmpty : "" ∈ pieces isSlash text ↔ first = [] ∨ [] ∈ later := by
      simp [pieces, isPieces]
    have characters : text.toList ≠ [] := by simpa using nonempty
    rw [isEmpty, head_splitAt_eq_nil_iff isPieces, nil_mem_later_iff isPieces]
    simp only [characters, false_or, not_or, Bool.not_eq_true]

/-- A character that does not separate is kept in one of the pieces. -/
theorem exists_mem_pieces_iff {isSeparator : Char -> Bool} {character : Char}
    (plain : isSeparator character = false) (text : String) :
    (∃ piece ∈ pieces isSeparator text, character ∈ piece.toList) ↔
      character ∈ text.toList := by
  have kept : character ∈ (splitAt isSeparator text.toList).flatten ↔
      character ∈ text.toList := by
    rw [flatten_splitAt]
    simp [plain]
  simpa [pieces] using kept

/-! ## Names joined with slashes -/

theorem trim_eq_self {test : Char -> Bool} {characters : List Char}
    (head : characters.head?.any test = false)
    (last : characters.getLast?.any test = false) :
    trim test characters = characters := by
  have kept {list : List Char} (first : list.head?.any test = false) :
      list.dropWhile test = list := by
    cases list with
    | nil => rfl
    | cons character rest =>
      rw [List.dropWhile_cons_of_neg (by simpa using first)]
  rw [trim, kept head, kept (by rwa [List.head?_reverse]), List.reverse_reverse]

/-- No slash stands at either end of joined names. -/
theorem trim_joinSlash {names : List String}
    (valid : ∀ name ∈ names, IsName name) :
    trim isSlash (joinSlash names).toList = (joinSlash names).toList := by
  by_cases none : names = []
  · subst none
    rfl
  · have noEmpty : "" ∉ pieces isSlash (joinSlash names) := by
      rw [pieces_joinSlash rfl none fun name member => (valid name member).2]
      exact fun member => (valid "" member).1 rfl
    obtain ⟨noHead, _, noLast⟩ :=
      (empty_not_mem_pieces_iff (joinSlash_ne_empty none valid)).mp noEmpty
    exact trim_eq_self noHead noLast

/-- Names are joined to a longer text with a slash behind a beginning only if
the beginning is some of them. -/
theorem prefix_of_toList_joinSlash {front names : List String}
    {rest : List Char}
    (frontValid : ∀ name ∈ front, IsName name)
    (valid : ∀ name ∈ names, IsName name)
    (split : (joinSlash names).toList =
      (joinSlash front).toList ++ '/' :: rest) :
    front <+: names := by
  have recovered := filter_pieces_joinSlash valid
  rw [pieces, split, splitAt_append_mark rfl, List.map_append,
    List.filter_append] at recovered
  exact ⟨_, (congrArg (· ++ _) (filter_pieces_joinSlash frontValid)).symm.trans
    recovered⟩

end Text

namespace Identifier

/-! ## Canonical forms -/

/-- A component is nonempty text without separators, other than a lone dot. -/
def IsComponent (text : String) : Prop :=
  text ≠ "" ∧ text ≠ "." ∧
    ∀ character ∈ text.toList, Text.isSeparator character = false

theorem isComponent_of_mem_components {identifier component : String}
    (member : component ∈ components identifier) : IsComponent component := by
  obtain ⟨isPiece, kept⟩ := List.mem_filter.mp member
  obtain ⟨characters, isCut, rfl⟩ := List.mem_map.mp isPiece
  simp only [Bool.and_eq_true, decide_eq_true_eq] at kept
  refine ⟨kept.1, kept.2, ?_⟩
  rw [String.toList_ofList]
  exact Text.plain_of_mem_splitAt isCut

theorem IsComponent.isName {text : String} (valid : IsComponent text) :
    Text.IsName text := by
  obtain ⟨nonempty, _, plain⟩ := valid
  refine ⟨nonempty, fun character inside => ?_⟩
  have notSeparator := plain character inside
  rw [Text.isSeparator, Bool.or_eq_false_iff] at notSeparator
  exact notSeparator.1

theorem isName_of_mem_components {identifier component : String}
    (member : component ∈ components identifier) : Text.IsName component :=
  (isComponent_of_mem_components member).isName

/-- Components that were joined with slashes can be read back. -/
theorem components_joinSlash {names : List String}
    (valid : ∀ name ∈ names, IsComponent name) :
    components (Text.joinSlash names) = names := by
  by_cases none : names = []
  · subst none
    rfl
  · rw [components, Text.pieces_joinSlash rfl none fun name member =>
      (valid name member).2.2, List.filter_eq_self]
    intro name member
    obtain ⟨nonempty, notDot, _⟩ := valid name member
    simp [nonempty, notDot]

theorem isComponent_iff_of_mem_pieces {identifier piece : String}
    (member : piece ∈ Text.pieces Text.isSlash identifier) :
    IsComponent piece ↔ piece ≠ "" ∧ piece ≠ "." ∧ '\\' ∉ piece.toList := by
  obtain ⟨characters, isCut, rfl⟩ := List.mem_map.mp member
  refine and_congr_right' (and_congr_right' ?_)
  rw [String.toList_ofList]
  constructor
  · exact fun plain inside => absurd (plain _ inside) (by decide)
  · intro absent character inside
    have notSlash := Text.plain_of_mem_splitAt isCut character inside
    have notBackslash : character ≠ '\\' := fun same => absent (same ▸ inside)
    simpa [Text.isSeparator, Text.isSlash, notBackslash] using notSlash

/-- An identifier is canonical if its pieces between slashes are components. -/
theorem isCanonical_iff {identifier : String} (nonempty : identifier ≠ "") :
    isCanonical identifier = true ↔
      ∀ piece ∈ Text.pieces Text.isSlash identifier, IsComponent piece := by
  have characters : identifier.toList ≠ [] := by simpa using nonempty
  have noEmpty := Text.empty_not_mem_pieces_iff nonempty
  have isBackslash :=
    Text.exists_mem_pieces_iff (show Text.isSlash '\\' = false from rfl)
      identifier
  simp only [isCanonical, Bool.or_eq_true, List.isEmpty_iff,
    characters, false_or, Bool.and_eq_true, Bool.not_eq_true',
    List.contains_eq_mem, decide_eq_false_iff_not]
  constructor
  · rintro ⟨⟨⟨⟨noBackslash, noDoubled⟩, noHead⟩, noLast⟩, noDot⟩ piece member
    have notEmpty := noEmpty.mpr ⟨noHead, noDoubled, noLast⟩
    rw [isComponent_iff_of_mem_pieces member]
    exact ⟨fun same => notEmpty (same ▸ member),
      fun same => noDot (same ▸ member), fun inside =>
        noBackslash (isBackslash.mp ⟨piece, member, inside⟩)⟩
  · intro valid
    obtain ⟨noHead, noDoubled, noLast⟩ :=
      noEmpty.mp fun member => (valid "" member).1 rfl
    refine ⟨⟨⟨⟨?_, noDoubled⟩, noHead⟩, noLast⟩,
      fun member => (valid "." member).2.1 rfl⟩
    rw [← isBackslash]
    rintro ⟨piece, member, inside⟩
    exact ((isComponent_iff_of_mem_pieces member).mp (valid piece member)).2.2
      inside

/-- The canonical form of an identifier is its components, joined with
slashes. -/
theorem normalize_eq (identifier : String) :
    normalize identifier = Text.joinSlash (components identifier) := by
  rw [normalize]
  split
  · rename_i canonical
    by_cases empty : identifier = ""
    · subst empty
      rfl
    · have recovered :=
        components_joinSlash ((isCanonical_iff empty).mp canonical)
      rw [Text.joinSlash_pieces] at recovered
      rw [recovered, Text.joinSlash_pieces]
  · rw [components, Text.pieces, withSlashes, String.toList_ofList,
      Text.splitAt_withSlashes, Text.pieces]

theorem isCanonical_joinSlash {names : List String}
    (valid : ∀ name ∈ names, IsComponent name) :
    isCanonical (Text.joinSlash names) = true := by
  have isName : ∀ name ∈ names, Text.IsName name := fun name member =>
    (valid name member).isName
  by_cases none : names = []
  · subst none
    rfl
  · rw [isCanonical_iff (Text.joinSlash_ne_empty none isName),
      Text.pieces_joinSlash rfl none fun name member => (isName name member).2]
    exact valid

/-- Normalizing leaves a canonical identifier as it is. -/
theorem normalize_of_isCanonical {identifier : String}
    (canonical : isCanonical identifier = true) :
    normalize identifier = identifier :=
  if_pos canonical

theorem isCanonical_normalize (identifier : String) :
    isCanonical (normalize identifier) = true := by
  rw [normalize_eq]
  exact isCanonical_joinSlash fun _ member =>
    isComponent_of_mem_components member

/-- Normalizing keeps the components of an identifier. -/
theorem components_normalize (identifier : String) :
    components (normalize identifier) = components identifier := by
  rw [normalize_eq]
  exact components_joinSlash fun _ member =>
    isComponent_of_mem_components member

/-- Canonical forms stand for lists of components.  The canonical form of an
identifier is its components, joined with slashes, and passes the test for
canonical identifiers.  An identifier is left as it is exactly if it passes that
test, so normalizing again changes nothing, and two identifiers have one
canonical form exactly if they have the same components. -/
theorem normalize_canonical (identifier : String) :
    normalize identifier = Text.joinSlash (components identifier) ∧
    isCanonical (normalize identifier) = true ∧
    normalize (normalize identifier) = normalize identifier ∧
    (normalize identifier = identifier ↔ isCanonical identifier = true) ∧
    ∀ other, normalize identifier = normalize other ↔
      components identifier = components other := by
  have canonical := isCanonical_normalize identifier
  refine ⟨normalize_eq identifier, canonical,
    normalize_of_isCanonical canonical,
    ⟨fun unchanged => ?_, normalize_of_isCanonical⟩, fun other =>
      ⟨fun same => ?_, ?_⟩⟩
  · rwa [unchanged] at canonical
  · rw [← components_normalize identifier, same, components_normalize]
  · intro same
    rw [normalize_eq, same, normalize_eq]

/-! ## Stripping a root -/

/-- The components of an identifier below a root: without those of the root if
it begins with them, all of them otherwise. -/
def namesBelow (root identifier : String) : List String :=
  if components root <+: components identifier then
    (components identifier).drop (components root).length
  else components identifier

/-- Joined names without a root made of names. -/
theorem stripRoot_joinSlash {root names : List String}
    (rootValid : ∀ name ∈ root, Text.IsName name)
    (valid : ∀ name ∈ names, Text.IsName name) :
    stripRoot (Text.joinSlash root) (Text.joinSlash names) =
      Text.joinSlash
        (if root <+: names then names.drop root.length else names) := by
  rw [stripRoot]
  simp only [Text.trim_joinSlash rootValid]
  cases root with
  | nil => simp [Text.joinSlash]
  | cons first more =>
    have nonempty :
        ¬(Text.joinSlash (first :: more)).toList.isEmpty = true := by
      simpa using Text.joinSlash_ne_empty (List.cons_ne_nil first more) rootValid
    rw [if_neg nonempty]
    generalize isRoot : first :: more = root at rootValid
    have rootNonempty : root ≠ [] := isRoot ▸ List.cons_ne_nil first more
    split_ifs with begins
    · obtain ⟨below, rfl⟩ := begins
      rw [List.drop_left]
      by_cases alone : below = []
      · have stripped : (Text.joinSlash root).toList.isPrefixOf?
            (Text.joinSlash (root ++ below)).toList = some [] :=
          List.isPrefixOf?_eq_some_iff_append_eq.mpr (by simp [alone])
        rw [stripped, alone]
        rfl
      · have stripped : (Text.joinSlash root).toList.isPrefixOf?
            (Text.joinSlash (root ++ below)).toList =
              some ('/' :: (Text.joinSlash below).toList) :=
          List.isPrefixOf?_eq_some_iff_append_eq.mpr
            (Text.toList_joinSlash_append rootNonempty alone).symm
        rw [stripped]
        exact String.ofList_toList
    · split
      · rename_i isAll
        have same := List.isPrefixOf?_eq_some_iff_append_eq.mp isAll
        rw [List.append_nil, String.toList_inj] at same
        exact absurd (Text.joinSlash_inj rootValid valid same ▸ List.prefix_rfl)
          begins
      · rename_i character rest isBeginning
        have split := List.isPrefixOf?_eq_some_iff_append_eq.mp isBeginning
        split
        · rename_i separates
          obtain rfl : character = '/' := by
            simpa [Text.isSlash] using separates
          exact absurd (Text.prefix_of_toList_joinSlash rootValid valid
            split.symm) begins
        · rfl
      · rfl

end Identifier

namespace ParsedFile

/-- The names of a file below a root prefix are its components there. -/
theorem relativeNames_eq (rootPrefix id : String) :
    relativeNames rootPrefix id = Identifier.namesBelow rootPrefix id := by
  have prefixValid :
      ∀ name ∈ Identifier.components rootPrefix, Text.IsName name :=
    fun name member => Identifier.isName_of_mem_components member
  have valid : ∀ name ∈ Identifier.components id, Text.IsName name :=
    fun name member => Identifier.isName_of_mem_components member
  rw [relativeNames, Identifier.normalize_eq, Identifier.normalize_eq,
    Identifier.stripRoot_joinSlash prefixValid valid, Identifier.namesBelow]
  apply Text.filter_pieces_joinSlash
  split
  · exact fun name member => valid name (List.mem_of_mem_drop member)
  · exact valid

end ParsedFile
end FileRoutes
