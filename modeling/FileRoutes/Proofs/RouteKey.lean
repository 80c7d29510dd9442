import FileRoutes.Proofs.Contribution
import Mathlib.Data.List.Induction
import Mathlib.Data.List.Infix

/-!
# Routes and their keys

The tokens of a route are nonempty and have no slash in them, so a route can be
read back from its key.  The keys above the key of a route are the keys of its
beginnings.
-/

namespace FileRoutes
namespace Text

theorem splitAt_plain {isSeparator : Char -> Bool} {piece : List Char}
    (plain : ∀ character ∈ piece, isSeparator character = false) :
    splitAt isSeparator piece = [piece] := by
  induction piece with
  | nil => rfl
  | cons character rest step =>
    have first := plain character List.mem_cons_self
    have later :=
      step fun other member => plain other (List.mem_cons_of_mem _ member)
    simp [splitAt, first, later]

/-- The first piece ends at the first separator. -/
theorem splitAt_append_cons {isSeparator : Char -> Bool} {piece : List Char}
    (plain : ∀ character ∈ piece, isSeparator character = false) {mark : Char}
    (separates : isSeparator mark = true) (rest : List Char) :
    splitAt isSeparator (piece ++ mark :: rest) =
      piece :: splitAt isSeparator rest := by
  induction piece with
  | nil => simp [splitAt, separates]
  | cons character more step =>
    have first := plain character List.mem_cons_self
    have later :=
      step fun other member => plain other (List.mem_cons_of_mem _ member)
    simp [splitAt, first, later]

/-- No piece has a separator in it. -/
theorem plain_of_mem_splitAt {isSeparator : Char -> Bool}
    {characters : List Char} {piece : List Char}
    (member : piece ∈ splitAt isSeparator characters) :
    ∀ character ∈ piece, isSeparator character = false := by
  induction characters generalizing piece with
  | nil =>
    rw [splitAt_nil, List.mem_singleton] at member
    simp [member]
  | cons first rest step =>
    rw [splitAt] at member
    cases separates : isSeparator first with
    | true =>
      simp only [separates, if_true, List.mem_cons] at member
      rcases member with equal | later
      · simp [equal]
      · exact step later
    | false =>
      simp only [separates, Bool.false_eq_true, if_false] at member
      cases pieces : splitAt isSeparator rest with
      | nil => exact absurd pieces (splitAt_ne_nil isSeparator rest)
      | cons head tail =>
        simp only [pieces, List.mem_cons] at member step
        rcases member with equal | later
        · rw [equal]
          intro character inside
          rcases List.mem_cons.mp inside with same | deeper
          · rw [same, separates]
          · exact step (Or.inl rfl) character deeper
        · exact step (Or.inr later)

/-- A name is nonempty text without a slash. -/
def IsName (text : String) : Prop :=
  text ≠ "" ∧ ∀ character ∈ text.toList, isSlash character = false

/-- Two lists of names are joined by joining each and putting a slash between
them. -/
theorem toList_joinSlash_append {front rest : List String} (before : front ≠ [])
    (behind : rest ≠ []) :
    (joinSlash (front ++ rest)).toList =
      (joinSlash front).toList ++ '/' :: (joinSlash rest).toList := by
  rw [joinSlash, String.intercalate_append_of_ne_nil before behind,
    String.toList_append, String.toList_append, List.append_assoc]
  rfl

theorem joinSlash_singleton (part : String) : joinSlash [part] = part :=
  String.intercalate_singleton

/-- Parts without separators that were joined with slashes can be read back. -/
theorem pieces_joinSlash {isSeparator : Char -> Bool}
    (separates : isSeparator '/' = true) {parts : List String}
    (nonempty : parts ≠ [])
    (plain : ∀ part ∈ parts, ∀ character ∈ part.toList,
      isSeparator character = false) :
    pieces isSeparator (joinSlash parts) = parts := by
  induction parts with
  | nil => exact absurd rfl nonempty
  | cons part rest step =>
    obtain ⟨partPlain, restPlain⟩ := List.forall_mem_cons.mp plain
    cases rest with
    | nil => simp [joinSlash_singleton, pieces, splitAt_plain partPlain]
    | cons next more =>
      have joined : (joinSlash (part :: next :: more)).toList =
          part.toList ++ '/' :: (joinSlash (next :: more)).toList := by
        have split :=
          toList_joinSlash_append (List.cons_ne_nil part [])
            (List.cons_ne_nil next more)
        rwa [joinSlash_singleton] at split
      have later := step (List.cons_ne_nil next more) restPlain
      rw [pieces] at later
      rw [pieces, joined, splitAt_append_cons partPlain separates,
        List.map_cons, later, String.ofList_toList]

/-- Names that were joined with slashes can be read back. -/
theorem filter_pieces_joinSlash {names : List String}
    (valid : ∀ name ∈ names, IsName name) :
    (pieces isSlash (joinSlash names)).filter (· ≠ "") = names := by
  by_cases none : names = []
  · simp [none, joinSlash, pieces]
  · rw [pieces_joinSlash rfl none fun name member => (valid name member).2,
      List.filter_eq_self]
    exact fun name member => by simpa using (valid name member).1

/-- Names are read back from the text that they are joined to. -/
theorem joinSlash_inj {left right : List String}
    (leftValid : ∀ name ∈ left, IsName name)
    (rightValid : ∀ name ∈ right, IsName name)
    (equal : joinSlash left = joinSlash right) :
    left = right := by
  rw [← filter_pieces_joinSlash leftValid, equal,
    filter_pieces_joinSlash rightValid]

/-- Names are never joined to the empty text. -/
theorem joinSlash_ne_empty {names : List String} (nonempty : names ≠ [])
    (valid : ∀ name ∈ names, IsName name) : joinSlash names ≠ "" := by
  intro empty
  have none : joinSlash names = joinSlash [] := empty
  exact nonempty (joinSlash_inj valid (List.forall_mem_nil _) none)

end Text

namespace ParsedFile

/-- The components below the prefix are names. -/
theorem isName_of_mem_relativeNames {rootPrefix id name : String}
    (member : name ∈ relativeNames rootPrefix id) : Text.IsName name := by
  obtain ⟨isPiece, nonempty⟩ := List.mem_filter.mp member
  obtain ⟨characters, isCut, equal⟩ := List.mem_map.mp isPiece
  refine ⟨by simpa using nonempty, ?_⟩
  rw [← equal, String.toList_ofList]
  exact Text.plain_of_mem_splitAt isCut

theorem folders_subset_relativeNames (rootPrefix id : String) :
    (parse rootPrefix id).folders ⊆ relativeNames rootPrefix id := by
  simp only [parse]
  split
  · exact List.dropLast_subset _
  · exact List.Subset.refl _

theorem isName_of_mem_folders {rootPrefix id folder : String}
    (member : folder ∈ (parse rootPrefix id).folders) : Text.IsName folder :=
  isName_of_mem_relativeNames (folders_subset_relativeNames rootPrefix id member)

theorem isName_of_mem_routeTokens {rootPrefix id token : String}
    (member : token ∈ (parse rootPrefix id).routeTokens) :
    Text.IsName token := by
  rw [routeTokens_parse] at member
  exact isName_of_mem_folders (List.mem_filter.mp member).1

/-- Files with the same route key have the same route. -/
theorem routeTokens_eq_of_routeKey_eq {rootPrefix left right : String}
    (sameKey : (parse rootPrefix left).routeKey =
      (parse rootPrefix right).routeKey) :
    (parse rootPrefix left).routeTokens =
      (parse rootPrefix right).routeTokens := by
  rw [routeKey, routeKey] at sameKey
  exact Text.joinSlash_inj (fun _ member => isName_of_mem_routeTokens member)
    (fun _ member => isName_of_mem_routeTokens member) sameKey

end ParsedFile

/-! ## The keys above a key -/

theorem Text.joinSlash_append_singleton {names : List String}
    (nonempty : names ≠ []) (name : String) :
    (joinSlash (names ++ [name])).toList =
      (joinSlash names).toList ++ '/' :: name.toList := by
  rw [toList_joinSlash_append nonempty (List.cons_ne_nil name []),
    joinSlash_singleton]

namespace Key

/-- The name at the end of a key is dropped. -/
theorem parent_append {above name : List Char}
    (plain : ∀ character ∈ name, Text.isSlash character = false) :
    parent (above ++ '/' :: name) = above := by
  have dropped : (above ++ '/' :: name).reverse.dropWhile
      (fun character => !Text.isSlash character) = '/' :: above.reverse := by
    rw [List.reverse_append, List.reverse_cons, List.append_assoc,
      List.dropWhile_append_of_pos]
    · rfl
    · intro character member
      simp [plain character (List.mem_reverse.mp member)]
  rw [parent, dropped]
  simp

theorem parent_of_plain {name : List Char}
    (plain : ∀ character ∈ name, Text.isSlash character = false) :
    parent name = [] := by
  have dropped : name.reverse.dropWhile
      (fun character => !Text.isSlash character) = [] := by
    rw [List.dropWhile_eq_nil_iff]
    intro character member
    simp [plain character (List.mem_reverse.mp member)]
  rw [parent, dropped]
  rfl

/-- The key above a joined list of names is the list without its last name. -/
theorem parent_joinSlash (names : List String) {name : String}
    (valid : Text.IsName name) :
    parent (Text.joinSlash (names ++ [name])).toList =
      (Text.joinSlash names).toList := by
  by_cases alone : names = []
  · rw [alone, List.nil_append, Text.joinSlash_singleton,
      parent_of_plain valid.2]
    rfl
  · rw [Text.joinSlash_append_singleton alone, parent_append valid.2]

/-- The ancestors of a key are the key itself and those of the key above it. -/
theorem ancestors_of_ne {key : String} (nonempty : key ≠ "") :
    ancestors key = key :: ancestors (String.ofList (parent key.toList)) := by
  have characters : key.toList ≠ [] := by simpa using nonempty
  obtain ⟨first, rest, isKey⟩ := List.exists_cons_of_ne_nil characters
  rw [ancestors, isKey, ancestorCharacters, List.map_cons, ← isKey,
    String.ofList_toList, ancestors, String.toList_ofList]

/-- The keys above the key of a route are those of its beginnings, the longest
first. -/
theorem ancestors_joinSlash {names : List String}
    (valid : ∀ name ∈ names, Text.IsName name) :
    ancestors (Text.joinSlash names) =
      names.inits.reverse.map Text.joinSlash := by
  induction names using List.reverseRecOn with
  | nil => simp [ancestors, ancestorCharacters, Text.joinSlash]
  | append_singleton names name step =>
    obtain ⟨namesValid, nameValid⟩ := List.forall_mem_append.mp valid
    have isName := List.forall_mem_singleton.mp nameValid
    have nonempty := Text.joinSlash_ne_empty (by simp) valid
    rw [ancestors_of_ne nonempty, parent_joinSlash names isName,
      String.ofList_toList, step namesValid, List.inits_append]
    simp

end Key

end FileRoutes
