import FileRoutes.Proofs.Components

/-!
# Parsed identifiers by their components

What an identifier is parsed into depends on its components and on those of the
root prefix only.  The last component below the root is the file if it has the
stem of a role, and all the others are folders.  So a file is found in the
folders that its identifier spells, however the identifier is separated.
-/

namespace FileRoutes
namespace Text

/-- A text is cut at the last of its marks. -/
theorem splitLast_eq_some_iff {mark : Char}
    {characters before after : List Char} :
    splitLast mark characters = some (before, after) ↔
      characters = before ++ mark :: after ∧ mark ∉ after := by
  rw [splitLast]
  constructor
  · intro isCut
    split at isCut
    · cases isCut
    · rename_i found rest isRest
      cases isCut
      have isMark : found = mark := by
        have head := List.head?_dropWhile_not (· != mark) characters.reverse
        rw [isRest] at head
        simpa using head
      subst isMark
      constructor
      · have whole := List.takeWhile_append_dropWhile (p := (· != found))
          (l := characters.reverse)
        rw [isRest] at whole
        have reversed := congrArg List.reverse whole
        simpa using reversed.symm
      · intro member
        have unmarked := List.mem_takeWhile_imp (List.mem_reverse.mp member)
        simp at unmarked
  · rintro ⟨rfl, absent⟩
    have unmarked :
        ∀ character ∈ after.reverse, (character != mark) = true := by
      intro character member
      simp only [bne_iff_ne]
      rintro rfl
      exact absent (List.mem_reverse.mp member)
    rw [List.reverse_append, List.reverse_cons, List.append_assoc,
      List.dropWhile_append_of_pos unmarked,
      List.takeWhile_append_of_pos unmarked]
    simp

theorem splitLast_eq_none_iff {mark : Char} {characters : List Char} :
    splitLast mark characters = none ↔ mark ∉ characters := by
  constructor
  · intro uncut member
    obtain ⟨behind, front, isReversed, absent⟩ :=
      List.eq_append_cons_of_mem (List.mem_reverse.mpr member)
    have isSplit : characters = front.reverse ++ mark :: behind.reverse := by
      rw [← List.reverse_reverse characters, isReversed]
      simp
    rw [splitLast_eq_some_iff.mpr ⟨isSplit, by simpa using absent⟩] at uncut
    cases uncut
  · intro absent
    cases isCut : splitLast mark characters with
    | none => rfl
    | some cut =>
      obtain ⟨isSplit, _⟩ := splitLast_eq_some_iff.mp isCut
      exact absurd (isSplit ▸ List.mem_append_right _ List.mem_cons_self) absent

end Text

/-! ## Stems and roles -/

/-- The stem of a file name is the name without its last extension, or the name
itself where nothing would be left before a dot. -/
inductive IsStem : String -> String -> Prop
  | stripped {stem extension : String} (nonempty : stem ≠ "")
      (last : '.' ∉ extension.toList) : IsStem stem (stem ++ "." ++ extension)
  | kept {name : String} (bare : ∀ front extension, '.' ∉ extension.toList ->
      name = front ++ "." ++ extension -> front = "") : IsStem name name

/-- The stems that select a role. -/
def roleStems : List (String × FileRole) :=
  [("page", .page), ("layout", .layout), ("loading", .loading),
    ("error", .error), ("404", .notFound), ("not-found", .notFound)]

theorem FileRole.ofStem_eq_some_iff {stem : String} {role : FileRole} :
    ofStem? stem = some role ↔ (stem, role) ∈ roleStems := by
  constructor
  · intro selected
    unfold ofStem? at selected
    split at selected <;> cases selected <;> decide
  · intro member
    simp only [roleStems, List.mem_cons, Prod.mk.injEq, List.not_mem_nil,
      or_false] at member
    rcases member with
      ⟨rfl, rfl⟩ | ⟨rfl, rfl⟩ | ⟨rfl, rfl⟩ | ⟨rfl, rfl⟩ | ⟨rfl, rfl⟩ |
      ⟨rfl, rfl⟩ <;> rfl

namespace ParsedFile

/-- A text is cut at its last dot, in front of the extension. -/
theorem splitLast_append_dot {stem extension : String}
    (last : '.' ∉ extension.toList) :
    Text.splitLast '.' (stem ++ "." ++ extension).toList =
      some (stem.toList, extension.toList) := by
  rw [Text.splitLast_eq_some_iff]
  refine ⟨?_, last⟩
  rw [String.toList_append, String.toList_append, List.append_assoc]
  rfl

theorem front_eq_of_append_dot {front other extension behind : String}
    (last : '.' ∉ extension.toList) (otherLast : '.' ∉ behind.toList)
    (same : front ++ "." ++ extension = other ++ "." ++ behind) :
    front = other := by
  have cut : Text.splitLast '.' (other ++ "." ++ behind).toList = _ :=
    splitLast_append_dot otherLast
  rw [← same, splitLast_append_dot last, Option.some.injEq, Prod.mk.injEq]
    at cut
  exact String.toList_inj.mp cut.1

theorem stem_of_no_dot {name : String} (absent : '.' ∉ name.toList) :
    stem name = name := by
  rw [stem, Text.splitLast_eq_none_iff.mpr absent]

/-- The last extension is taken off, unless nothing would be left. -/
theorem stem_append_dot (front : String) {extension : String}
    (last : '.' ∉ extension.toList) :
    stem (front ++ "." ++ extension) =
      if front = "" then front ++ "." ++ extension else front := by
  rw [stem, splitLast_append_dot last]
  simp

theorem exists_extension {name : String} (dotted : '.' ∈ name.toList) :
    ∃ front extension, '.' ∉ extension.toList ∧
      name = front ++ "." ++ extension := by
  cases isCut : Text.splitLast '.' name.toList with
  | none => exact absurd dotted (Text.splitLast_eq_none_iff.mp isCut)
  | some cut =>
    obtain ⟨before, after⟩ := cut
    obtain ⟨split, last⟩ := Text.splitLast_eq_some_iff.mp isCut
    refine ⟨String.ofList before, String.ofList after, by simpa using last, ?_⟩
    rw [← String.toList_inj, split]
    simp

/-- Every file name has one stem. -/
theorem isStem_iff {name other : String} :
    IsStem other name ↔ other = stem name := by
  constructor
  · intro isStem
    cases isStem with
    | stripped nonempty last => rw [stem_append_dot other last, if_neg nonempty]
    | kept bare =>
      by_cases dotted : '.' ∈ name.toList
      · obtain ⟨front, extension, last, isName⟩ := exists_extension dotted
        rw [isName, stem_append_dot front last,
          if_pos (bare front extension last isName)]
      · rw [stem_of_no_dot dotted]
  · rintro rfl
    by_cases dotted : '.' ∈ name.toList
    · obtain ⟨front, extension, last, rfl⟩ := exists_extension dotted
      rw [stem_append_dot front last]
      split
      · rename_i nothing
        refine .kept fun other behind otherLast same => ?_
        rw [← front_eq_of_append_dot last otherLast same, nothing]
      · rename_i something
        exact .stripped something last
    · rw [stem_of_no_dot dotted]
      refine .kept fun front extension _ isName => absurd ?_ dotted
      simp [isName]

/-- The role of a file is the one whose stem its last name has. -/
theorem role_eq_some_iff {rootPrefix id : String} {role : FileRole} :
    (parse rootPrefix id).role = some role ↔
      ∃ front name stem, Identifier.namesBelow rootPrefix id = front ++ [name] ∧
        IsStem stem name ∧ (stem, role) ∈ roleStems := by
  simp only [parse, relativeNames_eq, Option.bind_eq_some_iff,
    List.getLast?_eq_some_iff, FileRole.ofStem_eq_some_iff]
  constructor
  · rintro ⟨name, ⟨front, isLast⟩, selected⟩
    exact ⟨front, name, stem name, isLast, isStem_iff.mpr rfl, selected⟩
  · rintro ⟨front, name, other, isLast, isStem, selected⟩
    obtain rfl := isStem_iff.mp isStem
    exact ⟨name, ⟨front, isLast⟩, selected⟩

/-- The folders are the components below the prefix, without the last one if it
has a role. -/
theorem folders_eq (rootPrefix id : String) :
    (parse rootPrefix id).folders =
      if (parse rootPrefix id).role.isSome then
        (Identifier.namesBelow rootPrefix id).dropLast
      else Identifier.namesBelow rootPrefix id := by
  simp only [parse, relativeNames_eq]

end ParsedFile

/-! ## Segments -/

namespace RouteSegment

/-- A role is given to the last segment. -/
theorem endWith_concat (role : Option RouteRole) (front : List RouteSegment)
    (last : RouteSegment) :
    endWith role (front ++ [last]) = front ++ [{ last with role := role }] := by
  induction front with
  | nil => rfl
  | cons first rest step =>
    cases rest with
    | nil => rfl
    | cons next later =>
      rw [List.cons_append, List.cons_append, endWith, ← List.cons_append, step]
      rfl

end RouteSegment

namespace ParsedFile

/-- All segments of a file but the last one are without a role. -/
theorem exists_last_segment (rootPrefix id : String) :
    ∃ front last, (parse rootPrefix id).segments = front ++ [last] ∧
      last.role = (parse rootPrefix id).role.bind FileRole.routeRole? ∧
      ∀ segment ∈ front, segment.role = none := by
  rw [segments_parse]
  generalize (parse rootPrefix id).role.bind FileRole.routeRole? = role
  generalize (parse rootPrefix id).routeTokens = tokens
  rcases List.eq_nil_or_concat tokens with rfl | ⟨before, token, rfl⟩
  · exact ⟨[], _, rfl, rfl, List.forall_mem_nil _⟩
  · rw [List.concat_eq_append, List.map_append, ← List.cons_append,
      List.map_singleton, RouteSegment.endWith_concat]
    refine ⟨_, _, rfl, rfl, ?_⟩
    rw [List.forall_mem_cons, List.forall_mem_map]
    exact ⟨rfl, fun _ _ => rfl⟩

/-- The segments of a file are the root and its folders that are not groups. -/
theorem map_segments_parse (rootPrefix id : String) :
    (parse rootPrefix id).segments.map
      (fun segment => (segment.token, segment.kind)) =
      (rootPath, .static) ::
        ((parse rootPrefix id).folders.filter fun folder => !isGroup folder).map
          fun folder => (folder, SegmentKind.classify folder) := by
  rw [segments_parse, ← routeTokens_parse,
    RouteSegment.map_endWith (fun _ _ => rfl), List.map_cons, List.map_map]
  rfl

end ParsedFile

/-! ## Spellings -/

/-- How texts are spelled one after the other, with any separators between
them. -/
inductive Spelled : List String -> List Char -> Prop
  | alone (text : String) : Spelled [text] text.toList
  | next (text : String) {gap rest : List Char} {texts : List String}
      (nonempty : gap ≠ [])
      (separators : ∀ character ∈ gap, Text.isSeparator character = true)
      (spelled : Spelled texts rest) :
      Spelled (text :: texts) (text.toList ++ gap ++ rest)

namespace Identifier

/-- The components of a text are those on both sides of any separator. -/
theorem components_append_mark {mark : Char}
    (separates : Text.isSeparator mark = true) (front rest : List Char) :
    components (String.ofList (front ++ mark :: rest)) =
      components (String.ofList front) ++ components (String.ofList rest) := by
  simp only [components, Text.pieces, String.toList_ofList,
    Text.splitAt_append_mark separates, List.map_append, List.filter_append]

/-- Separators in front of a text change none of its components. -/
theorem components_gap_append {gap : List Char}
    (separators : ∀ character ∈ gap, Text.isSeparator character = true)
    (rest : List Char) :
    components (String.ofList (gap ++ rest)) =
      components (String.ofList rest) := by
  induction gap with
  | nil => rfl
  | cons mark more step =>
    obtain ⟨separates, later⟩ := List.forall_mem_cons.mp separators
    have split := components_append_mark separates [] (more ++ rest)
    rw [List.nil_append] at split
    rw [List.cons_append, split, step later]
    rfl

/-- Texts spelled one after the other have the components of all of them. -/
theorem components_of_spelled {texts : List String} {characters : List Char}
    (spelled : Spelled texts characters) :
    components (String.ofList characters) = texts.flatMap components := by
  induction spelled with
  | alone text => simp
  | @next text gap rest texts nonempty separators spelled step =>
    obtain ⟨mark, more, rfl⟩ := List.exists_cons_of_ne_nil nonempty
    obtain ⟨separates, later⟩ := List.forall_mem_cons.mp separators
    rw [List.append_assoc, List.cons_append, components_append_mark separates,
      components_gap_append later, step, String.ofList_toList,
      List.flatMap_cons]

/-- A nonempty name without separators, other than a lone dot, is one
component. -/
theorem components_of_plain {name : String} (nonempty : name ≠ "")
    (notDot : name ≠ ".")
    (plain : ∀ character ∈ name.toList, Text.isSeparator character = false) :
    components name = [name] := by
  simp [components, Text.pieces, Text.splitAt_plain plain, nonempty, notDot]

end Identifier

namespace ParsedFile

/-- The stems of roles are names without separators. -/
theorem plain_of_mem_roleStems : ∀ entry ∈ roleStems, entry.1 ≠ "" ∧
    ∀ character ∈ entry.1.toList, Text.isSeparator character = false := by
  simp [roleStems, Text.isSeparator]

theorem components_append_dot {stem extension : String} (nonempty : stem ≠ "")
    (stemPlain : ∀ character ∈ stem.toList, Text.isSeparator character = false)
    (extensionPlain : ∀ character ∈ extension.toList,
      character ≠ '.' ∧ Text.isSeparator character = false) :
    Identifier.components (stem ++ "." ++ extension) =
      [stem ++ "." ++ extension] := by
  apply Identifier.components_of_plain
  · simp [nonempty]
  · intro isDot
    have last : '.' ∉ extension.toList :=
      fun member => (extensionPlain _ member).1 rfl
    have same : stem ++ "." ++ extension = "" ++ "." ++ "" := isDot
    exact nonempty (front_eq_of_append_dot last (by simp) same)
  · simp only [String.toList_append, List.forall_mem_append]
    exact ⟨⟨stemPlain, by simp [Text.isSeparator]⟩,
      fun character member => (extensionPlain character member).2⟩

/-- A file is found where its identifier spells it. -/
theorem parse_of_spelled {rootPrefix id stem extension : String}
    {start folders stop : List String} {role : FileRole}
    (isStart : start.flatMap Identifier.components =
      Identifier.components rootPrefix)
    (isStop : stop.flatMap Identifier.components = [])
    (plain : ∀ folder ∈ folders, folder ≠ "" ∧ folder ≠ "." ∧
      ∀ character ∈ folder.toList, Text.isSeparator character = false)
    (selects : (stem, role) ∈ roleStems)
    (extensionPlain : ∀ character ∈ extension.toList,
      character ≠ '.' ∧ Text.isSeparator character = false)
    (spelled : Spelled (start ++ folders ++ [stem ++ "." ++ extension] ++ stop)
      id.toList) :
    (parse rootPrefix id).folders = folders ∧
    (parse rootPrefix id).role = some role := by
  obtain ⟨nonempty, stemPlain⟩ := plain_of_mem_roleStems (stem, role) selects
  have isStem : IsStem stem (stem ++ "." ++ extension) :=
    .stripped nonempty fun member => (extensionPlain _ member).1 rfl
  have inFolders : folders.flatMap Identifier.components = folders := by
    have each : ∀ folder ∈ folders, Identifier.components folder =
        [folder] := by
      intro folder member
      obtain ⟨folderNonempty, notDot, folderPlain⟩ := plain folder member
      exact Identifier.components_of_plain folderNonempty notDot folderPlain
    rw [List.flatMap_congr each, List.flatMap_singleton']
  have inFile := components_append_dot nonempty stemPlain extensionPlain
  have all : Identifier.components id =
      Identifier.components rootPrefix ++
        (folders ++ [stem ++ "." ++ extension]) := by
    have known := Identifier.components_of_spelled spelled
    rw [String.ofList_toList] at known
    simp only [known, List.flatMap_append, isStart, inFolders, isStop,
      List.append_nil, List.flatMap_singleton, inFile, List.append_assoc]
  have below : Identifier.namesBelow rootPrefix id =
      folders ++ [stem ++ "." ++ extension] := by
    rw [Identifier.namesBelow, all, if_pos (List.prefix_append _ _),
      List.drop_left]
  have isRole : (parse rootPrefix id).role = some role :=
    role_eq_some_iff.mpr ⟨folders, _, stem, below, isStem, selects⟩
  refine ⟨?_, isRole⟩
  rw [folders_eq, isRole, Option.isSome_some, if_pos rfl, below,
    List.dropLast_concat]

/-- An identifier is parsed by its components.  Its names are its components
below the root prefix.  Its role is the one whose stem the last name has, its
folders are the names, without the last one if there is a role, and its segments
are the root and the folders that are not groups, with the role of a page or
layout on the last of them.  In particular, whatever separators an identifier
has, the folders and the role that it spells behind the root prefix are the ones
that it has. -/
theorem parse_by_components (rootPrefix id : String) :
    (parse rootPrefix id).id = id ∧
    (∀ role, (parse rootPrefix id).role = some role ↔
      ∃ front name stem, Identifier.namesBelow rootPrefix id = front ++ [name] ∧
        IsStem stem name ∧ (stem, role) ∈ roleStems) ∧
    (parse rootPrefix id).folders =
      (if (parse rootPrefix id).role.isSome then
        (Identifier.namesBelow rootPrefix id).dropLast
      else Identifier.namesBelow rootPrefix id) ∧
    (parse rootPrefix id).segments.map
      (fun segment => (segment.token, segment.kind)) =
      (rootPath, .static) ::
        ((parse rootPrefix id).folders.filter fun folder => !isGroup folder).map
          (fun folder => (folder, SegmentKind.classify folder)) ∧
    (∃ front last, (parse rootPrefix id).segments = front ++ [last] ∧
      last.role = (parse rootPrefix id).role.bind FileRole.routeRole? ∧
      ∀ segment ∈ front, segment.role = none) ∧
    ∀ start folders stop stem extension role,
      start.flatMap Identifier.components = Identifier.components rootPrefix ->
      stop.flatMap Identifier.components = [] ->
      (∀ folder ∈ folders, folder ≠ "" ∧ folder ≠ "." ∧
        ∀ character ∈ folder.toList, Text.isSeparator character = false) ->
      (stem, role) ∈ roleStems ->
      (∀ character ∈ extension.toList,
        character ≠ '.' ∧ Text.isSeparator character = false) ->
      Spelled (start ++ folders ++ [stem ++ "." ++ extension] ++ stop)
        id.toList ->
      (parse rootPrefix id).folders = folders ∧
      (parse rootPrefix id).role = some role :=
  ⟨rfl, fun _ => role_eq_some_iff, folders_eq rootPrefix id,
    map_segments_parse rootPrefix id, exists_last_segment rootPrefix id,
    fun _ _ _ _ _ _ isStart isStop plain selects extensionPlain spelled =>
      parse_of_spelled isStart isStop plain selects extensionPlain spelled⟩

theorem parse_by_components_cart :
    Spelled ["src", "app", "(shop)", "cart", "page.tsx", ""]
      "src\\app/(shop)\\/cart/page.tsx/".toList ∧
    (parse "./src//app" "src\\app/(shop)\\/cart/page.tsx/").folders =
      ["(shop)", "cart"] ∧
    (parse "./src//app" "src\\app/(shop)\\/cart/page.tsx/").role =
      some .page := by
  have spelled : Spelled ["src", "app", "(shop)", "cart", "page.tsx", ""]
      "src\\app/(shop)\\/cart/page.tsx/".toList :=
    @Spelled.next "src" ['\\'] _ _ (by simp) (by simp [Text.isSeparator]) <|
      @Spelled.next "app" ['/'] _ _ (by simp) (by simp [Text.isSeparator]) <|
        @Spelled.next "(shop)" ['\\', '/'] _ _ (by simp)
          (by simp [Text.isSeparator]) <|
          @Spelled.next "cart" ['/'] _ _ (by simp)
            (by simp [Text.isSeparator]) <|
            @Spelled.next "page.tsx" ['/'] _ _ (by simp)
              (by simp [Text.isSeparator]) <| .alone ""
  obtain ⟨_, _, _, _, _, recovered⟩ :=
    parse_by_components "./src//app" "src\\app/(shop)\\/cart/page.tsx/"
  exact ⟨spelled, recovered ["src", "app"] ["(shop)", "cart"]
    [""] "page" "tsx" .page
    (by decide +kernel) (by decide +kernel)
      (by simp [Text.isSeparator]) (by decide)
    (by simp [Text.isSeparator]) spelled⟩

end ParsedFile
end FileRoutes
