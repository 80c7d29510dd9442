import FileRoutes.Segment
import Mathlib.Data.List.Infix

/-!
# Kinds of folder names and how they are written

A folder name is classified by four forms of brackets that overlap.  A dynamic
kind is found exactly for the name that it is written as, provided that none of
the forms tried before takes that name for another kind.
-/

namespace FileRoutes
namespace SegmentKind

/-! ## Beginnings and endings of a name -/

/-- A search that finds exactly the texts with a property fails if there are
none. -/
theorem eq_none_iff_of_some_iff {found : Option (List Char)}
    {holds : String -> Prop}
    (some_iff : ∀ characters, found = some characters ↔
      holds (String.ofList characters)) :
    found = none ↔ ∀ text, ¬holds text := by
  rw [Option.eq_none_iff_forall_ne_some]
  constructor
  · intro never text isHeld
    rw [← String.ofList_toList (s := text)] at isHeld
    exact never text.toList ((some_iff _).mpr isHeld)
  · exact fun never characters isFound =>
      never _ ((some_iff characters).mp isFound)

/-- Cutting off a beginning succeeds exactly if the name is the beginning and
the rest. -/
theorem beginning_eq_some_iff {beginning name : String} (rest : List Char) :
    beginning.toList.isPrefixOf? name.toList = some rest ↔
      name = beginning ++ String.ofList rest := by
  rw [List.isPrefixOf?_eq_some_iff_append_eq, ← String.toList_inj,
    String.toList_append, String.toList_ofList, eq_comm]

theorem beginning_eq_none_iff {beginning name : String} :
    beginning.toList.isPrefixOf? name.toList = none ↔
      ∀ rest, name ≠ beginning ++ rest :=
  eq_none_iff_of_some_iff beginning_eq_some_iff

/-- Cutting off an ending succeeds exactly if the name is the front and the
ending. -/
theorem ending_eq_some_iff {ending name : String} (front : List Char) :
    ending.toList.isSuffixOf? name.toList = some front ↔
      name = String.ofList front ++ ending := by
  rw [List.isSuffixOf?_eq_some_iff_append_eq, ← String.toList_inj,
    String.toList_append, String.toList_ofList, eq_comm]

theorem ending_eq_none_iff {ending name : String} :
    ending.toList.isSuffixOf? name.toList = none ↔
      ∀ front, name ≠ front ++ ending :=
  eq_none_iff_of_some_iff ending_eq_some_iff

/-- A token encloses a name exactly if the name is nonempty and stands between
the two marks. -/
theorem enclosed_eq_some_iff {beginning ending token : String}
    (inner : List Char) :
    enclosed? beginning.toList ending.toList token.toList = some inner ↔
      String.ofList inner ≠ "" ∧
      token = beginning ++ String.ofList inner ++ ending := by
  simp only [enclosed?, Option.bind_eq_bind, Option.bind_eq_some_iff,
    beginning_eq_some_iff]
  constructor
  · rintro ⟨rest, isToken, found, isRest, kept⟩
    split at kept
    · cases kept
    · rename_i nonempty
      cases kept
      rw [← String.toList_ofList (l := rest), ending_eq_some_iff] at isRest
      exact ⟨by simpa using nonempty, by rw [isToken, isRest, String.append_assoc]⟩
  · rintro ⟨nonempty, isToken⟩
    refine ⟨inner ++ ending.toList, ?_, inner, ?_,
      if_neg (by simpa using nonempty)⟩
    · rw [isToken, String.ofList_append, String.ofList_toList,
        String.append_assoc]
    · exact List.isSuffixOf?_eq_some_iff_append_eq.mpr rfl

theorem enclosed_eq_none_iff {beginning ending token : String} :
    enclosed? beginning.toList ending.toList token.toList = none ↔
      ∀ inner, ¬(inner ≠ "" ∧ token = beginning ++ inner ++ ending) :=
  eq_none_iff_of_some_iff enclosed_eq_some_iff

/-! ## From a name to its kind -/

theorem classify_eq (token : String) :
    classify token =
      match enclosed? "[[...".toList "]]".toList token.toList with
      | some parameter => .optionalCatchAll (String.ofList parameter)
      | none =>
        match enclosed? "[".toList "]".toList token.toList with
        | some inner => classifyBracketed inner
        | none => .static := rfl

theorem classifyBracketed_eq (inner : String) :
    classifyBracketed inner.toList =
      match "...".toList.isPrefixOf? inner.toList with
      | some parameter => .catchAll (String.ofList parameter)
      | none =>
        match "?".toList.isSuffixOf? inner.toList with
        | some parameter => .optionalDynamic (String.ofList parameter)
        | none => .dynamic inner := by
  rw [classifyBracketed, String.ofList_toList]
  rfl

/-- Whether a dynamic kind can be read back from the name that it is written as.
The forms are tried from the longest brackets to the shortest, so the parameter
must not complete the brackets of its own form to those of another one. -/
def Expressible : SegmentKind -> Prop
  | static => True
  | dynamic parameter =>
    parameter ≠ "" ∧ (∀ rest, parameter ≠ "..." ++ rest) ∧
      (∀ front, parameter ≠ front ++ "?") ∧
      ∀ inner, ¬(inner ≠ "" ∧ parameter = "[..." ++ inner ++ "]")
  | optionalDynamic parameter => ∀ rest, parameter ≠ "..." ++ rest
  | catchAll _ => True
  | optionalCatchAll parameter => parameter ≠ ""

/-- Double brackets are single brackets around a bracketed catch-all. -/
theorem optionalBrackets_eq (parameter : String) :
    "[[..." ++ parameter ++ "]]" =
      "[" ++ ("[..." ++ parameter ++ "]") ++ "]" := by
  simp [← String.toList_inj]

/-- A name in single brackets that is no optional catch-all is classified by
what stands between the brackets. -/
theorem classify_of_bracketed {inner : String} (nonempty : inner ≠ "")
    (single : ∀ parameter,
      ¬(parameter ≠ "" ∧ inner = "[..." ++ parameter ++ "]")) :
    classify ("[" ++ inner ++ "]") = classifyBracketed inner.toList := by
  have notOptional : enclosed? "[[...".toList "]]".toList
      ("[" ++ inner ++ "]").toList = none := by
    rw [enclosed_eq_none_iff]
    rintro parameter ⟨something, same⟩
    rw [optionalBrackets_eq, String.append_left_inj, String.append_right_inj]
      at same
    exact single parameter ⟨something, same⟩
  have enclosed : enclosed? "[".toList "]".toList
      ("[" ++ inner ++ "]").toList = some inner.toList := by
    rw [enclosed_eq_some_iff, String.ofList_toList]
    exact ⟨nonempty, rfl⟩
  rw [classify_eq, notOptional, enclosed]

/-- A kind that is read off a bracketed name is written with that name again. -/
theorem written_classifyBracketed {inner : String} (nonempty : inner ≠ "")
    (single : ∀ parameter,
      ¬(parameter ≠ "" ∧ inner = "[..." ++ parameter ++ "]")) :
    (classifyBracketed inner.toList).written? = some ("[" ++ inner ++ "]") ∧
      (classifyBracketed inner.toList).Expressible := by
  rw [classifyBracketed_eq]
  split
  · rename_i parameter isCatchAll
    rw [beginning_eq_some_iff] at isCatchAll
    exact ⟨by simp [written?, isCatchAll, ← String.toList_inj], trivial⟩
  · rename_i noDots
    rw [beginning_eq_none_iff] at noDots
    split
    · rename_i parameter isOptional
      rw [ending_eq_some_iff] at isOptional
      refine ⟨by simp [written?, isOptional, ← String.toList_inj],
        fun rest isDotted => ?_⟩
      exact noDots (rest ++ "?")
        (by rw [isOptional, isDotted, String.append_assoc])
    · rename_i noMark
      exact ⟨rfl, nonempty, noDots, ending_eq_none_iff.mp noMark, single⟩

/-- The kind that is found for a name is written as that name. -/
theorem written_classify {token : String} (found : classify token ≠ .static) :
    (classify token).written? = some token ∧ (classify token).Expressible := by
  rw [classify_eq] at found ⊢
  split at found
  · rename_i parameter isOptional
    obtain ⟨nonempty, isToken⟩ := (enclosed_eq_some_iff parameter).mp isOptional
    exact ⟨congrArg some isToken.symm, nonempty⟩
  · rename_i notOptional
    rw [enclosed_eq_none_iff] at notOptional
    split at found
    · rename_i inner isBracketed
      obtain ⟨nonempty, isToken⟩ := (enclosed_eq_some_iff inner).mp isBracketed
      have single : ∀ parameter,
          ¬(parameter ≠ "" ∧
            String.ofList inner = "[..." ++ parameter ++ "]") := by
        rintro parameter ⟨something, isInner⟩
        exact notOptional parameter
          ⟨something, by rw [isToken, isInner, optionalBrackets_eq]⟩
      have known := written_classifyBracketed nonempty single
      rwa [String.toList_ofList, ← isToken] at known
    · exact absurd rfl found

/-! ## From a kind to its name -/

theorem classifyBracketed_catchAll (parameter : String) :
    classifyBracketed ("..." ++ parameter).toList = .catchAll parameter := by
  have isDotted : "...".toList.isPrefixOf? ("..." ++ parameter).toList =
      some parameter.toList := by
    rw [beginning_eq_some_iff, String.ofList_toList]
  rw [classifyBracketed_eq, isDotted]
  exact congrArg catchAll String.ofList_toList

/-- A question mark at the end does not give a name its dots. -/
theorem dotted_of_append_mark {parameter rest : String}
    (isDotted : parameter ++ "?" = "..." ++ rest) :
    ∃ more, parameter = "..." ++ more := by
  rw [← String.toList_inj, String.toList_append, String.toList_append,
    List.append_eq_append_iff] at isDotted
  rcases isDotted with ⟨between, isDots, isMark⟩ | ⟨more, isParameter, _⟩
  · cases between with
    | nil => exact ⟨"", by simpa [← String.toList_inj] using isDots.symm⟩
    | cons mark _ =>
      obtain rfl : '?' = mark := (List.cons.inj isMark).1
      have inDots : '?' ∈ "...".toList :=
        isDots ▸ List.mem_append_right _ List.mem_cons_self
      exact absurd inDots (by decide)
  · exact ⟨String.ofList more, by simp [← String.toList_inj, isParameter]⟩

/-- A bracketed name with a question mark at the end is an optional parameter,
unless it begins with dots. -/
theorem classifyBracketed_optionalDynamic {parameter : String}
    (noDots : ∀ rest, parameter ≠ "..." ++ rest) :
    classifyBracketed (parameter ++ "?").toList =
      .optionalDynamic parameter := by
  have notDotted : ∀ rest, parameter ++ "?" ≠ "..." ++ rest :=
    fun rest isDotted => (dotted_of_append_mark isDotted).elim noDots
  have isMarked : "?".toList.isSuffixOf? (parameter ++ "?").toList =
      some parameter.toList := by
    rw [ending_eq_some_iff, String.ofList_toList]
  rw [classifyBracketed_eq, beginning_eq_none_iff.mpr notDotted, isMarked]
  exact congrArg optionalDynamic String.ofList_toList

theorem classifyBracketed_dynamic {parameter : String}
    (noDots : ∀ rest, parameter ≠ "..." ++ rest)
    (noMark : ∀ front, parameter ≠ front ++ "?") :
    classifyBracketed parameter.toList = .dynamic parameter := by
  rw [classifyBracketed_eq, beginning_eq_none_iff.mpr noDots,
    ending_eq_none_iff.mpr noMark]

/-- A kind is found for the name that it is written as. -/
theorem classify_written {kind : SegmentKind} {token : String}
    (isWritten : kind.written? = some token) (expressible : kind.Expressible) :
    classify token = kind := by
  cases kind with
  | static => cases isWritten
  | dynamic parameter =>
    cases isWritten
    obtain ⟨nonempty, noDots, noMark, single⟩ := expressible
    rw [classify_of_bracketed nonempty single,
      classifyBracketed_dynamic noDots noMark]
  | optionalDynamic parameter =>
    have isToken : token = "[" ++ (parameter ++ "?") ++ "]" := by
      cases isWritten
      simp [← String.toList_inj]
    have single :
        ∀ inner, ¬(inner ≠ "" ∧ parameter ++ "?" = "[..." ++ inner ++ "]") := by
      rintro inner ⟨_, same⟩
      rw [← String.toList_inj, String.toList_append, String.toList_append]
        at same
      exact absurd (List.append_inj' same rfl).2 (by decide)
    rw [isToken, classify_of_bracketed (by simp) single,
      classifyBracketed_optionalDynamic expressible]
  | catchAll parameter =>
    have isToken : token = "[" ++ ("..." ++ parameter) ++ "]" := by
      cases isWritten
      simp [← String.toList_inj]
    have single :
        ∀ inner,
          ¬(inner ≠ "" ∧ "..." ++ parameter = "[..." ++ inner ++ "]") := by
      rintro inner ⟨_, same⟩
      simp [← String.toList_inj] at same
    rw [isToken, classify_of_bracketed (by simp) single,
      classifyBracketed_catchAll]
  | optionalCatchAll parameter =>
    have isOptional : enclosed? "[[...".toList "]]".toList token.toList =
        some parameter.toList := by
      cases isWritten
      rw [enclosed_eq_some_iff, String.ofList_toList]
      exact ⟨expressible, rfl⟩
    rw [classify_eq, isOptional]
    exact congrArg optionalCatchAll String.ofList_toList

/-! ## Names and kinds -/

theorem classifyBracketed_ne_static (inner : List Char) :
    classifyBracketed inner ≠ .static := by
  unfold classifyBracketed
  split
  · nofun
  · split <;> nofun

/-- A name is static if it is not some text in brackets. -/
theorem classify_eq_static_iff (token : String) :
    classify token = .static ↔
      ¬∃ inner, inner ≠ "" ∧ token = "[" ++ inner ++ "]" := by
  rw [classify_eq]
  split
  · rename_i parameter isOptional
    obtain ⟨_, isToken⟩ := (enclosed_eq_some_iff parameter).mp isOptional
    rw [optionalBrackets_eq] at isToken
    exact iff_of_false nofun fun plain => plain ⟨_, by simp, isToken⟩
  · split
    · rename_i inner isBracketed
      have isToken := (enclosed_eq_some_iff inner).mp isBracketed
      exact iff_of_false (classifyBracketed_ne_static inner) fun plain =>
        plain ⟨_, isToken⟩
    · rename_i notBracketed
      exact iff_of_true rfl
        (not_exists.mpr (enclosed_eq_none_iff.mp notBracketed))

/-- Names of the same dynamic kind are equal. -/
theorem eq_of_classify_eq {left right : String}
    (dynamic : classify left ≠ .static)
    (same : classify left = classify right) : left = right := by
  have isLeft := (written_classify dynamic).1
  have isRight := (written_classify (same ▸ dynamic)).1
  rw [same, isRight, Option.some.injEq] at isLeft
  exact isLeft.symm

/-- Dynamic kinds and folder names determine each other.  A dynamic kind is
found for a name exactly if it is expressible and written as that name, and the
static names are those that are not some text in brackets.  So different names
have different kinds unless both are static. -/
theorem classify_faithful :
    (∀ token kind, classify token = kind ∧ kind ≠ .static ↔
      kind.written? = some token ∧ kind.Expressible) ∧
    (∀ token, classify token = .static ↔
      ¬∃ inner, inner ≠ "" ∧ token = "[" ++ inner ++ "]") ∧
    ∀ left right, classify left = classify right ↔
      left = right ∨ classify left = .static ∧ classify right = .static := by
  refine ⟨fun token kind => ⟨?_, ?_⟩, classify_eq_static_iff,
    fun left right => ⟨?_, ?_⟩⟩
  · rintro ⟨rfl, dynamic⟩
    exact written_classify dynamic
  · rintro ⟨isWritten, expressible⟩
    refine ⟨classify_written isWritten expressible, ?_⟩
    rintro rfl
    cases isWritten
  · intro same
    by_cases isStatic : classify left = .static
    · exact Or.inr ⟨isStatic, same ▸ isStatic⟩
    · exact Or.inl (eq_of_classify_eq isStatic same)
  · rintro (rfl | ⟨leftStatic, rightStatic⟩)
    · rfl
    · rw [leftStatic, rightStatic]

/-- The written form of an optional parameter `...name` is read as a
catch-all. -/
example : (optionalDynamic "...name").written? = some "[...name?]" ∧
    classify "[...name?]" = .catchAll "name?" := by
  decide +kernel

end SegmentKind
end FileRoutes
