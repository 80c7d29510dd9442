import FileRoutes.Proofs.LoadingSearch
import FileRoutes.Proofs.Parsing

/-!
# Walks up from a key

A walk gives a key, then the part of it in front of its last slash, and so on
until it has given the empty key.  Every walk ends.  It gives the beginnings of
the key that stop in front of a slash, the longest first, so from the key of a
folder it gives the keys of the folder and of all folders around it.
-/

namespace FileRoutes
namespace Text

theorem plain_iff_not_mem {name : List Char} :
    (∀ character ∈ name, isSlash character = false) ↔ '/' ∉ name := by
  constructor
  · intro plain member
    have isPlain := plain '/' member
    cases isPlain
  · intro absent character member
    rw [isSlash, beq_eq_false_iff_ne]
    rintro rfl
    exact absent member

/-- A beginning that stops in front of a mark stops in front of the last mark or
earlier. -/
theorem append_mark_prefix_iff {mark : Char} {front name above : List Char}
    (last : mark ∉ name) :
    above ++ [mark] <+: front ++ mark :: name ↔
      above = front ∨ above ++ [mark] <+: front := by
  constructor
  · rintro ⟨rest, whole⟩
    rw [List.append_assoc, List.append_eq_append_iff] at whole
    -- Either `front` goes on behind `above`, or `above` goes on behind `front`;
    -- then a mark would be in `name`, unless the two are the same.
    rcases whole with ⟨between, rfl, isBetween⟩ | ⟨between, rfl, isBetween⟩
    · cases between with
      | nil => exact Or.inl (List.append_nil _).symm
      | cons head more =>
        obtain ⟨rfl, _⟩ := List.cons.inj isBetween
        exact Or.inr ⟨more, by simp⟩
    · cases between with
      | nil => exact Or.inl (List.append_nil _)
      | cons head more =>
        obtain ⟨_, rfl⟩ := List.cons.inj isBetween
        exact absurd (by simp) last
  · rintro (rfl | begins)
    · exact ⟨name, by simp⟩
    · exact begins.trans (List.prefix_append _ _)

end Text

namespace Key

/-- A walk stands at the key that it gives next, or nowhere when it is over. -/
structure Walk where
  position : Option String

namespace Walk

/-- The walk up from a key. -/
def start (key : String) : Walk :=
  ⟨some key⟩

/-- What is left of a walk that has given a key.  It goes on at the part of the
key in front of its last slash, or at the empty key when there is no slash.
Behind the empty key it is over. -/
def onward (key : String) : Walk :=
  if key = "" then
    ⟨none⟩
  else
    match Text.splitLast '/' key.toList with
    | some (above, _) => start (String.ofList above)
    | none => start ""

/-- Give the next key, if the walk is not over. -/
def next (walk : Walk) : Option (String × Walk) :=
  walk.position.map fun key => (key, onward key)

/-- A walk ends after it has given a list of keys. -/
inductive Yields : Walk -> List String -> Prop
  | finished {walk : Walk} (ended : walk.next = none) : Yields walk []
  | step {walk later : Walk} {key : String} {keys : List String}
      (given : walk.next = some (key, later)) (rest : Yields later keys) :
      Yields walk (key :: keys)

/-- An iterator yields one sequence of keys only. -/
theorem Yields.unique {walk : Walk} {keys others : List String}
    (yields : walk.Yields keys) (yieldsOthers : walk.Yields others) :
    keys = others := by
  induction yields generalizing others with
  | finished ended =>
    cases yieldsOthers with
    | finished _ => rfl
    | step given _ => rw [ended] at given; cases given
  | step given _ later =>
    cases yieldsOthers with
    | finished ended => rw [ended] at given; cases given
    | step givenOther restOther =>
      rw [given] at givenOther
      cases givenOther
      rw [later restOther]

end Walk

/-! ## The key above a key -/

theorem parent_of_splitLast_none {key : List Char}
    (uncut : Text.splitLast '/' key = none) : parent key = [] :=
  parent_of_plain (Text.plain_iff_not_mem.mpr (Text.splitLast_eq_none_iff.mp uncut))

/-- The key above another is what stands in front of its last slash. -/
theorem parent_of_splitLast_some {key above name : List Char}
    (isCut : Text.splitLast '/' key = some (above, name)) :
    parent key = above := by
  obtain ⟨rfl, last⟩ := Text.splitLast_eq_some_iff.mp isCut
  exact parent_append (Text.plain_iff_not_mem.mpr last)

/-- The step behind a key that is not empty goes to the key above it. -/
theorem Walk.onward_of_ne {key : String} (nonempty : key ≠ "") :
    onward key = start (String.ofList (parent key.toList)) := by
  rw [onward, if_neg nonempty]
  cases isCut : Text.splitLast '/' key.toList with
  | none => rw [parent_of_splitLast_none isCut]
  | some cut =>
    obtain ⟨above, name⟩ := cut
    rw [parent_of_splitLast_some isCut]

/-- A walk ends after it has given the ancestors of the key where it starts. -/
theorem Walk.yields_ancestors (key : String) :
    (start key).Yields (ancestors key) := by
  -- The ancestors are defined on characters, so the induction follows their
  -- recursion there.
  have byCharacters : ∀ characters : List Char,
      (start (String.ofList characters)).Yields
        ((ancestorCharacters characters).map String.ofList) := by
    intro characters
    fun_induction ancestorCharacters characters with
    | case1 => exact .step rfl (.finished rfl)
    | case2 first rest above =>
      have nonempty : String.ofList (first :: rest) ≠ "" := by simp
      refine .step rfl ?_
      rw [onward_of_ne nonempty, String.toList_ofList]
      exact above
  have started := byCharacters key.toList
  rwa [String.ofList_toList] at started

/-! ## All keys above a key -/

/-- A key is above another one if it is empty or if the other one goes on behind
it with a slash. -/
def IsAbove (above key : List Char) : Prop :=
  above = [] ∨ above ++ ['/'] <+: key

theorem IsAbove.begins {above key : List Char} (isAbove : IsAbove above key) :
    above <+: key := by
  rcases isAbove with rfl | begins
  · exact List.nil_prefix
  · exact (List.prefix_append _ _).trans begins

/-- A key above another is shorter. -/
theorem IsAbove.length_lt {above key : List Char} (isAbove : IsAbove above key)
    (nonempty : key ≠ []) : above.length < key.length := by
  rcases isAbove with rfl | begins
  · exact List.length_pos_iff.mpr nonempty
  · have bound := begins.length_le
    rw [List.length_append, List.length_singleton] at bound
    omega

/-- The keys above a key are its parent and the keys above that. -/
theorem isAbove_iff {above key : List Char} :
    IsAbove above key ↔ above = parent key ∨ IsAbove above (parent key) := by
  cases isCut : Text.splitLast '/' key with
  | none =>
    have absent := Text.splitLast_eq_none_iff.mp isCut
    have apart : ¬ above ++ ['/'] <+: key :=
      fun begins => absent (begins.mem (by simp))
    simp [IsAbove, parent_of_splitLast_none isCut, apart]
  | some cut =>
    obtain ⟨front, name⟩ := cut
    rw [parent_of_splitLast_some isCut]
    obtain ⟨rfl, last⟩ := Text.splitLast_eq_some_iff.mp isCut
    rw [IsAbove, IsAbove, Text.append_mark_prefix_iff last]
    exact or_left_comm

/-- The ancestors of a key are the key itself and the keys above it. -/
theorem mem_ancestorCharacters_iff {above key : List Char} :
    above ∈ ancestorCharacters key ↔ above = key ∨ IsAbove above key := by
  fun_induction ancestorCharacters key with
  | case1 => simp [IsAbove]
  | case2 first rest step => rw [List.mem_cons, step, ← isAbove_iff]

/-- Each ancestor is shorter than those in front of it, and begins them. -/
theorem pairwise_ancestorCharacters (key : List Char) :
    (ancestorCharacters key).Pairwise fun below above =>
      above <+: below ∧ above.length < below.length := by
  fun_induction ancestorCharacters key with
  | case1 => exact List.pairwise_singleton _ _
  | case2 first rest step =>
    refine List.pairwise_cons.mpr ⟨fun above member => ?_, step⟩
    have isAbove : IsAbove above (first :: rest) :=
      isAbove_iff.mpr (mem_ancestorCharacters_iff.mp member)
    exact ⟨isAbove.begins, isAbove.length_lt (List.cons_ne_nil _ _)⟩

theorem head_ancestorCharacters (key : List Char) :
    (ancestorCharacters key).head? = some key := by
  fun_cases ancestorCharacters key <;> rfl

theorem getLast_ancestorCharacters (key : List Char) :
    (ancestorCharacters key).getLast? = some [] := by
  fun_induction ancestorCharacters key with
  | case1 => rfl
  | case2 first rest step => rw [List.getLast?_cons, step, Option.getD_some]

theorem mem_ancestors_iff {above key : String} :
    above ∈ ancestors key ↔ above = key ∨ IsAbove above.toList key.toList := by
  rw [ancestors, List.mem_map, ← String.toList_inj,
    ← mem_ancestorCharacters_iff]
  constructor
  · rintro ⟨characters, member, rfl⟩
    rwa [String.toList_ofList]
  · intro member
    exact ⟨above.toList, member, String.ofList_toList⟩

/-- The ancestors of a key become shorter from each to the next. -/
theorem pairwise_ancestors (key : String) :
    (ancestors key).Pairwise fun below above =>
      above.toList <+: below.toList ∧ above.length < below.length := by
  rw [ancestors, List.pairwise_map]
  simpa only [String.toList_ofList, String.length_ofList]
    using pairwise_ancestorCharacters key.toList

/-- No key is listed twice among the ancestors of a key. -/
theorem nodup_ancestors (key : String) : (ancestors key).Nodup := by
  apply (pairwise_ancestors key).imp
  rintro below above ⟨_, shorter⟩ rfl
  exact lt_irrefl _ shorter

/-- Walks up from a key go through its beginnings.  The walk from any key ends
after it has given the ancestors of the key: the key first, the empty key last,
and between them the beginnings in front of a slash, each one shorter than those
before it.  From names that are joined to a key these are the joined beginnings
of the list of names, from the whole list down to the empty one, and each but
the empty one ends in the last name of its beginning. -/
theorem walk_enumerates :
    (∀ key : String,
      (∀ keys, (Walk.start key).Yields keys ↔ keys = ancestors key) ∧
      (ancestors key).head? = some key ∧ (ancestors key).getLast? = some "" ∧
      ((ancestors key).Pairwise fun below above =>
        above.toList <+: below.toList ∧ above.length < below.length) ∧
      ∀ above, above ∈ ancestors key ↔
        above = key ∨ IsAbove above.toList key.toList) ∧
    ∀ names : List String, (∀ name ∈ names, Text.IsName name) ->
      ancestors (Text.joinSlash names) =
        names.inits.reverse.map Text.joinSlash ∧
      (ancestors (Text.joinSlash names)).Nodup ∧
      ∀ front name, front ++ [name] <+: names ->
        Text.joinSlash (front ++ [name]) ≠ "" ∧
          lastName (Text.joinSlash (front ++ [name])) = name := by
  constructor
  · intro key
    have isFirst : (ancestors key).head? = some key := by
      rw [ancestors, List.head?_map, head_ancestorCharacters, Option.map_some,
        String.ofList_toList]
    have isLast : (ancestors key).getLast? = some "" := by
      rw [ancestors, List.getLast?_map, getLast_ancestorCharacters]
      rfl
    refine ⟨fun keys => ?_, isFirst, isLast, pairwise_ancestors key,
      fun _ => mem_ancestors_iff⟩
    constructor
    · intro yields
      exact yields.unique (Walk.yields_ancestors key)
    · rintro rfl
      exact Walk.yields_ancestors key
  · intro names valid
    refine ⟨ancestors_joinSlash valid, nodup_ancestors _,
      fun front name begins => ?_⟩
    have namesValid : ∀ other ∈ front ++ [name], Text.IsName other :=
      fun other member => valid other (begins.mem member)
    exact ⟨Text.joinSlash_ne_empty (by simp) namesValid,
      lastName_joinSlash front (namesValid name (by simp))⟩

theorem walk_enumerates_checkout :
    (∀ name ∈ ["(shop)", "cart", "pay"], Text.IsName name) ∧
      (Walk.start "(shop)/cart/pay").Yields
        ["(shop)/cart/pay", "(shop)/cart", "(shop)", ""] ∧
      lastName "(shop)/cart" = "cart" ∧ "/docs/" ∈ ancestors "/docs//" := by
  obtain ⟨anyKey, joined⟩ := walk_enumerates
  have valid : ∀ name ∈ ["(shop)", "cart", "pay"], Text.IsName name := by
    simp [Text.IsName, Text.isSlash]
  obtain ⟨enumerated, _, ends⟩ := joined _ valid
  obtain ⟨walked, _⟩ := anyKey "(shop)/cart/pay"
  obtain ⟨_, _, _, _, between⟩ := anyKey "/docs//"
  refine ⟨valid, (walked _).mpr ?_, ?_, (between "/docs/").mpr ?_⟩
  · exact enumerated.symm
  · exact (ends ["(shop)"] "cart" ⟨["pay"], rfl⟩).2
  · exact Or.inr (Or.inr (by decide +kernel))

end Key
end FileRoutes
