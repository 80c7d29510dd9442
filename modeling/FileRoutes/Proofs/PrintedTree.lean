import FileRoutes.Outline.Printer
import FileRoutes.Proofs.Reordering
import FileRoutes.Proofs.RouteKey

/-!
# Printed outlines can be read back

Each node of an outline is printed on a line of its own, parents first.  The
cells at the beginning of a line tell the depth of its node, whatever follows
them, and the depths of the nodes tell the shape of the outline.
-/

namespace FileRoutes
namespace Text

/-- The character that ends a line. -/
def isLineBreak (character : Char) : Bool :=
  character == '\n'

/-- A line is a text without line breaks. -/
def IsLine (text : String) : Prop :=
  '\n' ∉ text.toList

theorem isLine_append_iff {front rest : String} :
    IsLine (front ++ rest) ↔ IsLine front ∧ IsLine rest := by
  rw [IsLine, String.toList_append, List.mem_append, not_or, IsLine, IsLine]

theorem IsLine.plain {text : String} (isLine : IsLine text) :
    ∀ character ∈ text.toList, isLineBreak character = false := by
  intro character member
  rw [isLineBreak, beq_eq_false_iff_ne]
  rintro rfl
  exact isLine member

/-- Lines that were ended by line breaks can be read back. -/
theorem pieces_join_lines {lines : List String}
    (plain : ∀ line ∈ lines, IsLine line) :
    pieces isLineBreak (String.join (lines.map (· ++ "\n"))) =
      lines ++ [""] := by
  induction lines with
  | nil => rfl
  | cons line rest step =>
    obtain ⟨linePlain, restPlain⟩ := List.forall_mem_cons.mp plain
    have split : (String.join ((line :: rest).map (· ++ "\n"))).toList =
        line.toList ++ '\n' :: (String.join (rest.map (· ++ "\n"))).toList := by
      rw [List.map_cons, String.join_cons, String.toList_append,
        String.toList_append, List.append_assoc]
      rfl
    have later := step restPlain
    rw [pieces] at later
    rw [pieces, split, splitAt_append_cons linePlain.plain rfl,
      List.map_cons, later, String.ofList_toList, List.cons_append]

end Text

namespace Outline

/-! ## Nodes, parents first -/

mutual

/-- The nodes of an outline with their depths, parents first. -/
def visits (depth : Nat) : Outline -> List (Nat × Outline)
  | ⟨path, index, parameter, content, source, loading, error, children⟩ =>
    (depth, ⟨path, index, parameter, content, source, loading, error, children⟩) ::
      forestVisits (depth + 1) children

/-- The nodes of several outlines with their depths. -/
def forestVisits (depth : Nat) : List Outline -> List (Nat × Outline)
  | [] => []
  | first :: rest => visits depth first ++ forestVisits depth rest

end

/-- An outline is visited first, then its children one level deeper. -/
theorem visits_eq (depth : Nat) (outline : Outline) :
    visits depth outline =
      (depth, outline) :: forestVisits (depth + 1) outline.children := by
  cases outline
  rfl

theorem linesBelow_eq (colored : Bool) (indentation : String)
    (outline : Outline) :
    linesBelow colored indentation outline =
      forestLines colored indentation outline.children := by
  cases outline
  rfl

mutual

theorem depth_le_of_mem_visits {depth : Nat} (outline : Outline) :
    ∀ visit ∈ visits depth outline, depth ≤ visit.1 := by
  obtain ⟨path, index, parameter, content, source, loading, error, children⟩ :=
    outline
  rw [visits, List.forall_mem_cons]
  exact ⟨Nat.le_refl depth, fun visit member =>
    Nat.le_of_succ_le (depth_le_of_mem_forestVisits children visit member)⟩

/-- Nothing that is visited in a forest lies higher than the roots of its
trees. -/
theorem depth_le_of_mem_forestVisits {depth : Nat} (forest : List Outline) :
    ∀ visit ∈ forestVisits depth forest, depth ≤ visit.1 := by
  match forest with
  | [] => exact List.forall_mem_nil _
  | first :: rest =>
    rw [forestVisits, List.forall_mem_append]
    exact ⟨depth_le_of_mem_visits first, depth_le_of_mem_forestVisits rest⟩

end

/-! ## The cells of a line -/

/-- The cells below ancestors, given for each whether it is the last child of
its parent. -/
def indent (lasts : List Bool) : List Char :=
  lasts.flatMap fun isLast => (branchCells isLast).2.toList

theorem indent_nil : indent [] = [] := rfl

theorem indent_cons (isLast : Bool) (lasts : List Bool) :
    indent (isLast :: lasts) = (branchCells isLast).2.toList ++ indent lasts :=
  rfl

theorem indent_append_singleton (lasts : List Bool) (isLast : Bool) :
    indent (lasts ++ [isLast]) =
      indent lasts ++ (branchCells isLast).2.toList := by
  simp [indent]

theorem length_branch (isLast : Bool) :
    (branchCells isLast).1.toList.length = 4 := by
  cases isLast <;> rfl

theorem length_cell (isLast : Bool) :
    (branchCells isLast).2.toList.length = 4 := by
  cases isLast <;> rfl

/-- A line cannot go on with an indentation cell where another one has the cell
of a branch. -/
theorem branch_ne_cell (isLast other : Bool) :
    (branchCells isLast).1.toList ≠ (branchCells other).2.toList := by
  cases isLast <;> cases other <;> simp [branchCells]

/-- All cells are four characters wide. -/
theorem length_indent (lasts : List Bool) :
    (indent lasts).length = 4 * lasts.length := by
  induction lasts with
  | nil => rfl
  | cons isLast rest step =>
    rw [indent_cons, List.length_append, length_cell, step, List.length_cons]
    omega

/-- The first branch ends the cells, so they can be told from any text behind
them. -/
theorem indent_branch_inj {lasts others : List Bool} {isLast other : Bool}
    {text different : List Char}
    (same : indent lasts ++ ((branchCells isLast).1.toList ++ text) =
      indent others ++ ((branchCells other).1.toList ++ different)) :
    lasts.length = others.length ∧ text = different := by
  -- All cells have the same width, so both sides are compared one cell after
  -- the other.
  induction lasts generalizing others with
  | nil =>
    rw [indent_nil, List.nil_append] at same
    cases others with
    | nil =>
      rw [indent_nil, List.nil_append] at same
      exact ⟨rfl,
        (List.append_inj same (by rw [length_branch, length_branch])).2⟩
    | cons cell rest =>
      rw [indent_cons, List.append_assoc] at same
      have sameCell :=
        (List.append_inj same (by rw [length_branch, length_cell])).1
      exact absurd sameCell (branch_ne_cell isLast cell)
  | cons cell more step =>
    rw [indent_cons, List.append_assoc] at same
    cases others with
    | nil =>
      rw [indent_nil, List.nil_append] at same
      have sameCell :=
        (List.append_inj same (by rw [length_branch, length_cell])).1
      exact absurd sameCell.symm (branch_ne_cell other cell)
    | cons otherCell rest =>
      rw [indent_cons, List.append_assoc] at same
      have sameRest :=
        (List.append_inj same (by rw [length_cell, length_cell])).2
      obtain ⟨sameLength, sameText⟩ := step sameRest
      exact ⟨congrArg (· + 1) sameLength, sameText⟩

/-- The depth of a node and the text of its line. -/
def entry (visit : Nat × Outline) : Nat × String :=
  (visit.1, describe false visit.2)

/-- Whether a line has the text of an entry behind the cells of its depth: those
below the ancestors of the node and the branch to the node itself. -/
def Branched (entry : Nat × String) (line : String) : Prop :=
  ∃ lasts isLast, entry.1 = lasts.length + 1 ∧
    line.toList = indent lasts ++
      ((branchCells isLast).1.toList ++ entry.2.toList)

/-- A line below the first tells its depth and its text. -/
theorem branched_leftUnique : Relator.LeftUnique Branched := by
  rintro ⟨depth, text⟩ ⟨other, different⟩ line ⟨lasts, isLast, rfl, isLine⟩
    ⟨others, isOther, rfl, isSame⟩
  obtain ⟨sameDepth, sameText⟩ := indent_branch_inj (isLine.symm.trans isSame)
  exact Prod.ext (congrArg (· + 1) sameDepth) (String.toList_inj.mp sameText)

mutual

/-- The lines of siblings are those of their nodes, parents first. -/
theorem branched_forestLines (lasts : List Bool) (forest : List Outline) :
    List.Forall₂ Branched ((forestVisits (lasts.length + 1) forest).map entry)
      (forestLines false (String.ofList (indent lasts)) forest) := by
  match forest with
  | [] => exact .nil
  | child :: rest =>
    have deeper : String.ofList (indent lasts) ++ (branchCells rest.isEmpty).2 =
        String.ofList (indent (lasts ++ [rest.isEmpty])) := by
      rw [indent_append_singleton, String.ofList_append, String.ofList_toList]
    have below := branched_linesBelow (lasts ++ [rest.isEmpty]) child
    rw [List.length_append, List.length_singleton] at below
    rw [forestVisits, visits_eq, forestLines, deeper, List.map_append,
      List.map_cons]
    exact .cons ⟨lasts, rest.isEmpty, rfl, by simp [entry]⟩
      (List.rel_append below (branched_forestLines lasts rest))

/-- The lines below a node carry the depths and descriptions of the nodes below
it. -/
theorem branched_linesBelow (lasts : List Bool) (outline : Outline) :
    List.Forall₂ Branched
      ((forestVisits (lasts.length + 1) outline.children).map entry)
      (linesBelow false (String.ofList (indent lasts)) outline) := by
  obtain ⟨path, index, parameter, content, source, loading, error, children⟩ :=
    outline
  exact branched_forestLines lasts children

end

theorem branched_lines (outline : Outline) :
    List.Forall₂ Branched ((forestVisits 1 outline.children).map entry)
      (linesBelow false "" outline) :=
  branched_linesBelow [] outline

/-- Whether a line is that of a node: its description behind four characters for
each level above the node. -/
def PrintedAs (visit : Nat × Outline) (line : String) : Prop :=
  ∃ cells : List Char, cells.length = 4 * visit.1 ∧
    line.toList = cells ++ (describe false visit.2).toList

theorem printedAs_of_branched {visit : Nat × Outline} {line : String}
    (branched : Branched (entry visit) line) : PrintedAs visit line := by
  obtain ⟨lasts, isLast, isDepth, isLine⟩ := branched
  have isLevel : visit.1 = lasts.length + 1 := isDepth
  refine ⟨indent lasts ++ (branchCells isLast).1.toList, ?_, ?_⟩
  · rw [List.length_append, length_indent, length_branch, isLevel]
    omega
  · rw [isLine, List.append_assoc]
    rfl

/-- The lines of an outline are those of its nodes, parents first. -/
theorem printedAs_lines (outline : Outline) :
    List.Forall₂ PrintedAs (visits 0 outline) (lines false outline) := by
  rw [visits_eq, lines]
  refine .cons ⟨[], rfl, rfl⟩ ?_
  exact (List.forall₂_map_left_iff.mp (branched_lines outline)).imp
    fun _ _ => printedAs_of_branched

/-! ## From the depths of nodes to the shape -/

/-- Whether two outlines have the same shape and the same line at every node. -/
inductive LooksLike : Outline -> Outline -> Prop
  | intro {left right : Outline}
      (sameLine : describe false left = describe false right)
      (below : List.Forall₂ LooksLike left.children right.children) :
      LooksLike left right

/-- Appended lists can be taken apart where a property ends that all of the
first list has. -/
theorem append_inj_of_takeWhile {α : Type} {test : α -> Bool}
    {front other rest behind : List α}
    (inFront : ∀ member ∈ front, test member = true)
    (inOther : ∀ member ∈ other, test member = true)
    (ends : rest.head?.all fun member => !test member)
    (endsToo : behind.head?.all fun member => !test member)
    (same : front ++ rest = other ++ behind) :
    front = other ∧ rest = behind := by
  have stopped {list : List α}
      (atHead : list.head?.all fun member => !test member) :
      list.takeWhile test = [] := by
    cases list with
    | nil => rfl
    | cons first more => simpa [List.takeWhile_cons] using atHead
  have taken := congrArg (List.takeWhile test) same
  rw [List.takeWhile_append_of_pos inFront,
    List.takeWhile_append_of_pos inOther, stopped ends, stopped endsToo,
    List.append_nil, List.append_nil] at taken
  subst taken
  exact ⟨rfl, List.append_cancel_left same⟩

/-- Nodes below a node are deeper than the node. -/
theorem deeper_entries {depth : Nat} (children : List Outline) :
    ∀ deeper ∈ (forestVisits (depth + 1) children).map entry,
      decide (depth < deeper.1) = true := by
  rw [List.forall_mem_map]
  exact fun visit member =>
    decide_eq_true (depth_le_of_mem_forestVisits children visit member)

/-- What is below a node ends where its next sibling begins. -/
theorem ends_entries {depth : Nat} (siblings : List Outline) :
    ((forestVisits depth siblings).map entry).head?.all
      (fun next => !decide (depth < next.1)) = true := by
  cases siblings with
  | nil => rfl
  | cons first rest => simp [forestVisits, visits_eq, entry]

mutual

/-- The depths and lines of its nodes, parents first, tell how an outline
looks. -/
theorem looksLike_of_visits {depth : Nat} (left right : Outline)
    (same : (visits depth left).map entry = (visits depth right).map entry) :
    LooksLike left right := by
  obtain ⟨path, index, parameter, content, source, loading, error, children⟩ :=
    left
  rw [visits, visits_eq depth right, List.map_cons, List.map_cons,
    List.cons.injEq] at same
  exact .intro (congrArg Prod.snd same.1)
    (forall₂_of_forestVisits children right.children same.2)

/-- Forests with the same depths and descriptions look alike tree by tree. -/
theorem forall₂_of_forestVisits {depth : Nat} (left right : List Outline)
    (same : (forestVisits depth left).map entry =
      (forestVisits depth right).map entry) :
    List.Forall₂ LooksLike left right := by
  match left, right with
  | [], [] => exact .nil
  | [], other :: _ => simp [forestVisits, visits_eq] at same
  | child :: _, [] => simp [forestVisits, visits_eq] at same
  | child :: rest, other :: more =>
    rw [forestVisits, forestVisits, List.map_append, List.map_append,
      visits_eq, visits_eq, List.map_cons, List.map_cons, List.cons_append,
      List.cons_append, List.cons.injEq] at same
    obtain ⟨sameEntry, sameLater⟩ := same
    -- The first child ends where the depth is back at that of the siblings.
    obtain ⟨sameBelow, sameRest⟩ :=
      append_inj_of_takeWhile (deeper_entries child.children)
        (deeper_entries other.children) (ends_entries rest)
        (ends_entries more) sameLater
    refine .cons (@looksLike_of_visits depth child other ?_)
      (forall₂_of_forestVisits rest more sameRest)
    rw [visits_eq, visits_eq, List.map_cons, List.map_cons,
      sameEntry, sameBelow]

end

/-- Outlines that look alike have the same lines. -/
theorem forestLines_congr {left right : List Outline}
    (alike : List.Forall₂ (fun child other => describe false child =
      describe false other ∧
      ∀ indentation, linesBelow false indentation child =
        linesBelow false indentation other)
      left right)
    (indentation : String) :
    forestLines false indentation left =
      forestLines false indentation right := by
  induction alike with
  | nil => rfl
  | @cons child other rest more same later step =>
    have sameEnd : rest.isEmpty = more.isEmpty := by
      cases later <;> rfl
    rw [forestLines, forestLines, step, sameEnd, same.1, same.2]

/-- Outlines that look alike are printed alike, at any indentation. -/
theorem LooksLike.lines_eq {left right : Outline}
    (alike : LooksLike left right) :
    describe false left = describe false right ∧
      ∀ indentation, linesBelow false indentation left =
        linesBelow false indentation right := by
  induction left using induction_on_children generalizing right with
  | step left below =>
    obtain ⟨sameLine, inside⟩ := alike
    refine ⟨sameLine, fun indentation => ?_⟩
    rw [linesBelow_eq, linesBelow_eq]
    have known := (List.forall₂_and_left left.children right.children).mpr
      ⟨fun child member other alike => @below child member other alike, inside⟩
    exact forestLines_congr
      (known.imp fun child other both => both.1 other both.2) indentation

/-! ## Lines of a text -/

/-- The texts of the node at the top of an outline. -/
def texts (outline : Outline) : List String :=
  [outline.path, outline.parameter, outline.source, outline.loading,
    outline.error].filterMap id

/-- Whether no text of an outline has a line break in it. -/
def Unbroken (outline : Outline) : Prop :=
  ∀ visit ∈ visits 0 outline, ∀ text ∈ visit.2.texts, Text.IsLine text

theorem optionalPart_isLine {label : Option String} {part : String -> String}
    (isLine : ∀ text, label = some text -> Text.IsLine (part text)) :
    Text.IsLine (optionalPart label part) := by
  cases label with
  | none => exact List.not_mem_nil
  | some text =>
    exact Text.isLine_append_iff.mpr ⟨by simp [Text.IsLine], isLine text rfl⟩

theorem title_isLine {node : Outline}
    (isLine : ∀ text ∈ node.texts, Text.IsLine text) :
    Text.IsLine (title false node) := by
  unfold title
  split
  · simp [Text.IsLine]
  · split
    · rename_i path isPath
      exact isLine path (by simp [texts, isPath])
    · exact List.not_mem_nil

theorem describe_isLine {node : Outline}
    (isLine : ∀ text ∈ node.texts, Text.IsLine text) :
    Text.IsLine (describe false node) := by
  have after {beginning text : String} (plain : '\n' ∉ beginning.toList)
      (member : text ∈ node.texts) : Text.IsLine (beginning ++ text) :=
    Text.isLine_append_iff.mpr ⟨plain, isLine text member⟩
  simp only [describe, Text.isLine_append_iff]
  refine ⟨⟨⟨⟨⟨title_isLine isLine, ?_⟩, ?_⟩, ?_⟩, ?_⟩, ?_⟩
  · exact optionalPart_isLine fun _ shown =>
      after (by simp) (by simp [texts, shown])
  · cases node.content with
    | none => exact List.not_mem_nil
    | some kind => cases kind <;> simp [Text.IsLine, ContentKind.name]
  · exact optionalPart_isLine fun _ shown => isLine _ (by simp [texts, shown])
  · exact optionalPart_isLine fun _ shown =>
      after (by simp) (by simp [texts, shown])
  · exact optionalPart_isLine fun _ shown =>
      after (by simp) (by simp [texts, shown])

/-- The cells of a line have no line break in them. -/
theorem isLine_of_branched {entry : Nat × String} {line : String}
    (branched : Branched entry line) (isLine : Text.IsLine entry.2) :
    Text.IsLine line := by
  obtain ⟨lasts, isLast, _, isText⟩ := branched
  rw [Text.IsLine, isText, List.mem_append, List.mem_append, not_or, not_or]
  refine ⟨fun member => ?_, ?_, isLine⟩
  · obtain ⟨cell, _, inside⟩ := List.mem_flatMap.mp member
    cases cell <;> simp [branchCells] at inside
  · cases isLast <;> simp [branchCells]

theorem forall_mem_of_forall₂ {α β : Type} {holds : β -> Prop} {left : List α}
    {right : List β}
    (all : List.Forall₂ (fun _ member => holds member) left right) :
    ∀ member ∈ right, holds member := by
  induction all with
  | nil => exact List.forall_mem_nil _
  | cons first _ step => exact List.forall_mem_cons.mpr ⟨first, step⟩

/-- Every node of an unbroken outline is printed on one line. -/
theorem isLine_of_mem_lines {outline : Outline} (unbroken : outline.Unbroken) :
    ∀ line ∈ lines false outline, Text.IsLine line := by
  have described : ∀ visit ∈ visits 0 outline, Text.IsLine (entry visit).2 :=
    fun visit member => describe_isLine (unbroken visit member)
  rw [visits_eq, List.forall_mem_cons] at described
  rw [lines, List.forall_mem_cons]
  refine ⟨described.1, ?_⟩
  have below := (List.forall₂_and_left _ _).mpr
    ⟨described.2, List.forall₂_map_left_iff.mp (branched_lines outline)⟩
  exact forall_mem_of_forall₂
    (below.imp fun visit line known => isLine_of_branched known.2 known.1)

/-- An outline can be read back from its lines, up to how it looks. -/
theorem lines_eq_iff {left right : Outline} :
    lines false left = lines false right ↔ LooksLike left right := by
  constructor
  · intro same
    rw [lines, lines, List.cons.injEq] at same
    have sameEntries := branched_leftUnique.forall₂ (branched_lines left)
      (same.2 ▸ branched_lines right)
    exact .intro same.1
      (forall₂_of_forestVisits left.children right.children sameEntries)
  · intro alike
    obtain ⟨sameLine, sameBelow⟩ := alike.lines_eq
    rw [lines, lines, sameLine, sameBelow]

/-- Outlines printed without styles are unambiguous.  If no text of an outline
has a line break in it, each node is printed on one line, parents first.  Two
such outlines are printed alike exactly if they have the same shape and the same
line at every node, even where their texts imitate the cells of a printed
tree. -/
theorem render_unambiguous {left right : Outline} (leftUnbroken : left.Unbroken)
    (rightUnbroken : right.Unbroken) :
    Text.pieces Text.isLineBreak (render false left) =
      lines false left ++ [""] ∧
    List.Forall₂ PrintedAs (visits 0 left) (lines false left) ∧
    (render false left = render false right ↔ LooksLike left right) := by
  have isLeft := Text.pieces_join_lines (isLine_of_mem_lines leftUnbroken)
  have isRight := Text.pieces_join_lines (isLine_of_mem_lines rightUnbroken)
  refine ⟨isLeft, printedAs_lines left, ?_⟩
  rw [← lines_eq_iff]
  constructor
  · intro same
    rw [render, render] at same
    rw [same, isRight] at isLeft
    exact (List.append_cancel_right isLeft).symm
  · intro same
    rw [render, same, render]

/-- The outline of a site with a folder that is named like the cells of a
printed tree. -/
def tangledSite : Outline :=
  { path := some "/"
    children := [
      { path := some "│   └── shop",
        children :=
          [{ path := some "    cart", source := some "app/cart/page.rs" }] },
      { path := some "" }] }

/-- An outline that differs from it in nothing that can be seen. -/
def tangledTwin : Outline :=
  { path := some "/"
    children := [
      { path := some "│   └── shop",
        children := [{ path := some "    cart app/cart/page.rs" }] },
      { path := none }] }

theorem render_unambiguous_tangled :
    tangledSite.Unbroken ∧ tangledTwin.Unbroken ∧
      render false tangledSite = render false tangledTwin ∧
      LooksLike tangledSite tangledTwin := by
  have site : tangledSite.Unbroken := by
    simp [Unbroken, tangledSite, visits, forestVisits, texts, Text.IsLine]
  have twin : tangledTwin.Unbroken := by
    simp [Unbroken, tangledTwin, visits, forestVisits, texts, Text.IsLine]
  have same : render false tangledSite = render false tangledTwin := by
    decide +kernel
  obtain ⟨_, _, alike⟩ := render_unambiguous site twin
  exact ⟨site, twin, same, alike.mp same⟩

end Outline
end FileRoutes
