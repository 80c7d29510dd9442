import FileRoutes.Proofs.Batches

/-!
# Merging again

What a tree has taken in once changes nothing when it comes again: every place
keeps what it has, and no branch is new.  So a tree of files can be merged with
itself, into a bare root, and with the branch of each of its files, and stays
what it is.
-/

namespace FileRoutes
namespace RouteContent

/-- What was offered first is not changed by being offered again. -/
theorem settled_settled_self (first second : Option RouteContent) :
    settled (settled first second) first = settled first second := by
  cases first with
  | none => rw [settled_none_right]
  | some holder =>
    cases second with
    | none => cases held : holder.isRenderable <;> simp [settled, settle, held]
    | some content =>
      cases held : holder.isRenderable <;>
        cases arrives : content.isRenderable <;>
        simp [settled, settle, held, arrives]

end RouteContent

namespace RouteNode

open RouteContent Logged

/-! ## Unions that repeat a tree -/

theorem or_or_self {α : Type} (first second : Option α) :
    (first.or second).or first = first.or second := by
  cases first <;> simp

/-- A node that was united with another one adds nothing when it comes again. -/
theorem setting_union_union_self {first second : RouteNode}
    (firstTidy : first.Tidy) (secondTidy : second.Tidy) :
    (union (union first second) first).setting =
      (union first second).setting := by
  have once := setting_union_of_tidy firstTidy secondTidy
  rw [setting_union_of_tidy (firstTidy.union second) firstTidy]
  simp only [setting, place, Prod.mk.injEq, Place.mk.injEq] at once ⊢
  obtain ⟨⟨_, sameDynamic, sameContent, sameError, sameSlot⟩, samePaths⟩ := once
  refine ⟨⟨trivial, ?_, ?_, ?_, ?_⟩, ?_⟩
  · rw [sameDynamic, or_or_self]
  · rw [sameContent, settled_settled_self]
  · rw [sameError, or_or_self]
  · rw [sameSlot, settled_settled_self]
  · rw [samePaths, List.append_right_eq_self, List.filter_eq_nil_iff]
    intro path member
    simp [member]

/-- A tree that was united with another one adds nothing when it comes again. -/
theorem union_union_self {first second : RouteNode} (firstTidy : first.Tidy)
    (secondTidy : second.Tidy) :
    union (union first second) first = union first second := by
  refine ((firstTidy.union second).union first).eq_of_reach
    (firstTidy.union second) ?_
  intro route
  rw [reach_union_eq_unionAt _ firstTidy.orderly,
    reach_union_eq_unionAt _ secondTidy.orderly]
  cases isFirst : first.reach? route with
  | none => rfl
  | some node =>
    have nodeTidy := firstTidy.of_reach isFirst
    cases isSecond : second.reach? route with
    | none =>
      have alone := setting_union_union_self nodeTidy (.bare none none none)
      rw [union_bare nodeTidy] at alone
      exact congrArg some alone
    | some other =>
      exact congrArg some
        (setting_union_union_self nodeTidy (secondTidy.of_reach isSecond))

/-- A tidy tree adds nothing to itself. -/
theorem union_self {tree : RouteNode} (tidy : tree.Tidy) :
    union tree tree = tree := by
  have again := union_union_self tidy (.bare none none none)
  rwa [union_bare tidy] at again

end RouteNode

namespace Contribution

open RouteNode Logged

/-- The tree of a file can be united with its tidy form in its place. -/
theorem union_tree_eq (tree : RouteNode) (tidy : tree.Tidy)
    (file : Contribution) :
    union tree file.tree = union tree (grown [file]) := by
  have isGrown : grown [file] = union .root file.tree := rfl
  rw [isGrown, ← union_assoc tidy .root file.tree_orderly, RouteNode.root,
    RouteNode.ofPath, union_bare tidy]

/-- A file that a tree has grown from adds nothing when it comes again. -/
theorem union_grown_of_mem {files : List Contribution} {file : Contribution}
    (member : file ∈ files) : union (grown files) file.tree = grown files := by
  obtain ⟨before, after, isFiles⟩ := List.append_of_mem member
  have split : grown files =
      union (grown before) (union (grown [file]) (grown after)) := by
    rw [isFiles, grown_append_eq_union, ← List.singleton_append,
      grown_append_eq_union]
  have beforeTidy := grown_tidy before
  have fileTidy := grown_tidy [file]
  have afterTidy := grown_tidy after
  rw [union_tree_eq _ (grown_tidy files), split,
    union_assoc beforeTidy (fileTidy.union _) fileTidy.orderly,
    union_union_self fileTidy afterTidy]

/-! ## Merging again -/

/-- The branch of a file that is read with a root prefix. -/
def branchOf (file : String × RenderSpec) : RouteNode :=
  .branch file.2 (ParsedFile.parse file.1 file.2.source).segments

/-- Merge the branches of files into a bare root, one after the other. -/
def mergeBranches (options : MergeOptions)
    (files : List (String × RenderSpec)) :
    Logged RouteNode :=
  files.foldlM (fun tree file => RouteNode.merge options tree (branchOf file))
    RouteNode.root

/-- What the files contribute. -/
def ofListed (file : String × RenderSpec) : Contribution :=
  ofFile file.1 file.2

theorem tokens_ofListed (file : String × RenderSpec) :
    (ofListed file).tokens =
      (ParsedFile.parse file.1 file.2.source).routeTokens := by
  simp only [ofListed, ofFile]

theorem branchOf_eq_tree (file : String × RenderSpec) :
    branchOf file = (ofListed file).tree :=
  branch_eq_tree file.1 file.2

/-- Merging the branches of listed files gives the tree that grows from them. -/
theorem gives_mergeBranches (files : List (String × RenderSpec)) :
    (mergeBranches .permissive files).Gives (grown (files.map ofListed)) :=
  gives_foldl_branches files .root rfl

/-- Under all policies, merging branches that succeeds gives the union of what
the files contribute. -/
theorem eq_foldl_of_gives {options : MergeOptions}
    (files : List (String × RenderSpec)) {tree merged : RouteNode}
    (tidy : tree.Tidy)
    (gives : (files.foldlM (fun tree file => merge options tree (branchOf file))
      tree).Gives merged) :
    merged = (files.map ofListed).foldl
      (fun tree file => union tree file.tree) tree := by
  induction files generalizing tree with
  | nil => exact (gives_pure_iff.mp gives).symm
  | cons file rest step =>
    rw [List.foldlM_cons, gives_bind_iff] at gives
    obtain ⟨next, givesNext, givesRest⟩ := gives
    rw [branchOf_eq_tree] at givesNext
    rw [eq_union_of_gives tidy givesNext] at givesRest
    rw [List.map_cons, List.foldl_cons]
    exact step (tidy.union (ofListed file).tree) givesRest

/-- The tree of any files, read with any root prefixes, comes out of these
merges unchanged: into a bare root, with itself, and with the branch of each of
the files. -/
theorem merge_again (files : List (String × RenderSpec)) :
    ∃ tree, (mergeBranches .permissive files).Gives tree ∧
      (RouteNode.merge .permissive .root tree).Gives tree ∧
      (RouteNode.merge .permissive tree tree).Gives tree ∧
      ∀ file ∈ files,
        (RouteNode.merge .permissive tree (branchOf file)).Gives tree := by
  refine ⟨grown (files.map ofListed), gives_mergeBranches files, ?_, ?_, ?_⟩
  · exact gives_merge_grown [] _
  · have tidy := grown_tidy (files.map ofListed)
    have again :=
      gives_union tidy (grown (files.map ofListed)) rfl tidy.index_eq
    rwa [union_self tidy] at again
  · intro file member
    have tidy := grown_tidy (files.map ofListed)
    have samePath :
        (grown (files.map ofListed)).path = (ofListed file).tree.path :=
      (grown_path _).trans (tree_path _).symm
    have again := gives_union tidy (ofListed file).tree samePath (tree_index _)
    rwa [union_grown_of_mem (List.mem_map_of_mem member), ← branchOf_eq_tree]
      at again

/-- The listed files of a site, with the loading view of the library. -/
def listed (rootPrefix : String) (ids : List String) :
    List (String × RenderSpec) :=
  (ListedFile.ofList .pages ids).map fun file =>
    (rootPrefix, ⟨file, .builtin .loading⟩)

/-- Two pages and two layouts of one route, and a rival of its segment. -/
def crowd : List (String × RenderSpec) :=
  listed "app"
    ["app/[id]/page.tsx", "app/[id]/page.jsx", "app/[id]/layout.tsx",
      "app/[id]/layout.jsx", "app/[slug]/page"]

theorem merge_again_crowd :
    ∃ loser ∈ crowd, loser.2.source = "app/[id]/page.jsx" ∧
      ∃ tree, (mergeBranches .permissive crowd).Gives tree ∧
        (RouteNode.merge .permissive tree (branchOf loser)).Gives tree := by
  have member :
      ("app", ⟨⟨"app/[id]/page.jsx", .pages, 1⟩, .builtin .loading⟩) ∈
        crowd := by
    decide
  obtain ⟨tree, gives, _, _, again⟩ := merge_again crowd
  exact ⟨_, member, rfl, tree, gives, again _ member⟩

end Contribution
end FileRoutes
