import FileRoutes.Proofs.Trie

/-!
# Conflicts between files

Two files conflict when they are pages, or layouts, with the same route, or when
their routes part at two dynamic segments that match the same pieces.  Each
conflict is recorded when the later file of the two is merged, and nothing else
is.
-/

namespace FileRoutes
namespace Event

/-- Whether an event records a second claim of a place. -/
def isDuplicate : Event -> Bool
  | conflictKept (.duplicateClaim _ _ _ _) => true
  | _ => false

/-- Whether an event records two dynamic segments at one level. -/
def isDispute : Event -> Bool
  | conflictKept (.dynamicConflict _ _ _) => true
  | _ => false

/-- An event is a duplicate exactly if it reports a second claim to a slot. -/
theorem isDuplicate_iff {event : Event} :
    event.isDuplicate = true ↔ ∃ path slot existing incoming,
      event = conflictKept (.duplicateClaim path slot existing incoming) := by
  unfold isDuplicate
  split <;> simp_all

/-- An event is a dispute exactly if it reports rival dynamic segments. -/
theorem isDispute_iff {event : Event} :
    event.isDispute = true ↔ ∃ parent existing incoming,
      event = conflictKept (.dynamicConflict parent existing incoming) := by
  unfold isDispute
  split <;> simp_all

end Event

namespace RouteNode

open RouteContent Logged

/-! ## What merging a twig records -/

/-- The conflict recorded when a token is added below a node. -/
def siblingEvents (node : RouteNode) (token : String) : List Event :=
  match (SegmentKind.dynamic? token).bind node.rival? with
  | some rival =>
    if (node.branchAt? (some token)).isNone then
      [.conflictKept (.dynamicConflict node.displayPath rival.displayPath token)]
    else []
  | none => []

/-- The conflicts recorded when tokens are followed from a node down to
content. -/
def twigEvents (node : RouteNode) (content : Option RouteContent) :
    List String -> List Event
  | [] => arrivalEvents node content
  | token :: rest =>
    siblingEvents node token ++
      twigEvents (heldAt node.branches (some token)) content rest

/-- A new token is checked against the kinds of the branches beside it. -/
theorem log_checkUnknown {target child : RouteNode} {token : String}
    (isToken : child.path = some token)
    (isKind : child.dynamic = SegmentKind.dynamic? token) :
    (checkUnknown .permissive target child).log =
      siblingEvents target token := by
  have shown : child.displayPath = token := by
    rw [displayPath, isToken, Option.getD_some]
  rw [checkUnknown, checkSiblings, siblingEvents, isToken, isKind, shown]
  cases (SegmentKind.dynamic? token).bind target.rival? with
  | none => split <;> rfl
  | some rival => split <;> rfl

theorem siblingEvents_congr {left right : RouteNode}
    (samePath : left.path = right.path)
    (sameChildren : left.children = right.children) (token : String) :
    siblingEvents left token = siblingEvents right token := by
  have sameRival : left.rival? = right.rival? := by
    funext kind
    rw [rival?, rival?, sameChildren]
  rw [siblingEvents, siblingEvents, sameRival, displayPath,
    displayPath, samePath, branchAt?, branchAt?, sameChildren]

/-- A node without content of its own changes nothing at the top of what it is
merged into. -/
theorem siblingEvents_receive {target source : RouteNode} (tidy : target.Tidy)
    (contentless : source.content = none) (token : String) :
    siblingEvents (receive target source) token =
      siblingEvents target token := by
  have samePath : (receive target source).path = target.path := rfl
  have sameChildren : (receive target source).children = target.children := by
    have sameSlot :
        settled target.slot? (source.content.bind visit?) = target.slot? := by
      rw [contentless, Option.bind_none, settled_none_right]
    rw [receive, furnish, sameSlot, ← tidy.arranged.children_eq]
  exact siblingEvents_congr samePath sameChildren token

/-- Merging a twig records what the nodes on its way record, the upper ones
first. -/
theorem log_merge_twig {target head : RouteNode} (tidy : target.Tidy)
    (content : Option RouteContent) (samePath : target.path = head.path)
    (notIndex : head.index = false) (contentless : head.content = none)
    (childless : head.children = []) (tokens : List String) :
    (merge .permissive target (twig content head tokens)).log =
      twigEvents target content tokens := by
  have twigPath : target.path = (twig content head tokens).path :=
    samePath.trans (twig_path content head tokens).symm
  have twigPlain : (twig content head tokens).index = false :=
    (twig_index content head tokens).trans notIndex
  induction tokens generalizing target head with
  | nil =>
    have empty : (twig content head []).children = [] := childless
    rw [merge_permissive tidy twigPath twigPlain, empty,
      mergeForest, twigEvents, log_pure, List.append_nil]
    rfl
  | cons token rest step =>
    have silent : (twig content head (token :: rest)).content = none :=
      contentless
    have children : (twig content head (token :: rest)).children =
        [twig content (bud token) rest] := rfl
    have budPath : (twig content (bud token) rest).path = some token :=
      twig_path content (bud token) rest
    have budIndex : (twig content (bud token) rest).index = false :=
      twig_index content (bud token) rest
    have budDynamic : (twig content (bud token) rest).dynamic =
        SegmentKind.dynamic? token := twig_dynamic content (bud token) rest
    have held :=
      heldAt_tidy (fun _ member => tidy.of_mem_branches member) (some token)
    have heldPath := (matchesPath_iff.mp
      (matchesPath_heldAt target.branches (some token))).2
    have heldTwig := heldPath.trans budPath.symm
    have arrives : arrivalEvents target none = [] := rfl
    rw [merge_permissive tidy twigPath twigPlain, silent, arrives, children,
      List.nil_append, receive, mergeForest_branch .permissive _ budIndex,
      (gives_checkUnknown _ _).log_bind, log_checkUnknown budPath budDynamic,
      budPath, ← receive, siblingEvents_receive tidy silent, twigEvents]
    rw [(gives_union held _ heldTwig budIndex).log_bind,
      step held heldPath rfl rfl rfl heldTwig budIndex, mergeForest, log_pure,
      List.append_nil]

/-- Nothing is recorded below a bare node. -/
theorem twigEvents_bare (path : Option String) (content : Option RouteContent)
    (tokens : List String) :
    twigEvents { path := path } content tokens = [] := by
  induction tokens generalizing path with
  | nil => rcases content with _ | ⟨spec⟩ | ⟨spec⟩ | ⟨view⟩ <;> rfl
  | cons token rest step =>
    have alone : siblingEvents { path := path } token = [] := by
      rw [siblingEvents]
      cases SegmentKind.dynamic? token <;> rfl
    have held : heldAt ({ path := path } : RouteNode).branches (some token) =
        { path := some token } := rfl
    rw [twigEvents, alone, held, step, List.nil_append]

/-- Below the branch of a token a twig records what it records in that branch,
and nothing where there is none. -/
theorem twigEvents_held (node : RouteNode) (token : String)
    (content : Option RouteContent) (rest : List String) :
    twigEvents (heldAt node.branches (some token)) content rest =
      ((node.branchAt? (some token)).map fun branch =>
        twigEvents branch content rest).getD [] := by
  rw [heldAt, ← branchAt_eq_find_branches]
  cases node.branchAt? (some token) with
  | none => exact twigEvents_bare _ _ _
  | some branch => rfl

theorem any_isDuplicate_siblingEvents {node : RouteNode} {token : String} :
    (siblingEvents node token).any Event.isDuplicate = false := by
  unfold siblingEvents
  split
  · split <;> rfl
  · rfl

theorem any_isDispute_arrivalEvents {node : RouteNode}
    {content : Option RouteContent} :
    (arrivalEvents node content).any Event.isDispute = false := by
  rcases content with _ | ⟨spec⟩ | ⟨spec⟩ | ⟨view⟩
  · rfl
  · simp only [arrivalEvents, Option.map_some, Option.getD_some, contentEvents,
      slotEvents]
    split
    · split <;> rfl
    · rfl
  · simp only [arrivalEvents, Option.map_some, Option.getD_some, contentEvents]
    split <;> rfl
  · rfl

/-- A second claim is recorded at the end of the tokens. -/
theorem any_isDuplicate_twigEvents (node : RouteNode)
    (content : Option RouteContent) (tokens : List String) :
    (twigEvents node content tokens).any Event.isDuplicate = true ↔
      ∃ reached, node.reach? (tokens.map some) = some reached ∧
        (arrivalEvents reached content).any Event.isDuplicate = true := by
  induction tokens generalizing node with
  | nil => simp [twigEvents]
  | cons token rest step =>
    rw [twigEvents, List.any_append, any_isDuplicate_siblingEvents,
      Bool.false_or, twigEvents_held, List.map_cons, reach_cons]
    cases node.branchAt? (some token) with
    | none => simp
    | some branch => exact step branch

/-- The beginnings of a list are its first token alone and those that go on in
the rest. -/
theorem exists_snoc_prefix_cons_iff {first : String} {rest : List String}
    {holds : List String -> String -> Prop} :
    (∃ front token, front ++ [token] <+: first :: rest ∧ holds front token) ↔
      holds [] first ∨
        ∃ front token, front ++ [token] <+: rest ∧
          holds (first :: front) token := by
  constructor
  · rintro ⟨front, token, begins, isHeld⟩
    cases front with
    | nil =>
      rw [List.nil_append, List.cons_prefix_cons] at begins
      exact Or.inl (begins.1 ▸ isHeld)
    | cons next front =>
      rw [List.cons_append, List.cons_prefix_cons] at begins
      exact Or.inr ⟨front, token, begins.2, begins.1 ▸ isHeld⟩
  · rintro (isHeld | ⟨front, token, begins, isHeld⟩)
    · exact ⟨[], first, by simp, isHeld⟩
    · exact ⟨first :: front, token, List.cons_prefix_cons.mpr ⟨rfl, begins⟩,
        isHeld⟩

/-- Two dynamic segments are recorded where the tokens leave the tree. -/
theorem any_isDispute_twigEvents (node : RouteNode)
    (content : Option RouteContent) (tokens : List String) :
    (twigEvents node content tokens).any Event.isDispute = true ↔
      ∃ front token, front ++ [token] <+: tokens ∧
        ∃ reached, node.reach? (front.map some) = some reached ∧
          (siblingEvents reached token).any Event.isDispute = true := by
  induction tokens generalizing node with
  | nil =>
    rw [twigEvents, any_isDispute_arrivalEvents]
    simp
  | cons first rest step =>
    rw [twigEvents, List.any_append, Bool.or_eq_true, twigEvents_held]
    rw [exists_snoc_prefix_cons_iff]
    apply or_congr
    · simp
    simp only [List.map_cons, reach_cons]
    cases node.branchAt? (some first) with
    | none => simp
    | some branch => exact step branch

theorem rival_isSome_iff {node : RouteNode} {kind : SegmentKind} :
    (node.rival? kind).isSome = true ↔
      ∃ branch ∈ node.branches,
        branch.dynamic.map SegmentKind.slot = some kind.slot := by
  rw [rival?, List.find?_isSome]
  simp [branches, and_assoc]

/-- A token is disputed exactly if it is new, dynamic, and has a rival among the
branches. -/
theorem any_isDispute_siblingEvents {node : RouteNode} {token : String} :
    (siblingEvents node token).any Event.isDispute = true ↔
      node.branchAt? (some token) = none ∧
      ∃ kind, SegmentKind.dynamic? token = some kind ∧
        ∃ branch ∈ node.branches,
          branch.dynamic.map SegmentKind.slot = some kind.slot := by
  simp only [← rival_isSome_iff]
  rw [siblingEvents]
  cases isKind : SegmentKind.dynamic? token with
  | none => simp
  | some kind =>
    cases isRival : node.rival? kind with
    | none => simp [isRival]
    | some rival =>
      cases node.branchAt? (some token) <;> simp [isRival, Event.isDispute]

end RouteNode

/-- Two different folder names that are dynamic and match the same pieces. -/
structure Rivals (left right : String) : Prop where
  different : left ≠ right
  left_dynamic : (SegmentKind.classify left).isDynamic
  right_dynamic : (SegmentKind.classify right).isDynamic
  same_slot : (SegmentKind.classify left).slot =
    (SegmentKind.classify right).slot

theorem Rivals.symm {left right : String} (rivals : Rivals left right) :
    Rivals right left :=
  ⟨rivals.different.symm, rivals.right_dynamic, rivals.left_dynamic,
    rivals.same_slot.symm⟩

theorem dynamic_eq_some_iff {token : String} {kind : SegmentKind} :
    SegmentKind.dynamic? token = some kind ↔
      (SegmentKind.classify token).isDynamic ∧
      SegmentKind.classify token = kind := by
  simp [SegmentKind.dynamic?]

namespace Contribution

open RouteNode RouteContent

/-- Two pages, or two layouts, have the same route. -/
def Contended (files : List Contribution) : Prop :=
  ∃ role : RouteRole,
    ¬((files.filter fun file => file.role = some role).map tokens).Nodup

/-- The routes of two files part at rivals. -/
def Disputed (files : List Contribution) : Prop :=
  ∃ left ∈ files, ∃ right ∈ files, ∃ route first second,
    route ++ [first] <+: left.tokens ∧ route ++ [second] <+: right.tokens ∧
      Rivals first second

/-- A file claims what an earlier one has. -/
def Repeats (files : List Contribution) (file : Contribution) : Prop :=
  ∃ role, file.role = some role ∧
    ∃ earlier ∈ files, earlier.role = some role ∧ earlier.tokens = file.tokens

/-- A file brings a new token to a route that has a rival of it. -/
def Provokes (files : List Contribution) (file : Contribution) : Prop :=
  ∃ route token, route ++ [token] <+: file.tokens ∧
    ¬Covers files (route ++ [token]) ∧
    ∃ earlier ∈ files, ∃ other, route ++ [other] <+: earlier.tokens ∧
      Rivals token other

variable {files : List Contribution} {file : Contribution}

/-- One more file keeps the routes of a role distinct exactly if none of the
earlier files has its role and route. -/
theorem nodup_role_append (role : RouteRole) :
    (((files ++ [file]).filter fun file => file.role = some role).map
      tokens).Nodup ↔
      ((files.filter fun file => file.role = some role).map tokens).Nodup ∧
        ¬(file.role = some role ∧
          ∃ earlier ∈ files, earlier.role = some role ∧
            earlier.tokens = file.tokens) := by
  rw [List.filter_append, List.map_append, List.nodup_append]
  by_cases hasRole : file.role = some role
  · simp only [hasRole, decide_true, List.filter_cons_of_pos, List.filter_nil,
      List.map_cons, List.map_nil, List.nodup_singleton, true_and,
      List.mem_singleton, forall_eq, List.mem_map, List.mem_filter,
      decide_eq_true_eq]
    apply and_congr_right
    intro _
    constructor
    · rintro apart ⟨earlier, member, sameRole, sameTokens⟩
      exact apart earlier.tokens ⟨earlier, ⟨member, sameRole⟩, rfl⟩ sameTokens
    · rintro alone _ ⟨earlier, ⟨member, sameRole⟩, rfl⟩ sameTokens
      exact alone ⟨earlier, member, sameRole, sameTokens⟩
  · simp [hasRole]

/-- A list of files is contended when a file repeats an earlier claim. -/
theorem contended_append :
    Contended (files ++ [file]) ↔ Contended files ∨ Repeats files file := by
  rw [Contended, Contended, Repeats, ← exists_or]
  apply exists_congr
  intro role
  rw [nodup_role_append, not_and_or, not_not]

/-- Files cover a nonempty route exactly if it begins the route of one of
them. -/
theorem covers_snoc {route : List String} {token : String} :
    Covers files (route ++ [token]) ↔
      ∃ file ∈ files, route ++ [token] <+: file.tokens := by
  simp [Covers]

/-- A new rival of an earlier token is a dispute among the earlier files or is
provoked by the new file. -/
theorem disputed_append_of_new {earlier : Contribution} {route : List String}
    {token other : String} (old : earlier ∈ files)
    (begins : route ++ [token] <+: file.tokens)
    (earlierBegins : route ++ [other] <+: earlier.tokens)
    (rivals : Rivals token other) :
    Disputed files ∨ Provokes files file := by
  by_cases covered : Covers files (route ++ [token])
  · obtain ⟨same, member, sameBegins⟩ := covers_snoc.mp covered
    exact Or.inl ⟨same, member, earlier, old, route, token, other, sameBegins,
      earlierBegins, rivals⟩
  · exact Or.inr ⟨route, token, begins, covered, earlier, old, other,
      earlierBegins, rivals⟩

/-- A list of files is disputed when a file provokes the earlier ones. -/
theorem disputed_append :
    Disputed (files ++ [file]) ↔ Disputed files ∨ Provokes files file := by
  constructor
  · rintro ⟨left, leftMember, right, rightMember, route, first,
      second, leftBegins, rightBegins, rivals⟩
    rcases List.mem_append.mp leftMember with leftOld | leftNew
    · rcases List.mem_append.mp rightMember with rightOld | rightNew
      · exact Or.inl ⟨left, leftOld, right, rightOld, route, first,
          second, leftBegins, rightBegins, rivals⟩
      · rw [List.mem_singleton.mp rightNew] at rightBegins
        exact disputed_append_of_new leftOld rightBegins leftBegins rivals.symm
    · rw [List.mem_singleton.mp leftNew] at leftBegins
      rcases List.mem_append.mp rightMember with rightOld | rightNew
      · exact disputed_append_of_new rightOld leftBegins rightBegins rivals
      · rw [List.mem_singleton.mp rightNew] at rightBegins
        -- One route cannot part from itself.
        have sameLength :
            (route ++ [first]).length = (route ++ [second]).length := by simp
        have same := (List.prefix_of_prefix_length_le leftBegins rightBegins
          sameLength.le).eq_of_length sameLength
        exact absurd (by simpa using same) rivals.different
  · rintro (⟨left, leftMember, right, rightMember, route, first, second, disputed⟩ |
      ⟨route, token, begins, _, earlier, member, other, earlierBegins, rivals⟩)
    · exact ⟨left, List.mem_append_left _ leftMember, right,
        List.mem_append_left _ rightMember, route, first, second, disputed⟩
    · exact ⟨file, by simp, earlier, List.mem_append_left _ member, route,
        token, other, begins, earlierBegins, rivals⟩

/-! ## What merging a file into a grown tree records -/

theorem log_merge_tree (files : List Contribution) (file : Contribution) :
    (merge .permissive (grown files) file.tree).log =
      twigEvents (grown files) file.content? file.tokens := by
  rw [tree]
  exact log_merge_twig (grown_tidy files) _ (grown_path files) rfl rfl rfl _

theorem findSome_claim_isSome_iff {role : RouteRole} {route : List String} :
    (files.findSome? (claim? role route)).isSome = true ↔
      ∃ file ∈ files, file.role = some role ∧ file.tokens = route := by
  simp [List.findSome?_isSome_iff, claim?]

theorem any_isDuplicate_arrivalEvents {route : List String} {node : RouteNode}
    (gathers : Gathers files route node) (role : RouteRole)
    (spec : RenderSpec) :
    (arrivalEvents node (some (ofRole role spec))).any Event.isDuplicate =
      true ↔ (files.findSome? (claim? role route)).isSome = true := by
  cases role with
  | page =>
    rw [arrivalEvents, Option.map_some, Option.getD_some, ofRole, contentEvents,
      slotEvents, gathers.slot_eq]
    cases found : files.findSome? (claim? .page route) with
    | none => simp
    | some content =>
      obtain ⟨existing, equal⟩ := findSome_claim_eq found
      subst equal
      rfl
  | layout =>
    rw [arrivalEvents, Option.map_some, Option.getD_some, ofRole, contentEvents,
      gathers.content_eq]
    cases found : files.findSome? (claim? .layout route) with
    | none => simp
    | some content =>
      obtain ⟨existing, equal⟩ := findSome_claim_eq found
      subst equal
      rfl

/-- A second claim is recorded exactly when the file repeats an earlier one. -/
theorem any_isDuplicate_grown (files : List Contribution)
    (file : Contribution) :
    (twigEvents (grown files) file.content? file.tokens).any Event.isDuplicate =
      true ↔ Repeats files file := by
  rw [any_isDuplicate_twigEvents]
  cases role : file.role with
  | none => simp [content?, role, arrivalEvents, Repeats]
  | some role' =>
    have repeats : Repeats files file ↔
        (files.findSome? (claim? role' file.tokens)).isSome = true := by
      rw [findSome_claim_isSome_iff]
      simp [Repeats, role]
    have offers : file.content? = some (ofRole role' file.spec) := by
      rw [content?, role, Option.map_some]
    rw [repeats, offers]
    rcases reach_grown files file.tokens with
      ⟨uncovered, missing⟩ | ⟨_, node, found, describes⟩
    · have noClaim : files.findSome? (claim? role' file.tokens) = none :=
        List.findSome?_eq_none_iff.mpr fun earlier member =>
          claim_eq_none fun begins =>
            uncovered (Or.inr ⟨earlier, member, begins⟩)
      simp [missing, noClaim]
    · rw [← any_isDuplicate_arrivalEvents describes.toGathers role' file.spec,
        found]
      simp

section Dispute

variable {route : List String} {node : RouteNode}

theorem branchAt_of_reach_grown
    (found : (grown files).reach? (route.map some) = some node)
    (token : String) :
    node.branchAt? (some token) =
      (grown files).reach? ((route ++ [token]).map some) := by
  rw [List.map_append, List.map_singleton, reach_append_singleton, found,
    Option.bind_some]

/-- A node of the grown tree lacks a branch exactly where no route goes on. -/
theorem branchAt_eq_none_iff
    (found : (grown files).reach? (route.map some) = some node)
    (token : String) :
    node.branchAt? (some token) = none ↔ ¬Covers files (route ++ [token]) := by
  rw [branchAt_of_reach_grown found]
  rcases reach_grown files (route ++ [token]) with
    ⟨uncovered, missing⟩ | ⟨covered, branch, isBranch, _⟩
  · rw [missing]
    exact iff_of_true rfl uncovered
  · rw [isBranch]
    exact iff_of_false (Option.some_ne_none branch) (not_not_intro covered)

/-- The branches of a node of the grown tree are the tokens that follow its
route, with their kinds. -/
theorem mem_branches_grown
    (found : (grown files).reach? (route.map some) = some node)
    {branch : RouteNode} (member : branch ∈ node.branches) :
    ∃ token, branch.dynamic = SegmentKind.dynamic? token ∧
      ∃ file ∈ files, route ++ [token] <+: file.tokens := by
  have tidy := (grown_tidy files).of_reach found
  have isPath : branch.path ∈ (nextTokens files route).map some := by
    rw [← (describes_of_reach_grown found).paths_eq]
    exact List.mem_map_of_mem member
  obtain ⟨token, isNext, pathEq⟩ := List.mem_map.mp isPath
  have isBranch := tidy.branchAt_of_mem member
  rw [← pathEq, branchAt_of_reach_grown found] at isBranch
  rw [nextTokens, List.mem_eraseDups] at isNext
  obtain ⟨file, fileMember, next⟩ := List.mem_filterMap.mp isNext
  refine ⟨token, ?_, file, fileMember, next_eq_some_iff.mp next⟩
  rw [(describes_of_reach_grown isBranch).dynamic_eq, List.getLast?_concat]
  rfl

/-- Two dynamic segments are recorded exactly when the file provokes an earlier
one. -/
theorem any_isDispute_grown (files : List Contribution) (file : Contribution) :
    (twigEvents (grown files) file.content? file.tokens).any Event.isDispute =
      true ↔ Provokes files file := by
  rw [any_isDispute_twigEvents]
  constructor
  · rintro ⟨route, token, begins, node, found, disputed⟩
    obtain ⟨lacking, kind, isKind, branch, member, sameSlot⟩ :=
      any_isDispute_siblingEvents.mp disputed
    obtain ⟨other, otherKind, earlier, old, earlierBegins⟩ :=
      mem_branches_grown found member
    have uncovered := (branchAt_eq_none_iff found token).mp lacking
    obtain ⟨dynamic, kindEq⟩ := dynamic_eq_some_iff.mp isKind
    rw [otherKind, Option.map_eq_some_iff] at sameSlot
    obtain ⟨rivalKind, isRivalKind, slotEq⟩ := sameSlot
    obtain ⟨otherDynamic, otherEq⟩ := dynamic_eq_some_iff.mp isRivalKind
    have different : token ≠ other := by
      rintro rfl
      exact uncovered (covers_snoc.mpr ⟨earlier, old, earlierBegins⟩)
    refine ⟨route, token, begins, uncovered, earlier, old, other, earlierBegins,
      different, dynamic, otherDynamic, ?_⟩
    rw [kindEq, otherEq, slotEq]
  · rintro ⟨route, token, begins, uncovered, earlier, old, other,
      earlierBegins, rivals⟩
    have covered : Covers files route :=
      Or.inr ⟨earlier, old,
        (List.prefix_append route [other]).trans earlierBegins⟩
    have otherCovered : Covers files (route ++ [other]) :=
      covers_snoc.mpr ⟨earlier, old, earlierBegins⟩
    rcases reach_grown files route with ⟨missing, _⟩ | ⟨_, node, found, _⟩
    · exact absurd covered missing
    rcases reach_grown files (route ++ [other]) with
      ⟨missing, _⟩ | ⟨_, branch, isBranch, describes⟩
    · exact absurd otherCovered missing
    rw [← branchAt_of_reach_grown found, branchAt_eq_find_branches] at isBranch
    have otherKind : branch.dynamic = some (SegmentKind.classify other) := by
      rw [describes.dynamic_eq, List.getLast?_concat, Option.bind_some,
        dynamic_eq_some_iff]
      exact ⟨rivals.right_dynamic, rfl⟩
    refine ⟨route, token, begins, node, found, any_isDispute_siblingEvents.mpr
      ⟨(branchAt_eq_none_iff found token).mpr uncovered,
        SegmentKind.classify token,
        dynamic_eq_some_iff.mpr ⟨rivals.left_dynamic, rfl⟩, branch,
        List.mem_of_find?_eq_some isBranch, ?_⟩⟩
    rw [otherKind, Option.map_some, rivals.same_slot]

end Dispute

end Contribution
end FileRoutes
