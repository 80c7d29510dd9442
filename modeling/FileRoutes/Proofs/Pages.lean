import FileRoutes.Compiler
import FileRoutes.Proofs.Conflicts

/-!
# Merging pages and layouts

Pages and layouts are merged in the order of their listing.  Under the
permissive policies they grow into the trie of their routes, and the conflicts
on the way are recorded; other policies stop at the first conflict that they
forbid.
-/

namespace FileRoutes

open Logged RouteNode Contribution

/-- The configuration with permissive policies. -/
def CompilerConfig.permissive (config : CompilerConfig) : CompilerConfig :=
  config.withConflicts .permissive

/-- What a listed file contributes, given the loading views. -/
def ListedFile.contribution (config : CompilerConfig) (loading : ViewIndex)
    (file : ListedFile) : Contribution :=
  .ofFile config.routing.rootPrefix
    ⟨file, loading.findLoading (ParsedFile.parse config.routing.rootPrefix file.id)⟩

@[simp] theorem ListedFile.contribution_role (config : CompilerConfig)
    (loading : ViewIndex) (file : ListedFile) :
    (file.contribution config loading).role =
      (ParsedFile.parse config.routing.rootPrefix file.id).role.bind
        FileRole.routeRole? := by
  rw [contribution, Contribution.ofFile, RenderSpec.source]

@[simp] theorem ListedFile.contribution_tokens (config : CompilerConfig)
    (loading : ViewIndex) (file : ListedFile) :
    (file.contribution config loading).tokens =
      (ParsedFile.parse config.routing.rootPrefix file.id).routeTokens := by
  rw [contribution, Contribution.ofFile, RenderSpec.source]

/-- What is told about a file before it is merged. -/
def announcements (config : CompilerConfig) (loading : ViewIndex)
    (file : ListedFile) :
    List Event :=
  let parsed := ParsedFile.parse config.routing.rootPrefix file.id
  (if parsed.isRenderable then [] else [.plainChain file.id]) ++
    [.merging file.id parsed.routeKey (loading.findLoading parsed).label]

section

variable (config : CompilerConfig) (loading : ViewIndex) (file : ListedFile)

theorem not_mem_announcements (conflict : Conflict) :
    .conflictKept conflict ∉ announcements config loading file := by
  unfold announcements
  simp only [List.mem_append, List.mem_singleton]
  split <;> simp

/-- Adding a file announces it and merges the branch of its contribution. -/
theorem addPage_eq (root : RouteNode) :
    addPage config loading root file =
      recordAll (announcements config loading file) >>= fun _ =>
        merge config.conflicts root (file.contribution config loading).tree := by
  have tree : (file.contribution config loading).tree = RouteNode.branch
      ⟨file, loading.findLoading
        (ParsedFile.parse config.routing.rootPrefix file.id)⟩
      (ParsedFile.parse config.routing.rootPrefix file.id).segments :=
    (branch_eq_tree config.routing.rootPrefix _).symm
  rw [addPage, tree, announcements]
  generalize ParsedFile.parse config.routing.rootPrefix file.id = parsed
  cases renderable : parsed.isRenderable with
  | true =>
    simp only [Bool.not_true, Bool.false_eq_true, if_false, if_true]
    rfl
  | false =>
    simp only [Bool.not_false, if_true, Bool.false_eq_true, if_false]
    rw [bind_of_ok _ (gives_record _), bind_of_ok _ (gives_record _),
      bind_of_ok _ (gives_recordAll _)]
    rfl

theorem police_announcements :
    (recordAll (announcements config loading file)).police config.conflicts =
      recordAll (announcements config loading file) := by
  apply police_of_none
  rw [List.findSome?_eq_none_iff]
  intro event member
  cases event with
  | conflictKept conflict =>
    exact absurd member (not_mem_announcements config loading file conflict)
  | _ => rfl

/-- Policies stop the permissive merging of pages and layouts. -/
theorem police_addPages (root : RouteNode) (files : List ListedFile) :
    (addPages config.permissive loading root files).police config.conflicts =
      addPages config loading root files := by
  induction files generalizing root with
  | nil => exact police_pure _ _
  | cons file rest step =>
    have sameNews : announcements config.permissive loading file =
        announcements config loading file := rfl
    have sameFile : file.contribution config.permissive loading =
        file.contribution config loading := rfl
    have permissive : config.permissive.conflicts = .permissive := rfl
    rw [addPages, addPages, police_bind, addPage_eq, addPage_eq,
      police_bind, sameNews, sameFile, permissive, police_announcements,
      police_merge]
    simp only [step]

theorem addPages_append (root : RouteNode) (files : List ListedFile) :
    addPages config loading root (files ++ [file]) =
      addPages config loading root files >>= fun tree =>
        addPage config loading tree file := by
  induction files generalizing root with
  | nil =>
    rw [List.nil_append, addPages, addPages, pure_bind]; exact bind_pure _
  | cons first rest step =>
    rw [List.cons_append, addPages, addPages, bind_assoc]
    simp only [step]

/-- A file that is added under lenient policies grows the tree by its
contribution. -/
theorem gives_addPage (files : List Contribution) :
    (addPage config.permissive loading (grown files) file).Gives
      (grown (files ++ [file.contribution config loading])) := by
  have samePath :
      (grown files).path = (file.contribution config loading).tree.path :=
    (grown_path files).trans (tree_path _).symm
  rw [addPage_eq, grown_append]
  exact (gives_recordAll _).bind
    (gives_union (grown_tidy files) _ samePath (tree_index _))

theorem gives_addPages (files : List ListedFile) :
    (addPages config.permissive loading .root files).Gives
      (grown (files.map (ListedFile.contribution config loading))) := by
  induction files using List.reverseRecOn with
  | nil => exact gives_pure _
  | append_singleton files file step =>
    rw [addPages_append, List.map_append, List.map_singleton]
    exact step.bind (gives_addPage config loading file _)

/-! ## The conflicts on the way -/

/-- A test for conflicts holds of no announcement. -/
theorem any_announcements {test : Event -> Bool}
    (conflicting : ∀ event, test event = true ->
      ∃ conflict, event = .conflictKept conflict) :
    (announcements config loading file).any test = false := by
  rw [List.any_eq_false]
  intro event member passes
  obtain ⟨conflict, equal⟩ := conflicting event passes
  exact not_mem_announcements config loading file conflict (equal ▸ member)

/-- A property of files that each file brings in with the conflicts recorded for
it holds when such a conflict is recorded at all. -/
theorem any_log_addPages {test : Event -> Bool}
    (conflicting : ∀ event, test event = true ->
      ∃ conflict, event = .conflictKept conflict)
    {Holds : List Contribution -> Prop} (empty : ¬Holds [])
    (append : ∀ files file, Holds (files ++ [file]) ↔
      Holds files ∨ (twigEvents (grown files) file.content? file.tokens).any
        test = true)
    (files : List ListedFile) :
    (addPages config.permissive loading .root files).log.any test = true ↔
      Holds (files.map (ListedFile.contribution config loading)) := by
  induction files using List.reverseRecOn with
  | nil => simp [addPages, empty]
  | append_singleton files file step =>
    have permissive : config.permissive.conflicts = .permissive := rfl
    rw [addPages_append, (gives_addPages config loading files).log_bind,
      List.any_append, Bool.or_eq_true, step, List.map_append,
      List.map_singleton, append, addPage_eq, (gives_recordAll _).log_bind,
      List.any_append, permissive, log_merge_tree]
    have silent :
        (recordAll (announcements config.permissive loading file)).log.any test =
          false := any_announcements config.permissive loading file conflicting
    rw [silent, Bool.false_or]
    rfl

/-- Second claims are recorded exactly for contended files. -/
theorem any_isDuplicate_addPages (files : List ListedFile) :
    (addPages config.permissive loading .root files).log.any Event.isDuplicate =
      true ↔
      Contended (files.map (ListedFile.contribution config loading)) := by
  apply any_log_addPages
  · intro event isDuplicate
    obtain ⟨_, _, _, _, equal⟩ := Event.isDuplicate_iff.mp isDuplicate
    exact ⟨_, equal⟩
  · simp [Contended]
  · intro files file
    rw [any_isDuplicate_grown, contended_append]

/-- Rivals are recorded exactly for disputed files. -/
theorem any_isDispute_addPages (files : List ListedFile) :
    (addPages config.permissive loading .root files).log.any Event.isDispute =
      true ↔ Disputed (files.map (ListedFile.contribution config loading)) := by
  apply any_log_addPages
  · intro event isDispute
    obtain ⟨_, _, _, equal⟩ := Event.isDispute_iff.mp isDispute
    exact ⟨_, equal⟩
  · simp [Disputed]
  · intro files file
    rw [any_isDispute_grown, disputed_append]

end

/-! ## The verdict on pages and layouts -/

/-- Only a kept conflict whose policy is to fail is forbidden. -/
theorem forbidden_eq_some_iff {options : MergeOptions} {event : Event}
    {conflict : Conflict} :
    event.forbidden? options = some conflict ↔
      event = .conflictKept conflict ∧ conflict.policy options = .error := by
  cases event with
  | conflictKept kept =>
    simp only [Event.forbidden?, Option.ite_none_right_eq_some,
      Option.some.injEq, Event.conflictKept.injEq]
    constructor
    · rintro ⟨isError, equal⟩
      exact ⟨equal, equal ▸ isError⟩
    · rintro ⟨equal, isError⟩
      exact ⟨equal ▸ isError, equal⟩
  | _ => simp [Event.forbidden?]

/-- A conflict is justified when there is one of its kind between the files and
the policies forbid it. -/
def Conflict.Justified (options : MergeOptions) (files : List Contribution) :
    Conflict -> Prop
  | duplicateClaim _ _ _ _ => options.duplicates = .error ∧ Contended files
  | dynamicConflict _ _ _ => options.dynamicSegments = .error ∧ Disputed files

/-- Files are permitted when no conflict between them is forbidden. -/
def Contribution.Permitted (options : MergeOptions)
    (files : List Contribution) : Prop :=
  (options.duplicates = .error -> ¬Contended files) ∧
    (options.dynamicSegments = .error -> ¬Disputed files)

section Verdict

variable {config : CompilerConfig} {loading : ViewIndex}
  {files : List ListedFile}

/-- A conflict is justified if the lenient compilation records it and its policy
is to fail. -/
theorem justified_of_recorded {conflict : Conflict}
    (recorded : .conflictKept conflict ∈
      (addPages config.permissive loading .root files).log)
    (isError : conflict.policy config.conflicts = .error) :
    conflict.Justified config.conflicts
      (files.map (ListedFile.contribution config loading)) := by
  cases conflict with
  | duplicateClaim path slot existing incoming =>
    refine ⟨isError, (any_isDuplicate_addPages config loading files).mp ?_⟩
    exact List.any_eq_true.mpr ⟨_, recorded, rfl⟩
  | dynamicConflict parent existing incoming =>
    refine ⟨isError, (any_isDispute_addPages config loading files).mp ?_⟩
    exact List.any_eq_true.mpr ⟨_, recorded, rfl⟩

/-- When nothing forbidden is recorded, the files are permitted. -/
theorem permitted_of_not_recorded
    (clean : ∀ conflict, .conflictKept conflict ∈
      (addPages config.permissive loading .root files).log ->
        conflict.policy config.conflicts ≠ .error) :
    Permitted config.conflicts
      (files.map (ListedFile.contribution config loading)) := by
  constructor
  · intro isError contended
    rw [← any_isDuplicate_addPages, List.any_eq_true] at contended
    obtain ⟨event, member, isDuplicate⟩ := contended
    obtain ⟨_, _, _, _, equal⟩ := Event.isDuplicate_iff.mp isDuplicate
    rw [equal] at member
    exact clean _ member isError
  · intro isError disputed
    rw [← any_isDispute_addPages, List.any_eq_true] at disputed
    obtain ⟨event, member, isDispute⟩ := disputed
    obtain ⟨_, _, _, equal⟩ := Event.isDispute_iff.mp isDispute
    rw [equal] at member
    exact clean _ member isError

/-- Files with a justified conflict are not permitted. -/
theorem not_permitted_of_justified {conflict : Conflict}
    {options : MergeOptions} {contributions : List Contribution}
    (justified : conflict.Justified options contributions) :
    ¬Permitted options contributions := by
  rintro ⟨noDuplicate, noDispute⟩
  cases conflict with
  | duplicateClaim path slot existing incoming =>
    exact noDuplicate justified.1 justified.2
  | dynamicConflict parent existing incoming =>
    exact noDispute justified.1 justified.2

/-- Pages and layouts are merged into the trie of their routes if they are
permitted, and otherwise fail with a justified conflict. -/
theorem outcome_addPages (config : CompilerConfig) (loading : ViewIndex)
    (files : List ListedFile) :
    (Permitted config.conflicts
      (files.map (ListedFile.contribution config loading)) ∧
        (addPages config loading .root files).Gives
          (grown (files.map (ListedFile.contribution config loading)))) ∨
      ∃ conflict : Conflict,
        conflict.Justified config.conflicts
          (files.map (ListedFile.contribution config loading)) ∧
        (addPages config loading .root files).outcome =
          .error (.conflict conflict) := by
  rw [← police_addPages]
  cases found : (addPages config.permissive loading .root files).log.findSome?
      (Event.forbidden? config.conflicts) with
  | none =>
    rw [police_of_none found]
    refine Or.inl ⟨permitted_of_not_recorded ?_,
      gives_addPages config loading files⟩
    intro conflict recorded isError
    have allowed := List.findSome?_eq_none_iff.mp found _ recorded
    rw [forbidden_eq_some_iff.mpr ⟨rfl, isError⟩] at allowed
    cases allowed
  | some conflict =>
    obtain ⟨event, member, forbidden⟩ := List.exists_of_findSome?_eq_some found
    obtain ⟨equal, isError⟩ := forbidden_eq_some_iff.mp forbidden
    refine Or.inr ⟨conflict, justified_of_recorded (equal ▸ member) isError, ?_⟩
    rw [police_of_some found]

end Verdict
end FileRoutes
