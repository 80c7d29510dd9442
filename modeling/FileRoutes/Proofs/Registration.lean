import FileRoutes.Proofs.Outranked

/-!
# The order of registration

An index has the same keys in whatever order its files are registered.  It has
the same views under them, too, unless two files are tied for a key: such files
are two spellings of one identifier, and the one that is registered first holds
the key.
-/

namespace FileRoutes
namespace ParsedFile

variable {rootPrefix left right : String}

/-- The spelling of an identifier does not matter to the folders. -/
theorem folders_eq_of_normalize_eq
    (sameIdentifier : Identifier.normalize left = Identifier.normalize right) :
    (parse rootPrefix left).folders = (parse rootPrefix right).folders := by
  have sameNames :
      relativeNames rootPrefix left = relativeNames rootPrefix right := by
    rw [relativeNames, relativeNames, sameIdentifier]
  rw [parse, parse]
  simp only [sameNames]

theorem rank_eq_of_normalize_eq
    (sameIdentifier : Identifier.normalize left = Identifier.normalize right) :
    (parse rootPrefix left).rank = (parse rootPrefix right).rank := by
  have sameId (id : String) : (parse rootPrefix id).id = id := by
    simp only [parse]
  rw [rank, rank, groupDepth, groupDepth,
    folders_eq_of_normalize_eq sameIdentifier, sameId, sameId, sameIdentifier]

end ParsedFile

namespace ViewIndex

/-- A key that does not depend on how identifiers are spelled. -/
def Unspelled (keyOf : ParsedFile -> String) : Prop :=
  ∀ rootPrefix left right,
    Identifier.normalize left = Identifier.normalize right ->
    keyOf (ParsedFile.parse rootPrefix left) =
      keyOf (ParsedFile.parse rootPrefix right)

theorem unspelled_folderKey : Unspelled ParsedFile.folderKey := by
  intro rootPrefix left right sameIdentifier
  rw [ParsedFile.folderKey, ParsedFile.folderKey,
    ParsedFile.folders_eq_of_normalize_eq sameIdentifier]

theorem unspelled_routeKey : Unspelled ParsedFile.routeKey := by
  intro rootPrefix left right sameIdentifier
  rw [ParsedFile.routeKey, ParsedFile.routeKey, ParsedFile.routeTokens_parse,
    ParsedFile.routeTokens_parse,
    ParsedFile.folders_eq_of_normalize_eq sameIdentifier]

/-! ## Files in another order -/

section Orders

variable {keyOf : ParsedFile -> String} {rootPrefix : String}
  {files others : List ListedFile}

/-- Indexes of the same identifiers have the same keys. -/
theorem perm_keys_build
    (perm : (files.map ListedFile.id).Perm (others.map ListedFile.id)) :
    (build keyOf rootPrefix files).2.keys.Perm
      (build keyOf rootPrefix others).2.keys := by
  have sameKeys := perm.map fun id => keyOf (ParsedFile.parse rootPrefix id)
  rw [List.map_map, List.map_map] at sameKeys
  exact (keys_build_perm keyOf rootPrefix files).trans
    (sameKeys.dedup.trans (keys_build_perm keyOf rootPrefix others).symm)

/-- The first file that is registered holds its key when no file with the key
comes before it. -/
theorem get_build_cons {file : ListedFile}
    (least : ∀ other ∈ files, keyOf (ParsedFile.parse rootPrefix other.id) =
        keyOf (ParsedFile.parse rootPrefix file.id) ->
      (ParsedFile.parse rootPrefix file.id).rank ≤
        (ParsedFile.parse rootPrefix other.id).rank) :
    (build keyOf rootPrefix (file :: files)).2.get?
      (keyOf (ParsedFile.parse rootPrefix file.id)) = some (.file file) := by
  have isForemost : foremost? keyOf rootPrefix (file :: files)
      (keyOf (ParsedFile.parse rootPrefix file.id)) = some file :=
    foremost_eq_some_iff.mpr ⟨[], files, rfl, rfl, List.forall_mem_nil _, least⟩
  rw [get_build_eq_foremost, isForemost, Option.map_some]

/-- Of tied files, the one that is registered first holds the key. -/
theorem Tied.not_agree (unspelled : Unspelled keyOf)
    (tied : Tied keyOf rootPrefix files) :
    ∃ first second : List ListedFile, first.Perm files ∧ second.Perm files ∧
      ¬Agree (build keyOf rootPrefix first).2
        (build keyOf rootPrefix second).2 := by
  obtain ⟨left, isLeft, right, isRight, different, sameIdentifier, least⟩ :=
    tied
  have sameKey := unspelled rootPrefix left.id right.id sameIdentifier
  have sameRank : (ParsedFile.parse rootPrefix left.id).rank =
      (ParsedFile.parse rootPrefix right.id).rank :=
    ParsedFile.rank_eq_of_normalize_eq sameIdentifier
  have leftLeast :
      ∀ other ∈ files, keyOf (ParsedFile.parse rootPrefix other.id) =
        keyOf (ParsedFile.parse rootPrefix left.id) ->
          (ParsedFile.parse rootPrefix left.id).rank ≤
            (ParsedFile.parse rootPrefix other.id).rank := by
    intro other member hasKey
    have notBefore := least other member hasKey
    rw [← Bool.not_eq_true, ranked, ranked, ParsedFile.before_precedence_iff]
      at notBefore
    exact not_lt.mp notBefore
  refine ⟨left :: files.erase left, right :: files.erase right,
    (List.perm_cons_erase isLeft).symm, (List.perm_cons_erase isRight).symm, ?_⟩
  intro agree
  have leftFirst : (build keyOf rootPrefix (left :: files.erase left)).2.get?
      (keyOf (ParsedFile.parse rootPrefix left.id)) = some (.file left) :=
    get_build_cons fun other member =>
      leftLeast other (List.mem_of_mem_erase member)
  have rightFirst : (build keyOf rootPrefix (right :: files.erase right)).2.get?
      (keyOf (ParsedFile.parse rootPrefix right.id)) = some (.file right) := by
    apply get_build_cons
    rw [← sameKey, ← sameRank]
    exact fun other member => leftLeast other (List.mem_of_mem_erase member)
  have sameLabel := agree (keyOf (ParsedFile.parse rootPrefix left.id))
  rw [leftFirst, sameKey, rightFirst, Option.map_some, Option.map_some,
    Option.some.injEq]
    at sameLabel
  exact different sameLabel

/-- The views under the keys depend on the order of registration exactly when
some files are tied. -/
theorem agree_in_every_order_iff (unspelled : Unspelled keyOf) :
    (∀ others : List ListedFile,
      (files.map ListedFile.id).Perm (others.map ListedFile.id) ->
        Agree (build keyOf rootPrefix files).2
          (build keyOf rootPrefix others).2) ↔
      ¬Tied keyOf rootPrefix files := by
  constructor
  · intro agree tied
    obtain ⟨first, second, isFirst, isSecond, disagree⟩ :=
      tied.not_agree unspelled
    apply disagree
    intro key
    rw [← agree first (isFirst.symm.map _) key,
      agree second (isSecond.symm.map _) key]
  · intro untied others perm
    exact agree_build keyOf rootPrefix (fun _ => perm.mem_iff) untied

end Orders

end ViewIndex

/-- The keys of an index do not depend on the order of registration.  The
loading and not-found views that are chosen do not either, unless files are
tied, and then the first one of them that is registered wins. -/
theorem order_matters_iff_tied (rootPrefix : String) (files : List ListedFile) :
    (∀ others : List ListedFile,
      (files.map ListedFile.id).Perm (others.map ListedFile.id) ->
      (ViewIndex.byFolder rootPrefix files).2.keys.Perm
          (ViewIndex.byFolder rootPrefix others).2.keys ∧
        (ViewIndex.byRoute rootPrefix files).2.keys.Perm
          (ViewIndex.byRoute rootPrefix others).2.keys ∧
        (¬ViewIndex.Tied ParsedFile.folderKey rootPrefix files ->
          ∀ page : ParsedFile,
          ((ViewIndex.byFolder rootPrefix files).2.findLoading page).label =
            ((ViewIndex.byFolder rootPrefix others).2.findLoading page).label) ∧
        (¬ViewIndex.Tied ParsedFile.routeKey rootPrefix files ->
          ∀ routeKey : String,
          (NotFoundViews.nearest ⟨(ViewIndex.byRoute rootPrefix files).2⟩
            routeKey).label =
            (NotFoundViews.nearest ⟨(ViewIndex.byRoute rootPrefix others).2⟩
              routeKey).label)) ∧
      ((∀ others : List ListedFile,
        (files.map ListedFile.id).Perm (others.map ListedFile.id) ->
          ViewIndex.Agree (ViewIndex.byFolder rootPrefix files).2
            (ViewIndex.byFolder rootPrefix others).2) ↔
        ¬ViewIndex.Tied ParsedFile.folderKey rootPrefix files) ∧
      ((∀ others : List ListedFile,
        (files.map ListedFile.id).Perm (others.map ListedFile.id) ->
          ViewIndex.Agree (ViewIndex.byRoute rootPrefix files).2
            (ViewIndex.byRoute rootPrefix others).2) ↔
        ¬ViewIndex.Tied ParsedFile.routeKey rootPrefix files) := by
  refine ⟨fun others perm =>
    ⟨ViewIndex.perm_keys_build perm, ViewIndex.perm_keys_build perm,
    ?_, ?_⟩, ViewIndex.agree_in_every_order_iff ViewIndex.unspelled_folderKey,
    ViewIndex.agree_in_every_order_iff ViewIndex.unspelled_routeKey⟩
  · intro untied page
    have agree :=
      (ViewIndex.agree_in_every_order_iff ViewIndex.unspelled_folderKey).mpr
        untied
    exact (agree others perm).label_findLoading page
  · intro untied routeKey
    have agree :=
      (ViewIndex.agree_in_every_order_iff ViewIndex.unspelled_routeKey).mpr
        untied
    exact (agree others perm).label_nearest routeKey

/-- Two spellings of a loading file and two loading files, one of them in a
group. -/
theorem order_matters_iff_tied_shop :
    (∃ others : List ListedFile,
      ((ListedFile.ofList .loading ["app\\loading", "app/loading"]).map
        ListedFile.id).Perm
          (others.map ListedFile.id) ∧
        ¬ViewIndex.Agree
          (ViewIndex.byFolder "app"
            (ListedFile.ofList .loading ["app\\loading", "app/loading"])).2
          (ViewIndex.byFolder "app" others).2) ∧
      ∀ page : ParsedFile,
        ((ViewIndex.byFolder "app" (ListedFile.ofList .loading
            ["app/(sale)/loading", "app/loading"])).2.findLoading page).label =
          ((ViewIndex.byFolder "app" (ListedFile.ofList .loading
            ["app/loading", "app/(sale)/loading"])).2.findLoading
            page).label := by
  have tied : ViewIndex.Tied ParsedFile.folderKey "app"
      (ListedFile.ofList .loading ["app\\loading", "app/loading"]) :=
    ⟨⟨"app\\loading", .loading, 0⟩, by decide,
      ⟨"app/loading", .loading, 1⟩, by decide, by decide,
      by decide +kernel, by decide +kernel⟩
  have untied : ¬ViewIndex.Tied ParsedFile.folderKey "app"
      (ListedFile.ofList .loading ["app/(sale)/loading", "app/loading"]) := by
    apply ViewIndex.not_tied_of_spelledOnce
    rw [SpelledOnce]
    decide +kernel
  constructor
  · have disagree :=
      mt (order_matters_iff_tied "app" _).2.1.mp (not_not_intro tied)
    simpa only [not_forall, exists_prop] using disagree
  · exact ((order_matters_iff_tied "app" _).1 _ (by decide)).2.2.1 untied

/-- Of two spellings of one loading file the one that is registered first
wins. -/
theorem spellings_in_two_orders :
    ["app\\loading", "app/loading"].Perm ["app/loading", "app\\loading"] ∧
      ((ViewIndex.byFolder "app" (ListedFile.ofList .loading
        ["app\\loading", "app/loading"])).2.get? "").map View.label =
        some "app\\loading" ∧
      ((ViewIndex.byFolder "app" (ListedFile.ofList .loading
        ["app/loading", "app\\loading"])).2.get? "").map View.label =
        some "app/loading" := by
  decide +kernel

end FileRoutes
