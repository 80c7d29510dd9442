import FileRoutes.Proofs.Components

/-!
# Keys of files

Files are looked up by their folders or by their route, joined to a key.  The
parts of a key are components, which have no separator in them, so the key tells
the parts.
-/

namespace FileRoutes
namespace ParsedFile

/-- Every folder of an identifier is a component. -/
theorem isComponent_of_mem_folders {rootPrefix id folder : String}
    (member : folder ∈ (parse rootPrefix id).folders) :
    Identifier.IsComponent folder := by
  have isBelow := folders_subset_relativeNames rootPrefix id member
  rw [relativeNames_eq, Identifier.namesBelow] at isBelow
  split at isBelow
  · exact Identifier.isComponent_of_mem_components
      (List.mem_of_mem_drop isBelow)
  · exact Identifier.isComponent_of_mem_components isBelow

/-- The tokens of a route are the folders that are not groups. -/
theorem mem_routeTokens_iff {rootPrefix id token : String} :
    token ∈ (parse rootPrefix id).routeTokens ↔
      token ∈ (parse rootPrefix id).folders ∧ isGroup token = false := by
  rw [routeTokens_parse, List.mem_filter, Bool.not_eq_true']

theorem isComponent_of_mem_routeTokens {rootPrefix id token : String}
    (member : token ∈ (parse rootPrefix id).routeTokens) :
    Identifier.IsComponent token :=
  isComponent_of_mem_folders (mem_routeTokens_iff.mp member).1

/-- Route keys are equal exactly if the tokens they are joined from are
equal. -/
theorem routeKey_eq_iff {rootPrefix left right : String} :
    (parse rootPrefix left).routeKey = (parse rootPrefix right).routeKey ↔
      (parse rootPrefix left).routeTokens =
        (parse rootPrefix right).routeTokens :=
  ⟨routeTokens_eq_of_routeKey_eq, congrArg Text.joinSlash⟩

/-- Folder keys are equal exactly if the folders they are joined from are
equal. -/
theorem folderKey_eq_iff {rootPrefix left right : String} :
    (parse rootPrefix left).folderKey = (parse rootPrefix right).folderKey ↔
      (parse rootPrefix left).folders = (parse rootPrefix right).folders :=
  ⟨Text.joinSlash_inj (fun _ member => isName_of_mem_folders member)
    (fun _ member => isName_of_mem_folders member), congrArg Text.joinSlash⟩

/-- Keys are faithful.  Two files have one route key exactly if they have one
route, and one folder key exactly if they are in one folder.  Folders and route
tokens are components, the route tokens are the folders that are not groups, and
so no group is a route token. -/
theorem keys_faithful (rootPrefix left right : String) :
    ((parse rootPrefix left).routeKey = (parse rootPrefix right).routeKey ↔
      (parse rootPrefix left).routeTokens =
        (parse rootPrefix right).routeTokens) ∧
    ((parse rootPrefix left).folderKey = (parse rootPrefix right).folderKey ↔
      (parse rootPrefix left).folders = (parse rootPrefix right).folders) ∧
    (∀ folder ∈ (parse rootPrefix left).folders,
      Identifier.IsComponent folder) ∧
    (∀ token ∈ (parse rootPrefix left).routeTokens,
      Identifier.IsComponent token) ∧
    (parse rootPrefix left).routeTokens =
      ((parse rootPrefix left).folders.filter fun folder => !isGroup folder) ∧
    ∀ name, isGroup name = true ->
      name ∉ (parse rootPrefix left).routeTokens := by
  refine ⟨routeKey_eq_iff, folderKey_eq_iff,
    fun _ => isComponent_of_mem_folders, fun _ =>
      isComponent_of_mem_routeTokens, routeTokens_parse rootPrefix left,
    fun name group member => ?_⟩
  rw [(mem_routeTokens_iff.mp member).2] at group
  cases group

/-- A page in a group shares its route key with a layout outside of it, but not
its folder key. -/
theorem keys_faithful_cart :
    (parse "app" "app\\(shop)\\cart\\page").routeKey =
      (parse "app" "./app/cart/layout.tsx").routeKey ∧
    (parse "app" "app\\(shop)\\cart\\page").folderKey ≠
      (parse "app" "./app/cart/layout.tsx").folderKey ∧
    Identifier.IsComponent "(shop)" ∧ Identifier.IsComponent "cart" ∧
    "(shop)" ∉ (parse "app" "app\\(shop)\\cart\\page").routeTokens := by
  obtain ⟨sameRoute, sameFolder, folders, tokens, _, notGroup⟩ :=
    keys_faithful "app" "app\\(shop)\\cart\\page" "./app/cart/layout.tsx"
  refine ⟨sameRoute.mpr (by decide +kernel), ?_, folders _ (by decide +kernel),
    tokens _ (by decide +kernel), notGroup _ (by decide +kernel)⟩
  rw [ne_eq, sameFolder]
  decide +kernel

end ParsedFile
end FileRoutes
