import ApiSurface.Proofs.Naming.BasePath
import ApiSurface.Proofs.Resource.HandRoutes
import ApiSurface.Proofs.Text.Replacing

/-!
# Where resources are mounted

A path that a marker gives is normalized, and so is the default path, which ends with the plural of
a name.  The root alone ends with a slash, and a path keeps the white space that stands before its
last slashes (`basePath_normal_iff`).
-/

namespace ApiSurface

namespace Naming

/-! ## Default paths -/

theorem getLast?_pluralChars (word : List Char) : (pluralChars word).getLast? = some 's' := by
  unfold pluralChars
  dsimp only
  split
  · simp
  · split <;> simp

theorem getLast?_defaultBasePath (resourceType : String) (suffixes : List String) :
    (defaultBasePath resourceType suffixes).toList.getLast? = some 's' := by
  have hplural := getLast?_pluralChars
    (snakeCase (normalizeEntityName (simpleName resourceType) suffixes)).toList
  have hname : (Text.replace "_" "-" (plural (snakeCase
      (normalizeEntityName (simpleName resourceType) suffixes)))).toList.getLast? = some 's' := by
    rw [Text.replace, plural, String.toList_ofList]
    change (Text.replaceChars ['_'] ['-'] _).getLast? = _
    rw [Text.replaceChars_singleton, List.getLast?_map, String.toList_ofList, hplural]
    rfl
  rw [defaultBasePath, String.toList_append, List.getLast?_append, hname]
  rfl

theorem head?_defaultBasePath (resourceType : String) (suffixes : List String) :
    (defaultBasePath resourceType suffixes).toList.head? = some '/' := by
  rw [defaultBasePath, String.toList_append]
  rfl

end Naming

open Naming

variable {declared : DeclaredTypes} {declaration : ResourceDeclaration} {settings : Settings}
  {assembled : AssembledResource}

/-! ## Paths of resources -/

def ResourceDeclaration.givenPath? (declaration : ResourceDeclaration) : Option String :=
  declaration.values.firstOf? ["value", "path"]

theorem basePath_of_givenPath {path : String} (hgiven : declaration.givenPath? = some path)
    (hassembled : assemble declared declaration settings = .ok assembled) :
    assembled.configuration.basePath = normalizeBasePath path := by
  rw [ResourceDeclaration.givenPath?] at hgiven
  rw [basePath_of_assemble hassembled, ResourceMetadata.basePathOf, hgiven]

theorem basePath_of_no_givenPath (hgiven : declaration.givenPath? = none)
    (hassembled : assemble declared declaration settings = .ok assembled) :
    assembled.configuration.basePath =
      defaultBasePath assembled.configuration.resourceType settings.entitySuffixes := by
  rw [ResourceDeclaration.givenPath?] at hgiven
  rw [basePath_of_assemble hassembled, ResourceMetadata.basePathOf, hgiven]

/--
A normalized path starts with a slash.  It ends with one exactly if the path is made of slashes, and
then it is the root; it has white space at an end, and is not what it is normalized to, exactly if
white space stands before the last slashes.  So a resource is mounted at a path that starts with a
slash, and that ends with one only if the marker gives the root.
-/
theorem basePath_normal_iff (path : String) :
    ((normalizeBasePath path).toList.head? = some '/' ∧
        ((normalizeBasePath path).toList.getLast? = some '/' ↔ IsRootPath path) ∧
        (IsRootPath path → normalizeBasePath path = "/") ∧
        (Text.IsTrimmed (normalizeBasePath path) ↔ ¬HasLooseEnd path) ∧
        (normalizeBasePath (normalizeBasePath path) = normalizeBasePath path ↔
          ¬HasLooseEnd path)) ∧
      ∀ declared declaration settings assembled,
        assemble declared declaration settings = .ok assembled →
          assembled.configuration.basePath.toList.head? = some '/' ∧
            (assembled.configuration.basePath.toList.getLast? = some '/' ↔
              ∃ given, declaration.givenPath? = some given ∧ IsRootPath given) := by
  constructor
  · exact ⟨head?_normalizeBasePath path, getLast?_normalizeBasePath_iff path,
      normalizeBasePath_of_isRootPath, isTrimmed_normalizeBasePath_iff path,
      (normalizeBasePath_fixed_iff path).trans (isTrimmed_normalizeBasePath_iff path)⟩
  · intro declared declaration settings assembled hassembled
    cases hgiven : declaration.givenPath? with
    | none =>
        rw [basePath_of_no_givenPath hgiven hassembled, getLast?_defaultBasePath]
        exact ⟨head?_defaultBasePath _ _, by simp⟩
    | some given =>
        rw [basePath_of_givenPath hgiven hassembled, getLast?_normalizeBasePath_iff]
        exact ⟨head?_normalizeBasePath given, by simp⟩

theorem listing_mounted_at_root :
    HasLooseEnd "orders /" ∧ ¬Text.IsTrimmed (normalizeBasePath "orders /") ∧
      IsRootPath " // " ∧ normalizeBasePath " // " = "/" ∧ ∃ assembled,
        assemble ⟨[listingController "//", .bare "shop.Order"]⟩ (listingDeclaration "//")
            .default = .ok assembled ∧
          assembled.configuration.basePath.toList.getLast? = some '/' := by
  obtain ⟨⟨-, -, -, htrimmed, -⟩, -⟩ := basePath_normal_iff "orders /"
  obtain ⟨⟨-, -, hroot, -⟩, hresources⟩ := basePath_normal_iff " // "
  have hloose : HasLooseEnd "orders /" :=
    ⟨"orders".toList, ' ', ['/'], by decide +kernel, by decide, by simp⟩
  have hslashes : IsRootPath " // " := by decide +kernel
  obtain ⟨assembled, hassembled⟩ : ∃ assembled,
      assemble ⟨[listingController "//", .bare "shop.Order"]⟩ (listingDeclaration "//")
        .default = .ok assembled :=
    exists_eq_ok_of_isOk (by decide +kernel)
  have hends := (hresources _ _ _ assembled hassembled).2
  exact ⟨hloose, htrimmed.not_left.mpr hloose, hslashes, hroot hslashes, assembled, hassembled,
    hends.mpr ⟨"//", by decide +kernel, by decide +kernel⟩⟩

/-- The root ends with a slash, so that two slashes stand before the id of an item, and white space
before the last slash stays at the end until the path is normalized again. -/
theorem mountPaths_not_normal :
    (normalizeBasePath "/").toList.getLast? = some '/' ∧
      (assemble ⟨[listingController "//", .bare "shop.Order"]⟩ (listingDeclaration "//")
          .default).toOption.map (fun assembled => assembled.configuration.itemPath) =
        some "//\x7bid\x7d" ∧
      ¬Text.IsTrimmed (normalizeBasePath "orders /") ∧
      normalizeBasePath (normalizeBasePath "orders /") ≠ normalizeBasePath "orders /" := by
  decide +kernel

end ApiSurface
