import ApiSurface.Proofs.Resource.Refusal

/-!
# What an assembled resource is made of

An assembly that succeeds has gone through all of its parts (`exists_parts_of_assemble`).  What a
part says of the configuration is read off it here once.
-/

namespace ApiSurface

theorem exists_eq_ok_of_isOk {α ε : Type} {result : Except ε α} (hok : result.isOk = true) :
    ∃ value, result = .ok value := by
  cases result with
  | error error => cases hok
  | ok value => exact ⟨value, rfl⟩

variable {declared : DeclaredTypes} {declaration : ResourceDeclaration} {settings : Settings}
  {assembled : AssembledResource}

theorem exists_parts_of_assemble
    (hassembled : assemble declared declaration settings = .ok assembled) :
    ∃ metadata routes scan security,
      ResourceMetadata.resolve declared declaration.declaring declaration.values settings =
        .ok metadata ∧
      RouteTable.scrape declared declaration.declaring = .ok routes ∧
      relationsOf declared metadata settings = .ok scan ∧
      securityOf declaration.declaring metadata.controllerName settings = .ok security ∧
      assembled =
        ⟨metadata.configuration routes scan.relations security settings.pageSize,
          scan.issues⟩ := by
  obtain ⟨metadata, hmetadata, hrest⟩ := bind_eq_ok_iff.mp hassembled
  obtain ⟨routes, hroutes, hrest⟩ := bind_eq_ok_iff.mp hrest
  obtain ⟨scan, hscan, hrest⟩ := bind_eq_ok_iff.mp hrest
  obtain ⟨security, hsecurity, hrest⟩ := bind_eq_ok_iff.mp hrest
  cases hrest
  exact ⟨metadata, routes, scan, security, hmetadata, hroutes, hscan, hsecurity, rfl⟩

theorem controllerName_of_assemble
    (hassembled : assemble declared declaration settings = .ok assembled) :
    assembled.configuration.controllerName = declaration.controllerName settings := by
  obtain ⟨metadata, _, _, _, hmetadata, -, -, -, rfl⟩ := exists_parts_of_assemble hassembled
  obtain ⟨entity, hof⟩ := exists_entity_of_resolve hmetadata
  exact hof.controllerName

theorem handRoutes_of_assemble
    (hassembled : assemble declared declaration settings = .ok assembled) :
    RouteTable.scrape declared declaration.declaring =
      .ok assembled.configuration.handRoutes := by
  obtain ⟨_, routes, _, _, -, hroutes, -, -, rfl⟩ := exists_parts_of_assemble hassembled
  exact hroutes

theorem marked_of_resolve {declaring : TypeDecl} {values : MarkerValues}
    {metadata : ResourceMetadata}
    (hmetadata : ResourceMetadata.resolve declared declaring values settings = .ok metadata) :
    DtoShapes.resolve declared values metadata.resourceType = .ok metadata.shapes ∧
      metadata.usesDto = metadata.shapes.differFrom metadata.resourceType ∧
      metadata.basePath = ResourceMetadata.basePathOf metadata.resourceType values settings ∧
      metadata.wrapper = ResourceMetadata.wrapperOf values settings := by
  obtain ⟨entity, -, hrest⟩ := bind_eq_ok_iff.mp hmetadata
  obtain ⟨shapes, hshapes, hrest⟩ := bind_eq_ok_iff.mp hrest
  obtain ⟨takes, -, hrest⟩ := bind_eq_ok_iff.mp hrest
  cases hrest
  exact ⟨hshapes, rfl, rfl, rfl⟩

theorem shapes_of_assemble
    (hassembled : assemble declared declaration settings = .ok assembled) :
    DtoShapes.resolve declared declaration.values assembled.configuration.resourceType =
        .ok ⟨assembled.configuration.requestShape, assembled.configuration.singleShape,
          assembled.configuration.listShape⟩ ∧
      assembled.configuration.usesDto =
        (assembled.configuration.mapsSingle || assembled.configuration.mapsList ||
          assembled.configuration.mapsRequest) := by
  obtain ⟨metadata, _, _, _, hmetadata, -, -, -, rfl⟩ := exists_parts_of_assemble hassembled
  obtain ⟨hshapes, huses, -, -⟩ := marked_of_resolve hmetadata
  refine ⟨hshapes, ?_⟩
  simp [ResourceMetadata.configuration, huses, DtoShapes.differFrom,
    ResourceConfiguration.mapsSingle, ResourceConfiguration.mapsList,
    ResourceConfiguration.mapsRequest, Bool.or_assoc]

theorem basePath_of_assemble
    (hassembled : assemble declared declaration settings = .ok assembled) :
    assembled.configuration.basePath =
      ResourceMetadata.basePathOf assembled.configuration.resourceType declaration.values
        settings := by
  obtain ⟨metadata, _, _, _, hmetadata, -, -, -, rfl⟩ := exists_parts_of_assemble hassembled
  exact (marked_of_resolve hmetadata).2.2.1

theorem wrapper_of_assemble
    (hassembled : assemble declared declaration settings = .ok assembled) :
    assembled.configuration.wrapper =
      ResourceMetadata.wrapperOf declaration.values settings := by
  obtain ⟨metadata, _, _, _, hmetadata, -, -, -, rfl⟩ := exists_parts_of_assemble hassembled
  exact (marked_of_resolve hmetadata).2.2.2

end ApiSurface
