import ApiSurface.Proofs.Catalog.MappedTypes
import ApiSurface.Proofs.Resource.RelationScan
import ApiSurface.Proofs.Synthesis.CatalogReport

/-!
# Shadowed markers

On a field with a relation marker the markers of a persistence mapping say nothing.  They can be
erased from all such fields of a catalog: every lookup finds the erased form of what it found
before, and nothing that is assembled from it changes.  So catalogs that differ only in shadowed
markers have the same resources (`assemble_eq_of_sameButShadowed`).
-/

namespace ApiSurface

/-! ## Fields -/

namespace FieldDecl

/-- The field without the persistence markers that a relation marker shadows. -/
def withoutShadowed (field : FieldDecl) : FieldDecl :=
  if Marker.isPresent relationMarker field.markers then
    { field with markers := field.markers.filter fun marker => !marker.isPersistent }
  else
    field

@[simp] theorem name_withoutShadowed (field : FieldDecl) :
    field.withoutShadowed.name = field.name := by
  unfold withoutShadowed
  split <;> rfl

@[simp] theorem type_withoutShadowed (field : FieldDecl) :
    field.withoutShadowed.type = field.type := by
  unfold withoutShadowed
  split <;> rfl

theorem find?_withoutShadowed (field : FieldDecl) {name : String}
    (hname : name ∉ persistenceMarkers) :
    Marker.find? name field.withoutShadowed.markers = Marker.find? name field.markers := by
  unfold withoutShadowed
  split
  · rw [Marker.find?, Marker.find?, List.find?_filter]
    congr 1
    funext marker
    by_cases hmarker : marker.name = name
    · have hstays : marker.isPersistent = false := by
        simpa [Marker.isPersistent, hmarker] using hname
      simp [hmarker, hstays]
    · simp [hmarker]
  · rfl

end FieldDecl

/-! ## Types -/

namespace TypeDecl

def withoutShadowed (type : TypeDecl) : TypeDecl :=
  { type with fields := type.fields.map FieldDecl.withoutShadowed }

@[simp] theorem id_withoutShadowed (type : TypeDecl) : type.withoutShadowed.id = type.id :=
  rfl

@[simp] theorem methods_withoutShadowed (type : TypeDecl) :
    type.withoutShadowed.methods = type.methods :=
  rfl

end TypeDecl

namespace DeclaredTypes

def withoutShadowed (declared : DeclaredTypes) : DeclaredTypes :=
  declared.mapTypes TypeDecl.withoutShadowed

variable (declared : DeclaredTypes)

@[simp] theorem named?_withoutShadowed (id : String) :
    declared.withoutShadowed.named? id = (declared.named? id).map TypeDecl.withoutShadowed :=
  named?_mapTypes TypeDecl.id_withoutShadowed declared id

@[simp] theorem withSimpleName_withoutShadowed (name : String) :
    declared.withoutShadowed.withSimpleName name =
      (declared.withSimpleName name).map TypeDecl.withoutShadowed :=
  withSimpleName_mapTypes TypeDecl.id_withoutShadowed declared name

@[simp] theorem resolve?_withoutShadowed (reference : String) :
    declared.withoutShadowed.resolve? reference =
      (declared.resolve? reference).map TypeDecl.withoutShadowed :=
  resolve?_mapTypes TypeDecl.id_withoutShadowed declared reference

@[simp] theorem shape_withoutShadowed (resource reference : String) :
    declared.withoutShadowed.shape resource reference = declared.shape resource reference :=
  shape_mapTypes TypeDecl.id_withoutShadowed declared resource reference

@[simp] theorem methods_withoutShadowed (id : String) :
    declared.withoutShadowed.methods id = declared.methods id :=
  methods_mapTypes TypeDecl.id_withoutShadowed declared TypeDecl.methods_withoutShadowed id

@[simp] theorem fields_withoutShadowed (id : String) :
    declared.withoutShadowed.fields id = (declared.fields id).map FieldDecl.withoutShadowed :=
  fields_mapTypes TypeDecl.id_withoutShadowed declared (fun _ => rfl) id

end DeclaredTypes

/-! ## Identifiers and metadata -/

variable (declared : DeclaredTypes)

theorem Identifier.ofField_withoutShadowed (field : FieldDecl) :
    ofField field.withoutShadowed = ofField field := by
  simp [ofField]

theorem Identifier.markedField?_withoutShadowed (type : TypeDecl) :
    markedField? declared.withoutShadowed type.withoutShadowed =
      (markedField? declared type).map FieldDecl.withoutShadowed := by
  have hid : "Id" ∉ persistenceMarkers := by decide
  simp only [markedField?, TypeDecl.id_withoutShadowed, DeclaredTypes.fields_withoutShadowed,
    List.find?_map, Function.comp_def, Marker.isPresent, FieldDecl.find?_withoutShadowed _ hid]

theorem Identifier.resolve?_withoutShadowed (type : TypeDecl) :
    resolve? declared.withoutShadowed type.withoutShadowed = resolve? declared type := by
  have hidentifier (field? : Option FieldDecl) :
      (field?.map FieldDecl.withoutShadowed).elim default ofField =
        field?.elim default ofField := by
    cases field? with
    | none => rfl
    | some field => exact ofField_withoutShadowed field
  simp only [resolve?, markedField?_withoutShadowed, hidentifier, TypeDecl.id_withoutShadowed,
    DeclaredTypes.methods_withoutShadowed, Option.map_map]
  rfl

theorem ResourceMetadata.entity_withoutShadowed (declaring : TypeDecl) (values : MarkerValues) :
    entity declared.withoutShadowed declaring.withoutShadowed values =
      (entity declared declaring values).map TypeDecl.withoutShadowed := by
  unfold entity
  cases values.text? "entity" with
  | none => rfl
  | some reference =>
      simp only [DeclaredTypes.resolve?_withoutShadowed]
      cases declared.resolve? reference <;> rfl

theorem ResourceMetadata.identifierOf_withoutShadowed (entity : TypeDecl)
    (values : MarkerValues) :
    identifierOf declared.withoutShadowed entity.withoutShadowed values =
      identifierOf declared entity values := by
  rw [identifierOf, identifierOf, Identifier.resolve?_withoutShadowed]

theorem DtoShapes.resolve_withoutShadowed (values : MarkerValues) (resourceType : String) :
    resolve declared.withoutShadowed values resourceType =
      resolve declared values resourceType := by
  have hlookup : lookup declared.withoutShadowed values = lookup declared values := by
    funext keys other
    simp only [lookup, DeclaredTypes.shape_withoutShadowed]
  rw [resolve, resolve, hlookup]

theorem map_bind_eq {α β γ ε : Type} (result : Except ε α) (change : α → β)
    (rest : β → Except ε γ) : (result.map change >>= rest) = result >>= (rest ∘ change) := by
  cases result <;> rfl

theorem ResourceMetadata.resolve_withoutShadowed (declaring : TypeDecl) (values : MarkerValues)
    (settings : Settings) :
    resolve declared.withoutShadowed declaring.withoutShadowed values settings =
      resolve declared declaring values settings := by
  unfold resolve
  rw [entity_withoutShadowed, map_bind_eq]
  refine bind_congr fun entity => ?_
  simp only [Function.comp_apply, TypeDecl.id_withoutShadowed, identifierOf_withoutShadowed,
    DtoShapes.resolve_withoutShadowed]

theorem RouteTable.scrape_withoutShadowed (type : TypeDecl) :
    scrape declared.withoutShadowed type.withoutShadowed = scrape declared type := by
  simp only [scrape, DeclaredTypes.handRoutes, TypeDecl.id_withoutShadowed,
    DeclaredTypes.methods_withoutShadowed]
  rfl

/-! ## Relations -/

namespace RelationField

def withoutShadowed (source : RelationField) : RelationField :=
  { source with owner := source.owner.withoutShadowed, field := source.field.withoutShadowed }

theorem detect?_withoutShadowed (owner : TypeDecl) (field : FieldDecl) :
    detect? owner.withoutShadowed field.withoutShadowed =
      (detect? owner field).map withoutShadowed := by
  have hlocation : (Member.field owner.withoutShadowed field.withoutShadowed).location =
      (Member.field owner field).location := by
    simp [Member.location]
  have hrelation : relationMarker ∉ persistenceMarkers := by decide
  simp only [detect?, hlocation, field.find?_withoutShadowed hrelation]
  cases hfind : Marker.find? relationMarker field.markers with
  | some marker => rfl
  | none =>
      -- Nothing shadows the persistence markers here, and they do count.
      have hsame : field.withoutShadowed = field := by
        simp [FieldDecl.withoutShadowed, Marker.isPresent, hfind]
      simp only [Option.map_map, Function.comp_def, withoutShadowed, hsame]

variable (source : RelationField)

theorem name_withoutShadowed : source.withoutShadowed.name = source.name := by
  change (source.explicitText? "name").getD source.field.withoutShadowed.name = _
  rw [FieldDecl.name_withoutShadowed]
  rfl

theorem shape_withoutShadowed : source.withoutShadowed.shape = source.shape := by
  change TypeShape.ofExpression source.field.withoutShadowed.type = _
  rw [FieldDecl.type_withoutShadowed]
  rfl

theorem cardinality_withoutShadowed :
    source.withoutShadowed.cardinality = source.cardinality := by
  rw [cardinality, shape_withoutShadowed]
  rfl

theorem related?_withoutShadowed :
    source.withoutShadowed.related? declared.withoutShadowed =
      (source.related? declared).map TypeDecl.withoutShadowed := by
  rw [related?, reference, shape_withoutShadowed]
  exact declared.resolve?_withoutShadowed source.reference

theorem relatedType_withoutShadowed :
    source.withoutShadowed.relatedType declared.withoutShadowed =
      source.relatedType declared := by
  rw [relatedType, relatedType, related?_withoutShadowed, reference, shape_withoutShadowed]
  cases source.related? declared <;> rfl

theorem relatedIdentifier?_withoutShadowed :
    source.withoutShadowed.relatedIdentifier? declared.withoutShadowed =
      source.relatedIdentifier? declared := by
  rw [relatedIdentifier?, relatedIdentifier?, related?_withoutShadowed]
  cases source.related? declared with
  | none => rfl
  | some related => exact Identifier.resolve?_withoutShadowed declared related

theorem identifierIssues_withoutShadowed :
    source.withoutShadowed.identifierIssues declared.withoutShadowed =
      source.identifierIssues declared := by
  rw [identifierIssues, identifierIssues, related?_withoutShadowed, relatedType_withoutShadowed,
    relatedIdentifier?_withoutShadowed]
  cases source.related? declared <;> rfl

theorem discoverDto_withoutShadowed (settings : Settings) (type : String) :
    discoverDto declared.withoutShadowed settings type = discoverDto declared settings type := by
  unfold discoverDto
  extract_lets name inNamespace
  rw [DeclaredTypes.withSimpleName_withoutShadowed, List.filter_map]
  have hsame : inNamespace ∘ TypeDecl.withoutShadowed = inNamespace := rfl
  rw [hsame]
  rcases (declared.withSimpleName name).filter inNamespace with _ | ⟨only, _ | ⟨second, rest⟩⟩ <;>
    rfl

theorem statedShape_withoutShadowed :
    source.withoutShadowed.statedShape declared.withoutShadowed =
      source.statedShape declared := by
  unfold statedShape
  simp only [DeclaredTypes.shape_withoutShadowed]
  rfl

theorem responseShape_withoutShadowed (settings : Settings) :
    source.withoutShadowed.responseShape declared.withoutShadowed settings =
      source.responseShape declared settings := by
  rw [responseShape, responseShape, statedShape_withoutShadowed, relatedType_withoutShadowed,
    discoverDto_withoutShadowed]

theorem accessorTypes_withoutShadowed :
    source.withoutShadowed.accessorTypes declared.withoutShadowed =
      (source.accessorTypes declared).map TypeDecl.withoutShadowed := by
  unfold accessorTypes
  rw [related?_withoutShadowed]
  cases source.related? declared with
  | none => rfl
  | some related =>
      simp only [Option.map_some, TypeDecl.id_withoutShadowed, apply_ite (List.map _)]
      rfl

theorem accessor_withoutShadowed (kind : AccessorKind) :
    source.withoutShadowed.accessor declared.withoutShadowed kind =
      source.accessor declared kind := by
  have hmarked : source.withoutShadowed.markedAccessor? declared.withoutShadowed kind =
      source.markedAccessor? declared kind := by
    simp only [markedAccessor?, accessorTypes_withoutShadowed, List.findSome?_map,
      Function.comp_def, TypeDecl.id_withoutShadowed, DeclaredTypes.methods_withoutShadowed,
      name_withoutShadowed]
    rfl
  rw [accessor, accessor, hmarked, name_withoutShadowed]
  rfl

theorem relation_withoutShadowed (settings : Settings) :
    source.withoutShadowed.relation declared.withoutShadowed settings =
      source.relation declared settings := by
  have haccessor : source.withoutShadowed.accessor declared.withoutShadowed =
      source.accessor declared := funext (accessor_withoutShadowed declared source)
  simp only [relation, name_withoutShadowed, cardinality_withoutShadowed,
    relatedType_withoutShadowed, responseShape_withoutShadowed,
    relatedIdentifier?_withoutShadowed, haccessor]

theorem issues_withoutShadowed :
    source.withoutShadowed.issues declared.withoutShadowed = source.issues declared := by
  rw [issues, issues, identifierIssues_withoutShadowed, shapeIssues, statedShape_withoutShadowed]
  rfl

end RelationField

theorem DeclaredTypes.relationFields_withoutShadowed (entity : TypeDecl) :
    declared.withoutShadowed.relationFields entity.withoutShadowed =
      (declared.relationFields entity).map RelationField.withoutShadowed := by
  simp only [relationFields, TypeDecl.id_withoutShadowed, fields_withoutShadowed,
    List.filterMap_map, List.map_filterMap, Function.comp_def,
    RelationField.detect?_withoutShadowed]

theorem RelationScan.ofType_withoutShadowed (entity : TypeDecl) (settings : Settings) :
    ofType declared.withoutShadowed entity.withoutShadowed settings =
      ofType declared entity settings := by
  simp only [ofType, ofFields, DeclaredTypes.relationFields_withoutShadowed, List.map_map,
    List.flatMap_map, Function.comp_def, RelationField.name_withoutShadowed,
    RelationField.relation_withoutShadowed, RelationField.issues_withoutShadowed,
    TypeDecl.id_withoutShadowed]

/-! ## Assembly -/

theorem relationsOf_withoutShadowed (metadata : ResourceMetadata) (settings : Settings) :
    relationsOf declared.withoutShadowed metadata settings =
      relationsOf declared metadata settings := by
  simp only [relationsOf, DeclaredTypes.named?_withoutShadowed]
  cases declared.named? metadata.resourceType with
  | none => rfl
  | some entity => simp only [Option.map_some, RelationScan.ofType_withoutShadowed]

namespace ResourceDeclaration

def withoutShadowed (declaration : ResourceDeclaration) : ResourceDeclaration :=
  { declaration with declaring := declaration.declaring.withoutShadowed }

theorem assemble_withoutShadowed (declaration : ResourceDeclaration) (settings : Settings) :
    assemble declared.withoutShadowed declaration.withoutShadowed settings =
      assemble declared declaration settings := by
  have hsecurity (controller : String) :
      securityOf declaration.withoutShadowed.declaring controller settings =
        securityOf declaration.declaring controller settings := rfl
  have hdeclaring : declaration.withoutShadowed.declaring =
      declaration.declaring.withoutShadowed := rfl
  simp only [assemble, hsecurity]
  simp only [hdeclaring, ResourceMetadata.resolve_withoutShadowed,
    RouteTable.scrape_withoutShadowed, relationsOf_withoutShadowed]
  rfl

end ResourceDeclaration

theorem DeclaredTypes.resourceDeclarations_withoutShadowed :
    declared.withoutShadowed.resourceDeclarations =
      declared.resourceDeclarations.map ResourceDeclaration.withoutShadowed := by
  simp only [resourceDeclarations, withoutShadowed, mapTypes, List.flatMap_map, List.map_flatMap]
  refine congrArg (declared.types.flatMap ·) (funext fun type => ?_)
  rw [TypeDecl.resourceDeclarations, TypeDecl.resourceDeclarations, List.map_map]
  rfl

/-! ## Catalogs that differ in shadowed markers -/

/-- The fields are the same but for the persistence markers beside a relation marker. -/
structure FieldDecl.SameButShadowed (field other : FieldDecl) : Prop where
  name : field.name = other.name
  type : field.type = other.type
  markers : field.markers = other.markers ∨
    Marker.isPresent relationMarker field.markers = true ∧
      Marker.isPresent relationMarker other.markers = true ∧
      field.markers.filter (fun marker => !marker.isPersistent) =
        other.markers.filter fun marker => !marker.isPersistent

structure TypeDecl.SameButShadowed (type other : TypeDecl) : Prop where
  id : type.id = other.id
  markers : type.markers = other.markers
  fields : List.Forall₂ FieldDecl.SameButShadowed type.fields other.fields
  methods : type.methods = other.methods

def DeclaredTypes.SameButShadowed (declared other : DeclaredTypes) : Prop :=
  List.Forall₂ TypeDecl.SameButShadowed declared.types other.types

theorem FieldDecl.SameButShadowed.withoutShadowed_eq {field other : FieldDecl}
    (hsame : field.SameButShadowed other) : field.withoutShadowed = other.withoutShadowed := by
  obtain ⟨name, type, markers⟩ := field
  obtain ⟨otherName, otherType, otherMarkers⟩ := other
  obtain ⟨rfl, rfl, hmarkers⟩ := hsame
  rcases hmarkers with hequal | ⟨hpresent, hotherPresent, hkept⟩
  · cases hequal
    rfl
  · rw [withoutShadowed, withoutShadowed, if_pos hpresent, if_pos hotherPresent, hkept]

theorem TypeDecl.SameButShadowed.withoutShadowed_eq {type other : TypeDecl}
    (hsame : type.SameButShadowed other) : type.withoutShadowed = other.withoutShadowed := by
  have hfields : type.fields.map FieldDecl.withoutShadowed =
      other.fields.map FieldDecl.withoutShadowed :=
    map_eq_map_of_forall₂ hsame.fields fun _ _ => FieldDecl.SameButShadowed.withoutShadowed_eq
  rw [withoutShadowed, withoutShadowed, hfields, hsame.id, hsame.markers, hsame.methods]

theorem DeclaredTypes.SameButShadowed.withoutShadowed_eq {declared other : DeclaredTypes}
    (hsame : declared.SameButShadowed other) :
    declared.withoutShadowed = other.withoutShadowed := by
  have htypes : declared.types.map TypeDecl.withoutShadowed =
      other.types.map TypeDecl.withoutShadowed :=
    map_eq_map_of_forall₂ hsame fun _ _ => TypeDecl.SameButShadowed.withoutShadowed_eq
  rw [withoutShadowed, withoutShadowed, mapTypes, mapTypes, htypes]

theorem CatalogReport.ofTypes_withoutShadowed (settings : Settings) :
    ofTypes declared.withoutShadowed settings = ofTypes declared settings := by
  have hlabel (declaration : ResourceDeclaration) :
      declaration.withoutShadowed.label = declaration.label := rfl
  simp only [ofTypes, ofDeclarations_eq, DeclaredTypes.resourceDeclarations_withoutShadowed,
    List.filterMap_map, List.flatMap_map, Function.comp_def,
    ResourceDeclaration.assemble_withoutShadowed, hlabel]

structure ResourceDeclaration.SameButShadowed (declaration other : ResourceDeclaration) :
    Prop where
  declaring : declaration.declaring.SameButShadowed other.declaring
  values : declaration.values = other.values

theorem TypeDecl.SameButShadowed.resourceDeclarations {type other : TypeDecl}
    (hsame : type.SameButShadowed other) :
    List.Forall₂ ResourceDeclaration.SameButShadowed type.resourceDeclarations
      other.resourceDeclarations := by
  rw [TypeDecl.resourceDeclarations, TypeDecl.resourceDeclarations, hsame.markers,
    List.forall₂_map_left_iff, List.forall₂_map_right_iff, List.forall₂_same]
  intro marker _
  refine ⟨hsame, ?_⟩
  simp only [Member.location, hsame.id]

section

variable {declared} {other : DeclaredTypes} (hsame : declared.SameButShadowed other)

include hsame

theorem DeclaredTypes.SameButShadowed.resourceDeclarations :
    List.Forall₂ ResourceDeclaration.SameButShadowed declared.resourceDeclarations
      other.resourceDeclarations :=
  List.rel_flatMap hsame fun _ _ htypes => htypes.resourceDeclarations

theorem DeclaredTypes.SameButShadowed.assemble_eq
    {declaration counterpart : ResourceDeclaration}
    (hdeclarations : declaration.SameButShadowed counterpart) (settings : Settings) :
    assemble declared declaration settings = assemble other counterpart settings := by
  have hcounterpart : declaration.withoutShadowed = counterpart.withoutShadowed := by
    rw [ResourceDeclaration.withoutShadowed, ResourceDeclaration.withoutShadowed,
      hdeclarations.declaring.withoutShadowed_eq, hdeclarations.values]
  calc assemble declared declaration settings
      = assemble declared.withoutShadowed declaration.withoutShadowed settings :=
        (ResourceDeclaration.assemble_withoutShadowed declared declaration settings).symm
    _ = assemble other.withoutShadowed counterpart.withoutShadowed settings := by
        rw [hsame.withoutShadowed_eq, hcounterpart]
    _ = assemble other counterpart settings :=
        ResourceDeclaration.assemble_withoutShadowed other counterpart settings

end

/--
In catalogs that differ only in shadowed markers corresponding declarations have the same
outcome, be it an error or a configuration with its issues, and so have all of them together.
-/
theorem assemble_eq_of_sameButShadowed {declared other : DeclaredTypes}
    (hsame : declared.SameButShadowed other) (settings : Settings) :
    List.Forall₂ (fun declaration counterpart =>
        ResourceDeclaration.SameButShadowed declaration counterpart ∧
          assemble declared declaration settings = assemble other counterpart settings)
      declared.resourceDeclarations other.resourceDeclarations ∧
      CatalogReport.ofTypes declared settings = CatalogReport.ofTypes other settings := by
  constructor
  · exact hsame.resourceDeclarations.imp fun declaration counterpart hdeclarations =>
      ⟨hdeclarations, hsame.assemble_eq hdeclarations settings⟩
  · rw [← CatalogReport.ofTypes_withoutShadowed, hsame.withoutShadowed_eq,
      CatalogReport.ofTypes_withoutShadowed]

def teamTypes (before after : List Marker) : DeclaredTypes :=
  ⟨[⟨"staff.Employee", [⟨"CrudResource", [("entity", .string "Employee")]⟩],
    [⟨"id", "i64", [⟨"Id", []⟩]⟩,
      ⟨"team", "List<staff.Employee>",
        before ++ ⟨"Relation", [("get", .string "readTeam")]⟩ :: after⟩], []⟩]⟩

theorem teamTypes_shadowed :
    let declared := teamTypes [] []
    let other := teamTypes [⟨"OneToMany", [("targetEntity", .string "Nobody")]⟩] [⟨"ManyToOne", []⟩]
    declared.SameButShadowed other ∧
      CatalogReport.ofTypes declared .default = CatalogReport.ofTypes other .default ∧
      (CatalogReport.ofTypes other .default).resources.map (fun resource =>
        resource.configuration.relations.map fun relation =>
          (relation.name, relation.relatedType, relation.accessors.get)) =
        [[("team", "staff.Employee", "readTeam")]] := by
  intro declared other
  have hsame : declared.SameButShadowed other := by
    refine .cons ⟨rfl, rfl, .cons ⟨rfl, rfl, .inl rfl⟩ (.cons ⟨rfl, rfl, .inr ?_⟩ .nil), rfl⟩ .nil
    exact ⟨rfl, rfl, rfl⟩
  obtain ⟨-, hreport⟩ := assemble_eq_of_sameButShadowed hsame .default
  exact ⟨hsame, hreport, by decide +kernel⟩

end ApiSurface
