import ApiSurface.Proofs.Resource.Screening
import ApiSurface.Resource.Assembly

/-!
# Refused declarations

A declared resource is checked in seven ways, in a fixed order.  `Refuses` says what each check
finds in a declaration; the assembly fails exactly if some check finds something, with what the
first of them finds (`assemble_refuses_iff`).  What cannot be resolved about a relation is no
check: it is among the issues of a resource that is assembled.
-/

namespace ApiSurface

open Naming

/-! ## Flags -/

def flagWord (raw : String) : String :=
  .ofList (Text.lowerAscii raw.toList)

def yesWords : List String :=
  ["true", "yes", "1"]

def noWords : List String :=
  ["false", "no", "0"]

theorem readFlag?_eq_true_iff {raw : String} :
    MarkerValues.readFlag? raw = some true ↔ flagWord raw ∈ yesWords := by
  simp only [MarkerValues.readFlag?, flagWord, yesWords]
  split <;> simp_all

theorem readFlag?_eq_none_iff {raw : String} :
    MarkerValues.readFlag? raw = none ↔ flagWord raw ∉ yesWords ++ noWords := by
  simp only [MarkerValues.readFlag?, flagWord, yesWords, noWords]
  split <;> simp_all

theorem flag_eq_error_iff {values : MarkerValues} {key : String} {unset : Bool}
    {error : ConfigurationError} :
    values.flag key unset = .error error ↔
      ∃ raw, values.text? key = some raw ∧ flagWord raw ∉ yesWords ++ noWords ∧
        error = values.invalid key raw := by
  unfold MarkerValues.flag
  cases htext : values.text? key with
  | none => simp
  | some raw =>
      have hnone := @readFlag?_eq_none_iff raw
      cases hflag : MarkerValues.readFlag? raw <;> grind

theorem flag_eq_ok_true_iff {values : MarkerValues} {key : String} :
    values.flag key true = .ok true ↔
      ∀ raw, values.text? key = some raw → flagWord raw ∈ yesWords := by
  unfold MarkerValues.flag
  cases htext : values.text? key with
  | none => simp
  | some raw =>
      have htrue := @readFlag?_eq_true_iff raw
      cases hflag : MarkerValues.readFlag? raw <;> grind

/-! ## What a declaration says -/

namespace ResourceDeclaration

def NamesEntity (declared : DeclaredTypes) (declaration : ResourceDeclaration)
    (entity : TypeDecl) : Prop :=
  ∃ reference, declaration.values.text? "entity" = some reference ∧
    declared.resolve? reference = some entity

def shapeReferences (declaration : ResourceDeclaration) : List String :=
  [["dtoConfig/value", "dto"], ["dtoConfig/list", "dtoConfig/value", "dto"],
    ["dtoConfig/request", "dtoConfig/value", "dto"]].filterMap declaration.values.firstOf?

/-- Whether the resource takes part in relations, which it does if the marker is silent. -/
def takesRelations (declaration : ResourceDeclaration) : Bool :=
  (declaration.values.text? "withRelations").all fun raw => yesWords.contains (flagWord raw)

def securityValues (declaration : ResourceDeclaration) : List MarkerValues :=
  (declaration.declaring.markers.filter fun marker => marker.name == "CrudSecurity").map
    fun marker => marker.valuesAt declaration.declaring.id

def controllerName (declaration : ResourceDeclaration) (settings : Settings) : String :=
  controllerNameOf declaration.declaring.id declaration.values settings

end ResourceDeclaration

def TypeDecl.relationFields (type : TypeDecl) : List RelationField :=
  type.fields.filterMap (RelationField.detect? type)

def Marker.listedVerbs (marker : Marker) (location : String) : List String :=
  let values := marker.valuesAt location
  if marker.name == "RequestMapping" &&
      (values.firstOf? ["value", "path"]).any fun path => 1 < path.utf8ByteSize then
    values.list "method"
  else
    []

def DeclaredTypes.listedVerbs (declared : DeclaredTypes) (type : TypeDecl) :
    List (String × String) :=
  (declared.methods type.id).flatMap fun method =>
    let location := (Member.method type method).location
    method.markers.flatMap fun marker =>
      (marker.listedVerbs location).map fun raw => (location, raw)

/-! ## What is found -/

/-- An unqualified reference that is no type id but the simple name of several declarations. -/
def FindsAmbiguity (declared : DeclaredTypes) (location reference : String)
    (error : ConfigurationError) : Prop :=
  isQualified reference = false ∧ (∀ type ∈ declared.types, type.id ≠ reference) ∧
    2 ≤ (declared.withSimpleName reference).length ∧
    error = .ambiguousDto location reference
      ((declared.withSimpleName reference).map TypeDecl.id)

def FindsUnknownVerb (listed : String × String) (error : ConfigurationError) : Prop :=
  upperAscii (Text.trim (lastSegment listed.2)) ∉
      ["GET", "POST", "PUT", "PATCH", "DELETE", "HEAD", "OPTIONS"] ∧
    error = .invalidMarkerValue listed.1 "method" listed.2

inductive Check where
  | entityGiven
  | entityDeclared
  | shapesUnique
  | relationsFlag
  | routeVerbs
  | relationNames
  | securityFlag
  deriving DecidableEq, Repr

def Check.inOrder : List Check :=
  [.entityGiven, .entityDeclared, .shapesUnique, .relationsFlag, .routeVerbs, .relationNames,
    .securityFlag]

/-- What each check finds in a declaration. -/
def Refuses (declared : DeclaredTypes) (declaration : ResourceDeclaration)
    (settings : Settings) : Check → ConfigurationError → Prop
  | .entityGiven, error =>
      declaration.values.text? "entity" = none ∧
        error = .missingEntity declaration.declaring.id
  | .entityDeclared, error =>
      ∃ reference, declaration.values.text? "entity" = some reference ∧
        declared.resolve? reference = none ∧
        error = .unknownType declaration.declaring.id reference
  | .shapesUnique, error =>
      FirstFinding (FindsAmbiguity declared declaration.values.location)
        declaration.shapeReferences error
  | .relationsFlag, error =>
      ∃ raw, declaration.values.text? "withRelations" = some raw ∧
        flagWord raw ∉ yesWords ++ noWords ∧
        error = .invalidMarkerValue declaration.values.location "withRelations" raw
  | .routeVerbs, error =>
      FirstFinding FindsUnknownVerb (declared.listedVerbs declaration.declaring) error
  | .relationNames, error =>
      ∃ entity before name after, declaration.NamesEntity declared entity ∧
        declaration.takesRelations = true ∧
        entity.relationFields.map RelationField.name = before ++ name :: after ∧
        before.Nodup ∧ name ∈ before ∧ error = .duplicateRelation entity.id name
  | .securityFlag, error =>
      ∃ values raw,
        declaration.securityValues.find?
          (appliesTo (declaration.controllerName settings) declaration.declaring) =
            some values ∧
        values.text? "inclusive" = some raw ∧ flagWord raw ∉ yesWords ++ noWords ∧
        error = .invalidMarkerValue declaration.declaring.id "inclusive" raw

variable {declared : DeclaredTypes} {declaration : ResourceDeclaration} {settings : Settings}

/-! ## The entity -/

theorem entity_screens :
    Screens (Refuses declared declaration settings) [.entityGiven, .entityDeclared]
      (ResourceMetadata.entity declared declaration.declaring declaration.values) := by
  intro error
  rw [firstFinding_cons_iff, firstFinding_singleton_iff]
  simp only [Refuses, ResourceMetadata.entity]
  cases hreference : declaration.values.text? "entity" with
  | none => simp [eq_comm]
  | some reference =>
      cases hentity : declared.resolve? reference with
      | none => simp [hentity, eq_comm]
      | some entity => simp [hentity]

/-! ## Shapes -/

theorem named?_isSome_iff {reference : String} :
    (declared.named? reference).isSome ↔ ∃ type ∈ declared.types, type.id = reference := by
  simp [DeclaredTypes.named?]

theorem shape_eq_error_iff {location reference : String} {error : ConfigurationError} :
    declared.shape location reference = .error error ↔
      FindsAmbiguity declared location reference error := by
  unfold DeclaredTypes.shape FindsAmbiguity
  by_cases hknown : isQualified reference || (declared.named? reference).isSome
  · rw [if_pos hknown]
    rw [Bool.or_eq_true, named?_isSome_iff] at hknown
    constructor
    · nofun
    · rintro ⟨hplain, hfresh, -, -⟩
      rcases hknown with hqualified | ⟨type, htype, hid⟩
      · simp [hplain] at hqualified
      · exact absurd hid (hfresh type htype)
  · rw [if_neg hknown]
    rw [Bool.or_eq_true, not_or, named?_isSome_iff, Bool.not_eq_true] at hknown
    obtain ⟨hplain, hfresh⟩ := hknown
    have hfresh : ∀ type ∈ declared.types, type.id ≠ reference := fun type htype hid =>
      hfresh ⟨type, htype, hid⟩
    rcases declared.withSimpleName reference with _ | ⟨first, _ | ⟨second, rest⟩⟩
    · simp
    · simp
    · have hmany : 2 ≤ (first :: second :: rest).length := by simp
      constructor
      · rintro ⟨⟩
        exact ⟨hplain, hfresh, hmany, rfl⟩
      · rintro ⟨-, -, -, rfl⟩
        rfl

theorem lookup_screens (keys : List String) (other : String) :
    Screens (FindsAmbiguity declared declaration.values.location)
      (declaration.values.firstOf? keys).toList
      (DtoShapes.lookup declared declaration.values keys other) := by
  unfold DtoShapes.lookup
  cases declaration.values.firstOf? keys with
  | none => exact .ok other
  | some reference => exact .single fun _ => shape_eq_error_iff

theorem shapes_screens (resourceType : String) :
    Screens (Refuses declared declaration settings) [.shapesUnique]
      (DtoShapes.resolve declared declaration.values resourceType) := by
  have hreferences : declaration.shapeReferences =
      (declaration.values.firstOf? DtoShapes.commonKeys).toList ++
        ((declaration.values.firstOf? ("dtoConfig/list" :: DtoShapes.commonKeys)).toList ++
          (declaration.values.firstOf? ("dtoConfig/request" :: DtoShapes.commonKeys)).toList) := by
    rw [ResourceDeclaration.shapeReferences, List.filterMap_eq_flatMap_toList]
    simp [DtoShapes.commonKeys]
  have hscreens : Screens (FindsAmbiguity declared declaration.values.location)
      declaration.shapeReferences
      (DtoShapes.resolve declared declaration.values resourceType) := by
    rw [hreferences]
    exact (lookup_screens _ _).bind fun single _ => (lookup_screens _ _).bind fun list _ =>
      (lookup_screens _ _).andThen
  exact .single hscreens

/-! ## Flags of markers -/

theorem relationsFlag_screens :
    Screens (Refuses declared declaration settings) [.relationsFlag]
      (declaration.values.flag "withRelations" true) :=
  .single fun _ => flag_eq_error_iff

theorem securityFlag_screens :
    Screens (Refuses declared declaration settings) [.securityFlag]
      (securityOf declaration.declaring (declaration.controllerName settings) settings) := by
  refine .single fun error => ?_
  unfold securityOf
  extract_lets markers values
  have hvalues : values = declaration.securityValues := rfl
  rw [hvalues, Refuses]
  cases hfirst : declaration.securityValues.find?
      (appliesTo (declaration.controllerName settings) declaration.declaring) with
  | none => simp
  | some values =>
      have hlocation : values.location = declaration.declaring.id := by
        obtain ⟨marker, -, rfl⟩ := List.mem_map.mp (List.mem_of_find?_eq_some hfirst)
        rfl
      have hpolicy : (policyOf values settings >>= fun policy => .ok (some policy)) =
          .error error ↔ values.flag "inclusive" true = .error error :=
        bind_ok_eq_error_iff.trans bind_ok_eq_error_iff
      refine hpolicy.trans ?_
      rw [flag_eq_error_iff]
      simp [MarkerValues.invalid, hlocation]

/-! ## Routes -/

theorem readVerb_eq_error_iff {values : MarkerValues} {raw : String}
    {error : ConfigurationError} :
    readVerb values raw = .error error ↔ FindsUnknownVerb (values.location, raw) error := by
  have hparse : Verb.parse? raw = none ↔
      upperAscii (Text.trim (lastSegment raw)) ∉
        ["GET", "POST", "PUT", "PATCH", "DELETE", "HEAD", "OPTIONS"] := by
    simp only [Verb.parse?, List.find?_eq_none, Verb.all, List.forall_mem_cons, Verb.text]
    grind
  unfold readVerb FindsUnknownVerb
  rw [← hparse]
  cases Verb.parse? raw with
  | none => simp [MarkerValues.invalid, eq_comm]
  | some verb => simp

theorem verbs_screens (values : MarkerValues) :
    Screens FindsUnknownVerb
      ((values.list "method").map fun raw => (values.location, raw))
      (Mapping.listed.verbs values) := by
  unfold Mapping.verbs
  cases values.list "method" with
  | nil => exact .ok [Verb.get]
  | cons raw rest =>
      rw [List.map_eq_flatMap]
      exact .mapM fun other _ => .single fun _ => readVerb_eq_error_iff

theorem ofMarkerName?_eq_listed_iff {name : String} :
    Mapping.ofMarkerName? name = some .listed ↔ name = "RequestMapping" := by
  unfold Mapping.ofMarkerName?
  split <;> simp_all

theorem listedVerbs_eq (marker : Marker) (location : String) :
    marker.listedVerbs location =
      if marker.name = "RequestMapping" ∧ (mappedPath? (marker.valuesAt location)).isSome then
        (marker.valuesAt location).list "method"
      else [] := by
  simp [Marker.listedVerbs, mappedPath?, Option.isSome_filter]

theorem listedVerbs_of_ne {marker : Marker} (location : String)
    (hmapping : Mapping.ofMarkerName? marker.name ≠ some .listed) :
    marker.listedVerbs location = [] := by
  rw [listedVerbs_eq, if_neg]
  rintro ⟨hname, -⟩
  exact hmapping (ofMarkerName?_eq_listed_iff.mpr hname)

theorem markerRoutes_screens (marker : Marker) (location : String) :
    Screens FindsUnknownVerb
      ((marker.listedVerbs location).map fun raw => (location, raw))
      (marker.routes location) := by
  rw [Marker.routes]
  cases hmapping : Mapping.ofMarkerName? marker.name with
  | none =>
      rw [listedVerbs_of_ne location (by simp [hmapping])]
      exact .ok []
  | some mapping =>
      cases hpath : mappedPath? (marker.valuesAt location) with
      | none =>
          rw [listedVerbs_eq, if_neg (by simp [hpath])]
          simp only [hpath]
          exact .ok []
      | some path =>
          simp only [hpath]
          cases mapping with
          | fixed verb =>
              rw [listedVerbs_of_ne location (by simp [hmapping])]
              exact .ok [(verb, path)]
          | listed =>
              have hname := ofMarkerName?_eq_listed_iff.mp hmapping
              rw [listedVerbs_eq, if_pos ⟨hname, by simp [hpath]⟩]
              exact (verbs_screens (marker.valuesAt location)).andThen

theorem scrape_screens (type : TypeDecl) :
    Screens FindsUnknownVerb (declared.listedVerbs type) (RouteTable.scrape declared type) := by
  have hscreens : Screens FindsUnknownVerb (declared.listedVerbs type)
      (declared.handRoutes type) := by
    refine (Screens.mapM fun method _ => ?_).andThen
    exact (Screens.mapM fun marker _ => markerRoutes_screens marker _).andThen
  exact hscreens.andThen

theorem routeVerbs_screens :
    Screens (Refuses declared declaration settings) [.routeVerbs]
      (RouteTable.scrape declared declaration.declaring) :=
  .single (scrape_screens declaration.declaring)

/-! ## Relations -/

theorem mem_of_named?_eq_some {id : String} {type : TypeDecl}
    (hnamed : declared.named? id = some type) : type ∈ declared.types ∧ type.id = id :=
  ⟨List.mem_of_find?_eq_some hnamed, by simpa using List.find?_some hnamed⟩

theorem named?_id_of_resolve?_eq_some {reference : String} {type : TypeDecl}
    (hresolve : declared.resolve? reference = some type) :
    declared.named? type.id = some type := by
  unfold DeclaredTypes.resolve? at hresolve
  cases hnamed : declared.named? reference with
  | some found =>
      simp only [hnamed, Option.some.injEq] at hresolve
      subst hresolve
      rw [(mem_of_named?_eq_some hnamed).2, hnamed]
  | none =>
      simp only [hnamed] at hresolve
      split at hresolve
      · cases hresolve
      · split at hresolve
        · next only hunique =>
            cases hresolve
            have honly : type ∈ declared.withSimpleName reference := by simp [hunique]
            have htype := List.mem_of_mem_filter honly
            obtain ⟨first, hfirst⟩ : ∃ first, declared.named? type.id = some first :=
              Option.isSome_iff_exists.mp (named?_isSome_iff.mpr ⟨type, htype, rfl⟩)
            obtain ⟨hmember, hid⟩ := mem_of_named?_eq_some hfirst
            have hsame : first ∈ declared.withSimpleName reference := by
              rw [DeclaredTypes.withSimpleName, List.mem_filter, hid]
              exact ⟨hmember, (List.mem_filter.mp honly).2⟩
            rw [hunique, List.mem_singleton] at hsame
            rw [hfirst, hsame]
        · cases hresolve

theorem relationFields_eq {entity : TypeDecl} (hnamed : declared.named? entity.id = some entity) :
    declared.relationFields entity = entity.relationFields := by
  simp [DeclaredTypes.relationFields, TypeDecl.relationFields, DeclaredTypes.fields, hnamed]

theorem firstRepeated?_eq_some_iff {seen names : List String} {name : String} :
    firstRepeated? seen names = some name ↔
      ∃ before after, names = before ++ name :: after ∧ before.Nodup ∧
        (∀ other ∈ before, other ∉ seen) ∧ (name ∈ seen ∨ name ∈ before) := by
  -- What stands before the list is in `seen`, so `seen` grows with the induction.
  induction names generalizing seen with
  | nil => simp [firstRepeated?]
  | cons first names ih =>
      rw [firstRepeated?]
      by_cases hseen : first ∈ seen
      · rw [if_pos (List.contains_iff_mem.mpr hseen), Option.some.injEq]
        constructor
        · rintro rfl
          exact ⟨[], names, by simp [hseen]⟩
        · rintro ⟨before, after, hnames, -, hfresh, -⟩
          cases before with
          | nil => exact (List.cons.inj hnames).1
          | cons other before =>
              rw [(List.cons.inj hnames).1] at hseen
              exact absurd hseen (hfresh other List.mem_cons_self)
      · rw [if_neg (fun hcontains => hseen (List.contains_iff_mem.mp hcontains)), ih]
        constructor
        · rintro ⟨before, after, rfl, hdistinct, hfresh, hrepeats⟩
          refine ⟨first :: before, after, rfl, ?_, ?_, ?_⟩ <;> grind
        · rintro ⟨before, after, hnames, hdistinct, hfresh, hrepeats⟩
          cases before with
          | nil => grind
          | cons other before =>
              obtain ⟨rfl, rfl⟩ := List.cons.inj hnames
              exact ⟨before, after, rfl, by grind⟩

theorem takesRelations_eq {takes : Bool}
    (hflag : declaration.values.flag "withRelations" true = .ok takes) :
    declaration.takesRelations = takes := by
  have htrue := @flag_eq_ok_true_iff declaration.values "withRelations"
  rw [hflag] at htrue
  unfold ResourceDeclaration.takesRelations
  cases htext : declaration.values.text? "withRelations" <;> cases takes <;> simp_all

structure ResourceMetadata.Of (declared : DeclaredTypes) (declaration : ResourceDeclaration)
    (settings : Settings) (metadata : ResourceMetadata) (entity : TypeDecl) : Prop where
  namesEntity : declaration.NamesEntity declared entity
  resourceType : metadata.resourceType = entity.id
  controllerName : metadata.controllerName = declaration.controllerName settings
  withRelations : metadata.withRelations = declaration.takesRelations

theorem exists_entity_of_resolve {metadata : ResourceMetadata}
    (hmetadata : ResourceMetadata.resolve declared declaration.declaring declaration.values
      settings = .ok metadata) :
    ∃ entity, ResourceMetadata.Of declared declaration settings metadata entity := by
  obtain ⟨entity, hentity, hrest⟩ := bind_eq_ok_iff.mp hmetadata
  obtain ⟨shapes, -, hrest⟩ := bind_eq_ok_iff.mp hrest
  obtain ⟨takes, hflag, hrest⟩ := bind_eq_ok_iff.mp hrest
  cases hrest
  refine ⟨entity, ?_, rfl, rfl, (takesRelations_eq hflag).symm⟩
  unfold ResourceMetadata.entity at hentity
  cases hreference : declaration.values.text? "entity" with
  | none => simp [hreference] at hentity
  | some reference =>
      cases hresolve : declared.resolve? reference with
      | none => simp [hreference, hresolve] at hentity
      | some found =>
          simp only [hreference, hresolve, Except.ok.injEq] at hentity
          exact ⟨reference, hreference, hentity ▸ hresolve⟩

theorem namesEntity_unique {entity other : TypeDecl}
    (hentity : declaration.NamesEntity declared entity)
    (hother : declaration.NamesEntity declared other) : entity = other := by
  obtain ⟨reference, hreference, hresolve⟩ := hentity
  obtain ⟨second, hsecond, hresolve'⟩ := hother
  cases hreference.symm.trans hsecond
  exact Option.some.inj (hresolve.symm.trans hresolve')

theorem relationsOf_eq {metadata : ResourceMetadata} {entity : TypeDecl}
    (hmetadata : ResourceMetadata.Of declared declaration settings metadata entity) :
    relationsOf declared metadata settings =
      if declaration.takesRelations then
        match firstRepeated? [] (entity.relationFields.map RelationField.name) with
        | some name => .error (.duplicateRelation entity.id name)
        | none => .ok (RelationScan.ofFields declared settings entity.relationFields)
      else
        .ok .empty := by
  obtain ⟨reference, -, hresolve⟩ := hmetadata.namesEntity
  have hnamed := named?_id_of_resolve?_eq_some hresolve
  rw [relationsOf, hmetadata.withRelations, hmetadata.resourceType, hnamed,
    ← relationFields_eq hnamed]
  rfl

theorem relationNames_screens {metadata : ResourceMetadata} {entity : TypeDecl}
    (hmetadata : ResourceMetadata.Of declared declaration settings metadata entity) :
    Screens (Refuses declared declaration settings) [.relationNames]
      (relationsOf declared metadata settings) := by
  refine .single fun error => ?_
  have hnames (name : String) := @firstRepeated?_eq_some_iff []
    (entity.relationFields.map RelationField.name) name
  simp only [List.not_mem_nil, not_false_eq_true, implies_true, true_and, false_or] at hnames
  rw [relationsOf_eq hmetadata, Refuses]
  constructor
  · intro herror
    split at herror
    · next htakes =>
        split at herror
        · next name hfirst =>
            cases herror
            obtain ⟨before, after, hsplit, hdistinct, hrepeated⟩ := (hnames name).mp hfirst
            exact ⟨entity, before, name, after, hmetadata.namesEntity, htakes, hsplit,
              hdistinct, hrepeated, rfl⟩
        · cases herror
    · cases herror
  · rintro ⟨other, before, name, after, hother, htakes, hsplit, hdistinct, hrepeated, rfl⟩
    cases namesEntity_unique hmetadata.namesEntity hother
    rw [if_pos htakes, (hnames name).mpr ⟨before, after, hsplit, hdistinct, hrepeated⟩]

/-! ## The whole assembly -/

theorem metadata_screens :
    Screens (Refuses declared declaration settings)
      [.entityGiven, .entityDeclared, .shapesUnique, .relationsFlag]
      (ResourceMetadata.resolve declared declaration.declaring declaration.values settings) :=
  entity_screens.bind fun entity _ => (shapes_screens entity.id).bind fun _ _ =>
    relationsFlag_screens.andThen

theorem assemble_screens :
    Screens (Refuses declared declaration settings) Check.inOrder
      (assemble declared declaration settings) := by
  refine metadata_screens.bind fun metadata hmetadata => ?_
  obtain ⟨entity, hof⟩ := exists_entity_of_resolve hmetadata
  refine routeVerbs_screens.bind fun routes _ => (relationNames_screens hof).bind fun scan _ => ?_
  rw [hof.controllerName]
  exact securityFlag_screens.andThen

theorem issues_of_assemble {assembled : AssembledResource}
    (hassembled : assemble declared declaration settings = .ok assembled) :
    ∃ entity, declaration.NamesEntity declared entity ∧
      assembled.issues =
        if declaration.takesRelations then
          entity.relationFields.flatMap (RelationField.issues declared)
        else [] := by
  obtain ⟨metadata, hmetadata, hrest⟩ := bind_eq_ok_iff.mp hassembled
  obtain ⟨routes, -, hrest⟩ := bind_eq_ok_iff.mp hrest
  obtain ⟨scan, hscan, hrest⟩ := bind_eq_ok_iff.mp hrest
  obtain ⟨security, -, hrest⟩ := bind_eq_ok_iff.mp hrest
  cases hrest
  obtain ⟨entity, hof⟩ := exists_entity_of_resolve hmetadata
  refine ⟨entity, hof.namesEntity, ?_⟩
  rw [relationsOf_eq hof] at hscan
  by_cases htakes : declaration.takesRelations
  · rw [if_pos htakes] at hscan ⊢
    split at hscan
    · cases hscan
    · cases hscan
      rfl
  · rw [if_neg htakes] at hscan ⊢
    cases hscan
    rfl

theorem Check.mem_inOrder (check : Check) : check ∈ inOrder := by
  cases check <;> decide

/--
A declaration is refused exactly if some check finds something, and with what the first check
that finds something finds.  If none does, the resource is assembled, and everything that is
wrong with its relations is among its issues.
-/
theorem assemble_refuses_iff (declared : DeclaredTypes) (declaration : ResourceDeclaration)
    (settings : Settings) :
    ((∃ error, assemble declared declaration settings = .error error) ↔
        ∃ check error, Refuses declared declaration settings check error) ∧
      (∀ error, assemble declared declaration settings = .error error ↔
        FirstFinding (Refuses declared declaration settings) Check.inOrder error) ∧
      ((∃ assembled, assemble declared declaration settings = .ok assembled ∧
          ∃ entity, declaration.NamesEntity declared entity ∧
            assembled.issues =
              if declaration.takesRelations then
                entity.relationFields.flatMap (RelationField.issues declared)
              else []) ↔
        ∀ check error, ¬ Refuses declared declaration settings check error) := by
  have hscreens := @assemble_screens declared declaration settings
  have hrefused : (∃ error, assemble declared declaration settings = .error error) ↔
      ∃ check error, Refuses declared declaration settings check error := by
    simp only [hscreens _, exists_firstFinding_iff, Check.mem_inOrder, true_and]
  refine ⟨hrefused, hscreens, ?_⟩
  constructor
  · rintro ⟨assembled, hassembled, -⟩ check error hfound
    obtain ⟨found, herror⟩ := hrefused.mpr ⟨check, error, hfound⟩
    cases hassembled.symm.trans herror
  · intro hnone
    cases hassembled : assemble declared declaration settings with
    | error error =>
        obtain ⟨check, found, hfound⟩ := hrefused.mp ⟨error, hassembled⟩
        exact absurd hfound (hnone check found)
    | ok assembled => exact ⟨assembled, rfl, issues_of_assemble hassembled⟩

/-! ## Declarations that pass -/

def traceController : TypeDecl :=
  ⟨"shop.OrderController", [⟨"CrudResource", [("entity", .string "shop.Order")]⟩], [],
    [⟨"trace", none,
      [⟨"RequestMapping", [("method", .string "TRACE"), ("value", .string "/orders")]⟩]⟩]⟩

def capitalsController : TypeDecl :=
  ⟨"shop.BasketController",
    [⟨"CrudResource", [("entity", .string "shop.Order"), ("withRelations", .string "TRUE")]⟩],
    [], []⟩

/-- The id of `traceController` belongs to the declaration before it, which has no methods. -/
def shadowedTypes : DeclaredTypes :=
  ⟨[.bare "shop.OrderController", traceController, capitalsController, .bare "shop.Order"]⟩

/-- An unknown verb on a method of the declaring type itself is passed over if the id of the type
was declared before, and a flag may be written in capitals. -/
theorem shadowedTypes_assemble :
    (∃ declaration ∈ shadowedTypes.resourceDeclarations,
        (∃ method ∈ declaration.declaring.methods, ∃ marker ∈ method.markers,
          "TRACE" ∈
            marker.listedVerbs (Member.method declaration.declaring method).location) ∧
        Verb.parse? "TRACE" = none ∧
        (assemble shadowedTypes declaration .default).isOk = true) ∧
      ∃ declaration ∈ shadowedTypes.resourceDeclarations,
        declaration.values.text? "withRelations" = some "TRUE" ∧
        "TRUE" ∉ ["true", "yes", "1", "false", "no", "0"] ∧
        (assemble shadowedTypes declaration .default).isOk = true := by
  decide +kernel

end ApiSurface
