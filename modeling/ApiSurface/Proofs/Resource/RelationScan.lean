import ApiSurface.Proofs.Catalog.FlatValues
import ApiSurface.Proofs.Resource.Refusal
import Mathlib.Data.List.Forall2

/-!
# The relations of a type

The fields of a type are visited one after the other.  A field with a marker that makes it a
relation adds the relation and its warnings, unless the name of the relation was there before; so
a scan stops only at a repeated name, whatever cannot be resolved (`scan_of_fields`).
-/

namespace ApiSurface

/-! ## What a field says -/

def Marker.isPersistent (marker : Marker) : Bool :=
  persistenceMarkers.contains marker.name

namespace FieldDecl

def isRelational (field : FieldDecl) : Bool :=
  Marker.isPresent relationMarker field.markers || field.markers.any Marker.isPersistent

def stated? (field : FieldDecl) (key : String) : Option String :=
  (Marker.find? relationMarker field.markers).bind fun marker => marker.text? key

def relationName (field : FieldDecl) : String :=
  (field.stated? "name").getD field.name

def persistenceMarker? (field : FieldDecl) : Option Marker :=
  field.markers.find? Marker.isPersistent

def relatedReference (field : FieldDecl) : String :=
  let marked :=
    match Marker.find? relationMarker field.markers with
    | some marker => marker.text? "entity"
    | none => field.persistenceMarker?.bind fun marker => marker.text? "targetEntity"
  marked.getD (TypeShape.ofExpression field.type).element

def relation? (declared : DeclaredTypes) (settings : Settings) (owner : TypeDecl)
    (field : FieldDecl) : Option Relation :=
  (RelationField.detect? owner field).map (RelationField.relation declared settings)

def warnings (declared : DeclaredTypes) (owner : TypeDecl) (field : FieldDecl) : List Issue :=
  (RelationField.detect? owner field).elim [] (RelationField.issues declared)

end FieldDecl

namespace RelationField

variable {owner : TypeDecl} {field : FieldDecl} {source : RelationField}

theorem isSome_detect? (owner : TypeDecl) (field : FieldDecl) :
    (detect? owner field).isSome = field.isRelational := by
  rw [detect?, FieldDecl.isRelational, Marker.isPresent]
  cases Marker.find? relationMarker field.markers with
  | some marker => rfl
  | none =>
      rw [Option.isSome_map, Bool.eq_iff_iff, List.find?_isSome, Option.isSome_none,
        Bool.false_or, List.any_eq_true]
      rfl

theorem cases_of_detect? (hdetect : detect? owner field = some source) :
    let location := (Member.field owner field).location
    (∃ marker, Marker.find? relationMarker field.markers = some marker ∧
        source = ⟨owner, field, true, marker.valuesAt location⟩) ∨
      Marker.find? relationMarker field.markers = none ∧
        ∃ marker, field.persistenceMarker? = some marker ∧
          source = ⟨owner, field, false, marker.valuesAt location⟩ := by
  cases hfind : Marker.find? relationMarker field.markers with
  | some marker =>
      simp only [detect?, hfind, Option.some.injEq] at hdetect
      exact .inl ⟨marker, rfl, hdetect.symm⟩
  | none =>
      simp only [detect?, hfind, Option.map_eq_some_iff] at hdetect
      obtain ⟨marker, hmarker, hsource⟩ := hdetect
      exact .inr ⟨rfl, marker, hmarker, hsource.symm⟩

theorem of_detect? (hdetect : detect? owner field = some source) :
    source.owner = owner ∧ source.field = field ∧
      source.location = (Member.field owner field).location ∧
      ∀ key, source.explicitText? key = field.stated? key := by
  unfold FieldDecl.stated? explicitText?
  obtain ⟨marker, hfind, rfl⟩ | ⟨hfind, marker, -, rfl⟩ := cases_of_detect? hdetect <;>
  · rw [hfind]
    exact ⟨rfl, rfl, rfl, fun key => rfl⟩

theorem name_of_detect? (hdetect : detect? owner field = some source) :
    source.name = field.relationName := by
  obtain ⟨-, hfield, -, hstated⟩ := of_detect? hdetect
  rw [name, hstated, hfield, FieldDecl.relationName]

theorem reference_of_detect? (hdetect : detect? owner field = some source) :
    source.reference = field.relatedReference := by
  unfold FieldDecl.relatedReference
  obtain ⟨marker, hfind, rfl⟩ | ⟨hfind, marker, hmarker, rfl⟩ := cases_of_detect? hdetect
  · rw [hfind]
    rfl
  · rw [hfind, hmarker]
    rfl

theorem related?_of_detect? (declared : DeclaredTypes)
    (hdetect : detect? owner field = some source) :
    source.related? declared = declared.resolve? field.relatedReference := by
  rw [related?, reference_of_detect? hdetect]

end RelationField

/-! ## Warnings -/

/-- What cannot be resolved about the relation that a field is. -/
inductive FieldDecl.Warns (declared : DeclaredTypes) (owner : TypeDecl) (field : FieldDecl) :
    Finding → Prop
  | invalidType {raw : String} (hstated : field.stated? "type" = some raw)
      (hraw : upperAscii (lastSegment raw) ∉ ["SINGLE", "MULTIPLE", "REFLECT"]) :
      Warns declared owner field (.invalidRelationType
        (.invalidMarkerValue (Member.field owner field).location "type" raw))
  | unresolved (hresolve : declared.resolve? field.relatedReference = none) :
      Warns declared owner field (.unresolvedRelatedType field.relatedReference)
  | unidentified {related : TypeDecl}
      (hresolve : declared.resolve? field.relatedReference = some related)
      (hnone : Identifier.resolve? declared related = none) :
      Warns declared owner field (.missingRelatedIdentifier related.id)
  | ambiguousDto {reference : String} {error : ConfigurationError}
      (hstated : field.stated? "dto" = some reference)
      (hambiguous : FindsAmbiguity declared owner.id reference error) :
      Warns declared owner field (.ambiguousRelationDto error)

namespace RelationField

theorem readCardinality_eq_error_iff {values : MarkerValues} {raw : String}
    {error : ConfigurationError} :
    readCardinality values raw = .error error ↔
      upperAscii (lastSegment raw) ∉ ["SINGLE", "MULTIPLE", "REFLECT"] ∧
        error = values.invalid "type" raw := by
  unfold readCardinality
  split <;> simp_all [eq_comm]

variable {declared : DeclaredTypes} {source : RelationField} {owner : TypeDecl}
  {field : FieldDecl} {issue : Issue}

theorem statedCardinality_eq_error_iff {error : ConfigurationError} :
    source.statedCardinality = .error error ↔ ∃ raw, source.explicitText? "type" = some raw ∧
      upperAscii (lastSegment raw) ∉ ["SINGLE", "MULTIPLE", "REFLECT"] ∧
      error = .invalidMarkerValue source.location "type" raw := by
  unfold statedCardinality
  cases source.explicitText? "type" with
  | none => simp
  | some raw =>
      simp only [readCardinality_eq_error_iff, Option.some.injEq, exists_eq_left']
      rfl

theorem statedShape_eq_error_iff {error : ConfigurationError} :
    source.statedShape declared = .error error ↔
      ∃ reference, source.explicitText? "dto" = some reference ∧
        FindsAmbiguity declared source.owner.id reference error := by
  unfold statedShape
  cases source.explicitText? "dto" with
  | none => simp
  | some reference =>
      simp only [Option.some.injEq, exists_eq_left', ← shape_eq_error_iff]
      exact bind_ok_eq_error_iff

theorem mem_cardinalityIssues_iff :
    issue ∈ source.cardinalityIssues ↔ ∃ error, source.statedCardinality = .error error ∧
      issue = ⟨source.location, .invalidRelationType error⟩ := by
  unfold cardinalityIssues
  cases source.statedCardinality <;> simp

theorem mem_shapeIssues_iff :
    issue ∈ source.shapeIssues declared ↔ ∃ error, source.statedShape declared = .error error ∧
      issue = ⟨source.location, .ambiguousRelationDto error⟩ := by
  unfold shapeIssues
  cases source.statedShape declared <;> simp

theorem mem_identifierIssues_iff :
    issue ∈ source.identifierIssues declared ↔
      (source.related? declared = none ∧
        issue = ⟨source.location, .unresolvedRelatedType source.reference⟩) ∨
      ∃ related, source.related? declared = some related ∧
        Identifier.resolve? declared related = none ∧
        issue = ⟨source.location, .missingRelatedIdentifier related.id⟩ := by
  unfold identifierIssues relatedIdentifier? relatedType
  cases source.related? declared with
  | none => simp
  | some related =>
      simp only [Option.bind_some]
      cases hidentifier : Identifier.resolve? declared related <;> simp [hidentifier]

theorem mem_issues_iff (hdetect : detect? owner field = some source) :
    issue ∈ source.issues declared ↔
      issue.location = (Member.field owner field).location ∧
        field.Warns declared owner issue.finding := by
  have hreference := reference_of_detect? hdetect
  have hresolve := related?_of_detect? declared hdetect
  obtain ⟨rfl, -, hlocation, hstated⟩ := of_detect? hdetect
  simp only [issues, List.mem_append, mem_cardinalityIssues_iff, mem_identifierIssues_iff,
    mem_shapeIssues_iff, statedCardinality_eq_error_iff, statedShape_eq_error_iff, hstated,
    hresolve, hreference, hlocation]
  constructor
  · rintro ((hcardinality | hidentifier) | hshape)
    · obtain ⟨_, ⟨raw, htext, hraw, rfl⟩, rfl⟩ := hcardinality
      exact ⟨rfl, .invalidType htext hraw⟩
    · rcases hidentifier with ⟨hnone, rfl⟩ | ⟨related, hfound, hnone, rfl⟩
      · exact ⟨rfl, .unresolved hnone⟩
      · exact ⟨rfl, .unidentified hfound hnone⟩
    · obtain ⟨error, ⟨reference, htext, hmany⟩, rfl⟩ := hshape
      exact ⟨rfl, .ambiguousDto htext hmany⟩
  · obtain ⟨location, finding⟩ := issue
    rintro ⟨rfl, hwarns⟩
    cases hwarns with
    | invalidType htext hraw => exact .inl (.inl ⟨_, ⟨_, htext, hraw, rfl⟩, rfl⟩)
    | unresolved hnone => exact .inl (.inr (.inl ⟨hnone, rfl⟩))
    | unidentified hfound hnone => exact .inl (.inr (.inr ⟨_, hfound, hnone, rfl⟩))
    | ambiguousDto htext hmany => exact .inr ⟨_, ⟨_, htext, hmany⟩, rfl⟩

end RelationField

theorem FieldDecl.mem_warnings_iff {declared : DeclaredTypes} {owner : TypeDecl}
    {field : FieldDecl} {issue : Issue} :
    issue ∈ field.warnings declared owner ↔ field.isRelational = true ∧
      issue.location = (Member.field owner field).location ∧
        field.Warns declared owner issue.finding := by
  rw [← RelationField.isSome_detect? owner, warnings]
  cases hdetect : RelationField.detect? owner field with
  | none => simp
  | some source => simp [RelationField.mem_issues_iff hdetect]

theorem FieldDecl.Warns.severity_eq {declared : DeclaredTypes} {owner : TypeDecl}
    {field : FieldDecl} {finding : Finding} (hwarns : field.Warns declared owner finding) :
    finding.severity = .warning := by
  cases hwarns <;> rfl

/-! ## One field after the other -/

namespace RelationScan

variable (declared : DeclaredTypes) (entity : TypeDecl) (settings : Settings)

def visit (scan : RelationScan) (field : FieldDecl) : Except ConfigurationError RelationScan :=
  match RelationField.detect? entity field with
  | none => .ok scan
  | some source =>
      let relation := source.relation declared settings
      if scan.relations.any fun other => other.name == relation.name then
        .error (.duplicateRelation entity.id relation.name)
      else
        .ok ⟨scan.relations ++ [relation], scan.issues ++ source.issues declared⟩

variable {declared entity settings} {scan : RelationScan} {field : FieldDecl}
  {source : RelationField}

theorem visit_of_none (hdetect : RelationField.detect? entity field = none) :
    visit declared entity settings scan field = .ok scan := by
  rw [visit, hdetect]

theorem visit_of_mem (hdetect : RelationField.detect? entity field = some source)
    (hrepeats : source.name ∈ scan.relations.map Relation.name) :
    visit declared entity settings scan field =
      .error (.duplicateRelation entity.id source.name) := by
  obtain ⟨other, hother, hname⟩ := List.mem_map.mp hrepeats
  have hany : scan.relations.any (fun other => other.name == source.name) = true :=
    List.any_eq_true.mpr ⟨other, hother, beq_iff_eq.mpr hname⟩
  rw [visit, hdetect]
  exact if_pos hany

theorem visit_of_notMem (hdetect : RelationField.detect? entity field = some source)
    (hfresh : source.name ∉ scan.relations.map Relation.name) :
    visit declared entity settings scan field =
      .ok ⟨scan.relations ++ [source.relation declared settings],
        scan.issues ++ source.issues declared⟩ := by
  have hnone : ¬ scan.relations.any (fun other => other.name == source.name) = true := by
    simpa using hfresh
  rw [visit, hdetect]
  exact if_neg hnone

theorem foldlM_visit (fields : List FieldDecl) (scan : RelationScan) :
    fields.foldlM (visit declared entity settings) scan =
      let sources := fields.filterMap (RelationField.detect? entity)
      match firstRepeated? (scan.relations.map Relation.name).reverse
          (sources.map RelationField.name) with
      | some name => .error (.duplicateRelation entity.id name)
      | none =>
          let rest := ofFields declared settings sources
          .ok ⟨scan.relations ++ rest.relations, scan.issues ++ rest.issues⟩ := by
  -- The names of the relations so far are what `firstRepeated?` has seen, the last one first.
  induction fields generalizing scan with
  | nil => simp [firstRepeated?, ofFields, pure, Except.pure]
  | cons field fields ih =>
      rw [List.foldlM_cons]
      cases hdetect : RelationField.detect? entity field with
      | none =>
          rw [visit_of_none hdetect, List.filterMap_cons_none hdetect]
          exact ih scan
      | some source =>
          rw [List.filterMap_cons_some hdetect]
          by_cases hrepeats : source.name ∈ scan.relations.map Relation.name
          · rw [visit_of_mem hdetect hrepeats]
            simp only [List.map_cons, firstRepeated?, List.contains_iff_mem, List.mem_reverse,
              hrepeats, if_true]
            rfl
          · rw [visit_of_notMem hdetect hrepeats]
            refine (ih _).trans ?_
            have hname : (source.relation declared settings).name = source.name := rfl
            simp only [List.map_cons, List.map_append, List.map_nil, List.reverse_append,
              List.reverse_cons, List.reverse_nil, List.nil_append, List.singleton_append,
              firstRepeated?, List.contains_iff_mem, List.mem_reverse, hrepeats, if_false,
              ofFields, List.flatMap_cons, List.append_assoc, hname]

theorem ofType_eq_foldlM :
    ofType declared entity settings =
      (declared.fields entity.id).foldlM (visit declared entity settings) empty := by
  rw [foldlM_visit]
  rfl

end RelationScan

/-! ## The whole scan -/

theorem sources_match (owner : TypeDecl) (fields : List FieldDecl) :
    List.Forall₂ (fun source field => RelationField.detect? owner field = some source)
      (fields.filterMap (RelationField.detect? owner)) (fields.filter FieldDecl.isRelational) := by
  induction fields with
  | nil => exact .nil
  | cons field fields ih =>
      have hrelational := RelationField.isSome_detect? owner field
      cases hdetect : RelationField.detect? owner field with
      | none =>
          rw [hdetect] at hrelational
          rw [List.filterMap_cons_none hdetect, List.filter_cons_of_neg (by simp [← hrelational])]
          exact ih
      | some source =>
          rw [hdetect] at hrelational
          rw [List.filterMap_cons_some hdetect, List.filter_cons_of_pos hrelational.symm]
          exact .cons hdetect ih

theorem map_eq_map_of_forall₂ {α β γ : Type} {alike : α → β → Prop} {items : List α}
    {others : List β} {ofItem : α → γ} {ofOther : β → γ} (halike : List.Forall₂ alike items others)
    (hsame : ∀ item other, alike item other → ofItem item = ofOther other) :
    items.map ofItem = others.map ofOther := by
  rw [← List.forall₂_eq_eq_eq]
  exact List.rel_map (fun item other => hsame item other) halike

theorem map_sources_eq {α : Type} (owner : TypeDecl) (fields : List FieldDecl)
    {ofSource : RelationField → α} {ofField : FieldDecl → α}
    (hsame : ∀ source field, RelationField.detect? owner field = some source →
      ofSource source = ofField field) :
    (fields.filterMap (RelationField.detect? owner)).map ofSource =
      (fields.filter FieldDecl.isRelational).map ofField :=
  map_eq_map_of_forall₂ (sources_match owner fields) hsame

theorem firstRepeated?_eq_none_iff {seen names : List String} :
    firstRepeated? seen names = none ↔ names.Nodup ∧ ∀ name ∈ names, name ∉ seen := by
  induction names generalizing seen with
  | nil => simp [firstRepeated?]
  | cons first names ih =>
      rw [firstRepeated?]
      by_cases hseen : first ∈ seen
      · simp [hseen]
      · rw [if_neg (fun hcontains => hseen (List.contains_iff_mem.mp hcontains)), ih]
        grind

def DeclaredTypes.relationalFields (declared : DeclaredTypes) (entity : TypeDecl) :
    List FieldDecl :=
  (declared.fields entity.id).filter FieldDecl.isRelational

def DeclaredTypes.relationNames (declared : DeclaredTypes) (entity : TypeDecl) : List String :=
  (declared.relationalFields entity).map FieldDecl.relationName

namespace RelationScan

variable {declared : DeclaredTypes} {entity : TypeDecl} {settings : Settings}

theorem ofType_eq :
    ofType declared entity settings =
      match firstRepeated? [] (declared.relationNames entity) with
      | some name => .error (.duplicateRelation entity.id name)
      | none => .ok (ofFields declared settings (declared.relationFields entity)) := by
  have hnames : (declared.relationFields entity).map RelationField.name =
      declared.relationNames entity :=
    map_sources_eq entity _ fun _ _ hdetect => RelationField.name_of_detect? hdetect
  rw [← hnames]
  rfl

theorem exists_ofType_eq_ok_iff :
    (∃ scan, ofType declared entity settings = .ok scan) ↔
      (declared.relationNames entity).Nodup := by
  have hdistinct : firstRepeated? [] (declared.relationNames entity) = none ↔
      (declared.relationNames entity).Nodup := by
    simp [firstRepeated?_eq_none_iff]
  rw [← hdistinct, ofType_eq]
  cases firstRepeated? [] (declared.relationNames entity) <;> simp

theorem ofType_eq_error_iff {error : ConfigurationError} :
    ofType declared entity settings = .error error ↔
      ∃ before name after, declared.relationNames entity = before ++ name :: after ∧
        before.Nodup ∧ name ∈ before ∧ error = .duplicateRelation entity.id name := by
  have hfirst (name : String) := @firstRepeated?_eq_some_iff []
    (declared.relationNames entity) name
  simp only [List.not_mem_nil, not_false_eq_true, implies_true, true_and, false_or] at hfirst
  rw [ofType_eq]
  constructor
  · intro herror
    split at herror
    · next name hrepeated =>
        cases herror
        obtain ⟨before, after, hsplit, hbefore, hmem⟩ := (hfirst name).mp hrepeated
        exact ⟨before, name, after, hsplit, hbefore, hmem, rfl⟩
    · cases herror
  · rintro ⟨before, name, after, hsplit, hbefore, hmem, rfl⟩
    rw [(hfirst name).mpr ⟨before, after, hsplit, hbefore, hmem⟩]

theorem parts_of_ofType_eq_ok {scan : RelationScan}
    (hscan : ofType declared entity settings = .ok scan) :
    scan.relations.map some =
        (declared.relationalFields entity).map (FieldDecl.relation? declared settings entity) ∧
      scan.relations.map Relation.name = declared.relationNames entity ∧
      scan.issues =
        (declared.relationalFields entity).flatMap (FieldDecl.warnings declared entity) := by
  have hof : ofFields declared settings (declared.relationFields entity) = scan := by
    rw [ofType_eq] at hscan
    split at hscan
    · cases hscan
    · exact Except.ok.inj hscan
  subst hof
  refine ⟨?_, ?_, ?_⟩
  · refine List.map_map.trans (map_sources_eq entity _ fun source field hdetect => ?_)
    rw [FieldDecl.relation?, hdetect]
    rfl
  · refine List.map_map.trans (map_sources_eq entity _ fun source field hdetect => ?_)
    exact RelationField.name_of_detect? hdetect
  · have hwarnings : (declared.relationFields entity).map (RelationField.issues declared) =
        (declared.relationalFields entity).map (FieldDecl.warnings declared entity) :=
      map_sources_eq entity _ fun source field hdetect => by
        rw [FieldDecl.warnings, hdetect]
        rfl
    rw [List.flatMap_def, ← hwarnings]
    exact List.flatMap_def

end RelationScan

/--
A type is scanned by one visit to each field.  The scan succeeds exactly if the names of its
relations are distinct, and has then the relation and the warnings of every relational field, in
order; otherwise the error names the first name that was there before.
-/
theorem scan_of_fields (declared : DeclaredTypes) (entity : TypeDecl) (settings : Settings) :
    let fields := declared.relationalFields entity
    let names := declared.relationNames entity
    let scanned := RelationScan.ofType declared entity settings
    scanned = (declared.fields entity.id).foldlM (RelationScan.visit declared entity settings)
        .empty ∧
      ((∃ scan, scanned = .ok scan) ↔ names.Nodup) ∧
      (∀ scan, scanned = .ok scan →
        scan.relations.map some = fields.map (FieldDecl.relation? declared settings entity) ∧
        scan.relations.map Relation.name = names ∧
        scan.issues = fields.flatMap (FieldDecl.warnings declared entity)) ∧
      (∀ field ∈ fields, ∀ issue, issue ∈ field.warnings declared entity ↔
        issue.location = (Member.field entity field).location ∧
          field.Warns declared entity issue.finding ∧ issue.severity = .warning) ∧
      ∀ error, scanned = .error error ↔
        ∃ before name after, names = before ++ name :: after ∧ before.Nodup ∧ name ∈ before ∧
          error = .duplicateRelation entity.id name := by
  refine ⟨RelationScan.ofType_eq_foldlM, RelationScan.exists_ofType_eq_ok_iff, ?_, ?_, ?_⟩
  · intro scan hscan
    exact RelationScan.parts_of_ofType_eq_ok hscan
  · intro field hfield issue
    have hrelational : field.isRelational = true := (List.mem_filter.mp hfield).2
    rw [FieldDecl.mem_warnings_iff]
    constructor
    · rintro ⟨-, hlocation, hwarns⟩
      exact ⟨hlocation, hwarns, hwarns.severity_eq⟩
    · rintro ⟨hlocation, hwarns, -⟩
      exact ⟨hrelational, hlocation, hwarns⟩
  · intro error
    exact RelationScan.ofType_eq_error_iff

end ApiSurface
