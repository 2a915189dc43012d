import ApiSurface.Catalog.Basic
import ApiSurface.Proofs.Document.Readers

/-!
# Reading back what a catalog writes

A catalog is written as a JSON value with eight kinds of records in it, and reading that value
gives the catalog again, whatever the order of the members (`catalog_readsBack`).  The values of
a marker are kept as an object keeps them, with increasing keys, and numbers as words; everything
that is read is of this kind (`Catalog.IsRepresentable`).  The entity suffixes of a policy are not
written, so they must be the default ones.

For every record there is the part of it that is known after some of its members are read.
-/

namespace ApiSurface

open Document Naming

attribute [local simp] known_cons_of_ne

theorem readsAs_optionalText (value : Option String) :
    ReadsAs (Datum.optional Datum.text) (.optional .string value) value :=
  readsAs_optional nofun fun text _ => readsAs_text text

/-! ## Markers -/

namespace Marker

def HasSortedKeys (marker : Marker) : Prop :=
  (Json.object marker.values).HasSortedKeys

def Fields.after (marker : Marker) (seen : List String) : Fields :=
  ⟨known seen "name" (some marker.name) none, known seen "values" marker.values []⟩

theorem readsAs_ofDatum {marker : Marker} (hsorted : marker.HasSortedKeys) :
    ReadsAs ofDatum marker.toJson marker := by
  have hrecord : ReadsAs (Datum.readRecord recordType readField ⟨none, []⟩) marker.toJson
      (.named, ⟨some marker.name, marker.values⟩) := by
    apply readsAs_record (Fields.after marker)
    · simp [Json.keys, recordType]
    · simp [Json.keys]
    · simp only [List.forall_mem_cons]
      refine ⟨fun seen => (readsAs_text _).bind ?_ fun _ => rfl,
        fun seen => (readsAs_members hsorted).bind ?_ fun _ => rfl, List.forall_mem_nil _⟩
      all_goals simp [Fields.after]
    · intro seen hseen
      simp [Fields.after, known, hseen, Json.keys]
  exact hrecord.bind rfl fun _ => rfl

theorem yields_ofDatum : Yields ofDatum HasSortedKeys := by
  have hrecord : Yields (Datum.readRecord recordType readField ⟨none, []⟩) fun result =>
      (Json.object result.2.values).HasSortedKeys := by
    refine yields_record (fun fields : Fields => (Json.object fields.values).HasSortedKeys)
      ⟨.nil, trivial⟩ ?_
    intro fields key hfields datum next hnext
    unfold readField at hnext
    split at hnext
    · obtain ⟨name, -, hnext⟩ := bind_eq_ok_iff.mp hnext
      cases hnext
      exact hfields
    · obtain ⟨values, hvalues, hnext⟩ := bind_eq_ok_iff.mp hnext
      cases hnext
      exact yields_members datum values hvalues
  refine hrecord.bind fun result hresult marker hmarker => ?_
  obtain ⟨name, -, hmarker⟩ := bind_eq_ok_iff.mp hmarker
  cases hmarker
  exact hresult

end Marker

def MarkersSorted (markers : List Marker) : Prop :=
  ∀ marker ∈ markers, marker.HasSortedKeys

theorem readsAs_markers {markers : List Marker} (hsorted : MarkersSorted markers) :
    ReadsAs (Datum.listOf Marker.ofDatum) (.array (markers.map Marker.toJson)) markers :=
  readsAs_listOf fun marker hmarker => Marker.readsAs_ofDatum (hsorted marker hmarker)

theorem yields_markers : Yields (Datum.listOf Marker.ofDatum) MarkersSorted :=
  yields_listOf Marker.yields_ofDatum

theorem markersSorted_nil : MarkersSorted [] :=
  List.forall_mem_nil _

/-! ## Types with their members -/

namespace FieldDecl

def Fields.after (field : FieldDecl) (seen : List String) : Fields where
  name := known seen "name" (some field.name) none
  type := known seen "type" (some field.type) none
  markers := known seen "markers" field.markers []

theorem readsAs_ofDatum {field : FieldDecl} (hsorted : MarkersSorted field.markers) :
    ReadsAs ofDatum field.toJson field := by
  have hrecord : ReadsAs (Datum.readRecord recordType readField ⟨none, none, []⟩) field.toJson
      (.named, ⟨some field.name, some field.type, field.markers⟩) := by
    apply readsAs_record (Fields.after field)
    · simp [Json.keys, recordType]
    · simp [Json.keys]
    · simp only [List.forall_mem_cons]
      refine ⟨fun seen => (readsAs_text _).bind ?_ fun _ => rfl,
        fun seen => (readsAs_text _).bind ?_ fun _ => rfl,
        fun seen => (readsAs_markers hsorted).bind ?_ fun _ => rfl, List.forall_mem_nil _⟩
      all_goals simp [Fields.after]
    · intro seen hseen
      simp [Fields.after, known, hseen, Json.keys]
  exact hrecord.bind rfl fun _ => rfl

theorem yields_ofDatum : Yields ofDatum fun field => MarkersSorted field.markers := by
  have hrecord : Yields (Datum.readRecord recordType readField ⟨none, none, []⟩) fun result =>
      MarkersSorted result.2.markers := by
    refine yields_record (fun fields : Fields => MarkersSorted fields.markers) markersSorted_nil ?_
    intro fields key hfields datum next hnext
    unfold readField at hnext
    split at hnext
    · obtain ⟨name, -, hnext⟩ := bind_eq_ok_iff.mp hnext
      cases hnext
      exact hfields
    · obtain ⟨type, -, hnext⟩ := bind_eq_ok_iff.mp hnext
      cases hnext
      exact hfields
    · obtain ⟨markers, hmarkers, hnext⟩ := bind_eq_ok_iff.mp hnext
      cases hnext
      exact yields_markers datum markers hmarkers
  refine hrecord.bind fun result hresult field hfield => ?_
  obtain ⟨name, -, hfield⟩ := bind_eq_ok_iff.mp hfield
  obtain ⟨type, -, hfield⟩ := bind_eq_ok_iff.mp hfield
  cases hfield
  exact hresult

end FieldDecl

namespace MethodDecl

def Fields.after (method : MethodDecl) (seen : List String) : Fields where
  name := known seen "name" (some method.name) none
  returns := known seen "returns" method.returns none
  markers := known seen "markers" method.markers []

theorem readsAs_ofDatum {method : MethodDecl} (hsorted : MarkersSorted method.markers) :
    ReadsAs ofDatum method.toJson method := by
  have hreturns (type : String) : ReadsAs (Datum.optional Datum.text) (.string type) (some type) :=
    readsAs_optionalText (some type)
  have hrecord : ReadsAs (Datum.readRecord recordType readField ⟨none, none, []⟩) method.toJson
      (.named, ⟨some method.name, method.returns, method.markers⟩) := by
    apply readsAs_record (Fields.after method)
    · cases method.returns <;> simp [Json.keys, Json.present, recordType]
    · cases method.returns <;> simp [Json.keys, Json.present]
    · simp only [List.cons_append, List.forall_mem_cons, List.forall_mem_append,
        forall_mem_present_iff]
      refine ⟨fun seen => (readsAs_text _).bind ?_ fun _ => rfl,
        fun type hgiven seen => (hreturns type).bind ?_ fun _ => rfl,
        fun seen => (readsAs_markers hsorted).bind ?_ fun _ => rfl, List.forall_mem_nil _⟩
      · simp [Fields.after]
      · simp [Fields.after, hgiven]
      · simp [Fields.after]
    · intro seen hseen
      cases hgiven : method.returns <;>
        simp [Fields.after, known, hseen, hgiven, Json.keys, Json.present]
  exact hrecord.bind rfl fun _ => rfl

theorem yields_ofDatum : Yields ofDatum fun method => MarkersSorted method.markers := by
  have hrecord : Yields (Datum.readRecord recordType readField ⟨none, none, []⟩) fun result =>
      MarkersSorted result.2.markers := by
    refine yields_record (fun fields : Fields => MarkersSorted fields.markers) markersSorted_nil ?_
    intro fields key hfields datum next hnext
    unfold readField at hnext
    split at hnext
    · obtain ⟨name, -, hnext⟩ := bind_eq_ok_iff.mp hnext
      cases hnext
      exact hfields
    · obtain ⟨returns, -, hnext⟩ := bind_eq_ok_iff.mp hnext
      cases hnext
      exact hfields
    · obtain ⟨markers, hmarkers, hnext⟩ := bind_eq_ok_iff.mp hnext
      cases hnext
      exact yields_markers datum markers hmarkers
  refine hrecord.bind fun result hresult method hmethod => ?_
  obtain ⟨name, -, hmethod⟩ := bind_eq_ok_iff.mp hmethod
  cases hmethod
  exact hresult

end MethodDecl

namespace TypeDecl

structure HasSortedMarkers (type : TypeDecl) : Prop where
  markers : MarkersSorted type.markers
  fields : ∀ field ∈ type.fields, MarkersSorted field.markers
  methods : ∀ method ∈ type.methods, MarkersSorted method.markers

def Fields.after (type : TypeDecl) (seen : List String) : Fields where
  id := known seen "id" (some type.id) none
  markers := known seen "markers" type.markers []
  fields := known seen "fields" type.fields []
  methods := known seen "methods" type.methods []

theorem readsAs_ofDatum {type : TypeDecl} (hsorted : type.HasSortedMarkers) :
    ReadsAs ofDatum type.toJson type := by
  have hfields : ReadsAs (Datum.listOf FieldDecl.ofDatum)
      (.array (type.fields.map FieldDecl.toJson)) type.fields :=
    readsAs_listOf fun field hfield => FieldDecl.readsAs_ofDatum (hsorted.fields field hfield)
  have hmethods : ReadsAs (Datum.listOf MethodDecl.ofDatum)
      (.array (type.methods.map MethodDecl.toJson)) type.methods :=
    readsAs_listOf fun method hmethod =>
      MethodDecl.readsAs_ofDatum (hsorted.methods method hmethod)
  have hrecord : ReadsAs (Datum.readRecord recordType readField ⟨none, [], [], []⟩) type.toJson
      (.named, ⟨some type.id, type.markers, type.fields, type.methods⟩) := by
    apply readsAs_record (Fields.after type)
    · simp [Json.keys, recordType]
    · simp [Json.keys]
    · simp only [List.forall_mem_cons]
      refine ⟨fun seen => (readsAs_text _).bind ?_ fun _ => rfl,
        fun seen => (readsAs_markers hsorted.markers).bind ?_ fun _ => rfl,
        fun seen => hfields.bind ?_ fun _ => rfl,
        fun seen => hmethods.bind ?_ fun _ => rfl, List.forall_mem_nil _⟩
      all_goals simp [Fields.after]
    · intro seen hseen
      simp [Fields.after, known, hseen, Json.keys]
  exact hrecord.bind rfl fun _ => rfl

theorem yields_ofDatum : Yields ofDatum HasSortedMarkers := by
  have hrecord : Yields (Datum.readRecord recordType readField ⟨none, [], [], []⟩) fun result =>
      HasSortedMarkers ⟨"", result.2.markers, result.2.fields, result.2.methods⟩ := by
    refine yields_record (fun fields : Fields =>
      HasSortedMarkers ⟨"", fields.markers, fields.fields, fields.methods⟩)
      ⟨markersSorted_nil, List.forall_mem_nil _, List.forall_mem_nil _⟩ ?_
    intro fields key hfields datum next hnext
    unfold readField at hnext
    split at hnext
    · obtain ⟨id, -, hnext⟩ := bind_eq_ok_iff.mp hnext
      cases hnext
      exact hfields
    · obtain ⟨markers, hmarkers, hnext⟩ := bind_eq_ok_iff.mp hnext
      cases hnext
      exact ⟨yields_markers datum markers hmarkers, hfields.fields, hfields.methods⟩
    · obtain ⟨decls, hdecls, hnext⟩ := bind_eq_ok_iff.mp hnext
      cases hnext
      have hsorted := yields_listOf FieldDecl.yields_ofDatum datum decls hdecls
      exact ⟨hfields.markers, hsorted, hfields.methods⟩
    · obtain ⟨decls, hdecls, hnext⟩ := bind_eq_ok_iff.mp hnext
      cases hnext
      have hsorted := yields_listOf MethodDecl.yields_ofDatum datum decls hdecls
      exact ⟨hfields.markers, hfields.fields, hsorted⟩
  refine hrecord.bind fun result hresult type htype => ?_
  obtain ⟨id, -, htype⟩ := bind_eq_ok_iff.mp htype
  cases htype
  exact ⟨hresult.markers, hresult.fields, hresult.methods⟩

end TypeDecl

/-! ## Settings -/

namespace CollaboratorPatch

def after (patch : CollaboratorPatch) (seen : List String) : CollaboratorPatch where
  dataAccessor := known seen "data_accessor" patch.dataAccessor none
  dataMapper := known seen "data_mapper" patch.dataMapper none
  dataMerger := known seen "data_merger" patch.dataMerger none
  searchFilterBuilder := known seen "search_filter_builder" patch.searchFilterBuilder none
  referenceResolver := known seen "reference_resolver" patch.referenceResolver none

theorem readsAs_ofDatum (patch : CollaboratorPatch) : ReadsAs ofDatum patch.toJson patch := by
  have hrecord : ReadsAs (Datum.readRecord recordType readField empty) patch.toJson
      (.named, patch) := by
    apply readsAs_record patch.after
    · simp [Json.keys, recordType, Collaborators.fields]
    · simp [Json.keys]
    · simp only [List.forall_mem_cons]
      refine ⟨?_, ?_, ?_, ?_, ?_, List.forall_mem_nil _⟩
      all_goals
        intro seen
        refine (readsAs_optionalText _).bind ?_ fun _ => rfl
        simp [after]
    · intro seen hseen
      simp [after, known, hseen, Json.keys]
  exact hrecord.bind rfl fun _ => rfl

end CollaboratorPatch

namespace SecurityPolicy

def HasDefaultSuffixes (policy : SecurityPolicy) : Prop :=
  policy.entitySuffixes = defaultEntitySuffixes

def after (policy : SecurityPolicy) (seen : List String) : SecurityPolicy where
  rolePattern := known seen "role_pattern" policy.rolePattern defaultRolePattern
  inclusiveRelations := known seen "inclusive_relations" policy.inclusiveRelations true
  entitySuffixes := defaultEntitySuffixes

theorem readsAs_ofDatum {policy : SecurityPolicy} (hsuffixes : policy.HasDefaultSuffixes) :
    ReadsAs ofDatum policy.toJson policy := by
  have hrecord : ReadsAs (Datum.readRecord recordType readField default) policy.toJson
      (.named, policy) := by
    apply readsAs_record policy.after
    · simp [Json.keys, recordType]
    · simp [Json.keys]
    · simp only [List.forall_mem_cons]
      refine ⟨fun seen => (readsAs_text _).bind ?_ fun _ => rfl,
        fun seen => (readsAs_flag _).bind ?_ fun _ => rfl, List.forall_mem_nil _⟩
      all_goals simp [after]
    · intro seen hseen
      have hsame : defaultEntitySuffixes = policy.entitySuffixes := hsuffixes.symm
      simp [after, known, hseen, Json.keys, hsame]
  exact hrecord.bind rfl fun _ => rfl

theorem yields_ofDatum : Yields ofDatum HasDefaultSuffixes := by
  have hrecord : Yields (Datum.readRecord recordType readField default) fun result =>
      HasDefaultSuffixes result.2 := by
    refine yields_record HasDefaultSuffixes rfl ?_
    intro policy key hpolicy datum next hnext
    unfold readField at hnext
    split at hnext
    · obtain ⟨pattern, -, hnext⟩ := bind_eq_ok_iff.mp hnext
      cases hnext
      exact hpolicy
    · obtain ⟨inclusive, -, hnext⟩ := bind_eq_ok_iff.mp hnext
      cases hnext
      exact hpolicy
  refine hrecord.bind fun result hresult policy hpolicy => ?_
  cases hpolicy
  exact hresult

end SecurityPolicy

namespace SettingsPatch

structure HasWordNumbers (patch : SettingsPatch) : Prop where
  indentation : ∀ count, patch.indentation = some count → count < word64.bound
  pageSize : ∀ size, patch.pageSize = some size → size < word32.bound

def HasDefaultSuffixes (patch : SettingsPatch) : Prop :=
  ∀ policy, patch.security = some policy → policy.HasDefaultSuffixes

def after (patch : SettingsPatch) (seen : List String) : SettingsPatch where
  classNamePrefix := known seen "class_name_prefix" patch.classNamePrefix none
  classNamePattern := known seen "class_name_pattern" patch.classNamePattern none
  dataWrapper := known seen "data_wrapper" patch.dataWrapper none
  dtoNamespace := known seen "dto_namespace" patch.dtoNamespace none
  dtoSuffix := known seen "dto_suffix" patch.dtoSuffix none
  entitySuffixes := known seen "entity_suffixes" patch.entitySuffixes none
  indentation := known seen "indentation" patch.indentation none
  pageSize := known seen "page_size" patch.pageSize none
  verbose := known seen "verbose" patch.verbose none
  security := known seen "security" patch.security none
  collaborators := known seen "collaborators" patch.collaborators none
  exporter := known seen "exporter" patch.exporter none

theorem readsAs_exporter (format : OutputFormat) :
    ReadsAs (Datum.variant OutputFormat.named) (.string format.text) format := by
  apply readsAs_variant
  cases format <;> decide

theorem readsAs_ofDatum {patch : SettingsPatch} (hnumbers : patch.HasWordNumbers)
    (hsuffixes : patch.HasDefaultSuffixes) : ReadsAs ofDatum patch.toJson patch := by
  have hentitySuffixes : ReadsAs (Datum.optional (Datum.listOf Datum.text))
      (.optional Json.strings patch.entitySuffixes) patch.entitySuffixes :=
    readsAs_optional nofun fun texts _ => readsAs_listOf fun text _ => readsAs_text text
  have hindentation : ReadsAs (Datum.optional (Datum.natural word64))
      (.optional .nat patch.indentation) patch.indentation :=
    readsAs_optional nofun fun count hcount =>
      readsAs_natural (hnumbers.indentation count hcount)
  have hpageSize : ReadsAs (Datum.optional (Datum.natural word32))
      (.optional .nat patch.pageSize) patch.pageSize :=
    readsAs_optional nofun fun size hsize => readsAs_natural (hnumbers.pageSize size hsize)
  have hverbose : ReadsAs (Datum.optional Datum.flag) (.optional .bool patch.verbose)
      patch.verbose :=
    readsAs_optional nofun fun flag _ => readsAs_flag flag
  have hsecurity : ReadsAs (Datum.optional SecurityPolicy.ofDatum)
      (.optional SecurityPolicy.toJson patch.security) patch.security :=
    readsAs_optional nofun fun policy hpolicy =>
      SecurityPolicy.readsAs_ofDatum (hsuffixes policy hpolicy)
  have hcollaborators : ReadsAs (Datum.optional CollaboratorPatch.ofDatum)
      (.optional CollaboratorPatch.toJson patch.collaborators) patch.collaborators :=
    readsAs_optional nofun fun collaborators _ => collaborators.readsAs_ofDatum
  have hexporter : ReadsAs (Datum.optional (Datum.variant OutputFormat.named))
      (.optional (fun format => .string (OutputFormat.text format)) patch.exporter)
      patch.exporter :=
    readsAs_optional nofun fun format _ => readsAs_exporter format
  have hrecord : ReadsAs (Datum.readRecord recordType readField empty) patch.toJson
      (.named, patch) := by
    apply readsAs_record patch.after
    · simp [Json.keys, recordType]
    · simp [Json.keys]
    · simp only [List.forall_mem_cons]
      refine ⟨fun seen => (readsAs_optionalText _).bind ?_ fun _ => rfl,
        fun seen => (readsAs_optionalText _).bind ?_ fun _ => rfl,
        fun seen => (readsAs_optionalText _).bind ?_ fun _ => rfl,
        fun seen => (readsAs_optionalText _).bind ?_ fun _ => rfl,
        fun seen => (readsAs_optionalText _).bind ?_ fun _ => rfl,
        fun seen => hentitySuffixes.bind ?_ fun _ => rfl,
        fun seen => hindentation.bind ?_ fun _ => rfl,
        fun seen => hpageSize.bind ?_ fun _ => rfl,
        fun seen => hverbose.bind ?_ fun _ => rfl,
        fun seen => hsecurity.bind ?_ fun _ => rfl,
        fun seen => hcollaborators.bind ?_ fun _ => rfl,
        fun seen => hexporter.bind ?_ fun _ => rfl, List.forall_mem_nil _⟩
      all_goals simp [after]
    · intro seen hseen
      simp [after, known, hseen, Json.keys]
  exact hrecord.bind rfl fun _ => rfl

theorem hasWordNumbers_empty : empty.HasWordNumbers :=
  ⟨fun _ hgiven => (nomatch hgiven), fun _ hgiven => (nomatch hgiven)⟩

theorem hasDefaultSuffixes_empty : empty.HasDefaultSuffixes :=
  fun _ hgiven => nomatch hgiven

theorem yields_ofDatum :
    Yields ofDatum fun patch => patch.HasWordNumbers ∧ patch.HasDefaultSuffixes := by
  have hrecord : Yields (Datum.readRecord recordType readField empty) fun result =>
      result.2.HasWordNumbers ∧ result.2.HasDefaultSuffixes := by
    refine yields_record (fun patch : SettingsPatch =>
      patch.HasWordNumbers ∧ patch.HasDefaultSuffixes)
      ⟨hasWordNumbers_empty, hasDefaultSuffixes_empty⟩ ?_
    rintro patch key ⟨hnumbers, hsuffixes⟩ datum next hnext
    unfold readField at hnext
    split at hnext
    case h_7 =>
      obtain ⟨count, hcount, hnext⟩ := bind_eq_ok_iff.mp hnext
      cases hnext
      have hfits := yields_optional (yields_natural word64) datum count hcount
      exact ⟨⟨hfits, hnumbers.pageSize⟩, hsuffixes⟩
    case h_8 =>
      obtain ⟨size, hsize, hnext⟩ := bind_eq_ok_iff.mp hnext
      cases hnext
      have hfits := yields_optional (yields_natural word32) datum size hsize
      exact ⟨⟨hnumbers.indentation, hfits⟩, hsuffixes⟩
    case h_10 =>
      obtain ⟨policy, hpolicy, hnext⟩ := bind_eq_ok_iff.mp hnext
      cases hnext
      have hread := yields_optional SecurityPolicy.yields_ofDatum datum policy hpolicy
      exact ⟨⟨hnumbers.indentation, hnumbers.pageSize⟩, hread⟩
    all_goals
      obtain ⟨value, -, hnext⟩ := bind_eq_ok_iff.mp hnext
      cases hnext
      exact ⟨⟨hnumbers.indentation, hnumbers.pageSize⟩, hsuffixes⟩
  refine hrecord.bind fun result hresult patch hpatch => ?_
  cases hpatch
  exact hresult

end SettingsPatch

/-! ## Catalogs -/

namespace Catalog

/-- Whether the parts of a catalog are such as their types in memory admit. -/
structure IsRepresentable (catalog : Catalog) : Prop where
  types : ∀ type ∈ catalog.types, type.HasSortedMarkers
  settings : ∀ patch, catalog.settings = some patch → patch.HasWordNumbers

def HasDefaultSuffixes (catalog : Catalog) : Prop :=
  ∀ patch, catalog.settings = some patch → patch.HasDefaultSuffixes

def after (catalog : Catalog) (seen : List String) : Catalog where
  title := known seen "title" catalog.title ""
  settings := known seen "settings" catalog.settings none
  types := known seen "types" catalog.types []

theorem readsAs_ofDatum {catalog : Catalog} (hrepresentable : catalog.IsRepresentable)
    (hsuffixes : catalog.HasDefaultSuffixes) : ReadsAs ofDatum catalog.toJson catalog := by
  have htypes : ReadsAs (Datum.listOf TypeDecl.ofDatum)
      (.array (catalog.types.map TypeDecl.toJson)) catalog.types :=
    readsAs_listOf fun type htype => TypeDecl.readsAs_ofDatum (hrepresentable.types type htype)
  have hoptional : ReadsAs (Datum.optional SettingsPatch.ofDatum)
      (.optional SettingsPatch.toJson catalog.settings) catalog.settings :=
    readsAs_optional (fun _ hnull => nomatch hnull) fun patch hpatch =>
      SettingsPatch.readsAs_ofDatum (hrepresentable.settings patch hpatch)
        (hsuffixes patch hpatch)
  have hsettings (patch : SettingsPatch) (hgiven : catalog.settings = some patch) :
      ReadsAs (Datum.optional SettingsPatch.ofDatum) patch.toJson (some patch) := by
    rw [hgiven] at hoptional
    exact hoptional
  have hrecord : ReadsAs (Datum.readRecord recordType readField empty) catalog.toJson
      (.named, catalog) := by
    apply readsAs_record catalog.after
    · cases catalog.settings <;> simp [Json.keys, Json.present, recordType]
    · cases catalog.settings <;> simp [Json.keys, Json.present]
    · simp only [List.cons_append, List.forall_mem_cons, List.forall_mem_append,
        forall_mem_present_iff]
      refine ⟨fun seen => (readsAs_text _).bind ?_ fun _ => rfl,
        fun patch hgiven seen => (hsettings patch hgiven).bind ?_ fun _ => rfl,
        fun seen => htypes.bind ?_ fun _ => rfl, List.forall_mem_nil _⟩
      · simp [after]
      · simp [after, hgiven]
      · simp [after]
    · intro seen hseen
      have hknown : known seen "settings" catalog.settings none = catalog.settings := by
        cases hgiven : catalog.settings <;>
          simp [known, hseen, hgiven, Json.keys, Json.present]
      rw [after, hknown]
      simp [known, hseen, Json.keys]
  exact hrecord.bind rfl fun _ => rfl

theorem isRepresentable_empty : empty.IsRepresentable :=
  ⟨fun _ htype => (nomatch htype), fun _ hgiven => (nomatch hgiven)⟩

theorem hasDefaultSuffixes_empty : empty.HasDefaultSuffixes :=
  fun _ hgiven => nomatch hgiven

theorem yields_ofDatum :
    Yields ofDatum fun catalog => catalog.IsRepresentable ∧ catalog.HasDefaultSuffixes := by
  have hrecord : Yields (Datum.readRecord recordType readField empty) fun result =>
      result.2.IsRepresentable ∧ result.2.HasDefaultSuffixes := by
    refine yields_record (fun catalog : Catalog =>
      catalog.IsRepresentable ∧ catalog.HasDefaultSuffixes)
      ⟨isRepresentable_empty, hasDefaultSuffixes_empty⟩ ?_
    rintro catalog key ⟨hrepresentable, hsuffixes⟩ datum next hnext
    unfold readField at hnext
    split at hnext
    · obtain ⟨title, -, hnext⟩ := bind_eq_ok_iff.mp hnext
      cases hnext
      exact ⟨⟨hrepresentable.types, hrepresentable.settings⟩, hsuffixes⟩
    · obtain ⟨patch, hpatch, hnext⟩ := bind_eq_ok_iff.mp hnext
      cases hnext
      have hread := yields_optional SettingsPatch.yields_ofDatum datum patch hpatch
      exact ⟨⟨hrepresentable.types, fun given hgiven => (hread given hgiven).1⟩,
        fun given hgiven => (hread given hgiven).2⟩
    · obtain ⟨types, htypes, hnext⟩ := bind_eq_ok_iff.mp hnext
      cases hnext
      have hread := yields_listOf TypeDecl.yields_ofDatum datum types htypes
      exact ⟨⟨hread, hrepresentable.settings⟩, hsuffixes⟩
  refine hrecord.bind fun result hresult catalog hcatalog => ?_
  cases hcatalog
  exact hresult

end Catalog

/--
What a catalog writes is read as the catalog, whatever the order of the members in it, if the
entity suffixes of its policy are the default ones.  Whatever is read is such a catalog.
-/
theorem catalog_readsBack (catalog : Catalog) :
    (catalog.IsRepresentable → catalog.HasDefaultSuffixes →
        Catalog.ofDatum (.ofJson catalog.toJson) = .ok catalog ∧
          ∀ json, catalog.toJson.Reorders json →
            Catalog.ofDatum (.ofJson json) = .ok catalog) ∧
      ∀ datum, Catalog.ofDatum datum = .ok catalog →
        catalog.IsRepresentable ∧ catalog.HasDefaultSuffixes := by
  constructor
  · intro hrepresentable hsuffixes
    have hreads : ReadsAs Catalog.ofDatum catalog.toJson catalog :=
      Catalog.readsAs_ofDatum hrepresentable hsuffixes
    exact ⟨hreads _ (.refl _), hreads⟩
  · intro datum hread
    exact Catalog.yields_ofDatum datum catalog hread

def storedCatalog : Catalog where
  title := "Shop"
  settings := some
    { SettingsPatch.empty with
      pageSize := some 50
      security := some ⟨"ROLE_\x7bNAME\x7d", false, defaultEntitySuffixes⟩
      collaborators := some { CollaboratorPatch.empty with dataMapper := some "shop.Mapper" }
      exporter := some .json }
  types :=
    [⟨"shop.Order",
      [⟨"CrudResource",
        [("dtoConfig", .object [("list", .string "shop.Row"), ("value", .string "shop.Form")]),
          ("entity", .string "shop.Order"), ("path", .null)]⟩],
      [⟨"id", "i64", [⟨"Id", []⟩]⟩],
      [⟨"total", some "f64",
        [⟨"Sum", [("least", .number (.integer (-1))), ("of", .array [.string "lines"])]⟩]⟩,
        ⟨"clear", none, []⟩]⟩]

theorem storedCatalog_readsBack :
    storedCatalog.IsRepresentable ∧ storedCatalog.HasDefaultSuffixes ∧
      Catalog.ofDatum (.ofJson storedCatalog.toJson) = .ok storedCatalog ∧
      ∀ members, storedCatalog.toJson = .object members →
        Catalog.ofDatum (.ofJson (.object members.reverse)) = .ok storedCatalog := by
  have hrepresentable : storedCatalog.IsRepresentable := by
    constructor
    · simp only [storedCatalog, List.forall_mem_singleton]
      constructor
      all_goals
        simp [MarkersSorted, Marker.HasSortedKeys, Json.HasSortedKeys, Json.MembersSorted,
          Json.AllSorted, Json.keys, -String.lt_iff_ltb]
    · intro patch hpatch
      cases hpatch
      constructor <;> simp [SettingsPatch.empty, word32, word64]
  have hsuffixes : storedCatalog.HasDefaultSuffixes := by
    intro patch hpatch policy hpolicy
    cases hpatch
    cases hpolicy
    rfl
  obtain ⟨hsame, hreordered⟩ := (catalog_readsBack storedCatalog).1 hrepresentable hsuffixes
  refine ⟨hrepresentable, hsuffixes, hsame, ?_⟩
  intro members hmembers
  apply hreordered
  rw [hmembers]
  exact .object (List.reverse_perm members).symm (Json.MembersReorder.refl _)

end ApiSurface
