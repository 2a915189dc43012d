import ApiSurface.Proofs.Catalog.MappedTypes
import ApiSurface.Proofs.Resource.RelationScan

/-!
# Which accessors a relation has

A slot of a relation is filled by what the field states for it, by the first method of the
related type that is marked for it, by the first such method of the owner, or by convention.
The slots are filled one by one: whoever changes what a field states for one slot changes no
other (`accessors_of_relation`).
-/

namespace ApiSurface

/-! ## Slots -/

namespace AccessorKind

theorem mem_all (kind : AccessorKind) : kind ∈ all := by
  cases kind <;> simp [all]

theorem key_injective {kind other : AccessorKind} (hkey : kind.key = other.key) :
    kind = other := by
  cases kind <;> cases other <;> simp [key] at hkey ⊢

theorem slash_notMem_key (kind : AccessorKind) : '/' ∉ kind.key.toList := by
  cases kind <;> decide

def IsSpelled (kind : AccessorKind) (raw : String) : Prop :=
  Text.equalsIgnoringCase kind.key (Text.trim (lastSegment raw)) = true

instance (kind : AccessorKind) (raw : String) : Decidable (kind.IsSpelled raw) :=
  inferInstanceAs (Decidable (_ = true))

theorem eq_of_isSpelled {kind other : AccessorKind} {raw : String} (hkind : kind.IsSpelled raw)
    (hother : other.IsSpelled raw) : kind = other := by
  have hlower : kind.key.toList.map Char.toLower = other.key.toList.map Char.toLower :=
    (beq_iff_eq.mp hkind).trans (beq_iff_eq.mp hother).symm
  revert hlower
  cases kind <;> cases other <;> decide

theorem parse?_eq_some_iff {kind : AccessorKind} {raw : String} :
    parse? raw = some kind ↔ kind.IsSpelled raw := by
  have hspells {found : AccessorKind} (hfound : parse? raw = some found) :
      found.IsSpelled raw := by
    unfold parse? at hfound
    unfold IsSpelled
    have hspelled := List.find?_some hfound
    exact hspelled
  constructor
  · exact hspells
  · intro hspelled
    have hsome : (parse? raw).isSome := by
      unfold parse?
      unfold IsSpelled at hspelled
      rw [List.find?_isSome]
      exact ⟨kind, mem_all kind, hspelled⟩
    obtain ⟨found, hfound⟩ := Option.isSome_iff_exists.mp hsome
    rw [hfound, eq_of_isSpelled (hspells hfound) hspelled]

end AccessorKind

/-! ## Marked methods -/

def MethodDecl.Fills (method : MethodDecl) (relation : String) (kind : AccessorKind) : Prop :=
  ∃ marker, Marker.find? "RelationAccessor" method.markers = some marker ∧
    marker.text? "name" = some relation ∧ ∃ raw ∈ marker.list "type", kind.IsSpelled raw

def FirstFills (methods : List MethodDecl) (relation : String) (kind : AccessorKind)
    (name : String) : Prop :=
  ∃ before method after, methods = before ++ method :: after ∧ method.Fills relation kind ∧
    (∀ earlier ∈ before, ¬ earlier.Fills relation kind) ∧ method.name = name

namespace RelationField

theorem fillsSlot_iff {type : TypeDecl} {relation : String} {kind : AccessorKind}
    {method : MethodDecl} :
    fillsSlot type relation kind method = true ↔ method.Fills relation kind := by
  have hmarkers : (Member.method type method).markers = method.markers := rfl
  simp only [fillsSlot, hmarkers, MethodDecl.Fills]
  cases Marker.find? "RelationAccessor" method.markers with
  | none => simp
  | some marker =>
      simp only [Marker.text?_valuesAt, Marker.list_valuesAt, Bool.and_eq_true, beq_iff_eq,
        List.any_eq_true, AccessorKind.parse?_eq_some_iff, Option.some.injEq, exists_eq_left']

def markedIn? (declared : DeclaredTypes) (source : RelationField) (kind : AccessorKind)
    (type : TypeDecl) : Option String :=
  ((declared.methods type.id).find? (fillsSlot type source.name kind)).map MethodDecl.name

section

variable {declared : DeclaredTypes} {source : RelationField} {kind : AccessorKind}
  {type : TypeDecl}

theorem markedIn?_eq_some_iff {methods : List MethodDecl} {relation name : String}
    (hmethods : declared.methods type.id = methods) (hname : source.name = relation) :
    source.markedIn? declared kind type = some name ↔
      FirstFills methods relation kind name := by
  rw [markedIn?, Option.map_eq_some_iff, FirstFills, hmethods, hname]
  simp only [List.find?_eq_some_iff_append, Bool.not_eq_true', ← Bool.not_eq_true, fillsSlot_iff]
  grind

theorem markedIn?_eq_none_iff {methods : List MethodDecl} {relation : String}
    (hmethods : declared.methods type.id = methods) (hname : source.name = relation) :
    source.markedIn? declared kind type = none ↔
      ∀ method ∈ methods, ¬ method.Fills relation kind := by
  rw [markedIn?, Option.map_eq_none_iff, List.find?_eq_none, hmethods, hname]
  simp only [fillsSlot_iff]

theorem markedAccessor?_eq :
    source.markedAccessor? declared kind =
      (source.accessorTypes declared).findSome? (source.markedIn? declared kind) :=
  rfl

theorem markedAccessor?_of_none (hrelated : source.related? declared = none) :
    source.markedAccessor? declared kind = source.markedIn? declared kind source.owner := by
  rw [markedAccessor?_eq, accessorTypes, hrelated]
  exact List.findSome?_singleton

theorem markedAccessor?_of_eq {related : TypeDecl}
    (hrelated : source.related? declared = some related) (hid : related.id = source.owner.id) :
    source.markedAccessor? declared kind = source.markedIn? declared kind related := by
  simp only [markedAccessor?_eq, accessorTypes, hrelated, hid, beq_self_eq_true, if_true]
  exact List.findSome?_singleton

theorem markedAccessor?_of_ne {related : TypeDecl}
    (hrelated : source.related? declared = some related) (hid : related.id ≠ source.owner.id) :
    source.markedAccessor? declared kind =
      (source.markedIn? declared kind related).or
        (source.markedIn? declared kind source.owner) := by
  simp only [markedAccessor?_eq, accessorTypes, hrelated, beq_iff_eq, hid, if_false,
    List.findSome?_cons, List.findSome?_nil]
  cases source.markedIn? declared kind related <;>
    cases source.markedIn? declared kind source.owner <;> rfl

end

end RelationField

/-! ## The choice -/

theorem methods_id_of_resolve? {declared : DeclaredTypes} {reference : String} {type : TypeDecl}
    (hresolve : declared.resolve? reference = some type) :
    declared.methods type.id = type.methods := by
  rw [DeclaredTypes.methods, named?_id_of_resolve?_eq_some hresolve]
  rfl

/-- The accessor for a slot of the relation that a field is. -/
inductive ChosenAccessor (declared : DeclaredTypes) (owner : TypeDecl) (field : FieldDecl)
    (kind : AccessorKind) : String → Prop
  | stated {name : String} (hstated : field.stated? kind.key = some name) :
      ChosenAccessor declared owner field kind name
  | ofRelated {related : TypeDecl} {name : String} (hsilent : field.stated? kind.key = none)
      (hrelated : declared.resolve? field.relatedReference = some related)
      (hfirst : FirstFills related.methods field.relationName kind name) :
      ChosenAccessor declared owner field kind name
  | ofOwner {name : String} (hsilent : field.stated? kind.key = none)
      (hrelated : ∀ related, declared.resolve? field.relatedReference = some related →
        related.id ≠ owner.id ∧
          ∀ method ∈ related.methods, ¬ method.Fills field.relationName kind)
      (hfirst : FirstFills (declared.methods owner.id) field.relationName kind name) :
      ChosenAccessor declared owner field kind name
  | conventional (hsilent : field.stated? kind.key = none)
      (hrelated : ∀ related, declared.resolve? field.relatedReference = some related →
        ∀ method ∈ related.methods, ¬ method.Fills field.relationName kind)
      (howner : ∀ method ∈ declared.methods owner.id,
        ¬ method.Fills field.relationName kind) :
      ChosenAccessor declared owner field kind
        (Accessors.conventionalName field.relationName kind)

theorem exists_firstFills_or (methods : List MethodDecl) (relation : String)
    (kind : AccessorKind) :
    (∃ name, FirstFills methods relation kind name) ∨
      ∀ method ∈ methods, ¬ method.Fills relation kind := by
  induction methods with
  | nil => exact .inr nofun
  | cons first methods ih =>
      by_cases hfills : first.Fills relation kind
      · exact .inl ⟨first.name, [], first, methods, rfl, hfills, nofun, rfl⟩
      · rcases ih with ⟨name, before, method, after, rfl, hmethod, hbefore, hname⟩ | hnone
        · refine .inl ⟨name, first :: before, method, after, rfl, hmethod, ?_, hname⟩
          exact List.forall_mem_cons.mpr ⟨hfills, hbefore⟩
        · exact .inr (List.forall_mem_cons.mpr ⟨hfills, hnone⟩)

theorem exists_chosenAccessor (declared : DeclaredTypes) (owner : TypeDecl) (field : FieldDecl)
    (kind : AccessorKind) : ∃ name, ChosenAccessor declared owner field kind name := by
  cases hsilent : field.stated? kind.key with
  | some name => exact ⟨name, .stated hsilent⟩
  | none =>
      have howner := exists_firstFills_or (declared.methods owner.id) field.relationName kind
      cases hfound : declared.resolve? field.relatedReference with
      | none =>
          rcases howner with ⟨name, hfirst⟩ | hnone
          · exact ⟨name, .ofOwner hsilent (by simp [hfound]) hfirst⟩
          · exact ⟨_, .conventional hsilent (by simp [hfound]) hnone⟩
      | some related =>
          rcases exists_firstFills_or related.methods field.relationName kind with
            ⟨name, hfirst⟩ | hlacks
          · exact ⟨name, .ofRelated hsilent hfound hfirst⟩
          -- A type that is related to itself has been searched already.
          by_cases hid : related.id = owner.id
          · have hnone : ∀ method ∈ declared.methods owner.id,
                ¬ method.Fills field.relationName kind := by
              rw [← hid, methods_id_of_resolve? hfound]
              exact hlacks
            exact ⟨_, .conventional hsilent (by simpa [hfound] using hlacks) hnone⟩
          · rcases howner with ⟨name, hfirst⟩ | hnone
            · exact ⟨name, .ofOwner hsilent (by simpa [hfound, hid] using hlacks) hfirst⟩
            · exact ⟨_, .conventional hsilent (by simpa [hfound] using hlacks) hnone⟩

namespace RelationField

variable {declared : DeclaredTypes} {owner : TypeDecl} {field : FieldDecl}
  {source : RelationField} {kind : AccessorKind}

theorem accessor_of_some {name : String} (hdetect : detect? owner field = some source)
    (hstated : field.stated? kind.key = some name) : source.accessor declared kind = name := by
  obtain ⟨-, -, -, hexplicit⟩ := of_detect? hdetect
  rw [accessor, hexplicit, hstated]
  rfl

theorem accessor_of_none (hdetect : detect? owner field = some source)
    (hsilent : field.stated? kind.key = none) :
    source.accessor declared kind =
      (source.markedAccessor? declared kind).getD
        (Accessors.conventionalName field.relationName kind) := by
  obtain ⟨-, -, -, hexplicit⟩ := of_detect? hdetect
  rw [accessor, hexplicit, hsilent, name_of_detect? hdetect]
  rfl

theorem accessor_eq_of_chosenAccessor {name : String}
    (hdetect : detect? owner field = some source)
    (hchosen : ChosenAccessor declared owner field kind name) :
    source.accessor declared kind = name := by
  have hname := name_of_detect? hdetect
  have hresolve := related?_of_detect? declared hdetect
  obtain ⟨rfl, -⟩ := of_detect? hdetect
  cases hchosen with
  | stated hstated => exact accessor_of_some hdetect hstated
  | @ofRelated related name hsilent hrelated hfirst =>
      have hmarked := (markedIn?_eq_some_iff (methods_id_of_resolve? hrelated) hname).mpr hfirst
      rw [accessor_of_none hdetect hsilent]
      by_cases hid : related.id = source.owner.id
      · rw [markedAccessor?_of_eq (hresolve.trans hrelated) hid, hmarked]
        rfl
      · rw [markedAccessor?_of_ne (hresolve.trans hrelated) hid, hmarked]
        rfl
  | ofOwner hsilent hrelated hfirst =>
      have hmarked := (markedIn?_eq_some_iff rfl hname).mpr hfirst
      rw [accessor_of_none hdetect hsilent]
      cases hfound : declared.resolve? field.relatedReference with
      | none =>
          rw [markedAccessor?_of_none (hresolve.trans hfound), hmarked]
          rfl
      | some related =>
          obtain ⟨hid, hlacks⟩ := hrelated related hfound
          have hnone := (markedIn?_eq_none_iff (methods_id_of_resolve? hfound) hname).mpr hlacks
          rw [markedAccessor?_of_ne (hresolve.trans hfound) hid, hnone, hmarked]
          rfl
  | conventional hsilent hrelated howner =>
      have hownerNone := (markedIn?_eq_none_iff rfl hname).mpr howner
      rw [accessor_of_none hdetect hsilent]
      cases hfound : declared.resolve? field.relatedReference with
      | none =>
          rw [markedAccessor?_of_none (hresolve.trans hfound), hownerNone]
          rfl
      | some related =>
          have hlacks := hrelated related hfound
          have hnone := (markedIn?_eq_none_iff (methods_id_of_resolve? hfound) hname).mpr hlacks
          by_cases hid : related.id = source.owner.id
          · rw [markedAccessor?_of_eq (hresolve.trans hfound) hid, hnone]
            rfl
          · rw [markedAccessor?_of_ne (hresolve.trans hfound) hid, hnone, hownerNone]
            rfl

theorem accessor_eq_iff {name : String} (hdetect : detect? owner field = some source) :
    source.accessor declared kind = name ↔ ChosenAccessor declared owner field kind name := by
  constructor
  · rintro rfl
    obtain ⟨name, hchosen⟩ := exists_chosenAccessor declared owner field kind
    rw [accessor_eq_of_chosenAccessor hdetect hchosen]
    exact hchosen
  · exact accessor_eq_of_chosenAccessor hdetect

end RelationField

/-! ## Changing one slot -/

namespace FieldDecl

/-- The fields are the same but for what the first relation marker says at a key. -/
structure EditedAt (edited : String) (field other : FieldDecl) : Prop where
  name : field.name = other.name
  type : field.type = other.type
  markers : ∃ before marker changed after,
    field.markers = before ++ marker :: after ∧ other.markers = before ++ changed :: after ∧
      (∀ earlier ∈ before, earlier.name ≠ relationMarker) ∧
      marker.name = relationMarker ∧ changed.name = relationMarker ∧
      marker.values.filter (fun member => member.1 != edited) =
        changed.values.filter fun member => member.1 != edited

variable {edited : String} {field other : FieldDecl}

theorem EditedAt.exists_relationMarkers (hedit : field.EditedAt edited other) :
    ∃ marker changed, Marker.find? relationMarker field.markers = some marker ∧
      Marker.find? relationMarker other.markers = some changed ∧
      ∀ key, '/' ∉ key.toList → edited ≠ key → marker.text? key = changed.text? key := by
  obtain ⟨before, marker, changed, after, hfield, hother, hbefore, hmarker, hchanged, hsame⟩ :=
    hedit.markers
  have hfind (first : Marker) (hfirst : first.name = relationMarker) :
      Marker.find? relationMarker (before ++ first :: after) = some first := by
    rw [Marker.find?, List.find?_eq_some_iff_append]
    exact ⟨by simpa using hfirst, before, after, rfl, by simpa using hbefore⟩
  refine ⟨marker, changed, ?_, ?_, ?_⟩
  · rw [hfield]
    exact hfind marker hmarker
  · rw [hother]
    exact hfind changed hchanged
  · intro key hslash hne
    exact Marker.text?_congr hslash hne hsame

theorem EditedAt.stated?_eq (hedit : field.EditedAt edited other) {key : String}
    (hslash : '/' ∉ key.toList) (hne : edited ≠ key) : field.stated? key = other.stated? key := by
  obtain ⟨marker, changed, hmarker, hchanged, hsame⟩ := hedit.exists_relationMarkers
  rw [stated?, stated?, hmarker, hchanged]
  exact hsame key hslash hne

theorem EditedAt.relationName_eq (hedit : field.EditedAt edited other) (hne : edited ≠ "name") :
    field.relationName = other.relationName := by
  rw [relationName, relationName, hedit.stated?_eq (by decide) hne, hedit.name]

theorem EditedAt.relatedReference_eq (hedit : field.EditedAt edited other)
    (hne : edited ≠ "entity") : field.relatedReference = other.relatedReference := by
  obtain ⟨marker, changed, hmarker, hchanged, hsame⟩ := hedit.exists_relationMarkers
  have hentity : marker.text? "entity" = changed.text? "entity" :=
    hsame "entity" (by decide) hne
  simp only [relatedReference, hmarker, hchanged, hentity, hedit.type]

end FieldDecl

namespace TypeDecl

def withoutFields (type : TypeDecl) : TypeDecl :=
  { type with fields := [] }

theorem id_withoutFields (type : TypeDecl) : type.withoutFields.id = type.id :=
  rfl

theorem methods_withoutFields (type : TypeDecl) : type.withoutFields.methods = type.methods :=
  rfl

end TypeDecl

def DeclaredTypes.SameButFields (declared other : DeclaredTypes) : Prop :=
  declared.mapTypes TypeDecl.withoutFields = other.mapTypes TypeDecl.withoutFields

namespace DeclaredTypes.SameButFields

variable {declared other : DeclaredTypes} (hsame : declared.SameButFields other)

include hsame

theorem methods_eq (id : String) : declared.methods id = other.methods id := by
  rw [← methods_mapTypes TypeDecl.id_withoutFields declared TypeDecl.methods_withoutFields, hsame,
    methods_mapTypes TypeDecl.id_withoutFields other TypeDecl.methods_withoutFields]

theorem resolve?_eq (reference : String) :
    (declared.resolve? reference).map TypeDecl.withoutFields =
      (other.resolve? reference).map TypeDecl.withoutFields := by
  rw [← resolve?_mapTypes TypeDecl.id_withoutFields, hsame,
    resolve?_mapTypes TypeDecl.id_withoutFields]

theorem exists_of_resolve? {reference : String} {type : TypeDecl}
    (hresolve : declared.resolve? reference = some type) :
    ∃ counterpart, other.resolve? reference = some counterpart ∧ counterpart.id = type.id ∧
      counterpart.methods = type.methods := by
  have hmap := hsame.resolve?_eq reference
  rw [hresolve] at hmap
  obtain ⟨counterpart, hfound, hwithout⟩ := Option.map_eq_some_iff.mp hmap.symm
  have hid : counterpart.withoutFields.id = type.withoutFields.id := by rw [hwithout]
  have hmethods : counterpart.withoutFields.methods = type.withoutFields.methods := by
    rw [hwithout]
  exact ⟨counterpart, hfound, hid, hmethods⟩

theorem symm : other.SameButFields declared :=
  Eq.symm hsame

end DeclaredTypes.SameButFields

/-- What is chosen for a slot does not depend on what the field states for another. -/
theorem ChosenAccessor.of_edit {declared other : DeclaredTypes} {owner otherOwner : TypeDecl}
    {field otherField : FieldDecl} {kind edited : AccessorKind} {name : String}
    (hsame : declared.SameButFields other) (howners : owner.id = otherOwner.id)
    (hedit : field.EditedAt edited.key otherField) (hne : kind ≠ edited)
    (hchosen : ChosenAccessor declared owner field kind name) :
    ChosenAccessor other otherOwner otherField kind name := by
  have hkeys : edited.key ≠ kind.key := fun hkey => hne (AccessorKind.key_injective hkey).symm
  have hstated : field.stated? kind.key = otherField.stated? kind.key :=
    hedit.stated?_eq kind.slash_notMem_key hkeys
  have hnames : field.relationName = otherField.relationName :=
    hedit.relationName_eq (by cases edited <;> decide)
  have hreferences : field.relatedReference = otherField.relatedReference :=
    hedit.relatedReference_eq (by cases edited <;> decide)
  have hmethods : declared.methods owner.id = other.methods otherOwner.id := by
    rw [hsame.methods_eq, howners]
  cases hchosen with
  | stated hname => exact .stated (hstated ▸ hname)
  | ofRelated hsilent hrelated hfirst =>
      obtain ⟨counterpart, hfound, -, hsameMethods⟩ := hsame.exists_of_resolve? hrelated
      rw [hreferences] at hfound
      rw [← hsameMethods, hnames] at hfirst
      exact .ofRelated (hstated ▸ hsilent) hfound hfirst
  | ofOwner hsilent hrelated hfirst =>
      rw [hmethods, hnames] at hfirst
      refine .ofOwner (hstated ▸ hsilent) (fun related hfound => ?_) hfirst
      obtain ⟨counterpart, hcounterpart, hid, hsameMethods⟩ :=
        hsame.symm.exists_of_resolve? (hreferences ▸ hfound)
      obtain ⟨hother, hlacks⟩ := hrelated counterpart hcounterpart
      rw [hid, howners] at hother
      rw [hsameMethods, hnames] at hlacks
      exact ⟨hother, hlacks⟩
  | conventional hsilent hrelated howner =>
      rw [hmethods, hnames] at howner
      rw [hnames]
      refine .conventional (hstated ▸ hsilent) (fun related hfound => ?_) howner
      obtain ⟨counterpart, hcounterpart, -, hsameMethods⟩ :=
        hsame.symm.exists_of_resolve? (hreferences ▸ hfound)
      have hlacks := hrelated counterpart hcounterpart
      rw [hsameMethods, hnames] at hlacks
      exact hlacks

/-! ## The accessors of a relation -/

theorem slot_eq_iff {declared : DeclaredTypes} {owner : TypeDecl} {field : FieldDecl}
    {settings : Settings} {relation : Relation}
    (hrelation : field.relation? declared settings owner = some relation) (kind : AccessorKind)
    (name : String) :
    relation.accessors.slot kind = name ↔ ChosenAccessor declared owner field kind name := by
  obtain ⟨source, hdetect, rfl⟩ := Option.map_eq_some_iff.mp hrelation
  rw [← RelationField.accessor_eq_iff hdetect]
  exact Eq.congr_left (Accessors.slot_ofSlots _ kind)

/--
Every slot of a relation holds what is chosen for it.  Whoever changes what the marker on the
field states for one slot changes no other slot, and a method of the related type that is the
first one marked for the relation fills all slots that it lists and the field does not state.
-/
theorem accessors_of_relation {declared : DeclaredTypes} {owner : TypeDecl} {field : FieldDecl}
    {settings : Settings} {relation : Relation}
    (hrelation : field.relation? declared settings owner = some relation) :
    (∀ kind name, relation.accessors.slot kind = name ↔
        ChosenAccessor declared owner field kind name) ∧
      (∀ other otherOwner otherField otherSettings otherRelation edited,
        declared.SameButFields other → owner.id = otherOwner.id →
        field.EditedAt (AccessorKind.key edited) otherField →
        otherField.relation? other otherSettings otherOwner = some otherRelation →
        ∀ kind, kind ≠ edited →
          otherRelation.accessors.slot kind = relation.accessors.slot kind) ∧
      ∀ related before method after,
        declared.resolve? field.relatedReference = some related →
        related.methods = before ++ method :: after →
        (∀ earlier ∈ before, ∀ kind, ¬ earlier.Fills field.relationName kind) →
        ∀ kind, method.Fills field.relationName kind → field.stated? kind.key = none →
          relation.accessors.slot kind = method.name := by
  refine ⟨slot_eq_iff hrelation, ?_, ?_⟩
  · intro other otherOwner otherField otherSettings otherRelation edited hsame howners hedit
      hother kind hne
    rw [slot_eq_iff hother]
    exact ((slot_eq_iff hrelation kind _).mp rfl).of_edit hsame howners hedit hne
  · intro related before method after hfound hmethods hbefore kind hfills hsilent
    have hfirst : FirstFills related.methods field.relationName kind method.name :=
      ⟨before, method, after, hmethods, hfills, fun earlier hearlier =>
        hbefore earlier hearlier kind, rfl⟩
    exact (slot_eq_iff hrelation kind _).mpr (.ofRelated hsilent hfound hfirst)

namespace LinkedThings

def things (stated : List (String × Json)) : FieldDecl :=
  ⟨"things", "List<shop.Thing>", [⟨"Relation", stated⟩]⟩

def order (stated : List (String × Json)) : TypeDecl :=
  ⟨"shop.Order", [], [things stated], []⟩

def linkMarker : Marker :=
  ⟨"RelationAccessor",
    [("name", .string "things"), ("type", .array [.string "ADD", .string "AccessorType.REMOVE"])]⟩

def countThings : MethodDecl :=
  ⟨"count", some "i64", []⟩

def linkThing : MethodDecl :=
  ⟨"linkThing", none, [linkMarker]⟩

def thing : TypeDecl :=
  ⟨"shop.Thing", [], [], [countThings, linkThing]⟩

def declared (stated : List (String × Json)) : DeclaredTypes :=
  ⟨[order stated, thing]⟩

def fetching : List (String × Json) :=
  [("get", .string " fetchThings ")]

theorem accessors_of_things :
    ∃ relation other,
      (things fetching).relation? (declared fetching) .default (order fetching) = some relation ∧
      (things []).relation? (declared []) .default (order []) = some other ∧
      relation.accessors = ⟨"fetchThings", "setThings", "linkThing", "linkThing"⟩ ∧
      other.accessors.get = "getThings" ∧
      (∀ kind, kind ≠ .get → other.accessors.slot kind = relation.accessors.slot kind) ∧
      (∀ kind ∈ [AccessorKind.add, .remove],
        relation.accessors.slot kind = linkThing.name) := by
  obtain ⟨relation, hrelation⟩ : ∃ relation,
      (things fetching).relation? (declared fetching) .default (order fetching) = some relation :=
    Option.isSome_iff_exists.mp (by decide +kernel)
  obtain ⟨other, hother⟩ : ∃ other,
      (things []).relation? (declared []) .default (order []) = some other :=
    Option.isSome_iff_exists.mp (by decide +kernel)
  obtain ⟨-, hindependent, hseveral⟩ := accessors_of_relation hrelation
  have haccessors : ((things fetching).relation? (declared fetching) .default
      (order fetching)).map Relation.accessors =
        some ⟨"fetchThings", "setThings", "linkThing", "linkThing"⟩ := by
    decide +kernel
  have hget : ((things []).relation? (declared []) .default (order [])).map
      (fun relation => relation.accessors.get) = some "getThings" := by
    decide +kernel
  rw [hrelation] at haccessors
  rw [hother] at hget
  refine ⟨relation, other, hrelation, hother, Option.some.inj haccessors, Option.some.inj hget,
    ?_, ?_⟩
  · have hedit : (things fetching).EditedAt "get" (things []) :=
      ⟨rfl, rfl, [], _, _, [], rfl, rfl, nofun, rfl, rfl, rfl⟩
    exact hindependent (declared []) (order []) (things []) .default other .get rfl rfl hedit
      hother
  · have hname : (things fetching).relationName = "things" := by decide +kernel
    have hreference : (things fetching).relatedReference = "shop.Thing" := by decide +kernel
    rw [hname, hreference] at hseveral
    have hunmarked : ∀ earlier ∈ [countThings], ∀ kind, ¬ earlier.Fills "things" kind := by
      rintro _ hcount kind ⟨marker, hmarker, -⟩
      obtain rfl := List.mem_singleton.mp hcount
      cases hmarker
    have hfills := hseveral thing [countThings] linkThing [] rfl rfl hunmarked
    have hadd : linkThing.Fills "things" .add :=
      ⟨linkMarker, rfl, by decide +kernel, "ADD", by decide +kernel, by decide +kernel⟩
    have hremove : linkThing.Fills "things" .remove :=
      ⟨linkMarker, rfl, by decide +kernel, "AccessorType.REMOVE", by decide +kernel,
        by decide +kernel⟩
    simp only [List.forall_mem_cons]
    exact ⟨hfills .add hadd (by decide +kernel), hfills .remove hremove (by decide +kernel), nofun⟩

end LinkedThings

end ApiSurface
