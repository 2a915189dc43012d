import ApiSurface.Proofs.Catalog.FlatValues
import ApiSurface.Resource.Identifier

/-!
# How a type is identified

The first field that is marked as the identifier gives its type and its name.  A field that is
called `id`, in whatever capitals, has the name `id` itself; the accessor is the first method that
is marked as reading the identifier of this name, or the getter that is called after it
(`identifier_of_markedField`).
-/

namespace ApiSurface

/-! ## Fields -/

def FieldDecl.identifierName (field : FieldDecl) : String :=
  if Text.equalsIgnoringCase field.name "id" then "id" else field.name

namespace Identifier

theorem getter_of_default : default.accessor = "get" ++ Naming.capitalize default.name := by
  decide +kernel

theorem ofField_eq (field : FieldDecl) :
    ofField field =
      ⟨field.type, field.identifierName, "get" ++ Naming.capitalize field.identifierName⟩ := by
  by_cases hid : Text.equalsIgnoringCase field.name "id" = true
  · have hname : field.identifierName = default.name := if_pos hid
    have hfield : ofField field = { default with type := field.type } := if_pos hid
    rw [hname, hfield, ← getter_of_default]
  · have hname : field.identifierName = field.name := if_neg hid
    have hfield : ofField field = ⟨field.type, field.name, "get" ++ Naming.capitalize field.name⟩ :=
      if_neg hid
    rw [hname, hfield]

theorem markedField?_eq_some {declared : DeclaredTypes} {type : TypeDecl}
    {before after : List FieldDecl} {field : FieldDecl}
    (hfields : declared.fields type.id = before ++ field :: after)
    (hmarked : Marker.isPresent "Id" field.markers = true)
    (hfirst : ∀ earlier ∈ before, Marker.isPresent "Id" earlier.markers = false) :
    markedField? declared type = some field := by
  rw [markedField?, List.find?_eq_some_iff_append]
  exact ⟨hmarked, before, after, hfields, by simpa using hfirst⟩

end Identifier

/-! ## Methods -/

/-- The first accessor marker on the method names the identifier; without a name it means `id`. -/
def MethodDecl.Reads (method : MethodDecl) (name : String) : Prop :=
  ∃ marker, Marker.find? "IdAccessor" method.markers = some marker ∧
    (marker.text? "name").getD "id" = name

def FirstReads (methods : List MethodDecl) (name accessor : String) : Prop :=
  ∃ before method after, methods = before ++ method :: after ∧ method.Reads name ∧
    (∀ earlier ∈ before, ¬ earlier.Reads name) ∧ method.name = accessor

namespace Identifier

theorem isAccessorOf_iff {type : TypeDecl} {name : String} {method : MethodDecl} :
    isAccessorOf type name method = true ↔ method.Reads name := by
  have hmarkers : (Member.method type method).markers = method.markers := rfl
  simp only [isAccessorOf, hmarkers, MethodDecl.Reads]
  cases Marker.find? "IdAccessor" method.markers with
  | none => simp
  | some marker => simp [Marker.text?_valuesAt, default]

theorem firstReads_of_find? {type : TypeDecl} {name : String} {methods : List MethodDecl}
    {method : MethodDecl} (hfind : methods.find? (isAccessorOf type name) = some method) :
    FirstReads methods name method.name := by
  obtain ⟨hreads, before, after, hsplit, hbefore⟩ := List.find?_eq_some_iff_append.mp hfind
  refine ⟨before, method, after, hsplit, isAccessorOf_iff.mp hreads, ?_, rfl⟩
  intro earlier hearlier hreads
  have hother := hbefore earlier hearlier
  rw [isAccessorOf_iff.mpr hreads] at hother
  cases hother

theorem not_reads_of_find? {type : TypeDecl} {name : String} {methods : List MethodDecl}
    (hfind : methods.find? (isAccessorOf type name) = none) :
    ∀ method ∈ methods, ¬ method.Reads name := by
  intro method hmethod hreads
  exact List.find?_eq_none.mp hfind method hmethod (isAccessorOf_iff.mpr hreads)

end Identifier

/-! ## The identifier -/

/--
A type whose first marked field is known has an identifier with the type of the field.  Its
accessor is the first method marked for the name of the identifier, or the getter of this name if
there is no such method.
-/
theorem identifier_of_markedField {declared : DeclaredTypes} {type : TypeDecl}
    {before after : List FieldDecl} {field : FieldDecl}
    (hfields : declared.fields type.id = before ++ field :: after)
    (hmarked : Marker.isPresent "Id" field.markers = true)
    (hfirst : ∀ earlier ∈ before, Marker.isPresent "Id" earlier.markers = false) :
    ∃ identifier, Identifier.resolve? declared type = some identifier ∧
      identifier.type = field.type ∧ identifier.name = field.identifierName ∧
      (FirstReads (declared.methods type.id) field.identifierName identifier.accessor ∨
        (∀ method ∈ declared.methods type.id, ¬ method.Reads field.identifierName) ∧
          identifier.accessor = "get" ++ Naming.capitalize field.identifierName) := by
  have hfield := Identifier.markedField?_eq_some hfields hmarked hfirst
  have hidentifier : (some field).elim Identifier.default Identifier.ofField =
      Identifier.ofField field := rfl
  rw [Identifier.resolve?, hfield]
  simp only [hidentifier, Identifier.ofField_eq]
  cases hfind : (declared.methods type.id).find?
      (Identifier.isAccessorOf type field.identifierName) with
  | some method => exact ⟨_, rfl, rfl, rfl, .inl (Identifier.firstReads_of_find? hfind)⟩
  | none => exact ⟨_, rfl, rfl, rfl, .inr ⟨Identifier.not_reads_of_find? hfind, rfl⟩⟩

def identifierField (name type : String) : FieldDecl :=
  ⟨name, type, [⟨"Id", []⟩]⟩

def readerMethod (name identifier : String) : MethodDecl :=
  ⟨name, none, [⟨"IdAccessor", [("name", .string identifier)]⟩]⟩

def badge : TypeDecl :=
  ⟨"staff.Badge", [], [⟨"note", "String", []⟩, identifierField "code" "String"],
    [⟨"badgeId", none, [⟨"IdAccessor", []⟩]⟩, readerMethod "badgeCode" "code"]⟩

theorem badge_identifier :
    let declared : DeclaredTypes := ⟨[badge]⟩
    declared.fields badge.id = [⟨"note", "String", []⟩] ++ identifierField "code" "String" :: [] ∧
      Marker.isPresent "Id" (identifierField "code" "String").markers = true ∧
      (∀ earlier ∈ [FieldDecl.mk "note" "String" []],
        Marker.isPresent "Id" earlier.markers = false) ∧
      Identifier.resolve? declared badge = some ⟨"String", "code", "badgeCode"⟩ ∧
      FirstReads (declared.methods badge.id) "code" "badgeCode" := by
  intro declared
  have hfields : declared.fields badge.id =
      [⟨"note", "String", []⟩] ++ identifierField "code" "String" :: [] := by rfl
  have hmarked : Marker.isPresent "Id" (identifierField "code" "String").markers = true := by
    decide
  have hfirst : ∀ earlier ∈ [FieldDecl.mk "note" "String" []],
      Marker.isPresent "Id" earlier.markers = false := by decide
  have hresolve : Identifier.resolve? declared badge = some ⟨"String", "code", "badgeCode"⟩ := by
    decide +kernel
  obtain ⟨identifier, hidentifier, -, -, haccessor⟩ :=
    identifier_of_markedField hfields hmarked hfirst
  rw [hresolve] at hidentifier
  cases hidentifier
  refine ⟨hfields, hmarked, hfirst, hresolve, ?_⟩
  rcases haccessor with hreads | ⟨-, hgetter⟩
  · exact hreads
  · exact absurd hgetter (by decide +kernel)

def badgeWith (name reader : String) : TypeDecl :=
  ⟨"staff.Badge", [], [identifierField name "i64"], [readerMethod reader name]⟩

/-- A field `ID` is an identifier `id`, which a method marked for `ID` does not read; and no
marker gives a name that begins with white space. -/
theorem capitalBadge_identifier :
    let declared : DeclaredTypes := ⟨[badgeWith "ID" "readID"]⟩
    let spaced : DeclaredTypes := ⟨[badgeWith " code" "readCode"]⟩
    declared.fields "staff.Badge" = [identifierField "ID" "i64"] ∧
      Marker.isPresent "Id" (identifierField "ID" "i64").markers = true ∧
      FirstReads (declared.methods "staff.Badge") "ID" "readID" ∧
      Identifier.resolve? declared (badgeWith "ID" "readID") = some ⟨"i64", "id", "getId"⟩ ∧
      Identifier.resolve? spaced (badgeWith " code" "readCode") =
        some ⟨"i64", " code", "get code"⟩ := by
  intro declared spaced
  have hreads : (readerMethod "readID" "ID").Reads "ID" :=
    ⟨⟨"IdAccessor", [("name", .string "ID")]⟩, rfl, by decide +kernel⟩
  have hfirst : FirstReads (declared.methods "staff.Badge") "ID" "readID" :=
    ⟨[], readerMethod "readID" "ID", [], rfl, hreads, by simp, rfl⟩
  exact ⟨rfl, by decide, hfirst, by decide +kernel, by decide +kernel⟩

end ApiSurface
