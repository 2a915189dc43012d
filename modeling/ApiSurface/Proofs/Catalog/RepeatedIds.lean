import ApiSurface.Proofs.Resource.Refusal

/-!
# Declarations with an id that is taken

Of two declarations with one id the first is meant, so a declaration whose id is taken changes
nothing that is found by an id.  But simple names are counted over all declarations: once an id is
repeated, its simple name is the name of several declarations and stands for none of them
(`lookups_append`).
-/

namespace ApiSurface

open Naming

theorem exists_many_of_ne_nil {α : Type} {items : List α} (hitems : items ≠ []) (last : α) :
    ∃ first second rest, items ++ [last] = first :: second :: rest := by
  rcases items with _ | ⟨first, _ | ⟨second, rest⟩⟩
  · exact absurd rfl hitems
  · exact ⟨first, last, [], rfl⟩
  · exact ⟨first, second, rest ++ [last], rfl⟩

namespace DeclaredTypes

def append (declared : DeclaredTypes) (again : TypeDecl) : DeclaredTypes :=
  ⟨declared.types ++ [again]⟩

def Repeats (declared : DeclaredTypes) (again : TypeDecl) : Prop :=
  ∃ type ∈ declared.types, type.id = again.id

/-- The reference is no id but a simple name, and that of the declaration. -/
def refersByName (declared : DeclaredTypes) (again : TypeDecl) (reference : String) : Bool :=
  !(isQualified reference || (declared.named? reference).isSome) &&
    simpleName again.id == reference

section

variable {declared : DeclaredTypes} {again : TypeDecl} {name : String}

/-! ## The two lookups -/

theorem withSimpleName_append_of_ne (hother : simpleName again.id ≠ name) :
    (declared.append again).withSimpleName name = declared.withSimpleName name := by
  simp [withSimpleName, append, hother]

theorem withSimpleName_append_of_eq (hname : simpleName again.id = name) :
    (declared.append again).withSimpleName name = declared.withSimpleName name ++ [again] := by
  simp [withSimpleName, append, hname]

variable (hrepeats : declared.Repeats again)

include hrepeats

theorem named?_append (id : String) :
    (declared.append again).named? id = declared.named? id := by
  rw [named?, append, List.find?_append]
  cases hnamed : declared.types.find? (fun type => type.id == id) with
  | some found => rw [named?, hnamed, Option.some_or]
  | none =>
      -- the id of the new declaration would be found before it
      obtain ⟨type, htype, hid⟩ := hrepeats
      have hother : again.id ≠ id := by
        rw [← hid]
        simpa using List.find?_eq_none.mp hnamed type htype
      simp [named?, hnamed, hother]

theorem exists_mem_withSimpleName (hname : simpleName again.id = name) :
    ∃ type ∈ declared.withSimpleName name, type.id = again.id := by
  obtain ⟨type, htype, hid⟩ := hrepeats
  exact ⟨type, List.mem_filter.mpr ⟨htype, by simp [hid, hname]⟩, hid⟩

theorem exists_many_of_append (hname : simpleName again.id = name) :
    ∃ first second rest,
      (declared.append again).withSimpleName name = first :: second :: rest := by
  obtain ⟨type, htype, -⟩ := exists_mem_withSimpleName hrepeats hname
  rw [withSimpleName_append_of_eq hname]
  exact exists_many_of_ne_nil (List.ne_nil_of_mem htype) again

/-! ## References -/

theorem resolve?_append (reference : String) :
    (declared.append again).resolve? reference =
      if declared.refersByName again reference then none else declared.resolve? reference := by
  rw [resolve?, resolve?, named?_append hrepeats]
  by_cases hname : simpleName again.id = reference
  · cases hnamed : declared.named? reference with
    | some found => simp [refersByName, hnamed]
    | none =>
        obtain ⟨_, _, _, hmany⟩ := exists_many_of_append hrepeats hname
        cases hqualified : isQualified reference <;>
          simp [refersByName, hnamed, hname, hqualified, hmany]
  · simp [refersByName, hname, withSimpleName_append_of_ne hname]

theorem shape_append (resource reference : String) :
    (declared.append again).shape resource reference =
      if declared.refersByName again reference then
        .error (.ambiguousDto resource reference
          ((declared.withSimpleName reference).map TypeDecl.id ++ [again.id]))
      else declared.shape resource reference := by
  rw [shape, shape, named?_append hrepeats]
  by_cases hname : simpleName again.id = reference
  · cases hknown : isQualified reference || (declared.named? reference).isSome with
    | true => simp [refersByName, hknown]
    | false =>
        obtain ⟨first, second, rest, hmany⟩ := exists_many_of_append hrepeats hname
        have hids : (declared.withSimpleName reference).map TypeDecl.id ++ [again.id] =
            (first :: second :: rest).map TypeDecl.id := by
          rw [← hmany, withSimpleName_append_of_eq hname, List.map_append, List.map_singleton]
        simp [refersByName, hknown, hname, hmany, hids]
  · simp [refersByName, hname, withSimpleName_append_of_ne hname]

end

end DeclaredTypes

/-! ## Data transfer objects -/

namespace RelationField

def dtoName (settings : Settings) (type : String) : String :=
  normalizeEntityName (simpleName type) settings.entitySuffixes ++ settings.dtoSuffix

def inDtoNamespace (settings : Settings) (candidate : TypeDecl) : Bool :=
  match settings.dtoNamespace with
  | none => true
  | some space => space.toList.isPrefixOf candidate.id.toList

theorem inDtoNamespace_congr (settings : Settings) {candidate other : TypeDecl}
    (hid : candidate.id = other.id) :
    inDtoNamespace settings candidate = inDtoNamespace settings other := by
  rw [inDtoNamespace, inDtoNamespace, hid]

theorem discoverDto_eq (declared : DeclaredTypes) (settings : Settings) (type : String) :
    discoverDto declared settings type =
      match (declared.withSimpleName (dtoName settings type)).filter (inDtoNamespace settings) with
      | [only] => only.id
      | _ => type :=
  rfl

theorem discoverDto_append {declared : DeclaredTypes} {again : TypeDecl}
    (hrepeats : declared.Repeats again) (settings : Settings) (type : String) :
    discoverDto (declared.append again) settings type =
      if simpleName again.id = dtoName settings type ∧ inDtoNamespace settings again then type
      else discoverDto declared settings type := by
  rw [discoverDto_eq, discoverDto_eq]
  by_cases hname : simpleName again.id = dtoName settings type
  · rw [DeclaredTypes.withSimpleName_append_of_eq hname, List.filter_append,
      List.filter_singleton]
    cases hspace : inDtoNamespace settings again with
    | false => simp
    | true =>
        obtain ⟨first, hfirst, hid⟩ := DeclaredTypes.exists_mem_withSimpleName hrepeats hname
        have hkept : first ∈ (declared.withSimpleName (dtoName settings type)).filter
            (inDtoNamespace settings) :=
          List.mem_filter.mpr ⟨hfirst, (inDtoNamespace_congr settings hid).trans hspace⟩
        obtain ⟨_, _, _, hmany⟩ := exists_many_of_ne_nil (List.ne_nil_of_mem hkept) again
        simp [hname, hmany]
  · rw [DeclaredTypes.withSimpleName_append_of_ne hname]
    simp [hname]

end RelationField

/-! ## All lookups -/

/--
A declaration with an id that is taken changes nothing that is found by an id.  References by its
simple name are the only ones that change: they mean no type, are refused as ambiguous, and find
no data transfer object, also where they had one meaning before.
-/
theorem lookups_append (declared : DeclaredTypes) (again : TypeDecl)
    (hrepeats : declared.Repeats again) :
    let later := declared.append again
    (∀ id, later.named? id = declared.named? id ∧ later.fields id = declared.fields id ∧
        later.methods id = declared.methods id) ∧
      (∀ reference, later.resolve? reference =
        if declared.refersByName again reference then none else declared.resolve? reference) ∧
      (∀ resource reference, later.shape resource reference =
        if declared.refersByName again reference then
          .error (.ambiguousDto resource reference
            ((declared.withSimpleName reference).map TypeDecl.id ++ [again.id]))
        else declared.shape resource reference) ∧
      ∀ settings type, RelationField.discoverDto later settings type =
        if simpleName again.id = RelationField.dtoName settings type ∧
            RelationField.inDtoNamespace settings again then type
        else RelationField.discoverDto declared settings type := by
  intro later
  have hnamed (id : String) : later.named? id = declared.named? id :=
    DeclaredTypes.named?_append hrepeats id
  refine ⟨fun id => ⟨hnamed id, ?_, ?_⟩, DeclaredTypes.resolve?_append hrepeats,
    DeclaredTypes.shape_append hrepeats, RelationField.discoverDto_append hrepeats⟩
  · rw [DeclaredTypes.fields, DeclaredTypes.fields, hnamed]
  · rw [DeclaredTypes.methods, DeclaredTypes.methods, hnamed]

def orderDto : TypeDecl :=
  .bare "shop.dto.OrderDto"

def dtoTypes : DeclaredTypes :=
  ⟨[.bare "shop.Order", orderDto]⟩

theorem dtoTypes_append :
    dtoTypes.Repeats orderDto ∧
      let later := dtoTypes.append orderDto
      later.resolve? "shop.dto.OrderDto" = dtoTypes.resolve? "shop.dto.OrderDto" ∧
        later.resolve? "Order" = dtoTypes.resolve? "Order" ∧
        later.resolve? "OrderDto" = none := by
  have hrepeats : dtoTypes.Repeats orderDto := ⟨orderDto, by simp [dtoTypes], rfl⟩
  obtain ⟨-, hresolve, -, -⟩ := lookups_append dtoTypes orderDto hrepeats
  have hid : dtoTypes.refersByName orderDto "shop.dto.OrderDto" = false := by decide +kernel
  have hother : dtoTypes.refersByName orderDto "Order" = false := by decide +kernel
  have hname : dtoTypes.refersByName orderDto "OrderDto" = true := by decide +kernel
  refine ⟨hrepeats, ?_, ?_, ?_⟩
  · simp [hresolve, hid]
  · simp [hresolve, hother]
  · simp [hresolve, hname]

/-- By its simple name the object is found if it is declared once, and not if it is declared
twice. -/
theorem dtoTypes_name_lost :
    dtoTypes.Repeats orderDto ∧
      let later := dtoTypes.append orderDto
      ((dtoTypes.resolve? "OrderDto").map TypeDecl.id = some "shop.dto.OrderDto" ∧
          (later.resolve? "OrderDto").map TypeDecl.id = none) ∧
        (dtoTypes.shape "shop.OrderController" "OrderDto" = .ok "shop.dto.OrderDto" ∧
          later.shape "shop.OrderController" "OrderDto" =
            .error (.ambiguousDto "shop.OrderController" "OrderDto"
              ["shop.dto.OrderDto", "shop.dto.OrderDto"])) ∧
        RelationField.discoverDto dtoTypes .default "shop.Order" = "shop.dto.OrderDto" ∧
        RelationField.discoverDto later .default "shop.Order" = "shop.Order" := by
  refine ⟨⟨orderDto, by simp [dtoTypes], rfl⟩, ?_⟩
  decide +kernel

end ApiSurface
