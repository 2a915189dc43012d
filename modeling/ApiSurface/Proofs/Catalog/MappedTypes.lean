import ApiSurface.Catalog.DeclaredTypes

/-!
# Lookups in rewritten catalogs

Types are looked up by their ids.  So if every declaration of a catalog is rewritten and keeps
its id, a lookup finds the rewritten form of what it found before.
-/

namespace ApiSurface.DeclaredTypes

open Naming

def mapTypes (rewrite : TypeDecl → TypeDecl) (declared : DeclaredTypes) : DeclaredTypes :=
  ⟨declared.types.map rewrite⟩

variable {rewrite : TypeDecl → TypeDecl} (hid : ∀ type, (rewrite type).id = type.id)
  (declared : DeclaredTypes)

include hid

theorem named?_mapTypes (id : String) :
    (declared.mapTypes rewrite).named? id = (declared.named? id).map rewrite := by
  simp only [named?, mapTypes, List.find?_map, Function.comp_def, hid]

theorem withSimpleName_mapTypes (name : String) :
    (declared.mapTypes rewrite).withSimpleName name =
      (declared.withSimpleName name).map rewrite := by
  simp only [withSimpleName, mapTypes, List.filter_map, Function.comp_def, hid]

theorem resolve?_mapTypes (reference : String) :
    (declared.mapTypes rewrite).resolve? reference =
      (declared.resolve? reference).map rewrite := by
  simp only [resolve?, named?_mapTypes hid, withSimpleName_mapTypes hid]
  cases declared.named? reference with
  | some type => rfl
  | none =>
      simp only [Option.map_none]
      split
      · rfl
      · rcases declared.withSimpleName reference with _ | ⟨only, _ | ⟨second, rest⟩⟩ <;> rfl

theorem shape_mapTypes (resource reference : String) :
    (declared.mapTypes rewrite).shape resource reference = declared.shape resource reference := by
  simp only [shape, named?_mapTypes hid, withSimpleName_mapTypes hid, Option.isSome_map]
  split
  · rfl
  · rcases declared.withSimpleName reference with _ | ⟨only, _ | ⟨second, rest⟩⟩
    · rfl
    · simp only [List.map_cons, List.map_nil, hid]
    · simp only [List.map_cons, hid, List.map_map, Function.comp_def]

theorem methods_mapTypes (hmethods : ∀ type, (rewrite type).methods = type.methods)
    (id : String) : (declared.mapTypes rewrite).methods id = declared.methods id := by
  rw [methods, methods, named?_mapTypes hid]
  cases declared.named? id with
  | none => rfl
  | some type => exact hmethods type

theorem fields_mapTypes {rewriteField : FieldDecl → FieldDecl}
    (hfields : ∀ type, (rewrite type).fields = type.fields.map rewriteField) (id : String) :
    (declared.mapTypes rewrite).fields id = (declared.fields id).map rewriteField := by
  rw [fields, fields, named?_mapTypes hid]
  cases declared.named? id with
  | none => rfl
  | some type => exact hfields type

end ApiSurface.DeclaredTypes
