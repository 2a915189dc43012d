import ApiSurface.Proofs.Operation.Names
import Mathlib.Data.List.Flatten

/-!
# Where operations answer

Every path is the base path of the resource with something behind it: nothing, `/{id}`, `/search`,
or `/{id}/`, the name of a relation, and for single related values `/{relationId}`.  What is behind
the base path can be compared on its own, and a name without a slash ends where the next slash
begins, so it can be read off.  `endpoints_nodup` concludes that no route has two operations.
-/

namespace ApiSurface

def Operation.routes (operation : Operation) : List (Verb × String) :=
  operation.endpoint.verbs.map (·, operation.path)

/-! ## Behind the base path -/

def itemSuffix : String :=
  "/\x7bid\x7d"

def resourceRoutes : List (Verb × String) :=
  [(.post, ""), (.get, itemSuffix), (.patch, itemSuffix), (.put, itemSuffix),
    (.delete, itemSuffix), (.get, ""), (.get, "/search")]

namespace Relation

def valueTail : String :=
  "/\x7brelationId\x7d"

def routeTails : Cardinality → List (Verb × String)
  | .single => (.get, "") :: (writeVerbs.map (·, "") ++ [(.delete, "")])
  | .multiple =>
      (.get, "") :: (writeVerbs.map (·, "") ++ writeVerbs.map (·, valueTail) ++
        [(.delete, ""), (.delete, valueTail)])

def routeSuffix (relation : Relation) (tail : String) : String :=
  itemSuffix ++ "/" ++ relation.name ++ tail

def routes (relation : Relation) : List (Verb × String) :=
  (routeTails relation.cardinality).map fun (verb, tail) => (verb, relation.routeSuffix tail)

/-! ## Telling suffixes apart -/

theorem tail_of_mem_routeTails {cardinality : Cardinality} {verb : Verb} {tail : String}
    (htail : (verb, tail) ∈ routeTails cardinality) : tail = "" ∨ tail = valueTail := by
  cases cardinality <;> simp only [routeTails, writeVerbs] at htail <;> grind

theorem takeWhile_name_append {name tail : String} (hname : '/' ∉ name.toList)
    (htail : tail = "" ∨ tail = valueTail) :
    ((name ++ tail).toList.takeWhile fun c => c != '/') = name.toList := by
  have hall : ∀ c ∈ name.toList, (c != '/') = true := by
    intro c hc
    rw [bne_iff_ne]
    rintro rfl
    exact hname hc
  have hnone : (tail.toList.takeWhile fun c => c != '/') = [] := by
    rcases htail with rfl | rfl <;> rfl
  rw [String.toList_append, List.takeWhile_append_of_pos hall, hnone, List.append_nil]

theorem routeSuffix_inj {relation other : Relation} {tail tail' : String}
    (heq : relation.routeSuffix tail = other.routeSuffix tail') :
    (relation.name ++ tail).toList = (other.name ++ tail').toList := by
  have hchars := congrArg String.toList heq
  simpa [routeSuffix] using hchars

theorem name_eq_of_routeSuffix_eq {relation other : Relation} {tail tail' : String}
    (hname : '/' ∉ relation.name.toList) (hother : '/' ∉ other.name.toList)
    (htail : tail = "" ∨ tail = valueTail) (htail' : tail' = "" ∨ tail' = valueTail)
    (heq : relation.routeSuffix tail = other.routeSuffix tail') : relation.name = other.name := by
  have hnames := congrArg (List.takeWhile fun c => c != '/') (routeSuffix_inj heq)
  rw [takeWhile_name_append hname htail, takeWhile_name_append hother htail'] at hnames
  exact String.toList_inj.mp hnames

theorem routes_nodup (relation : Relation) : relation.routes.Nodup := by
  have htails : (routeTails relation.cardinality).Nodup := by
    cases relation.cardinality <;> decide
  refine htails.map ?_
  rintro ⟨verb, tail⟩ ⟨verb', tail'⟩ heq
  obtain ⟨rfl, hsuffix⟩ := Prod.mk.inj heq
  have htail := routeSuffix_inj hsuffix
  simp only [String.toList_append, List.append_cancel_left_eq, String.toList_inj] at htail
  rw [htail]

theorem routes_disjoint {relation other : Relation} (hname : '/' ∉ relation.name.toList)
    (hother : '/' ∉ other.name.toList) (hdiffers : relation.name ≠ other.name) :
    ∀ route ∈ relation.routes, ∀ route' ∈ other.routes, route ≠ route' := by
  intro route hroute route' hroute' heq
  obtain ⟨⟨verb, tail⟩, htail, rfl⟩ := List.mem_map.mp hroute
  obtain ⟨⟨verb', tail'⟩, htail', rfl⟩ := List.mem_map.mp hroute'
  exact hdiffers (name_eq_of_routeSuffix_eq hname hother (tail_of_mem_routeTails htail)
    (tail_of_mem_routeTails htail') (Prod.mk.inj heq).2)

/-- Operations on a resource have no slash behind `/{id}`. -/
theorem routeSuffix_notMem_resourceRoutes (relation : Relation) (verb : Verb) (tail : String) :
    (verb, relation.routeSuffix tail) ∉ resourceRoutes := by
  simp [resourceRoutes, routeSuffix, itemSuffix, ← String.toList_inj]

end Relation

/-! ## The routes of all operations -/

theorem behindBase_nodup {relations : List Relation}
    (hnames : (relations.map Relation.name).Nodup)
    (hslash : ∀ relation ∈ relations, '/' ∉ relation.name.toList) :
    (resourceRoutes ++ relations.flatMap Relation.routes).Nodup := by
  rw [List.nodup_append]
  refine ⟨by decide, ?_, ?_⟩
  · rw [List.Nodup, List.pairwise_map] at hnames
    rw [List.Nodup, List.pairwise_flatMap]
    refine ⟨fun relation _ => relation.routes_nodup, hnames.imp_of_mem ?_⟩
    intro relation other hrelation hother hdiffers
    exact Relation.routes_disjoint (hslash relation hrelation) (hslash other hother) hdiffers
  · intro route hroute route' hroute' heq
    subst heq
    obtain ⟨relation, -, hroute'⟩ := List.mem_flatMap.mp hroute'
    obtain ⟨⟨verb, tail⟩, -, rfl⟩ := List.mem_map.mp hroute'
    exact relation.routeSuffix_notMem_resourceRoutes verb tail hroute

namespace ResourceConfiguration

def mount (config : ResourceConfiguration) (route : Verb × String) : Verb × String :=
  (route.1, config.basePath ++ route.2)

theorem mount_injective (config : ResourceConfiguration) : Function.Injective config.mount := by
  rintro ⟨verb, suffix⟩ ⟨verb', suffix'⟩ heq
  obtain ⟨rfl, hpath⟩ := Prod.mk.inj heq
  have hchars := congrArg String.toList hpath
  simp only [String.toList_append, List.append_cancel_left_eq, String.toList_inj] at hchars
  rw [hchars]

theorem routes_resourceContributions (config : ResourceConfiguration) :
    (config.withRoutes .empty).resourceContributions.flatMap Operation.routes =
      resourceRoutes.map config.mount := by
  simp [resourceContributions_withoutRoutes, resourceRoutes, mount, Operation.routes,
    Operation.path, operation, itemPath, searchPath, itemSuffix]

theorem relationPath_eq (config : ResourceConfiguration) (relation : Relation) :
    config.relationPath relation = config.basePath ++ relation.routeSuffix "" := by
  simp [← String.toList_inj, relationPath, itemPath, Relation.routeSuffix, itemSuffix]

theorem relationItemPath_eq (config : ResourceConfiguration) (relation : Relation) :
    config.relationItemPath relation =
      config.basePath ++ relation.routeSuffix Relation.valueTail := by
  simp [← String.toList_inj, relationItemPath, relationPath, itemPath, Relation.routeSuffix,
    itemSuffix, Relation.valueTail]

theorem routes_relationContributions (config : ResourceConfiguration) (relation : Relation) :
    ((config.withRoutes .empty).relationContributions relation).flatMap Operation.routes =
      relation.routes.map config.mount := by
  rw [relationContributions_withoutRoutes]
  unfold Relation.routes Relation.routeTails
  cases relation.cardinality <;>
    simp [mount, Operation.routes, Operation.path, relationOperation, relationPath_eq,
      relationItemPath_eq, Relation.writeVerbs]

theorem routes_plannedOperations (config : ResourceConfiguration) :
    config.plannedOperations.flatMap Operation.routes =
      (resourceRoutes ++ config.relations.flatMap Relation.routes).map config.mount := by
  simp only [plannedOperations, synthesize_operations, List.flatMap_append, List.flatMap_assoc,
    List.map_append, List.map_flatMap, routes_relationContributions,
    routes_resourceContributions]
  rfl

end ResourceConfiguration

/--
Relations with distinct names and no slash in them give every pair of a verb and a path to at
most one operation, each verb of an operation counted, whatever the base path is and whichever
routes are written by hand.
-/
theorem endpoints_nodup (config : ResourceConfiguration)
    (hnames : (config.relations.map Relation.name).Nodup)
    (hslash : ∀ relation ∈ config.relations, '/' ∉ relation.name.toList) :
    (config.synthesize.operations.flatMap Operation.routes).Nodup := by
  have hplanned : (config.plannedOperations.flatMap Operation.routes).Nodup := by
    rw [config.routes_plannedOperations]
    exact (behindBase_nodup hnames hslash).map config.mount_injective
  have hoperations : config.synthesize.operations.Sublist config.plannedOperations := by
    rw [show config.synthesize = (config.withRoutes config.handRoutes).synthesize from rfl,
      ResourceConfiguration.operations_withRoutes]
    exact List.filter_sublist
  exact hplanned.sublist (hoperations.flatMap Operation.routes)

def ordersWithPlaceholder : ResourceConfiguration :=
  { ResourceConfiguration.plain "shop.Order" "/orders" with
    relations := [.plain "products" .multiple "shop.Product",
      .plain "\x7brelationId\x7d" .multiple "shop.Product", .plain "" .single "shop.Customer"]
    handRoutes := RouteTable.empty.insert "GET" "/orders" }

theorem ordersWithPlaceholder_endpoints :
    (ordersWithPlaceholder.relations.map Relation.name).Nodup ∧
      (∀ relation ∈ ordersWithPlaceholder.relations, '/' ∉ relation.name.toList) ∧
      (ordersWithPlaceholder.synthesize.operations.flatMap Operation.routes).Nodup := by
  have hnames : (ordersWithPlaceholder.relations.map Relation.name).Nodup := by decide
  have hslash : ∀ relation ∈ ordersWithPlaceholder.relations, '/' ∉ relation.name.toList := by
    decide
  exact ⟨hnames, hslash, endpoints_nodup ordersWithPlaceholder hnames hslash⟩

end ApiSurface
