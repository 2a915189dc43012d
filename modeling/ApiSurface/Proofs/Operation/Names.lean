import ApiSurface.Proofs.Operation.Synthesis
import Mathlib.Data.List.Nodup

/-!
# Names of operations

The name of an operation on a relation is a verb, an underscore, and a stem from the relation's
name; the verb ends at the first underscore.  Stems are not unique, since neither the snake case
nor the singular of a name determines it.  `names_nodup_iff_distinctStems` says which stems must
differ for the names to be distinct, and that no other names can coincide.
-/

namespace ApiSurface

open Naming

/-! ## Verbs and stems -/

private theorem append_cons_inj {c : Char} {front front' rest rest' : List Char}
    (hfront : c ∉ front) (hfront' : c ∉ front')
    (heq : front ++ c :: rest = front' ++ c :: rest') : front = front' ∧ rest = rest' := by
  induction front generalizing front' with
  | nil =>
      cases front' with
      | nil => exact ⟨rfl, (List.cons.inj heq).2⟩
      | cons first front' => exact absurd (by simp [(List.cons.inj heq).1]) hfront'
  | cons first front ih =>
      rw [List.mem_cons, not_or] at hfront
      cases front' with
      | nil => exact absurd (List.cons.inj heq).1.symm hfront.1
      | cons first' front' =>
          rw [List.mem_cons, not_or] at hfront'
          obtain ⟨rfl, htail⟩ := List.cons.inj heq
          obtain ⟨rfl, rfl⟩ := ih hfront.2 hfront'.2 htail
          exact ⟨rfl, rfl⟩

def verbName (word : String × String) : String :=
  word.1 ++ "_" ++ word.2

theorem verbName_inj {word other : String × String} (hword : '_' ∉ word.1.toList)
    (hother : '_' ∉ other.1.toList) (heq : verbName word = verbName other) :
    word = other := by
  have hchars : word.1.toList ++ '_' :: word.2.toList =
      other.1.toList ++ '_' :: other.2.toList := by
    simpa [verbName] using congrArg String.toList heq
  obtain ⟨hverb, hstem⟩ := append_cons_inj hword hother hchars
  exact Prod.ext (String.toList_inj.mp hverb) (String.toList_inj.mp hstem)

def relationVerbs : List String :=
  ["get", "set", "add", "remove"]

theorem underscore_notMem_of_mem_relationVerbs {verb : String} (hverb : verb ∈ relationVerbs) :
    '_' ∉ verb.toList := by
  revert verb
  decide

def resourceNames : List String :=
  ["create", "get", "update", "set", "delete", "all", "search_all"]

theorem verbName_notMem_resourceNames {word : String × String}
    (hverb : word.1 ∈ relationVerbs) : verbName word ∉ resourceNames := by
  obtain ⟨verb, stem⟩ := word
  simp only [relationVerbs, List.mem_cons, List.not_mem_nil, or_false] at hverb
  simp only [resourceNames, List.mem_cons, List.not_mem_nil, or_false, not_or, verbName,
    ← String.toList_inj, String.toList_append]
  rcases hverb with rfl | rfl | rfl | rfl <;> simp

namespace Relation

def stem (relation : Relation) : String :=
  snakeCase relation.name

def singularStem (relation : Relation) : String :=
  snakeCase (singular relation.name)

def removalStems (relation : Relation) : List String :=
  match relation.cardinality with
  | .single => [relation.stem]
  | .multiple => [relation.singularStem, relation.singularStem ++ "_by_id"]

def changeVerb (relation : Relation) : String :=
  match relation.cardinality with
  | .single => "set"
  | .multiple => "add"

def operationWords (relation : Relation) : List (String × String) :=
  ("get", relation.stem) ::
    (relation.removalStems.map (relation.changeVerb, ·) ++
      relation.removalStems.map ("remove", ·))

theorem changeVerb_mem (relation : Relation) :
    relation.changeVerb ∈ ["set", "add"] := by
  unfold changeVerb
  split <;> simp

theorem changeVerb_ne_get (relation : Relation) : relation.changeVerb ≠ "get" := by
  have hverb := relation.changeVerb_mem
  rintro heq
  simp [heq] at hverb

theorem changeVerb_ne_remove (relation : Relation) : relation.changeVerb ≠ "remove" := by
  have hverb := relation.changeVerb_mem
  rintro heq
  simp [heq] at hverb

theorem mem_operationWords_iff {relation : Relation} {verb stem : String} :
    (verb, stem) ∈ relation.operationWords ↔
      (verb = "get" ∧ stem = relation.stem) ∨
        ((verb = relation.changeVerb ∨ verb = "remove") ∧ stem ∈ relation.removalStems) := by
  simp only [operationWords, List.mem_cons, List.mem_append, List.mem_map, Prod.mk.injEq]
  grind

theorem verb_mem_relationVerbs {relation : Relation} {word : String × String}
    (hword : word ∈ relation.operationWords) : word.1 ∈ relationVerbs := by
  have hchange := relation.changeVerb_mem
  obtain ⟨verb, stem⟩ := word
  rw [mem_operationWords_iff] at hword
  simp only [relationVerbs, List.mem_cons, List.not_mem_nil, or_false] at hchange ⊢
  grind

theorem removalStems_nodup (relation : Relation) : relation.removalStems.Nodup := by
  have hstem : relation.singularStem ≠ relation.singularStem ++ "_by_id" := by
    intro heq
    simpa using congrArg (fun text : String => text.toList.length) heq
  unfold removalStems
  split <;> simp [hstem]

theorem operationWords_nodup (relation : Relation) : relation.operationWords.Nodup := by
  have hstems := relation.removalStems_nodup
  have hget := relation.changeVerb_ne_get
  have hremove := relation.changeVerb_ne_remove
  have hpaired (verb : String) : (relation.removalStems.map (verb, ·)).Nodup :=
    hstems.map fun _ _ heq => (Prod.mk.inj heq).2
  rw [operationWords, List.nodup_cons, List.nodup_append]
  refine ⟨?_, hpaired _, hpaired _, ?_⟩
  · simp [hget]
  · simp only [List.mem_map]
    rintro _ ⟨stem, -, rfl⟩ _ ⟨stem', -, rfl⟩ heq
    exact hremove (Prod.mk.inj heq).1

/-- What is set or added has the stems of what is removed, so it needs no condition of its
own. -/
theorem operationWords_disjoint_iff (relation other : Relation) :
    (∀ word ∈ relation.operationWords, ∀ word' ∈ other.operationWords, word ≠ word') ↔
      relation.stem ≠ other.stem ∧
        ∀ stem ∈ relation.removalStems, ∀ stem' ∈ other.removalStems, stem ≠ stem' := by
  constructor
  · intro hwords
    refine ⟨fun heq => ?_, fun stem hstem stem' hstem' heq => ?_⟩
    · exact hwords ("get", relation.stem) (by simp [mem_operationWords_iff])
        ("get", other.stem) (by simp [mem_operationWords_iff]) (by rw [heq])
    · exact hwords ("remove", stem) (by simp [mem_operationWords_iff, hstem])
        ("remove", stem') (by simp [mem_operationWords_iff, hstem']) (by rw [heq])
  · rintro ⟨hstem, hremoval⟩ ⟨verb, stem⟩ hword _ hword' rfl
    rw [mem_operationWords_iff] at hword hword'
    rcases hword with ⟨rfl, rfl⟩ | ⟨hverb, hmem⟩ <;>
      rcases hword' with ⟨hget, heq⟩ | ⟨hverb', hmem'⟩
    · exact hstem heq
    · rcases hverb' with hverb' | hverb'
      · exact other.changeVerb_ne_get hverb'.symm
      · simp at hverb'
    · subst hget
      rcases hverb with hverb | hverb
      · exact relation.changeVerb_ne_get hverb.symm
      · simp at hverb
    · exact hremoval stem hmem stem hmem' rfl

end Relation

/-! ## Distinct names -/

/-- The relations have distinct names in snake case, and what is removed from them is named
distinctly too. -/
def DistinctStems (relations : List Relation) : Prop :=
  (relations.map Relation.stem).Nodup ∧ (relations.flatMap Relation.removalStems).Nodup

theorem operationWords_nodup_iff (relations : List Relation) :
    (relations.flatMap Relation.operationWords).Nodup ↔ DistinctStems relations := by
  have hwords : ∀ relation ∈ relations, relation.operationWords.Pairwise (· ≠ ·) :=
    fun relation _ => relation.operationWords_nodup
  have hstems : ∀ relation ∈ relations, relation.removalStems.Pairwise (· ≠ ·) :=
    fun relation _ => relation.removalStems_nodup
  simp only [DistinctStems, List.Nodup, List.pairwise_flatMap, List.pairwise_map,
    Relation.operationWords_disjoint_iff, List.pairwise_and_iff]
  rw [and_iff_right hwords, and_iff_right hstems]

namespace ResourceConfiguration

theorem names_resourceContributions (config : ResourceConfiguration) :
    (config.withRoutes .empty).resourceContributions.map Operation.name = resourceNames :=
  rfl

theorem names_relationContributions (config : ResourceConfiguration) (relation : Relation) :
    ((config.withRoutes .empty).relationContributions relation).map Operation.name =
      relation.operationWords.map verbName := by
  rw [relationContributions_withoutRoutes]
  unfold Relation.operationWords Relation.changeVerb Relation.removalStems
  cases relation.cardinality <;>
    simp [relationOperation, Relation.pluralOperationName, Relation.singularOperationName,
      Relation.byIdOperationName, Relation.stem, Relation.singularStem, verbName,
      String.append_assoc]

theorem names_plannedOperations (config : ResourceConfiguration) :
    config.plannedOperations.map Operation.name =
      resourceNames ++ (config.relations.flatMap Relation.operationWords).map verbName := by
  simp only [plannedOperations, synthesize_operations, List.map_append, List.map_flatMap,
    names_relationContributions, names_resourceContributions]
  rfl

theorem relationContribution_eq_of_name {config : ResourceConfiguration} {relation : Relation}
    {operation other : Operation}
    (hoperation : operation ∈ (config.withRoutes .empty).relationContributions relation)
    (hother : other ∈ (config.withRoutes .empty).relationContributions relation)
    (hname : operation.name = other.name) : operation = other := by
  refine List.inj_on_of_nodup_map ?_ hoperation hother hname
  rw [names_relationContributions]
  refine relation.operationWords_nodup.map_on fun word hword word' hword' => verbName_inj ?_ ?_
  · exact underscore_notMem_of_mem_relationVerbs (Relation.verb_mem_relationVerbs hword)
  · exact underscore_notMem_of_mem_relationVerbs (Relation.verb_mem_relationVerbs hword')

private theorem verb_mem_of_mem_flatMap {relations : List Relation} {word : String × String}
    (hword : word ∈ relations.flatMap Relation.operationWords) : word.1 ∈ relationVerbs := by
  obtain ⟨relation, -, hword⟩ := List.mem_flatMap.mp hword
  exact Relation.verb_mem_relationVerbs hword

theorem names_plannedOperations_nodup_iff (config : ResourceConfiguration) :
    (config.plannedOperations.map Operation.name).Nodup ↔ DistinctStems config.relations := by
  rw [names_plannedOperations, ← operationWords_nodup_iff, List.nodup_append]
  constructor
  · rintro ⟨-, hwords, -⟩
    exact hwords.of_map
  · intro hwords
    refine ⟨by decide, ?_, ?_⟩
    · refine hwords.map_on fun word hword word' hword' => verbName_inj ?_ ?_
      · exact underscore_notMem_of_mem_relationVerbs (verb_mem_of_mem_flatMap hword)
      · exact underscore_notMem_of_mem_relationVerbs (verb_mem_of_mem_flatMap hword')
    · intro name hname other hother heq
      obtain ⟨word, hword, rfl⟩ := List.mem_map.mp hother
      exact verbName_notMem_resourceNames (verb_mem_of_mem_flatMap hword) (heq ▸ hname)

theorem names_nodup_of_distinctStems (config : ResourceConfiguration) (routes : RouteTable)
    (hstems : DistinctStems config.relations) :
    (config.withRoutes routes).synthesize.names.Nodup := by
  rw [OperationSet.names, operations_withRoutes]
  exact ((names_plannedOperations_nodup_iff config).mpr hstems).sublist
    (List.filter_sublist.map Operation.name)

end ResourceConfiguration

theorem OperationSet.named?_eq_of_names_nodup {set : OperationSet} (hnames : set.names.Nodup)
    {operation : Operation} (hoperation : operation ∈ set.operations) :
    set.named? operation.name = some operation := by
  have hfinds : (set.named? operation.name).isSome :=
    List.find?_isSome.mpr ⟨operation, hoperation, beq_self_eq_true _⟩
  obtain ⟨found, hfound⟩ := Option.isSome_iff_exists.mp hfinds
  have hname : found.name = operation.name := by
    simpa using List.find?_some hfound
  rw [hfound, List.inj_on_of_nodup_map hnames (List.mem_of_find?_eq_some hfound) hoperation hname]

theorem distinctStems_singleton (relation : Relation) : DistinctStems [relation] := by
  simpa [DistinctStems] using relation.removalStems_nodup

/--
Without hand-written routes the names are distinct just if the stems are, and with such routes
whenever they are; then each operation is found by its name.  Operations on the resource and on
any one relation never share a name.
-/
theorem names_nodup_iff_distinctStems (config : ResourceConfiguration) :
    ((config.withRoutes .empty).synthesize.names.Nodup ↔ DistinctStems config.relations) ∧
      (DistinctStems config.relations → ∀ routes,
        (config.withRoutes routes).synthesize.names.Nodup ∧
          ∀ operation ∈ (config.withRoutes routes).synthesize.operations,
            (config.withRoutes routes).synthesize.named? operation.name = some operation) ∧
      ∀ relation routes,
        ({ config with
            relations := [relation], handRoutes := routes } :
          ResourceConfiguration).synthesize.names.Nodup := by
  refine ⟨config.names_plannedOperations_nodup_iff, fun hstems routes => ?_,
    fun relation routes => ?_⟩
  · have hnames := config.names_nodup_of_distinctStems routes hstems
    exact ⟨hnames, fun operation hoperation =>
      OperationSet.named?_eq_of_names_nodup hnames hoperation⟩
  · exact ResourceConfiguration.names_nodup_of_distinctStems
      { config with relations := [relation] } routes (distinctStems_singleton relation)

def Relation.plain (name : String) (cardinality : Cardinality) (relatedType : String) :
    Relation where
  name := name
  cardinality := cardinality
  relatedType := relatedType
  responseShape := relatedType
  relatedIdType := Identifier.default.type
  relatedIdAccessor := Identifier.default.accessor
  accessors := .conventional name

def orders : ResourceConfiguration :=
  { ResourceConfiguration.plain "shop.Order" "/orders" with
    relations := [.plain "products" .multiple "shop.Product",
      .plain "customer" .single "shop.Customer"] }

theorem orders_names_nodup :
    DistinctStems orders.relations ∧ (orders.withRoutes .empty).synthesize.names.Nodup := by
  have hstems : DistinctStems orders.relations := by
    unfold DistinctStems
    decide
  exact ⟨hstems, ((names_nodup_iff_distinctStems orders).2.1 hstems .empty).1⟩

def baskets : ResourceConfiguration :=
  { ResourceConfiguration.plain "shop.Basket" "/baskets" with
    relations := [.plain "item" .multiple "shop.Item", .plain "items" .multiple "shop.Item"] }

theorem baskets_names_not_nodup :
    (baskets.relations.map Relation.name).Nodup ∧ ¬ baskets.synthesize.names.Nodup := by
  constructor
  · decide
  · decide

end ApiSurface
