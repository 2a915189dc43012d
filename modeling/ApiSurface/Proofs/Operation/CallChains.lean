import ApiSurface.Proofs.Operation.Delegation
import Mathlib.Logic.Relation

/-!
# Chains of calls

A call goes to whatever operation has its name, and names need not be distinct: the operation
that adds to the relation `product_by_ids` has the name of the one that adds to `products` by an
id.  So a chain of calls may pass from relation to relation.  It cannot come back, since a
called operation has a longer name than its caller or calls nothing itself (`calls_acyclic`).
-/

namespace ApiSurface

/-! ## One call -/

def OperationSet.Calls (set : OperationSet) (caller callee : Operation) : Prop :=
  caller ∈ set.operations ∧ callee ∈ set.operations ∧
    ∃ call ∈ calls caller.body, call.operation = callee.name

instance (set : OperationSet) (caller callee : Operation) :
    Decidable (set.Calls caller callee) :=
  inferInstanceAs (Decidable (_ ∧ _ ∧ _))

namespace ResourceConfiguration

variable {config : ResourceConfiguration} {relation : Relation} {caller callee : Operation}

/-- An operation with a call changes a relation.  It calls one that reads a relation, or one whose
name begins with its own. -/
theorem call_of_mem_relationContributions
    (hcaller : caller ∈ (config.withRoutes .empty).relationContributions relation) {call : Call}
    (hcall : call ∈ calls caller.body) :
    (∃ word, caller.name = verbName word ∧ word.1 ∈ ["set", "add", "remove"]) ∧
      ((∃ stem, call.operation = verbName ("get", stem)) ∨
        call.operation = caller.name ++ "_by_id") := by
  rw [relationContributions_withoutRoutes] at hcaller
  cases hcardinality : relation.cardinality <;>
    simp only [hcardinality, List.mem_cons, List.not_mem_nil, or_false] at hcaller
  case single =>
    rcases hcaller with rfl | rfl | rfl
    · simp [relationOperation] at hcall
    · obtain rfl : call = _ := by simpa [relationOperation] using hcall
      exact ⟨⟨("set", relation.stem), rfl, by simp⟩, .inl ⟨relation.stem, rfl⟩⟩
    · simp [relationOperation] at hcall
  case multiple =>
    rcases hcaller with rfl | rfl | rfl | rfl | rfl
    · simp [relationOperation] at hcall
    · obtain rfl : call = _ := by simpa [relationOperation] using hcall
      exact ⟨⟨("add", relation.singularStem), rfl, by simp⟩, .inr rfl⟩
    · obtain rfl : call = _ := by simpa [relationOperation] using hcall
      refine ⟨⟨("add", relation.singularStem ++ "_by_id"), ?_, by simp⟩,
        .inl ⟨relation.stem, rfl⟩⟩
      simp [relationOperation, Relation.byIdOperationName, Relation.singularOperationName,
        Relation.singularStem, verbName, String.append_assoc]
    · obtain rfl : call = _ := by simpa [relationOperation] using hcall
      exact ⟨⟨("remove", relation.singularStem), rfl, by simp⟩, .inr rfl⟩
    · simp [relationOperation] at hcall

theorem exists_relation_of_call (hcaller : caller ∈ config.synthesize.operations) {call : Call}
    (hcall : call ∈ calls caller.body) :
    ∃ relation ∈ config.relations,
      caller ∈ (config.withRoutes .empty).relationContributions relation := by
  rcases mem_plannedOperations_iff.mp (mem_operations_iff.mp hcaller).1 with hresource | hrelated
  · simp [calls_of_mem_resourceContributions hresource] at hcall
  · exact hrelated

end ResourceConfiguration

/-! ## Chains -/

/-- The first operation calls another.  The second calls none, or has a longer name. -/
def Operation.LeadsTo (caller callee : Operation) : Prop :=
  calls caller.body ≠ [] ∧
    (calls callee.body = [] ∨ caller.name.length < callee.name.length)

namespace Operation.LeadsTo

variable {first second third : Operation}

theorem trans (hfirst : first.LeadsTo second) (hsecond : second.LeadsTo third) :
    first.LeadsTo third := by
  refine ⟨hfirst.1, hsecond.2.imp_right fun hlonger => ?_⟩
  exact Nat.lt_trans (hfirst.2.resolve_left hsecond.1) hlonger

theorem irrefl (operation : Operation) : ¬ operation.LeadsTo operation := by
  rintro ⟨hcalls, hnone | hlonger⟩
  · exact hcalls hnone
  · exact Nat.lt_irrefl _ hlonger

end Operation.LeadsTo

namespace ResourceConfiguration

variable {config : ResourceConfiguration} {caller callee : Operation}

theorem leadsTo_of_calls (hcalls : config.synthesize.Calls caller callee) :
    caller.LeadsTo callee := by
  obtain ⟨hcaller, hcallee, call, hcall, hname⟩ := hcalls
  obtain ⟨relation, -, hmember⟩ := exists_relation_of_call hcaller hcall
  obtain ⟨-, ⟨stem, hreads⟩ | hbyId⟩ := call_of_mem_relationContributions hmember hcall
  · -- whatever is called like a reading operation does not change a relation
    refine ⟨List.ne_nil_of_mem hcall, .inl ?_⟩
    by_contra hsome
    obtain ⟨next, hnext⟩ := List.exists_mem_of_ne_nil _ hsome
    obtain ⟨other, -, hother⟩ := exists_relation_of_call hcallee hnext
    obtain ⟨⟨word, hword, hverb⟩, -⟩ := call_of_mem_relationContributions hother hnext
    have hsame : verbName ("get", stem) = verbName word := by rw [← hreads, hname, hword]
    have hget : '_' ∉ "get".toList := by decide
    have hplain : '_' ∉ word.1.toList :=
      underscore_notMem_of_mem_relationVerbs (List.mem_cons_of_mem _ hverb)
    obtain rfl := verbName_inj hget hplain hsame
    simp at hverb
  · refine ⟨List.ne_nil_of_mem hcall, .inr ?_⟩
    rw [← hname, hbyId, String.length_append]
    exact Nat.lt_add_of_pos_right (by decide)

theorem leadsTo_of_transGen (hchain : Relation.TransGen config.synthesize.Calls caller callee) :
    caller.LeadsTo callee := by
  induction hchain with
  | single hcalls => exact leadsTo_of_calls hcalls
  | tail _ hcalls ih => exact ih.trans (leadsTo_of_calls hcalls)

end ResourceConfiguration

/--
Whatever the relations are called and whichever routes are written by hand, following calls never
leads back to an operation, and so a chain of calls has no operation twice.
-/
theorem calls_acyclic (config : ResourceConfiguration) :
    (∀ operation, ¬ Relation.TransGen config.synthesize.Calls operation operation) ∧
      ∀ chain : List Operation, chain.IsChain config.synthesize.Calls → chain.Nodup := by
  have hacyclic (operation : Operation) :
      ¬ Relation.TransGen config.synthesize.Calls operation operation := fun hcycle =>
    Operation.LeadsTo.irrefl operation (ResourceConfiguration.leadsTo_of_transGen hcycle)
  refine ⟨hacyclic, fun chain hchain => ?_⟩
  have hpaired : chain.Pairwise (Relation.TransGen config.synthesize.Calls) :=
    (hchain.imp fun _ _ => Relation.TransGen.single).pairwise
  refine hpaired.imp fun hcalls => ?_
  rintro rfl
  exact hacyclic _ hcalls

def ordersByIds : ResourceConfiguration :=
  { ResourceConfiguration.plain "shop.Order" "/orders" with
    relations := [.plain "product_by_ids" .multiple "shop.ProductById",
      .plain "products" .multiple "shop.Product"] }

example :
    let names :=
      ["add_product", "add_product_by_id", "add_product_by_id_by_id", "get_product_by_ids"]
    let chain := names.filterMap ordersByIds.synthesize.named?
    chain.map Operation.name = names ∧ chain.IsChain ordersByIds.synthesize.Calls := by
  decide +kernel

end ApiSurface
