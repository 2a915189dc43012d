import ApiSurface.Document.Reading
import ApiSurface.Proofs.Resource.Screening
import Mathlib.Data.List.Nodup
import Mathlib.Data.List.Perm.Basic
import Mathlib.Data.String.Basic

/-!
# The order of members

The members of a JSON object may stand in any order (`Json.Reorders`).  An object that is read
has its keys sorted, so a value with sorted keys is read from each of its orders
(`Json.json_of_reorders`), and every value that is read has sorted keys (`Json.sorted_of_json`).
-/

namespace ApiSurface

open Document

namespace Json

/-! ## Sorted members -/

def keys (members : List (String × Json)) : List String :=
  members.map Prod.fst

theorem mem_keys_insertMember_iff {key other : String} {value : Json}
    {members : List (String × Json)} :
    other ∈ keys (insertMember key value members) ↔ other = key ∨ other ∈ keys members := by
  induction members with
  | nil => simp [insertMember, keys]
  | cons member members ih =>
      obtain ⟨first, old⟩ := member
      simp only [keys] at ih
      simp only [insertMember, keys]
      split
      · simp_all
      · split
        · simp
        · simp [ih]
          tauto

theorem mem_insertMember {key : String} {value : Json} {members : List (String × Json)}
    {member : String × Json} (hmember : member ∈ insertMember key value members) :
    member = (key, value) ∨ member ∈ members := by
  induction members with
  | nil => simpa [insertMember] using hmember
  | cons first members ih =>
      simp only [insertMember] at hmember
      split at hmember
      · simp only [List.mem_cons] at hmember ⊢
        tauto
      · split at hmember
        · simpa using hmember
        · simp only [List.mem_cons] at hmember ⊢
          tauto

theorem pairwise_keys_insertMember {members : List (String × Json)}
    (hsorted : (keys members).Pairwise (· < ·)) (key : String) (value : Json) :
    (keys (insertMember key value members)).Pairwise (· < ·) := by
  induction members with
  | nil => simp [insertMember, keys]
  | cons member members ih =>
      obtain ⟨first, old⟩ := member
      obtain ⟨hfirst, hrest⟩ := List.pairwise_cons.mp hsorted
      simp only [insertMember]
      split
      · next hsame =>
          have hsame : key = first := by simpa using hsame
          exact List.pairwise_cons.mpr ⟨hsame ▸ hfirst, hrest⟩
      · next hother =>
          have hother : key ≠ first := by simpa using hother
          split
          · next hbefore =>
              refine List.pairwise_cons.mpr ⟨?_, hsorted⟩
              intro later hlater
              rcases List.mem_cons.mp hlater with rfl | hlater
              · exact hbefore
              · exact hbefore.trans (hfirst later hlater)
          · next hbefore =>
              have hafter : first < key := lt_of_le_of_ne (not_lt.mp hbefore) hother.symm
              refine List.pairwise_cons.mpr ⟨?_, ih hrest⟩
              intro later hlater
              rcases mem_keys_insertMember_iff.mp hlater with rfl | hlater
              · exact hafter
              · exact hfirst later hlater

theorem insertMember_perm {key : String} {members : List (String × Json)}
    (hfresh : key ∉ keys members) (value : Json) :
    (insertMember key value members).Perm ((key, value) :: members) := by
  induction members with
  | nil => exact .refl _
  | cons member members ih =>
      obtain ⟨first, old⟩ := member
      obtain ⟨hother, hfresh⟩ : key ≠ first ∧ key ∉ keys members := by
        simpa [keys] using hfresh
      rw [insertMember, if_neg (by simpa using hother)]
      split
      · exact .refl _
      · exact ((ih hfresh).cons _).trans (.swap _ _ _)

def insertAll (members sorted : List (String × Json)) : List (String × Json) :=
  members.foldl (fun sorted member => insertMember member.1 member.2 sorted) sorted

theorem insertAll_perm {members sorted : List (String × Json)}
    (hdistinct : (keys members ++ keys sorted).Nodup) :
    (insertAll members sorted).Perm (members ++ sorted) := by
  induction members generalizing sorted with
  | nil => exact .refl _
  | cons member members ih =>
      have hinsert : (insertMember member.1 member.2 sorted).Perm (member :: sorted) := by
        apply insertMember_perm
        have hnot := (List.nodup_cons.mp hdistinct).1
        exact fun hmem => hnot (List.mem_append_right _ hmem)
      have hswap : (members ++ member :: sorted).Perm (member :: (members ++ sorted)) :=
        List.perm_middle
      refine (ih ?_).trans ((hinsert.append_left members).trans hswap)
      have hkeys := (hinsert.append_left members).trans hswap |>.map Prod.fst
      simpa [keys] using hkeys.nodup_iff.mpr (by simpa [keys] using hdistinct)

theorem pairwise_keys_insertAll (members : List (String × Json)) {sorted : List (String × Json)}
    (hsorted : (keys sorted).Pairwise (· < ·)) :
    (keys (insertAll members sorted)).Pairwise (· < ·) := by
  induction members generalizing sorted with
  | nil => exact hsorted
  | cons member members ih => exact ih (pairwise_keys_insertMember hsorted _ _)

/-- Sorting finds the only order in which the keys increase. -/
theorem insertAll_eq_of_perm {members permuted : List (String × Json)}
    (hsorted : (keys members).Pairwise (· < ·)) (hperm : members.Perm permuted) :
    insertAll permuted [] = members := by
  have hdistinct : (keys permuted).Nodup := (hperm.map Prod.fst).nodup_iff.mp hsorted.nodup
  have hsame : (insertAll permuted []).Perm members := by
    have hall : (insertAll permuted []).Perm (permuted ++ []) :=
      insertAll_perm (by simpa [keys] using hdistinct)
    rw [List.append_nil] at hall
    exact hall.trans hperm.symm
  have hfound : (insertAll permuted []).Pairwise fun left right => left.1 < right.1 :=
    List.pairwise_map.mp (pairwise_keys_insertAll permuted .nil)
  refine hsame.eq_of_pairwise ?_ hfound (List.pairwise_map.mp hsorted)
  intro left right _ _ hleft hright
  exact absurd hright (lt_asymm hleft)

mutual

def HasSortedKeys : Json → Prop
  | .array items => AllSorted items
  | .object members => (keys members).Pairwise (· < ·) ∧ MembersSorted members
  | _ => True

def AllSorted : List Json → Prop
  | [] => True
  | item :: items => item.HasSortedKeys ∧ AllSorted items

def MembersSorted : List (String × Json) → Prop
  | [] => True
  | (_, value) :: members => value.HasSortedKeys ∧ MembersSorted members

end

theorem membersSorted_iff {members : List (String × Json)} :
    MembersSorted members ↔ ∀ member ∈ members, member.2.HasSortedKeys := by
  induction members with
  | nil => simp [MembersSorted]
  | cons member members ih => simp [MembersSorted, ih]

theorem membersSorted_insertMember {key : String} {value : Json}
    {members : List (String × Json)} (hvalue : value.HasSortedKeys)
    (hmembers : MembersSorted members) : MembersSorted (insertMember key value members) := by
  rw [membersSorted_iff] at hmembers ⊢
  intro member hmember
  rcases mem_insertMember hmember with rfl | hmember
  · exact hvalue
  · exact hmembers member hmember

/-! ### What is read is sorted -/

theorem sorted_of_plainJson {text : String} {json : Json} (hread : plainJson text = .ok json) :
    json.HasSortedKeys := by
  unfold plainJson at hread
  split at hread
  case h_3 =>
    split at hread <;> cases hread
    trivial
  all_goals
    cases hread
    trivial

mutual

theorem sorted_of_json (datum : Datum) (json : Json) (hread : datum.json = .ok json) :
    json.HasSortedKeys := by
  cases datum with
  | plain text => exact sorted_of_plainJson hread
  | list format items =>
      obtain ⟨values, hvalues, hjson⟩ := bind_eq_ok_iff.mp hread
      cases hjson
      exact allSorted_of_json items values hvalues
  | record format members =>
      obtain ⟨values, hvalues, hjson⟩ := bind_eq_ok_iff.mp hread
      cases hjson
      exact membersSorted_of_json members [] values .nil trivial hvalues
  | _ =>
      cases hread
      try trivial

theorem allSorted_of_json (items : Items) (values : List Json) (hread : items.json = .ok values) :
    AllSorted values := by
  cases items with
  | nil =>
      cases hread
      trivial
  | cons item rest =>
      obtain ⟨first, hfirst, hread⟩ := bind_eq_ok_iff.mp hread
      obtain ⟨others, hothers, hread⟩ := bind_eq_ok_iff.mp hread
      cases hread
      exact ⟨sorted_of_json item first hfirst, allSorted_of_json rest others hothers⟩
  | fault reason => cases hread

theorem membersSorted_of_json (members : Members) (sorted values : List (String × Json))
    (hkeys : (keys sorted).Pairwise (· < ·)) (hsorted : MembersSorted sorted)
    (hread : members.json sorted = .ok values) : (Json.object values).HasSortedKeys := by
  cases members with
  | nil =>
      cases hread
      exact ⟨hkeys, hsorted⟩
  | cons key value rest =>
      obtain ⟨first, hfirst, hread⟩ := bind_eq_ok_iff.mp hread
      have hvalue := sorted_of_json value first hfirst
      exact membersSorted_of_json rest _ values (pairwise_keys_insertMember hkeys key first)
        (membersSorted_insertMember hvalue hsorted) hread
  | unreadable => cases hread
  | noKey => cases hread
  | fault => cases hread

end

/-! ## Other orders -/

mutual

/-- Values that differ at most in the order of the members of their objects. -/
inductive Reorders : Json → Json → Prop
  | null : Reorders .null .null
  | bool (value : Bool) : Reorders (.bool value) (.bool value)
  | number (value : Number) : Reorders (.number value) (.number value)
  | string (value : String) : Reorders (.string value) (.string value)
  | array {items others : List Json} (hitems : ItemsReorder items others) :
      Reorders (.array items) (.array others)
  | object {members permuted others : List (String × Json)} (hperm : members.Perm permuted)
      (hmembers : MembersReorder permuted others) : Reorders (.object members) (.object others)

inductive ItemsReorder : List Json → List Json → Prop
  | nil : ItemsReorder [] []
  | cons {item other : Json} {items others : List Json} (hitem : Reorders item other)
      (hitems : ItemsReorder items others) : ItemsReorder (item :: items) (other :: others)

inductive MembersReorder : List (String × Json) → List (String × Json) → Prop
  | nil : MembersReorder [] []
  | cons (key : String) {value other : Json} {members others : List (String × Json)}
      (hvalue : Reorders value other) (hmembers : MembersReorder members others) :
      MembersReorder ((key, value) :: members) ((key, other) :: others)

end

mutual

theorem Reorders.refl : (json : Json) → json.Reorders json
  | .null => .null
  | .bool value => .bool value
  | .number value => .number value
  | .string value => .string value
  | .array items => .array (ItemsReorder.refl items)
  | .object members => .object (.refl members) (MembersReorder.refl members)

theorem ItemsReorder.refl : (items : List Json) → ItemsReorder items items
  | [] => .nil
  | item :: items => .cons (Reorders.refl item) (ItemsReorder.refl items)

theorem MembersReorder.refl : (members : List (String × Json)) → MembersReorder members members
  | [] => .nil
  | (key, value) :: members => .cons key (Reorders.refl value) (MembersReorder.refl members)

end

theorem MembersReorder.keys_eq {members others : List (String × Json)}
    (hmembers : MembersReorder members others) : keys members = keys others := by
  induction others generalizing members with
  | nil => cases hmembers; rfl
  | cons other others ih =>
      cases hmembers with
      | cons key hvalue hmembers => simpa [keys] using ih hmembers

theorem MembersReorder.exists_of_mem {members others : List (String × Json)}
    (hmembers : MembersReorder members others) {other : String × Json} (hother : other ∈ others) :
    ∃ value, (other.1, value) ∈ members ∧ value.Reorders other.2 := by
  induction others generalizing members with
  | nil => cases hother
  | cons first others ih =>
      cases hmembers with
      | cons key hvalue hmembers =>
          rcases List.mem_cons.mp hother with rfl | hother
          · exact ⟨_, List.mem_cons_self, hvalue⟩
          · obtain ⟨value, hvalue, hreorders⟩ := ih hmembers hother
            exact ⟨value, List.mem_cons_of_mem _ hvalue, hreorders⟩

/-! ## Values of any type -/

mutual

theorem json_of_reorders (other json : Json) (hsorted : json.HasSortedKeys)
    (hreorders : json.Reorders other) : (Datum.ofJson other).json = .ok json := by
  cases hreorders with
  | null => rfl
  | bool => rfl
  | number => rfl
  | string => rfl
  | @array items others hitems =>
      have hread := itemsJson_of_reorders others items hsorted hitems
      simp only [Datum.ofJson, Datum.json, hread]
      rfl
  | @object members permuted others hperm hmembers =>
      obtain ⟨hkeys, hvalues⟩ := hsorted
      have hpermuted : MembersSorted permuted := by
        rw [membersSorted_iff] at hvalues ⊢
        exact fun member hmember => hvalues member (hperm.mem_iff.mpr hmember)
      have hread := membersJson_of_reorders others permuted hpermuted hmembers []
      simp only [Datum.ofJson, Datum.json, hread, insertAll_eq_of_perm hkeys hperm]
      rfl

theorem itemsJson_of_reorders (others items : List Json) (hsorted : AllSorted items)
    (hreorders : ItemsReorder items others) : (Items.ofJson others).json = .ok items := by
  cases hreorders with
  | nil => rfl
  | @cons item other items others hitem hitems =>
      have hfirst := json_of_reorders other item hsorted.1 hitem
      have hrest := itemsJson_of_reorders others items hsorted.2 hitems
      simp only [Items.ofJson, Items.json, hfirst, hrest]
      rfl

theorem membersJson_of_reorders (others members : List (String × Json))
    (hsorted : MembersSorted members) (hreorders : MembersReorder members others)
    (sorted : List (String × Json)) :
    (Members.ofJson others).json sorted = .ok (insertAll members sorted) := by
  cases hreorders with
  | nil => rfl
  | @cons key value other members others hvalue hmembers =>
      have hfirst := json_of_reorders other value hsorted.1 hvalue
      have hrest := membersJson_of_reorders others members hsorted.2 hmembers
        (insertMember key value sorted)
      simp only [Members.ofJson, Members.json, hfirst]
      exact hrest

end

end Json

end ApiSurface
