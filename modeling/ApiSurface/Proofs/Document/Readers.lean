import ApiSurface.Proofs.Document.MemberOrder

/-!
# Readers

A reader `ReadsAs` a value what gives that value in every order of its members, and it `Yields`
only values with some property.  Both are put together from the parts of a document.  A record is
read alike in every order because no field is read twice and a member changes no field but its
own (`readsAs_record`).
-/

namespace ApiSurface

open Document

/-! ## Readers that no order confuses -/

/-- Whether a reader gives a value for a text in every order of its members. -/
def ReadsAs {α : Type} (read : Datum → Decoded α) (json : Json) (value : α) : Prop :=
  ∀ other, json.Reorders other → read (.ofJson other) = .ok value

section

variable {α : Type} {read : Datum → Decoded α}

theorem ReadsAs.bind {β : Type} {first : Datum → Decoded β}
    {rest : β → Decoded α} {json : Json} {value : β} {result : α}
    (hfirst : ReadsAs first json value) (hrest : rest value = pure result)
    (hread : ∀ datum, read datum = first datum >>= rest) : ReadsAs read json result := by
  intro other hreorders
  rw [hread, hfirst other hreorders]
  exact hrest

theorem readsAs_text (value : String) : ReadsAs Datum.text (.string value) value := by
  intro other hreorders
  cases hreorders
  rfl

theorem readsAs_flag (value : Bool) : ReadsAs Datum.flag (.bool value) value := by
  intro other hreorders
  cases hreorders
  rfl

theorem readsAs_natural {type : NaturalType} {value : Nat} (hbound : value < type.bound) :
    ReadsAs (Datum.natural type) (.nat value) value := by
  intro other hreorders
  cases hreorders
  simpa [Datum.ofJson, Datum.natural, boundedNatural] using hbound

theorem readsAs_variant {variants : List (String × α)} {name : String} {value : α}
    (hnamed : variants.lookup name = some value) :
    ReadsAs (Datum.variant variants) (.string name) value := by
  intro other hreorders
  cases hreorders
  simp [Datum.ofJson, Datum.variant, namedVariant, hnamed]

theorem readsAs_members {members : List (String × Json)}
    (hsorted : (Json.object members).HasSortedKeys) :
    ReadsAs Datum.members (.object members) members := by
  intro other hreorders
  have hread := Json.json_of_reorders other _ hsorted hreorders
  cases hreorders with
  | @object _ _ others hperm hmembers =>
      simp only [Datum.ofJson, Datum.json] at hread
      change (Members.ofJson others).json [] = .ok members
      cases hfound : (Members.ofJson others).json [] with
      | error error =>
          rw [hfound] at hread
          cases hread
      | ok found =>
          rw [hfound] at hread
          cases hread
          rfl

theorem readsAs_optional {write : α → Json} {value : Option α}
    (hnull : ∀ present, write present ≠ .null)
    (hread : ∀ present, value = some present → ReadsAs read (write present) present) :
    ReadsAs (Datum.optional read) (.optional write value) value := by
  intro other hreorders
  cases value with
  | none =>
      cases hreorders
      rfl
  | some present =>
      have hpresent : read (.ofJson other) = .ok present := hread present rfl other hreorders
      have hsome : Datum.optional read (.ofJson other) =
          (read (.ofJson other) >>= fun found => .ok (some found)) := by
        cases other with
        | null =>
            simp only [Json.optional] at hreorders
            generalize hwritten : write present = written at hreorders
            cases hreorders
            exact absurd hwritten (hnull present)
        | _ => rfl
      rw [hsome, hpresent]
      rfl

theorem readsAs_listOf {write : α → Json} {values : List α}
    (hread : ∀ value ∈ values, ReadsAs read (write value) value) :
    ReadsAs (Datum.listOf read) (.array (values.map write)) values := by
  intro other hreorders
  cases hreorders with
  | array hitems =>
      rename_i others
      change (Items.ofJson others).readAll read = .ok values
      induction values generalizing others with
      | nil =>
          cases hitems
          rfl
      | cons value values ih =>
          cases hitems with
          | cons hitem hitems =>
              have hfirst := hread value List.mem_cons_self _ hitem
              have hrest := ih (fun later hlater => hread later (List.mem_cons_of_mem _ hlater))
                hitems
              simp only [Items.ofJson, Items.readAll, hfirst, hrest]
              rfl

end

/-! ## Records -/

def known {β : Type} (seen : List String) (key : String) (value unread : β) : β :=
  if key ∈ seen then value else unread

section

variable {β : Type} {seen : List String} {key other : String} {value unread : β}

@[simp]
theorem known_nil : known [] key value unread = unread :=
  if_neg (List.not_mem_nil)

@[simp]
theorem known_cons_self : known (key :: seen) key value unread = value :=
  if_pos List.mem_cons_self

theorem known_cons_of_ne (hother : key ≠ other) :
    known (other :: seen) key value unread = known seen key value unread := by
  simp [known, hother]

end

theorem forall_mem_present_iff {β : Type} {name : String} {value : Option β} {write : β → Json}
    {holds : String × Json → Prop} :
    (∀ member ∈ Json.present name (value.map write), holds member) ↔
      ∀ given, value = some given → holds (name, write given) := by
  cases value <;> simp [Json.present]

section

variable {α : Type} {type : RecordType} {read : FieldReader α} (after : List String → α)

theorem readFields_eq (members : List (String × Json)) (seen : List String)
    (hfields : ∀ key ∈ Json.keys members, key ∈ type.fields)
    (hdistinct : (Json.keys members).Nodup)
    (hfresh : ∀ key ∈ Json.keys members, key ∉ seen)
    (hstep : ∀ member ∈ members, ∀ seen,
      read (after seen) member.1 (.ofJson member.2) = .ok (after (member.1 :: seen))) :
    (Members.ofJson members).readFields type read (after seen) seen =
      .ok (after ((Json.keys members).reverse ++ seen)) := by
  induction members generalizing seen with
  | nil => rfl
  | cons member members ih =>
      obtain ⟨key, value⟩ := member
      have hknown : type.fields.contains key = true :=
        List.contains_iff_mem.mpr (hfields key List.mem_cons_self)
      have hunread : seen.contains key = false := by
        simpa using hfresh key List.mem_cons_self
      have hfirst := hstep (key, value) List.mem_cons_self seen
      obtain ⟨hnot, hrest⟩ := List.nodup_cons.mp hdistinct
      have hlater := ih (key :: seen)
        (fun later hlater => hfields later (List.mem_cons_of_mem _ hlater)) hrest
        (fun later hlater => by
          have hne : later ≠ key := fun hsame => hnot (hsame ▸ hlater)
          simpa [hne] using hfresh later (List.mem_cons_of_mem _ hlater))
        (fun later hlater => hstep later (List.mem_cons_of_mem _ hlater))
      have hkeys : (Json.keys ((key, value) :: members)).reverse ++ seen =
          (Json.keys members).reverse ++ key :: seen := by
        simp [Json.keys]
      rw [hkeys, ← hlater]
      simp only [Members.ofJson, Members.readFields, hknown, hunread, hfirst]
      rfl

theorem readsAs_record {members : List (String × Json)} {record : α}
    (hfields : ∀ key ∈ Json.keys members, key ∈ type.fields)
    (hdistinct : (Json.keys members).Nodup)
    (hstep : ∀ member ∈ members, ∀ seen,
      ReadsAs (read (after seen) member.1) member.2 (after (member.1 :: seen)))
    (hafter : ∀ seen, (∀ key, key ∈ seen ↔ key ∈ Json.keys members) → after seen = record) :
    ReadsAs (Datum.readRecord type read (after [])) (.object members) (.named, record) := by
  intro other hreorders
  cases hreorders with
  | @object _ permuted others hperm hmembers =>
      have hkeys : (Json.keys members).Perm (Json.keys others) := by
        rw [← hmembers.keys_eq]
        exact hperm.map Prod.fst
      have hread : (Members.ofJson others).readFields type read (after []) [] =
          .ok (after ((Json.keys others).reverse ++ [])) := by
        apply readFields_eq after others []
        · exact fun key hkey => hfields key (hkeys.mem_iff.mpr hkey)
        · exact hkeys.nodup_iff.mp hdistinct
        · exact fun _ _ => List.not_mem_nil
        · intro member hmember seen
          obtain ⟨value, hvalue, hsame⟩ := hmembers.exists_of_mem hmember
          exact hstep _ (hperm.mem_iff.mpr hvalue) seen member.2 hsame
      have hrecord : after ((Json.keys others).reverse ++ []) = record := by
        apply hafter
        intro key
        simp [hkeys.mem_iff]
      rw [hrecord] at hread
      simp only [Datum.ofJson, Datum.readRecord, hread]
      rfl

end

/-! ## What readers can give -/

def Yields {α : Type} (read : Datum → Decoded α) (holds : α → Prop) : Prop :=
  ∀ datum value, read datum = .ok value → holds value

section

variable {α : Type} {read : Datum → Decoded α} {holds : α → Prop}

theorem Yields.bind {β : Type} {rest : α → Decoded β} {also : β → Prop}
    (hfirst : Yields read holds)
    (hrest : ∀ value, holds value → ∀ result, rest value = .ok result → also result) :
    Yields (fun datum => read datum >>= rest) also := by
  intro datum result hread
  obtain ⟨value, hvalue, hresult⟩ := bind_eq_ok_iff.mp hread
  exact hrest value (hfirst datum value hvalue) result hresult

theorem refuse_ne_ok (datum : Datum) (expected : String) (value : α) :
    (datum.refuse expected : Decoded α) ≠ .ok value := by
  intro hrefuse
  obtain ⟨found, -, hrest⟩ := bind_eq_ok_iff.mp hrefuse
  cases hrest

theorem yields_natural (type : NaturalType) :
    Yields (Datum.natural type) fun value => value < type.bound := by
  have hbounded (value : Int) (found : Nat) (hfound : boundedNatural type value = .ok found) :
      found < type.bound := by
    unfold boundedNatural at hfound
    split at hfound
    · next hfits =>
        cases hfound
        simp at hfits
        omega
    · cases hfound
  intro datum value hread
  unfold Datum.natural at hread
  split at hread
  · exact hbounded _ value hread
  · split at hread
    · exact hbounded _ value hread
    · exact absurd hread (refuse_ne_ok _ _ _)
  · exact absurd hread (refuse_ne_ok _ _ _)

theorem yields_members :
    Yields Datum.members fun members => (Json.object members).HasSortedKeys := by
  intro datum members hread
  unfold Datum.members at hread
  split at hread
  · next source => exact Json.membersSorted_of_json source [] members .nil trivial hread
  · split at hread
    · cases hread
      exact ⟨.nil, trivial⟩
    · exact absurd hread (refuse_ne_ok _ _ _)
  · exact absurd hread (refuse_ne_ok _ _ _)

theorem yields_optional (hread : Yields read holds) :
    Yields (Datum.optional read) fun value => ∀ present, value = some present → holds present := by
  have hsome (datum : Datum) (value : Option α)
      (hvalue : (read datum >>= fun found => .ok (some found)) = .ok value) (present : α)
      (hpresent : value = some present) : holds present := by
    obtain ⟨found, hfound, hsame⟩ := bind_eq_ok_iff.mp hvalue
    cases hsame
    cases hpresent
    exact hread datum present hfound
  intro datum value hvalue
  unfold Datum.optional at hvalue
  split at hvalue
  · cases hvalue
    nofun
  · cases hvalue
  · split at hvalue
    · cases hvalue
      nofun
    · exact hsome _ value hvalue
  · exact hsome _ value hvalue

theorem yields_listOf (hread : Yields read holds) :
    Yields (Datum.listOf read) fun values => ∀ value ∈ values, holds value := by
  have hall (items : List α) (source : Items) (hitems : source.readAll read = .ok items) :
      ∀ value ∈ items, holds value := by
    induction items generalizing source with
    | nil => nofun
    | cons first items ih =>
        cases source with
        | nil => cases hitems
        | fault reason => cases hitems
        | cons item rest =>
            obtain ⟨found, hfound, hitems⟩ := bind_eq_ok_iff.mp hitems
            obtain ⟨others, hothers, hitems⟩ := bind_eq_ok_iff.mp hitems
            cases hitems
            exact List.forall_mem_cons.mpr ⟨hread item first hfound, ih rest hothers⟩
  intro datum values hvalues
  unfold Datum.listOf at hvalues
  split at hvalues
  · exact hall values _ hvalues
  · split at hvalues
    · cases hvalues
      nofun
    · exact absurd hvalues (refuse_ne_ok _ _ _)
  · exact absurd hvalues (refuse_ne_ok _ _ _)

end

section

variable {α : Type} {type : RecordType} {read : FieldReader α} {holds : α → Prop}

theorem holds_of_readMembers (hstep : ∀ fields key, holds fields → Yields (read fields key) holds)
    (members : Members) (fields : α) (seen : List String) (hfields : holds fields) (result : α)
    (hread : members.readFields type read fields seen = .ok result) : holds result := by
  cases members with
  | nil =>
      cases hread
      exact hfields
  | cons key value rest =>
      unfold Members.readFields at hread
      split at hread
      · split at hread
        · cases hread
        · obtain ⟨next, hnext, hread⟩ := bind_eq_ok_iff.mp hread
          have hholds := hstep fields key hfields value next hnext
          exact holds_of_readMembers hstep rest next (key :: seen) hholds result hread
      · split at hread
        · cases hread
        · obtain ⟨-, -, hread⟩ := bind_eq_ok_iff.mp hread
          exact holds_of_readMembers hstep rest fields seen hfields result hread
  | _ => cases hread

theorem holds_of_readItems (hstep : ∀ fields key, holds fields → Yields (read fields key) holds)
    {surplus : Bool} (names : List String) (items : Items) (fields : α) (hfields : holds fields)
    (result : α) (hread : items.readFields read surplus fields names = .ok result) :
    holds result := by
  induction names generalizing items fields with
  | nil =>
      cases items with
      | nil =>
          cases hread
          exact hfields
      | fault reason => cases hread
      | cons item rest =>
          -- Surplus items are passed over or an error, but never read.
          cases surplus with
          | true =>
              cases hread
              exact hfields
          | false => cases hread
  | cons name names ih =>
      cases items with
      | nil =>
          cases hread
          exact hfields
      | fault reason => cases hread
      | cons item rest =>
          obtain ⟨next, hnext, hread⟩ := bind_eq_ok_iff.mp hread
          exact ih rest next (hstep fields name hfields item next hnext) hread

theorem yields_record (holds : α → Prop) {empty : α} (hempty : holds empty)
    (hstep : ∀ fields key, holds fields → Yields (read fields key) holds) :
    Yields (Datum.readRecord type read empty) fun result => holds result.2 := by
  intro datum result hread
  unfold Datum.readRecord at hread
  split at hread
  · obtain ⟨fields, hfields, hresult⟩ := bind_eq_ok_iff.mp hread
    cases hresult
    exact holds_of_readMembers hstep _ empty [] hempty fields hfields
  · obtain ⟨fields, hfields, hresult⟩ := bind_eq_ok_iff.mp hread
    cases hresult
    exact holds_of_readItems hstep _ _ empty hempty fields hfields
  · obtain ⟨fields, hfields, hresult⟩ := bind_eq_ok_iff.mp hread
    cases hresult
    exact holds_of_readItems hstep _ _ empty hempty fields hfields
  · split at hread
    · cases hread
      exact hempty
    · exact absurd hread (refuse_ne_ok _ _ _)
  · exact absurd hread (refuse_ne_ok _ _ _)

end

end ApiSurface
