import ApiSurface.Proofs.Catalog.FlatValues
import ApiSurface.Proofs.Catalog.ReadBack
import ApiSurface.Proofs.Text.Joining

/-!
# Paths of keys

The flat values of a marker are the leaves of its values, each at the keys on the way to it
(`Marker.flat_of_leaves`).  Where no key has a slash, the slashes of a flat key show the way, so
no leaf hides another one.
-/

namespace ApiSurface

namespace Json

/-! ## Leaves -/

/-- Whether a path of keys leads through objects from one value to another one. -/
inductive Leads : Json → List String → Json → Prop
  | here (value : Json) : Leads value [] value
  | member {members : List (String × Json)} {key : String} {value leaf : Json} {path : List String}
      (hmember : (key, value) ∈ members) (hleads : Leads value path leaf) :
      Leads (.object members) (key :: path) leaf

theorem leads_nil_iff {value leaf : Json} : value.Leads [] leaf ↔ value = leaf := by
  constructor
  · rintro ⟨⟩
    rfl
  · rintro rfl
    exact .here value

theorem leads_cons_iff {value leaf : Json} {key : String} {path : List String} :
    value.Leads (key :: path) leaf ↔
      ∃ members below, value = .object members ∧ (key, below) ∈ members ∧ below.Leads path leaf := by
  constructor
  · intro hleads
    cases hleads with
    | member hmember hleads => exact ⟨_, _, rfl, hmember, hleads⟩
  · rintro ⟨members, below, rfl, hmember, hleads⟩
    exact .member hmember hleads

/-- Whether a value has a text in the flat values: it is neither null nor an object. -/
def IsLeaf (value : Json) : Prop :=
  value ≠ .null ∧ ∀ members, value ≠ .object members

mutual

def leaves : Json → List (List String × Json)
  | .null => []
  | .object members => memberLeaves members
  | value => [([], value)]

def memberLeaves : List (String × Json) → List (List String × Json)
  | [] => []
  | (key, value) :: members =>
      value.leaves.map (fun leaf => (key :: leaf.1, leaf.2)) ++ memberLeaves members

end

theorem mem_memberLeaves_iff {members : List (String × Json)} {entry : List String × Json} :
    entry ∈ memberLeaves members ↔
      ∃ member ∈ members, ∃ leaf ∈ member.2.leaves, (member.1 :: leaf.1, leaf.2) = entry := by
  induction members with
  | nil => simp [memberLeaves]
  | cons member members ih => simp [memberLeaves, ih]

theorem exists_key_of_mem_memberLeaves {members : List (String × Json)} {path : List String}
    (hpath : path ∈ (memberLeaves members).map Prod.fst) :
    ∃ key ∈ keys members, ∃ below, path = key :: below := by
  obtain ⟨entry, hentry, rfl⟩ := List.mem_map.mp hpath
  obtain ⟨member, hmember, leaf, -, rfl⟩ := mem_memberLeaves_iff.mp hentry
  exact ⟨member.1, List.mem_map_of_mem hmember, leaf.1, rfl⟩

theorem nil_mem_leaves_iff {value leaf : Json} :
    ([], leaf) ∈ value.leaves ↔ leaf = value ∧ value.IsLeaf := by
  cases value with
  | object members => simp [leaves, mem_memberLeaves_iff, IsLeaf]
  | _ => simp [leaves, IsLeaf]

theorem mem_leaves_iff {value leaf : Json} {path : List String} :
    (path, leaf) ∈ value.leaves ↔ value.Leads path leaf ∧ leaf.IsLeaf := by
  induction path generalizing value with
  | nil =>
      rw [nil_mem_leaves_iff, leads_nil_iff]
      constructor
      · rintro ⟨rfl, hleaf⟩
        exact ⟨rfl, hleaf⟩
      · rintro ⟨rfl, hleaf⟩
        exact ⟨rfl, hleaf⟩
  | cons key path ih =>
      rw [leads_cons_iff]
      cases value with
      | object members => simp [leaves, mem_memberLeaves_iff, ih, ← and_assoc]
      | _ => simp [leaves]

mutual

theorem nodup_leaves (value : Json) (hsorted : value.HasSortedKeys) :
    (value.leaves.map Prod.fst).Nodup := by
  cases value with
  | object members => exact nodup_memberLeaves members hsorted.1.nodup hsorted.2
  | null => exact .nil
  | _ => exact List.nodup_singleton _

theorem nodup_memberLeaves (members : List (String × Json)) (hdistinct : (keys members).Nodup)
    (hsorted : MembersSorted members) : ((memberLeaves members).map Prod.fst).Nodup := by
  cases members with
  | nil => exact .nil
  | cons member members =>
      obtain ⟨key, value⟩ := member
      obtain ⟨hfresh, hdistinct⟩ := List.nodup_cons.mp hdistinct
      have hpaths : (value.leaves.map fun leaf => (key :: leaf.1, leaf.2)).map Prod.fst =
          (value.leaves.map Prod.fst).map (key :: ·) := by
        simp
      rw [memberLeaves, List.map_append, hpaths, List.nodup_append]
      refine ⟨(nodup_leaves value hsorted.1).map List.cons_injective,
        nodup_memberLeaves members hdistinct hsorted.2, ?_⟩
      -- The paths into the other members begin with other keys.
      rintro _ hpath _ hother rfl
      obtain ⟨below, -, rfl⟩ := List.mem_map.mp hpath
      obtain ⟨first, hfirst, _, hsame⟩ := exists_key_of_mem_memberLeaves hother
      cases hsame
      exact hfresh hfirst

end

/-! ## Flat entries -/

theorem join_nested (path key : String) (keys : List String) :
    Text.join "/" (nestedKey (some path) key :: keys) = Text.join "/" (path :: key :: keys) := by
  cases keys with
  | nil => rfl
  | cons next keys => simp [nestedKey, Text.join, String.append_assoc]

def flatEntry (path : List String) (leaf : List String × Json) : String × String :=
  (Text.join "/" (path ++ leaf.1), leaf.2.primitiveText)

mutual

theorem flatEntries_eq (path : String) (value : Json) :
    value.flatEntries path = value.leaves.map (flatEntry [path]) := by
  cases value with
  | null => rfl
  | object members => exact flatMembers_eq (some path) members
  | _ => rfl

theorem flatMembers_eq (path : Option String) (members : List (String × Json)) :
    flatMembers path members = (memberLeaves members).map (flatEntry path.toList) := by
  cases members with
  | nil => rfl
  | cons member members =>
      obtain ⟨key, value⟩ := member
      rw [flatMembers, memberLeaves, List.map_append, flatEntries_eq, flatMembers_eq, List.map_map]
      congr 1
      refine List.map_congr_left fun leaf _ => ?_
      cases path with
      | none => rfl
      | some path => simp [flatEntry, join_nested]

end

/-! ## Keys without slashes -/

mutual

/-- Whether no key of an object, or of one below it, has a slash. -/
def Slashless : Json → Prop
  | .object members => MembersSlashless members
  | _ => True

def MembersSlashless : List (String × Json) → Prop
  | [] => True
  | (key, value) :: members => '/' ∉ key.toList ∧ value.Slashless ∧ MembersSlashless members

end

theorem membersSlashless_iff {members : List (String × Json)} :
    MembersSlashless members ↔
      ∀ member ∈ members, '/' ∉ member.1.toList ∧ member.2.Slashless := by
  induction members with
  | nil => simp [MembersSlashless]
  | cons member members ih => simp [MembersSlashless, ih, and_assoc]

theorem Leads.slashless {value leaf : Json} {path : List String} (hleads : value.Leads path leaf)
    (hslash : value.Slashless) : ∀ key ∈ path, '/' ∉ key.toList := by
  induction hleads with
  | here value => exact List.forall_mem_nil _
  | member hmember hleads ih =>
      obtain ⟨hkey, hvalue⟩ := membersSlashless_iff.mp hslash _ hmember
      exact List.forall_mem_cons.mpr ⟨hkey, ih hvalue⟩

theorem Leads.ne_nil {members : List (String × Json)} {leaf : Json} {path : List String}
    (hleads : (Json.object members).Leads path leaf) (hleaf : leaf.IsLeaf) : path ≠ [] := by
  rintro rfl
  exact hleaf.2 members (leads_nil_iff.mp hleads).symm

theorem Leads.eq_of_join_eq {members : List (String × Json)} {leaf other : Json}
    {path path' : List String} (hslash : (Json.object members).Slashless)
    (hleads : (Json.object members).Leads path leaf) (hleaf : leaf.IsLeaf)
    (hleads' : (Json.object members).Leads path' other) (hother : other.IsLeaf)
    (hjoin : Text.join "/" path = Text.join "/" path') : path = path' :=
  Text.join_injective rfl (hleads.ne_nil hleaf) (hleads'.ne_nil hother) (hleads.slashless hslash)
    (hleads'.slashless hslash) hjoin

theorem nodup_flatMembers {members : List (String × Json)}
    (hsorted : (Json.object members).HasSortedKeys) (hslash : (Json.object members).Slashless) :
    ((flatMembers none members).map Prod.fst).Nodup := by
  have hkeys : (flatMembers none members).map Prod.fst =
      ((memberLeaves members).map Prod.fst).map (Text.join "/") := by
    rw [flatMembers_eq, List.map_map, List.map_map]
    rfl
  rw [hkeys]
  refine List.Nodup.map_on ?_ (nodup_leaves _ hsorted)
  intro path hpath path' hpath' hjoin
  obtain ⟨⟨path, leaf⟩, hentry, rfl⟩ := List.mem_map.mp hpath
  obtain ⟨⟨path', other⟩, hentry', rfl⟩ := List.mem_map.mp hpath'
  obtain ⟨hleads, hleaf⟩ : (Json.object members).Leads path leaf ∧ leaf.IsLeaf :=
    mem_leaves_iff.mp hentry
  obtain ⟨hleads', hother⟩ : (Json.object members).Leads path' other ∧ other.IsLeaf :=
    mem_leaves_iff.mp hentry'
  exact hleads.eq_of_join_eq hslash hleaf hleads' hother hjoin

end Json

/-! ## Entries by key

Entries are sorted as members with their texts as values are.
-/

theorem lookup_eq_some_iff_mem {entries : List (String × String)}
    (hdistinct : (entries.map Prod.fst).Nodup) {key text : String} :
    entries.lookup key = some text ↔ (key, text) ∈ entries := by
  rw [List.lookup_eq_some_iff]
  constructor
  · rintro ⟨before, after, hsplit, -⟩
    simp [hsplit]
  · intro hentry
    obtain ⟨before, after, hsplit⟩ := List.append_of_mem hentry
    refine ⟨before, after, hsplit, fun earlier hearlier => bne_iff_ne.mpr ?_⟩
    rw [hsplit, List.map_append, List.nodup_append] at hdistinct
    exact (hdistinct.2.2 _ (List.mem_map_of_mem hearlier) _ List.mem_cons_self).symm

namespace MarkerValues

variable {values : MarkerValues}

def asMember (entry : String × String) : String × Json :=
  (entry.1, .string entry.2)

theorem map_insertEntry (entry : String × String) (entries : List (String × String)) :
    (insertEntry entry entries).map asMember =
      Json.insertMember entry.1 (.string entry.2) (entries.map asMember) := by
  induction entries with
  | nil => rfl
  | cons other entries ih =>
      rw [insertEntry, List.map_cons, asMember, Json.insertMember]
      split
      · rfl
      · split
        · rfl
        · rw [List.map_cons, ih, asMember]

theorem map_sorted (values : MarkerValues) :
    values.sorted.map asMember = Json.insertAll (values.entries.map asMember) [] := by
  have hfold (entries sorted : List (String × String)) :
      (entries.foldl (fun entries entry => insertEntry entry entries) sorted).map asMember =
        Json.insertAll (entries.map asMember) (sorted.map asMember) := by
    induction entries generalizing sorted with
    | nil => rfl
    | cons entry entries ih =>
        rw [List.foldl_cons, ih, map_insertEntry]
        rfl
  exact hfold values.entries []

theorem sorted_perm (hdistinct : (values.entries.map Prod.fst).Nodup) :
    values.sorted.Perm values.entries := by
  have hinjective : Function.Injective asMember := by
    rintro ⟨key, text⟩ ⟨key', text'⟩ hsame
    cases hsame
    rfl
  have hkeys : Json.keys (values.entries.map asMember) = values.entries.map Prod.fst := by
    simp [Json.keys, asMember]
  have hmembers : (Json.insertAll (values.entries.map asMember) []).Perm
      (values.entries.map asMember ++ []) :=
    Json.insertAll_perm (by rwa [hkeys, Json.keys, List.map_nil, List.append_nil])
  rw [List.append_nil] at hmembers
  rwa [← List.map_perm_map_iff hinjective, map_sorted]

theorem raw?_eq_some_iff (hdistinct : (values.entries.map Prod.fst).Nodup) {key text : String} :
    values.raw? key = some text ↔ (key, text) ∈ values.entries := by
  have hreversed : (values.entries.reverse.map Prod.fst).Nodup := by
    rw [List.map_reverse]
    exact List.nodup_reverse.mpr hdistinct
  rw [raw?, lookup_eq_some_iff_mem hreversed, List.mem_reverse]

end MarkerValues

/-! ## Lists -/

theorem Json.primitiveText_strings (items : List String) :
    (Json.strings items).primitiveText = Text.join "," items := by
  have htexts : Json.primitiveTexts (items.map .string) = items := by
    induction items with
    | nil => rfl
    | cons item items ih => rw [List.map_cons, Json.primitiveTexts, ih, Json.primitiveText]
  rw [Json.strings, Json.primitiveText, htexts]

namespace MarkerValues

variable {values : MarkerValues} {key : String}

theorem text?_of_isTrimmed {text : String} (hraw : values.raw? key = some text)
    (htrimmed : Text.IsTrimmed text) : values.text? key = some text := by
  obtain ⟨hne, htrim⟩ := htrimmed
  simp [text?, hraw, htrim, hne]

theorem list_of_join {items : List String} (hraw : values.raw? key = some (Text.join "," items))
    (hitems : ∀ item ∈ items, Text.IsTrimmed item ∧ ',' ∉ item.toList) :
    values.list key = items := by
  by_cases hempty : items = []
  · subst hempty
    have hblank : values.text? key = none := by
      rw [text?, hraw]
      rfl
    rw [list, hblank]
  · have htrimmed : Text.IsTrimmed (Text.join "," items) :=
      Text.isTrimmed_join hempty fun item hitem => (hitems item hitem).1
    have hpieces : Text.split ',' (Text.join "," items) = items :=
      Text.split_join rfl hempty fun item hitem => (hitems item hitem).2
    have htrim : items.map Text.trim = items :=
      (List.map_congr_left fun item hitem => (hitems item hitem).1.2).trans (List.map_id items)
    have hkept : items.filter (fun item => !item.isEmpty) = items :=
      List.filter_eq_self.mpr fun item hitem => by simpa using (hitems item hitem).1.1
    simp only [list, text?_of_isTrimmed hraw htrimmed, hpieces, htrim, hkept]

end MarkerValues

/-! ## Flat values -/

namespace Marker

def HasLeaf (marker : Marker) (path : List String) (leaf : Json) : Prop :=
  (Json.object marker.values).Leads path leaf ∧ leaf.IsLeaf

variable {marker : Marker} {path : List String} {leaf : Json}

theorem mem_entries_iff {location key text : String} :
    (key, text) ∈ (marker.valuesAt location).entries ↔
      ∃ path leaf, marker.HasLeaf path leaf ∧ key = Text.join "/" path ∧
        text = leaf.primitiveText := by
  rw [valuesAt, Json.flatMembers_eq, List.mem_map]
  constructor
  · rintro ⟨⟨path, leaf⟩, hentry, hflat⟩
    cases hflat
    exact ⟨path, leaf, Json.mem_leaves_iff.mp hentry, rfl, rfl⟩
  · rintro ⟨path, leaf, hleaf, rfl, rfl⟩
    exact ⟨(path, leaf), Json.mem_leaves_iff.mpr hleaf, rfl⟩

theorem HasLeaf.eq_of_join_eq {other : List String} {found : Json} (hsorted : marker.HasSortedKeys)
    (hslash : (Json.object marker.values).Slashless) (hleaf : marker.HasLeaf path leaf)
    (hfound : marker.HasLeaf other found) (hjoin : Text.join "/" path = Text.join "/" other) :
    path = other ∧ leaf = found := by
  have hpath : path = other :=
    hleaf.1.eq_of_join_eq hslash hleaf.2 hfound.1 hfound.2 hjoin
  subst hpath
  have hsame := List.inj_on_of_nodup_map (Json.nodup_leaves _ hsorted)
    (Json.mem_leaves_iff.mpr hleaf) (Json.mem_leaves_iff.mpr hfound) rfl
  exact ⟨rfl, congrArg Prod.snd hsame⟩

/--
The flat values of a marker without slashes in its keys: one text for each path to a leaf, at the
joined keys of this path, and no key for two paths.  A list of plain texts is read back.  Every
marker that is read has sorted keys (`yields_ofDatum`).
-/
theorem flat_of_leaves {marker : Marker} (location : String) (hsorted : marker.HasSortedKeys)
    (hslash : (Json.object marker.values).Slashless) :
    ((marker.valuesAt location).sorted.map Prod.fst).Nodup ∧
      (∀ key text, (key, text) ∈ (marker.valuesAt location).sorted ↔
        ∃ path leaf, marker.HasLeaf path leaf ∧ key = Text.join "/" path ∧
          text = leaf.primitiveText) ∧
      (∀ path other leaf found, marker.HasLeaf path leaf → marker.HasLeaf other found →
        Text.join "/" path = Text.join "/" other → path = other ∧ leaf = found) ∧
      (∀ key text, (marker.valuesAt location).raw? key = some text ↔
        (key, text) ∈ (marker.valuesAt location).sorted) ∧
      ∀ path items, marker.HasLeaf path (Json.strings items) →
        (∀ item ∈ items, Text.IsTrimmed item ∧ ',' ∉ item.toList) →
        (marker.valuesAt location).list (Text.join "/" path) = items := by
  have hdistinct : ((marker.valuesAt location).entries.map Prod.fst).Nodup :=
    Json.nodup_flatMembers hsorted hslash
  have hperm := MarkerValues.sorted_perm hdistinct
  refine ⟨(hperm.map Prod.fst).nodup_iff.mpr hdistinct, ?_, ?_, ?_, ?_⟩
  · intro key text
    rw [hperm.mem_iff, mem_entries_iff]
  · intro path other leaf found hleaf hfound hjoin
    exact hleaf.eq_of_join_eq hsorted hslash hfound hjoin
  · intro key text
    rw [MarkerValues.raw?_eq_some_iff hdistinct, hperm.mem_iff]
  · intro path items hleaf hitems
    have hraw : (marker.valuesAt location).raw? (Text.join "/" path) =
        some (Text.join "," items) := by
      rw [MarkerValues.raw?_eq_some_iff hdistinct, mem_entries_iff]
      exact ⟨path, _, hleaf, rfl, (Json.primitiveText_strings items).symm⟩
    exact MarkerValues.list_of_join hraw hitems

end Marker

/-! ## A marker with nested values -/

def groupsMarker : Marker :=
  ⟨"CrudResource", [("dtoConfig", .object [("groups", Json.strings ["list", "single"]),
    ("list", .string "OrderRow")]), ("entity", .string "Order")]⟩

theorem groupsMarker_flat :
    (groupsMarker.HasSortedKeys ∧ (Json.object groupsMarker.values).Slashless) ∧
      ("dtoConfig/list", "OrderRow") ∈ (groupsMarker.valuesAt "shop.OrderController").sorted ∧
      (groupsMarker.valuesAt "shop.OrderController").list "dtoConfig/groups" =
        ["list", "single"] := by
  have hsorted : groupsMarker.HasSortedKeys := by
    simp [groupsMarker, Marker.HasSortedKeys, Json.HasSortedKeys, Json.MembersSorted,
      Json.AllSorted, Json.strings, Json.keys, -String.lt_iff_ltb]
  have hslash : (Json.object groupsMarker.values).Slashless := by
    simp [groupsMarker, Json.Slashless, Json.MembersSlashless, Json.strings]
  obtain ⟨-, hflat, -, -, hlist⟩ := Marker.flat_of_leaves "shop.OrderController" hsorted hslash
  have hrow : groupsMarker.HasLeaf ["dtoConfig", "list"] (.string "OrderRow") := by
    refine ⟨.member List.mem_cons_self (.member ?_ (.here _)), by simp [Json.IsLeaf]⟩
    exact List.mem_cons_of_mem _ List.mem_cons_self
  have hgroups : groupsMarker.HasLeaf ["dtoConfig", "groups"] (Json.strings ["list", "single"]) := by
    refine ⟨.member List.mem_cons_self (.member List.mem_cons_self (.here _)), ?_⟩
    simp [Json.IsLeaf, Json.strings]
  refine ⟨⟨hsorted, hslash⟩, (hflat _ _).mpr ⟨_, _, hrow, rfl, rfl⟩, ?_⟩
  refine hlist _ _ hgroups ?_
  simp only [Text.IsTrimmed]
  decide

end ApiSurface
