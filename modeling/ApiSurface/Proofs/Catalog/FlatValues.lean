import ApiSurface.Catalog.Marker

/-!
# The flat values of a marker

What a marker says at a key without slashes is what its own member of this key says: the entries
of any other member are at that member's key or at a path with a slash in it.  So a member can be
changed without changing what is said at other keys (`Marker.text?_congr`).
-/

namespace ApiSurface

/-! ## Paths -/

theorem slash_mem_nestedKey (path key : String) : '/' ∈ (nestedKey (some path) key).toList := by
  simp [nestedKey]

namespace Json

mutual

theorem path_of_mem_flatEntries {entry : String × String} {path : String} (value : Json)
    (hentry : entry ∈ value.flatEntries path) : entry.1 = path ∨ '/' ∈ entry.1.toList := by
  cases value with
  | null => cases hentry
  | object members => exact .inr (slash_mem_of_mem_flatMembers members hentry)
  | _ =>
      rw [List.mem_singleton.mp hentry]
      exact .inl rfl

theorem slash_mem_of_mem_flatMembers {entry : String × String} {path : String}
    (members : List (String × Json)) (hentry : entry ∈ flatMembers (some path) members) :
    '/' ∈ entry.1.toList := by
  cases members with
  | nil => cases hentry
  | cons member members =>
      rcases List.mem_append.mp hentry with hvalue | hrest
      · rcases path_of_mem_flatEntries member.2 hvalue with hpath | hslash
        · rw [hpath]
          exact slash_mem_nestedKey path member.1
        · exact hslash
      · exact slash_mem_of_mem_flatMembers members hrest

end

theorem filter_flatEntries_eq_nil {key path : String} (hslash : '/' ∉ key.toList)
    (hne : path ≠ key) (value : Json) :
    (value.flatEntries path).filter (fun entry => entry.1 == key) = [] := by
  rw [List.filter_eq_nil_iff]
  intro entry hentry hkey
  have hkey := beq_iff_eq.mp hkey
  rcases path_of_mem_flatEntries value hentry with hpath | hmem
  · exact hne (hpath.symm.trans hkey)
  · exact hslash (hkey ▸ hmem)

theorem filter_flatMembers {key edited : String} (hslash : '/' ∉ key.toList)
    (hne : edited ≠ key) (members : List (String × Json)) :
    (flatMembers none members).filter (fun entry => entry.1 == key) =
      (flatMembers none (members.filter fun member => member.1 != edited)).filter
        fun entry => entry.1 == key := by
  induction members with
  | nil => rfl
  | cons member members ih =>
      rw [flatMembers, List.filter_append, ih]
      by_cases hedited : member.1 = edited
      · rw [List.filter_cons_of_neg (by simp [hedited]), nestedKey, hedited,
          filter_flatEntries_eq_nil hslash hne, List.nil_append]
      · rw [List.filter_cons_of_pos (by simp [hedited]), flatMembers, List.filter_append]

end Json

/-! ## Texts -/

theorem lookup_filter (key : String) (entries : List (String × String)) :
    (entries.filter fun entry => entry.1 == key).lookup key = entries.lookup key := by
  induction entries with
  | nil => rfl
  | cons entry entries ih =>
      by_cases hkey : entry.1 = key
      · rw [List.filter_cons_of_pos (by simpa using hkey), List.lookup_cons, List.lookup_cons, ih]
      · have hne : (key == entry.1) = false := by simpa using Ne.symm hkey
        rw [List.filter_cons_of_neg (by simpa using hkey), ih, List.lookup_cons, hne]

namespace MarkerValues

theorem firstOf?_cons (values : MarkerValues) (key : String) (keys : List String) :
    values.firstOf? (key :: keys) = (values.text? key).or (values.firstOf? keys) := by
  rw [firstOf?, List.findSome?_cons]
  cases values.text? key <;> rfl

theorem firstOf?_pair (values : MarkerValues) (key other : String) :
    values.firstOf? [key, other] = (values.text? key).or (values.text? other) := by
  rw [firstOf?_cons, firstOf?_cons]
  exact congrArg _ Option.or_none

end MarkerValues

namespace Marker

/-- The trimmed text at a key, which does not depend on the place of the marker. -/
def text? (marker : Marker) (key : String) : Option String :=
  (marker.valuesAt "").text? key

theorem text?_valuesAt (marker : Marker) (location key : String) :
    (marker.valuesAt location).text? key = marker.text? key :=
  rfl

def list (marker : Marker) (key : String) : List String :=
  (marker.valuesAt "").list key

theorem list_valuesAt (marker : Marker) (location key : String) :
    (marker.valuesAt location).list key = marker.list key :=
  rfl

theorem text?_congr {marker other : Marker} {key edited : String} (hslash : '/' ∉ key.toList)
    (hne : edited ≠ key)
    (hsame : marker.values.filter (fun member => member.1 != edited) =
      other.values.filter fun member => member.1 != edited) :
    marker.text? key = other.text? key := by
  have hraw (values : List (String × Json)) :
      (Json.flatMembers none values).reverse.lookup key =
        ((Json.flatMembers none (values.filter fun member => member.1 != edited)).filter
          fun entry => entry.1 == key).reverse.lookup key := by
    rw [← lookup_filter, List.filter_reverse, Json.filter_flatMembers hslash hne]
  have hsameRaw : (marker.valuesAt "").raw? key = (other.valuesAt "").raw? key := by
    rw [MarkerValues.raw?, MarkerValues.raw?, valuesAt, valuesAt, hraw, hraw, hsame]
  rw [text?, text?, MarkerValues.text?, MarkerValues.text?, hsameRaw]

end Marker

end ApiSurface
