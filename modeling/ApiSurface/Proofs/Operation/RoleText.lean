import ApiSurface.Operation.Documents
import ApiSurface.Output.Source
import ApiSurface.Proofs.Text.Joining

/-!
# Required roles and their text

A text of required roles is cut at its quotes, and every second piece is a role: whatever else a
role holds, the quotes around it show where it begins and ends (`rolesIn_text`).  So the text tells
which roles are required, in order and number, and wherever an operation is written, its text tells
which it requires (`roles_of_text`).
-/

namespace ApiSurface

/-! ## Roles between quotes -/

def RoleRequirement.IsQuoteFree (requirement : RoleRequirement) : Prop :=
  ∀ role ∈ requirement.roles, '\'' ∉ role.toList

instance (requirement : RoleRequirement) : Decidable requirement.IsQuoteFree :=
  List.decidableBAll (fun role : String => '\'' ∉ role.toList) requirement.roles

def everySecond : List String → List String
  | _ :: second :: rest => second :: everySecond rest
  | _ => []

def rolesIn (text : String) : List String :=
  everySecond (Text.split '\'' text)

def furtherChecks : List String → String
  | [] => ""
  | role :: roles => " and " ++ roleCheck role ++ furtherChecks roles

theorem join_roleChecks (role : String) (roles : List String) :
    Text.join " and " ((role :: roles).map roleCheck) = roleCheck role ++ furtherChecks roles := by
  induction roles generalizing role with
  | nil => simp [Text.join, furtherChecks]
  | cons next roles ih =>
      rw [List.map_cons, Text.join_cons (by simp), ih next, furtherChecks]
      simp [String.append_assoc]

/-- The quote before a check and the two of the check itself cut the text. -/
theorem rolesIn_append_roleCheck (front : String) {role : String} (hfront : '\'' ∉ front.toList)
    (hrole : '\'' ∉ role.toList) (rest : String) :
    rolesIn (front ++ roleCheck role ++ rest) = role :: rolesIn (")" ++ rest) := by
  have hparts : front ++ roleCheck role ++ rest =
      (front ++ "hasRole(") ++ "'" ++ (role ++ "'" ++ (")" ++ rest)) := by
    simp [roleCheck, ← String.toList_inj]
  have hopening : '\'' ∉ (front ++ "hasRole(").toList := by simp [hfront]
  rw [rolesIn, hparts, Text.split_append rfl, Text.split_append rfl,
    Text.split_of_notMem hopening, Text.split_of_notMem hrole]
  rfl

theorem rolesIn_append_furtherChecks {front : String} (hfront : '\'' ∉ front.toList)
    {roles : List String} (hroles : ∀ role ∈ roles, '\'' ∉ role.toList) :
    rolesIn (front ++ furtherChecks roles) = roles := by
  induction roles generalizing front with
  | nil =>
      rw [furtherChecks, String.append_empty, rolesIn, Text.split_of_notMem hfront]
      rfl
  | cons role roles ih =>
      obtain ⟨hrole, hroles⟩ := List.forall_mem_cons.mp hroles
      have hopening : '\'' ∉ (front ++ " and ").toList := by simp [hfront]
      rw [furtherChecks, ← String.append_assoc, ← String.append_assoc,
        rolesIn_append_roleCheck _ hopening hrole, ih (by decide) hroles]

theorem rolesIn_text {requirement : RoleRequirement} (hfree : requirement.IsQuoteFree) :
    rolesIn requirement.text = requirement.roles := by
  obtain ⟨roles⟩ := requirement
  cases roles with
  | nil => rfl
  | cons role roles =>
      obtain ⟨hrole, hroles⟩ := List.forall_mem_cons.mp hfree
      have hcheck := rolesIn_append_roleCheck "" (by decide) hrole
      rw [RoleRequirement.text, join_roleChecks]
      rw [String.empty_append] at hcheck
      rw [hcheck, rolesIn_append_furtherChecks (by decide) hroles]

theorem text_eq_iff {first second : RoleRequirement} (hfirst : first.IsQuoteFree)
    (hsecond : second.IsQuoteFree) : first.text = second.text ↔ first.roles = second.roles := by
  constructor
  · intro htext
    rw [← rolesIn_text hfirst, htext, rolesIn_text hsecond]
  · intro hroles
    rw [RoleRequirement.text, hroles, RoleRequirement.text]

theorem map_text_eq_iff {first second : Option RoleRequirement}
    (hfirst : ∀ requirement ∈ first, requirement.IsQuoteFree)
    (hsecond : ∀ requirement ∈ second, requirement.IsQuoteFree) :
    first.map RoleRequirement.text = second.map RoleRequirement.text ↔ first = second := by
  cases first with
  | none => cases second <;> simp
  | some one =>
      cases second with
      | none => simp
      | some other =>
          have hroles := text_eq_iff (hfirst one rfl) (hsecond other rfl)
          obtain ⟨roles⟩ := one
          obtain ⟨others⟩ := other
          simpa using hroles

/-! ## Roles of operations -/

variable (operation : Operation) (first second : Option RoleRequirement)

def Operation.withSecurity (security : Option RoleRequirement) : Operation :=
  { operation with security := security }

theorem toJson_withSecurity_eq_iff :
    (operation.withSecurity first).toJson = (operation.withSecurity second).toJson ↔
      first.map RoleRequirement.text = second.map RoleRequirement.text := by
  have hmember :
      (operation.withSecurity first).toJson = (operation.withSecurity second).toJson ↔
        Json.optional (fun requirement => .string (RoleRequirement.text requirement)) first =
          Json.optional (fun requirement => .string (RoleRequirement.text requirement)) second := by
    simp [Operation.toJson, Operation.withSecurity, Operation.path, Operation.verbNames]
  rw [hmember]
  cases first <;> cases second <;> simp [Json.optional]

theorem tableRow_withSecurity_eq_iff :
    (operation.withSecurity first).tableRow = (operation.withSecurity second).tableRow ↔
      first.map RoleRequirement.text = second.map RoleRequirement.text := by
  have hcolumn :
      (operation.withSecurity first).tableRow = (operation.withSecurity second).tableRow ↔
        first.elim "" (fun requirement => "  " ++ requirement.text) =
          second.elim "" (fun requirement => "  " ++ requirement.text) := by
    simp [Operation.tableRow, Operation.withSecurity, Operation.routeLabel, Operation.path,
      Operation.verbNames]
  rw [hcolumn]
  cases first <;> cases second <;> simp [← String.toList_inj]

theorem handlerDoc_withSecurity_eq_iff :
    Output.handlerDoc (operation.withSecurity first) =
        Output.handlerDoc (operation.withSecurity second) ↔
      first.map RoleRequirement.text = second.map RoleRequirement.text := by
  have hlines :
      Output.handlerDoc (operation.withSecurity first) =
          Output.handlerDoc (operation.withSecurity second) ↔
        first.elim [] (fun required => ["", "Requires " ++ Output.inTicks required.text]) =
          second.elim [] (fun required => ["", "Requires " ++ Output.inTicks required.text]) := by
    simp [Output.handlerDoc, Operation.withSecurity, Operation.routeLabel, Operation.path,
      Operation.verbNames]
  rw [hlines]
  cases first <;> cases second <;> simp [Output.inTicks]

/--
Requirements of roles without quotes have the same text exactly if they have the same roles in the
same order.  So an operation that requires other roles, or none, looks different in a snapshot, in a
table and in the documentation of its handler.
-/
theorem roles_of_text :
    (∀ first second : RoleRequirement, first.IsQuoteFree → second.IsQuoteFree →
        (first.text = second.text ↔ first.roles = second.roles)) ∧
      ∀ (operation : Operation) (first second : Option RoleRequirement),
        (∀ requirement ∈ first, requirement.IsQuoteFree) →
          (∀ requirement ∈ second, requirement.IsQuoteFree) →
            let one := operation.withSecurity first
            let other := operation.withSecurity second
            (one.toJson = other.toJson ↔ first = second) ∧
              (one.tableRow = other.tableRow ↔ first = second) ∧
              (Output.handlerDoc one = Output.handlerDoc other ↔ first = second) := by
  refine ⟨fun first second => text_eq_iff, fun operation first second hfirst hsecond => ?_⟩
  have hroles := map_text_eq_iff hfirst hsecond
  refine ⟨?_, ?_, ?_⟩
  · exact (toJson_withSecurity_eq_iff operation first second).trans hroles
  · exact (tableRow_withSecurity_eq_iff operation first second).trans hroles
  · exact (handlerDoc_withSecurity_eq_iff operation first second).trans hroles

/-- With quotes of its own, one role can be written like two. -/
example : (⟨["STAFF", "ADMIN"]⟩ : RoleRequirement).text =
    (⟨["STAFF') and hasRole('ADMIN"]⟩ : RoleRequirement).text := by
  decide +kernel

theorem lookalikeRole_of_text :
    let two : RoleRequirement := ⟨["STAFF", "ADMIN"]⟩
    let lookalike : RoleRequirement := ⟨["STAFF) and hasRole(ADMIN"]⟩
    let operation : Operation := ⟨.list, ⟨[.get], "/orders"⟩, "list", none, [], none, [],
      ⟨.sequence "shop.Order", false, "Vec<shop.Order>", .ok⟩⟩
    two.IsQuoteFree ∧ lookalike.IsQuoteFree ∧ two.text ≠ lookalike.text ∧
      (operation.withSecurity (some two)).tableRow ≠
        (operation.withSecurity (some lookalike)).tableRow ∧
      (operation.withSecurity (some two)).toJson ≠ (operation.withSecurity none).toJson := by
  intro two lookalike operation
  have htwo : two.IsQuoteFree := by decide
  have hlookalike : lookalike.IsQuoteFree := by decide
  obtain ⟨htext, hwritten⟩ := roles_of_text
  have hroles : two.roles ≠ lookalike.roles := by decide
  have hrequired : some two ≠ some lookalike := by decide
  have hsome {requirement : RoleRequirement} (hfree : requirement.IsQuoteFree) :
      ∀ other ∈ some requirement, other.IsQuoteFree := by
    rintro other ⟨rfl⟩
    exact hfree
  obtain ⟨-, htable, -⟩ := hwritten operation _ _ (hsome htwo) (hsome hlookalike)
  obtain ⟨hjson, -, -⟩ := hwritten operation _ none (hsome htwo) (by simp)
  refine ⟨htwo, hlookalike, ?_, ?_, ?_⟩
  · exact fun hsame => hroles ((htext two lookalike htwo hlookalike).mp hsame)
  · exact fun hsame => hrequired (htable.mp hsame)
  · exact fun hsame => Option.some_ne_none two (hjson.mp hsame)

end ApiSurface
