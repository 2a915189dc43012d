import ApiSurface.Proofs.Catalog.KeyPaths
import ApiSurface.Proofs.Text.Replacing
import ApiSurface.Resource.Metadata

/-!
# Expanded templates

A template is made of literals and of tokens in braces.  Tokens are replaced one after the other,
but where neither the literals nor the names and values hold braces, no replacement makes, splits
or hides a token: all of them are replaced at once (`substitute_of_parts`).
-/

namespace ApiSurface.Naming

/-! ## Parts of a template -/

inductive TemplatePart where
  | literal (text : String)
  | token (name : String)
  deriving DecidableEq, Repr

def IsBraceFree (text : String) : Prop :=
  '\x7b' ∉ text.toList ∧ '\x7d' ∉ text.toList

instance (text : String) : Decidable (IsBraceFree text) :=
  inferInstanceAs (Decidable (_ ∧ _))

namespace TemplatePart

def text : TemplatePart → String
  | literal text => text
  | token name => tokenText name

/-- What stands for a part: the value of a token that has one, and otherwise the part as written. -/
def expanded (tokens : List (String × String)) : TemplatePart → String
  | literal text => text
  | token name => (tokens.lookup name).getD (tokenText name)

def BraceFree : TemplatePart → Prop
  | literal text => IsBraceFree text
  | token name => IsBraceFree name

instance : (part : TemplatePart) → Decidable part.BraceFree
  | literal text => inferInstanceAs (Decidable (IsBraceFree text))
  | token name => inferInstanceAs (Decidable (IsBraceFree name))

def fill (name value : String) : TemplatePart → TemplatePart
  | literal text => literal text
  | token other => if other = name then literal value else token other

end TemplatePart

def templateText (parts : List TemplatePart) : String :=
  Text.concat (parts.map TemplatePart.text)

def expand (parts : List TemplatePart) (tokens : List (String × String)) : String :=
  Text.concat (parts.map (TemplatePart.expanded tokens))

/-! ## One token -/

theorem toList_tokenText (name : String) :
    (tokenText name).toList = '\x7b' :: (name.toList ++ ['\x7d']) := by
  simp [tokenText]

theorem toList_concat_cons (piece : String) (pieces : List String) :
    (Text.concat (piece :: pieces)).toList = piece.toList ++ (Text.concat pieces).toList := by
  cases pieces <;> simp [Text.concat, Text.join]

variable {name other value : String}

theorem tokenText_prefix_iff (hname : IsBraceFree name) (hother : IsBraceFree other)
    (rest : List Char) :
    (tokenText name).toList <+: (tokenText other).toList ++ rest ↔ other = name := by
  have hcut {text : String} (htext : IsBraceFree text) (tail : List Char) :
      (text.toList ++ '\x7d' :: tail).takeWhile (· != '\x7d') = text.toList := by
    have hkept : ∀ c ∈ text.toList, (c != '\x7d') = true := by
      intro c hc
      rw [bne_iff_ne]
      rintro rfl
      exact htext.2 hc
    rw [List.takeWhile_append_of_pos hkept]
    simp
  constructor
  · rintro ⟨tail, htail⟩
    simp only [toList_tokenText, List.cons_append, List.append_assoc, List.cons.injEq,
      true_and, List.nil_append] at htail
    -- both names end at the first closing brace
    have hnames := congrArg (List.takeWhile (· != '\x7d')) htail
    rw [hcut hname, hcut hother] at hnames
    exact (String.toList_inj.mp hnames).symm
  · rintro rfl
    exact List.prefix_append _ _

theorem replaceChars_part (hname : IsBraceFree name) (value : String) {part : TemplatePart}
    (hpart : part.BraceFree) (rest : List Char) :
    Text.replaceChars (tokenText name).toList value.toList (part.text.toList ++ rest) =
      (part.fill name value).text.toList ++
        Text.replaceChars (tokenText name).toList value.toList rest := by
  cases part with
  | literal text =>
      rw [TemplatePart.text, TemplatePart.fill, TemplatePart.text, toList_tokenText]
      exact Text.replaceChars_append_of_notMem hpart.1 value.toList rest
  | token other =>
      rw [TemplatePart.text, TemplatePart.fill]
      by_cases hsame : other = name
      · subst hsame
        rw [if_pos rfl, TemplatePart.text]
        exact Text.replaceChars_of_prefix (by simp [toList_tokenText]) value.toList rest
      · -- no token starts inside of another one, as there is only one opening brace
        have hprefix := (tokenText_prefix_iff hname hpart rest).not.mpr hsame
        have hinner : '\x7b' ∉ other.toList ++ ['\x7d'] := by
          simpa using hpart.1
        rw [if_neg hsame, TemplatePart.text]
        rw [toList_tokenText other, List.cons_append] at hprefix ⊢
        rw [Text.replaceChars_of_not_prefix hprefix, toList_tokenText name,
          Text.replaceChars_append_of_notMem hinner, List.cons_append]

theorem replace_templateText (hname : IsBraceFree name) (value : String)
    {parts : List TemplatePart} (hparts : ∀ part ∈ parts, part.BraceFree) :
    Text.replace (tokenText name) value (templateText parts) =
      templateText (parts.map (TemplatePart.fill name value)) := by
  rw [← String.toList_inj, Text.replace, String.toList_ofList]
  induction parts with
  | nil => rfl
  | cons part parts ih =>
      obtain ⟨hpart, hparts⟩ := List.forall_mem_cons.mp hparts
      rw [templateText, List.map_cons, toList_concat_cons, replaceChars_part hname value hpart,
        ← templateText, ih hparts, List.map_cons, templateText, templateText, List.map_cons,
        toList_concat_cons]

/-! ## All tokens -/

theorem TemplatePart.BraceFree.fill {part : TemplatePart} (hpart : part.BraceFree)
    (hvalue : IsBraceFree value) : (part.fill name value).BraceFree := by
  cases part with
  | literal text => exact hpart
  | token other =>
      rw [TemplatePart.fill]
      split
      · exact hvalue
      · exact hpart

theorem TemplatePart.expanded_fill (name value : String) (tokens : List (String × String))
    (part : TemplatePart) :
    (part.fill name value).expanded tokens = part.expanded ((name, value) :: tokens) := by
  cases part with
  | literal text => rfl
  | token other =>
      rw [TemplatePart.fill]
      by_cases hsame : other = name
      · simp [hsame, expanded]
      · have hdiffers : (other == name) = false := by simpa using hsame
        simp [hsame, expanded, List.lookup_cons, hdiffers]

theorem substitute_templateText {parts : List TemplatePart} {tokens : List (String × String)}
    (hparts : ∀ part ∈ parts, part.BraceFree)
    (htokens : ∀ token ∈ tokens, IsBraceFree token.1 ∧ IsBraceFree token.2) :
    substitute (templateText parts) tokens = expand parts tokens := by
  induction tokens generalizing parts with
  | nil =>
      have hwritten : TemplatePart.expanded [] = TemplatePart.text := by
        funext part
        cases part <;> rfl
      rw [expand, hwritten]
      rfl
  | cons token tokens ih =>
      obtain ⟨name, value⟩ := token
      obtain ⟨⟨hname, hvalue⟩, htokens⟩ := List.forall_mem_cons.mp htokens
      have hfilled : ∀ part ∈ parts.map (TemplatePart.fill name value), part.BraceFree := by
        simp only [List.forall_mem_map]
        exact fun part hpart => (hparts part hpart).fill hvalue
      have hexpanded : expand (parts.map (TemplatePart.fill name value)) tokens =
          expand parts ((name, value) :: tokens) := by
        simp only [expand, List.map_map, Function.comp_def, TemplatePart.expanded_fill]
      calc substitute (templateText parts) ((name, value) :: tokens)
          = substitute (Text.replace (tokenText name) value (templateText parts)) tokens := rfl
        _ = substitute (templateText (parts.map (TemplatePart.fill name value))) tokens := by
            rw [replace_templateText hname value hparts]
        _ = expand parts ((name, value) :: tokens) := by rw [ih hfilled htokens, hexpanded]

theorem expand_of_perm {tokens others : List (String × String)}
    (hnames : (tokens.map Prod.fst).Nodup) (hperm : others.Perm tokens)
    (parts : List TemplatePart) : expand parts others = expand parts tokens := by
  have hlookup (name : String) : others.lookup name = tokens.lookup name := by
    ext value
    rw [lookup_eq_some_iff_mem hnames,
      lookup_eq_some_iff_mem ((hperm.map Prod.fst).nodup_iff.mpr hnames), hperm.mem_iff]
  have hparts : TemplatePart.expanded others = TemplatePart.expanded tokens := by
    funext part
    cases part with
    | literal text => rfl
    | token name => rw [TemplatePart.expanded, TemplatePart.expanded, hlookup]
  rw [expand, expand, hparts]

/-! ## Names that are cut -/

theorem IsBraceFree.of_subset {text : String} (htext : IsBraceFree text)
    (hsubset : ∀ c ∈ other.toList, c ∈ text.toList) : IsBraceFree other :=
  ⟨fun hopen => htext.1 (hsubset _ hopen), fun hclose => htext.2 (hsubset _ hclose)⟩

theorem isBraceFree_normalizeEntityName (hname : IsBraceFree name) (suffixes : List String) :
    IsBraceFree (normalizeEntityName name suffixes) := by
  unfold normalizeEntityName
  split
  · refine hname.of_subset fun c hc => ?_
    rw [String.toList_ofList, Text.dropEnd] at hc
    exact List.mem_of_mem_take hc
  · exact hname

theorem isBraceFree_replace (hname : IsBraceFree name) (hvalue : IsBraceFree value)
    (piece : String) : IsBraceFree (Text.replace piece value name) := by
  have hfrom {c : Char} (hc : c ∈ (Text.replace piece value name).toList) :
      c ∈ value.toList ∨ c ∈ name.toList := by
    rw [Text.replace, String.toList_ofList] at hc
    exact Text.mem_of_mem_replaceFrom hc
  exact ⟨fun hopen => (hfrom hopen).elim hvalue.1 hname.1,
    fun hclose => (hfrom hclose).elim hvalue.2 hname.2⟩

end ApiSurface.Naming

namespace ApiSurface

open Naming

/--
The tokens of a template are replaced at once, in whatever order they are listed.  Roles and the
names of controllers are made so, if what they are made of has no braces.
-/
theorem substitute_of_parts {parts : List TemplatePart}
    (hparts : ∀ part ∈ parts, part.BraceFree) :
    (∀ tokens : List (String × String), (tokens.map Prod.fst).Nodup →
      (∀ token ∈ tokens, IsBraceFree token.1 ∧ IsBraceFree token.2) →
        substitute (templateText parts) tokens = expand parts tokens ∧
          ∀ others : List (String × String), others.Perm tokens →
            substitute (templateText parts) others = substitute (templateText parts) tokens) ∧
      (∀ (policy : SecurityPolicy) (method entity name : String),
        policy.rolePattern = templateText parts →
          IsBraceFree method → IsBraceFree entity → IsBraceFree name →
            policy.role method entity name = Text.uppercase (expand parts
              [("METHOD", method), ("ENTITY", normalizeEntityName entity policy.entitySuffixes),
                ("NAME", name)])) ∧
      ∀ (declaringType : String) (values : MarkerValues) (settings : Settings),
        settings.classNamePattern = templateText parts → values.text? "className" = none →
          IsBraceFree settings.classNamePrefix → IsBraceFree (simpleName declaringType) →
            controllerNameOf declaringType values settings = qualify (expand parts
              [("PREFIX", settings.classNamePrefix),
                ("NAME_NORMALIZED", Text.replace "Controller" "" (simpleName declaringType)),
                ("NAME", simpleName declaringType)]) declaringType := by
  refine ⟨?_, ?_, ?_⟩
  · intro tokens hnames htokens
    have hexpanded := substitute_templateText hparts htokens
    refine ⟨hexpanded, fun others hperm => ?_⟩
    have hothers : ∀ token ∈ others, IsBraceFree token.1 ∧ IsBraceFree token.2 :=
      fun token htoken => htokens token (hperm.mem_iff.mp htoken)
    rw [hexpanded, substitute_templateText hparts hothers, expand_of_perm hnames hperm]
  · intro policy method entity name hpattern hmethod hentity hname
    have hnormalized := isBraceFree_normalizeEntityName hentity policy.entitySuffixes
    rw [SecurityPolicy.role, hpattern, substitute_templateText hparts]
    simp only [List.forall_mem_cons, List.not_mem_nil, false_implies, implies_true, and_true]
    exact ⟨⟨by decide, hmethod⟩, ⟨by decide, hnormalized⟩, by decide, hname⟩
  · intro declaringType values settings hpattern hunset hprefix hsimple
    have hempty : IsBraceFree "" := by decide
    have hnormalized := isBraceFree_replace hsimple hempty "Controller"
    rw [controllerNameOf, hunset, hpattern, substitute_templateText hparts, Option.getD_none]
    simp only [List.forall_mem_cons, List.not_mem_nil, false_implies, implies_true, and_true]
    exact ⟨⟨by decide, hprefix⟩, ⟨by decide, hnormalized⟩, by decide, hsimple⟩

def nestedNames : List TemplatePart :=
  [.token "PREFIX", .literal "_", .token "NAME_NORMALIZED", .token "NAME", .token "KIND"]

def nestedTokens : List (String × String) :=
  [("NAME", "Orders"), ("NAME_NORMALIZED", "Order"), ("PREFIX", "My")]

theorem nestedNames_expanded :
    (∀ part ∈ nestedNames, part.BraceFree) ∧
      (substitute (templateText nestedNames) nestedTokens = "My_OrderOrders\x7bKIND\x7d" ∧
        substitute (templateText nestedNames) nestedTokens.reverse =
          "My_OrderOrders\x7bKIND\x7d") ∧
      SecurityPolicy.role ⟨templateText nestedNames, true, []⟩ "READ" "Order" "Orders" =
        "\x7bPREFIX\x7d_\x7bNAME_NORMALIZED\x7dORDERS\x7bKIND\x7d" ∧
      controllerNameOf "shop.OrderController" ⟨"shop.OrderController", []⟩
          { Settings.default with classNamePattern := templateText nestedNames } =
        "shop.Generated_OrderOrderController\x7bKIND\x7d" := by
  have hparts : ∀ part ∈ nestedNames, part.BraceFree := by decide
  obtain ⟨hsubstitute, hrole, hcontroller⟩ := substitute_of_parts hparts
  obtain ⟨hexpanded, hany⟩ := hsubstitute nestedTokens (by decide) (by decide)
  have hresult : expand nestedNames nestedTokens = "My_OrderOrders\x7bKIND\x7d" := by decide
  refine ⟨hparts, ⟨hexpanded.trans hresult, ?_⟩, ?_, ?_⟩
  · rw [hany _ nestedTokens.reverse_perm, hexpanded, hresult]
  · rw [hrole _ _ _ _ rfl (by decide) (by decide) (by decide)]
    decide +kernel
  · rw [hcontroller _ _ _ rfl (by decide) (by decide) (by decide +kernel)]
    decide +kernel

end ApiSurface
