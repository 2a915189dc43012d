import ApiSurface.Text.CaseTable

/-!
# Upper and lower case

The full Unicode case mappings.  Lower-casing depends on the context in one place: a capital
sigma at the end of a word becomes the final sigma.
-/

namespace ApiSurface.Text

def isAscii (c : Char) : Bool :=
  c.toNat < 128

def isUppercase (c : Char) : Bool :=
  if isAscii c then c.isUpper else inRuns uppercaseRuns c

def isLowercase (c : Char) : Bool :=
  if isAscii c then c.isLower else inRuns lowercaseRuns c

def isCased (c : Char) : Bool :=
  isLowercase c || isUppercase c || inRuns titlecaseRuns c

def isCaseIgnorable (c : Char) : Bool :=
  inRuns caseIgnorableRuns c

def mapCase (shifts : List CodeShift) (expansions : List (Nat × List Nat)) (c : Char) :
    List Char :=
  match expansions.find? (·.1 == c.toNat) with
  | some (_, codes) => codes.map Char.ofNat
  | none => [shiftedBy shifts c]

def lowerChar (c : Char) : List Char :=
  if isAscii c then [c.toLower] else mapCase lowerShifts lowerExpansions c

def upperChar (c : Char) : List Char :=
  if isAscii c then [c.toUpper] else mapCase upperShifts upperExpansions c

/-! ## Text -/

/-- Whether the next character that is not looked through is a cased letter. -/
def startsCased (cs : List Char) : Bool :=
  match cs.dropWhile isCaseIgnorable with
  | [] => false
  | c :: _ => isCased c

/-- Lower-cases what follows; `afterCased` says whether a cased letter comes right before,
case-ignorable characters aside. -/
def lowercaseFrom : Bool → List Char → List Char
  | _, [] => []
  | afterCased, c :: rest =>
      let lowered :=
        if c == 'Σ' then
          [if afterCased && !startsCased rest then 'ς' else 'σ']
        else
          lowerChar c
      lowered ++ lowercaseFrom (if isCaseIgnorable c then afterCased else isCased c) rest

def lowercaseChars (cs : List Char) : List Char :=
  lowercaseFrom false cs

def lowercase (text : String) : String :=
  .ofList (lowercaseChars text.toList)

def uppercaseChars (cs : List Char) : List Char :=
  cs.flatMap upperChar

def uppercase (text : String) : String :=
  .ofList (uppercaseChars text.toList)

end ApiSurface.Text
