import AttributeArguments.Text.CaseTables

/-!
# Comparing names

Names are compared through a key: two names are equal when their keys are. The ordinal key is the
name itself. The key that ignores case leaves a name alone when each of its characters is its own
lower-case form, and lower-cases it otherwise. Lower-casing goes character by character but for the
capital sigma, which has two small forms. It becomes final at the end of a word: a cased letter
stands before it and none after it, where characters such as accents and apostrophes are passed
over.
-/
namespace AttributeArguments

namespace Text

def isCased (c : Char) : Bool := inRanges casedRanges c.toNat

def isCaseIgnorable (c : Char) : Bool := inRanges caseIgnorableRanges c.toNat

def lowerChar (c : Char) : List Char :=
  if c = '\u0130' then ['i', '\u0307']
  else
    match lowerCaseRuns.find? (·.covers c.toNat) with
    | some run => [Char.ofNat (run.image c.toNat)]
    | none => [c]

def startsCased (cs : List Char) : Bool :=
  match cs.dropWhile isCaseIgnorable with
  | c :: _ => isCased c
  | [] => false

def capitalSigma : Char := '\u03a3'

def smallSigma : Char := '\u03c3'

def finalSigma : Char := '\u03c2'

/-- The small form of a capital sigma; `before` is read backwards from it. -/
def lowerSigma (before after : List Char) : Char :=
  if startsCased before && !startsCased after then finalSigma else smallSigma

def lowerAfter (before : List Char) : List Char → List Char
  | [] => []
  | c :: after =>
    (if c = capitalSigma then [lowerSigma before after] else lowerChar c) ++
      lowerAfter (c :: before) after

def lower (cs : List Char) : List Char := lowerAfter [] cs

def lowerEach (cs : List Char) : List Char := cs.flatMap lowerChar

end Text

structure NameComparer where
  description : String
  key : String → String

namespace NameComparer

def equals (c : NameComparer) (a b : String) : Bool := c.key a == c.key b

def ordinal : NameComparer := ⟨"Ordinal", id⟩

def caseKey (name : String) : String :=
  if Text.lowerEach name.toList = name.toList then name
  else String.ofList (Text.lower name.toList)

def ignoreCase : NameComparer := ⟨"OrdinalIgnoreCase", caseKey⟩

end NameComparer

structure ParameterComparer where
  type : NameComparer
  constructor : NameComparer
  named : NameComparer

namespace ParameterComparer

def uniform (c : NameComparer) : ParameterComparer := ⟨c, c, c⟩

def ordinal : ParameterComparer := uniform .ordinal

def ignoreCase : ParameterComparer := uniform .ignoreCase

end ParameterComparer

end AttributeArguments
