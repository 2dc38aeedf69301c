import ChatRooms.Text.CaseTable

/-! Full lower-case mapping. One letter has a form of two characters, and a capital sigma becomes
the final sigma where a word ends; every other letter is mapped on its own. -/
namespace ChatRooms.Text

def isCased (c : Char) : Bool :=
  inRuns casedRuns c

def isCaseIgnorable (c : Char) : Bool :=
  inRuns caseIgnorableRuns c

def lowerChar (c : Char) : Char :=
  match lowerRuns.find? (·.covers c.toNat) with
  | some run => Char.ofNat (run.partner + (c.toNat - run.first))
  | none => c

def meetsCased (text : List Char) : Bool :=
  match text.dropWhile isCaseIgnorable with
  | [] => false
  | c :: _ => isCased c

/-- A sigma is final when a cased letter precedes it and none follows, case-ignorable characters
aside. `before` is what precedes, nearest first. -/
def lowerSigma (before after : List Char) : Char :=
  if meetsCased before && !meetsCased after then 'ς' else 'σ'

def lowerAfter (before : List Char) : List Char → List Char
  | [] => []
  | c :: rest =>
      let mapped :=
        if c = 'Σ' then [lowerSigma before rest]
        else if c = 'İ' then ['i', '\u0307']
        else [lowerChar c]
      mapped ++ lowerAfter (c :: before) rest

def lowercase (text : String) : String :=
  String.ofList (lowerAfter [] text.toList)

end ChatRooms.Text
