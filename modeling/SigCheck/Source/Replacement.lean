/-
  Replacing a part of a text wherever it occurs.

  Key definitions include:
    * `byteLength`
    * `replaceIn`, `replaceAll`
-/

namespace SigCheck

/- The number of bytes that a text takes. -/
def byteLength (text : String) : Nat :=
  text.toList.foldr (fun c count => c.utf8Size + count) 0

/-
  Replace a pattern from left to right. Behind an occurrence
  the rest of its characters is skipped.
-/
def replaceIn
    (pattern value : List Char) :
    Nat → List Char → List Char
  | _, [] => []
  | skip + 1, _ :: cs => replaceIn pattern value skip cs
  | 0, c :: cs =>
      if pattern.isPrefixOf (c :: cs) then
        value ++ replaceIn pattern value (pattern.length - 1) cs
      else c :: replaceIn pattern value 0 cs

/- Replace a pattern, which is not empty, in a text. -/
def replaceAll (pattern value text : String) : String :=
  String.ofList
    (replaceIn pattern.toList value.toList 0 text.toList)

end SigCheck
