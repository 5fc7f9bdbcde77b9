import QtAppBase.Qt.Values

/-!
# Lists of pairs in text

Pairs of a key and a value are written `key=value,key=value`, without quoting.
-/

namespace QtAppBase.Qt

/-- A pair in text. -/
def pairText (pair : QString × QString) : List Char := pair.1.toList ++ '=' :: pair.2.toList

/-- Some pairs in text. -/
def joinPairs (pairs : List (QString × QString)) : QString :=
  ",".intercalate (pairs.map fun pair => pair.1 ++ "=" ++ pair.2)

/-- The pairs are joined in the text. -/
theorem joinPairs_toList (pairs : List (QString × QString)) :
    (joinPairs pairs).toList = [','].intercalate (pairs.map pairText) := by
  have hcomma : ",".toList = [','] := by decide
  have hequals : "=".toList = ['='] := by decide
  rw [joinPairs, String.toList_intercalate, hcomma, List.map_map]
  refine congrArg ([','].intercalate ·) (List.map_congr_left fun pair _ => ?_)
  simp [pairText, hequals]

/-- A pair is longer than nothing. -/
theorem length_pairText (pair : QString × QString) : 0 < (pairText pair).length := by
  rw [pairText, List.length_append, List.length_cons]
  omega

end QtAppBase.Qt
